import Actionary.Text.Code

/-!
# Placeholders

The parts of a template that an editor lets the writer fill in. Each has a tab stop: a value with a
default is written `${8:.*}`, a choice is written `${6|css,xpath|}`.
-/

namespace Actionary.Snippet

/-- An option of a choice, with a backslash in front of the characters that end an option or a
choice. -/
def escapeOption : List Code → List Code
  | [] => []
  | c :: cs =>
    if c == '\\' || c == ',' || c == '|' then '\\' :: c :: escapeOption cs
    else c :: escapeOption cs

/-- The options of a choice, with commas between them. -/
def optionChars : List Text → List Code
  | [] => []
  | [s] => escapeOption s.toList
  | s :: t :: rest => escapeOption s.toList ++ .char ',' :: optionChars (t :: rest)

/-- A text between braces, as values stand in a script. -/
def braced (s : Text) : Text :=
  .singleton '{' ++ s ++ .singleton '}'

/-- A value with a default. -/
def placeholder (stop : Int) (default : Text) : Text :=
  "$" ++ braced (toString stop ++ ":" ++ default)

def choice (stop : Int) (options : List Text) : Text :=
  "$" ++ braced (toString stop ++ "|" ++ Text.ofList (optionChars options) ++ "|")

end Actionary.Snippet
