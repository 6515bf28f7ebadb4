import Actionary.Snippet.Basic
import Actionary.Completion.Flag

/-!
# Results as JSON

Results are printed as JSON texts, one member a line, four blanks a level. Only the characters that
JSON does not allow inside quotes are escaped.
-/

namespace Actionary

/-- The JSON values that results are made of. -/
inductive Json where
  | text (s : Text)
  | array (items : List Json)
  | object (members : List (Text × Json))

namespace Json

def escapeChar (c : Code) : List Code :=
  match c with
  | '"' => ['\\', '"']
  | '\\' => ['\\', '\\']
  | '\n' => ['\\', 'n']
  | '\r' => ['\\', 'r']
  | '\t' => ['\\', 't']
  | '\x08' => ['\\', 'b']
  | '\x0c' => ['\\', 'f']
  | c => if c.toNat < 0x20 then '\\' :: 'u' :: Text.hexPadded 4 c.toNat else [c]

def quote (s : Text) : Text :=
  Text.ofList (.char '"' :: s.toList.flatMap escapeChar ++ [.char '"'])

def lineStart (level : Nat) : Text :=
  "\n" ++ Text.ofList (List.replicate (4 * level) ' ')

/-- Lines at a level between two brackets; the brackets alone, if there are no lines. -/
def enclosed (opening closing : Text) (level : Nat) (lines : List Text) : Text :=
  if lines.isEmpty then opening ++ closing
  else
    opening ++ lineStart (level + 1) ++ Text.intercalate ("," ++ lineStart (level + 1)) lines ++
      lineStart level ++ closing

mutual

def render (level : Nat) : Json → Text
  | .text s => quote s
  | .array items => enclosed "[" "]" level (renderItems (level + 1) items)
  | .object members =>
    enclosed (.singleton '{') (.singleton '}') level (renderMembers (level + 1) members)

def renderItems (level : Nat) : List Json → List Text
  | [] => []
  | v :: vs => render level v :: renderItems level vs

def renderMembers (level : Nat) : List (Text × Json) → List Text
  | [] => []
  | (name, v) :: rest => (quote name ++ ": " ++ render level v) :: renderMembers level rest

end

def toText (v : Json) : Text :=
  render 0 v

end Json

namespace Snippet

def toJson (s : Snippet) : Json :=
  .object [("name", .text s.name), ("template", .text s.template),
    ("documentation", .text s.documentation), ("detail", .text s.detail)]

def EditorEntry.toJson (e : EditorEntry) : Json :=
  .object [("prefix", .text e.trigger), ("body", .text e.body),
    ("description", .text e.description)]

end Snippet

def OfferedFlag.toJson (f : OfferedFlag) : Json :=
  .object [("name", .text f.name), ("documentation", .text f.documentation)]

end Actionary
