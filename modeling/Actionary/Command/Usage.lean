import Actionary.Text.Likeness
import Actionary.Text.Quoted

/-!
# The command line

Which commands there are, which switches and arguments they take, how a list of words is taken apart
into switches and arguments, and what can be wrong with it.
-/

namespace Actionary.Command

inductive Switch where
  | output
  | line
  | column
  | sectionName
  | pattern
  | strict
  | help
deriving DecidableEq, Repr

namespace Switch

def letter? : Switch → Option Char
  | .output => some 'o'
  | .line => some 'l'
  | .column => some 'c'
  | _ => none

def long : Switch → String
  | .output => "--output"
  | .line => "--line"
  | .column => "--column"
  | .sectionName => "--section"
  | .pattern => "--pattern"
  | .strict => "--strict"
  | .help => "--help"

def takesValue : Switch → Bool
  | .strict | .help => false
  | _ => true

def label (s : Switch) : String :=
  match s.letter? with
  | some c => "'-" ++ String.singleton c ++ "' / '" ++ s.long ++ "'"
  | none => "'" ++ s.long ++ "'"

end Switch

inductive Argument where
  | catalog
  | document
deriving DecidableEq, Repr

def Argument.label : Argument → String
  | .catalog => "'CATALOG'"
  | .document => "'DOCUMENT'"

inductive Verb where
  | snippets
  | complete
deriving DecidableEq, Repr

namespace Verb

def all : List Verb :=
  [.snippets, .complete]

def name : Verb → String
  | .snippets => "snippets"
  | .complete => "complete"

def ofName? (name : String) : Option Verb :=
  all.find? (·.name == name)

def switches : Verb → List Switch
  | .snippets => [.output, .strict, .help]
  | .complete => [.line, .column, .sectionName, .pattern, .strict, .help]

def requiredSwitches : Verb → List Switch
  | .snippets => []
  | .complete => [.line, .column]

def arguments : Verb → List Argument
  | .snippets => [.catalog]
  | .complete => [.catalog, .document]

end Verb

inductive Misuse where
  | nothing
  | noCommand
  | unknownCommand (name : String) (meant : List String)
  | unknownSwitch (spelling : String) (meant : List String)
  | noValue (spelling : String)
  | needlessValue (spelling : String)
  | noArgument (a : Argument)
  | noSwitch (s : Switch)
  | extraWords (words : List String)
  | notInteger (s : Switch) (value : String)
  | negative (s : Switch) (value : Int)
  | noFile (a : Argument) (path : String)
  | folderGiven (a : Argument) (path : String)
  | folderTarget (s : Switch) (path : String)
deriving DecidableEq, Repr

namespace Misuse

def invalid (label : String) (reason : Text) : Text :=
  "Invalid value for " ++ label ++ ": " ++ reason

def question : List String → Text
  | [] => ""
  | [name] => " Did you mean " ++ Text.quoted name ++ "?"
  | names =>
    " (Did you mean one of: " ++
      Text.intercalate ", " (names.map fun (name : String) => Text.quoted name) ++ "?)"

/-- The message for a misuse; if there are no words at all, the help screen stands for it. -/
def message? : Misuse → Option Text
  | .nothing => none
  | .noCommand => some "Missing command."
  | .unknownCommand name meant =>
    some ("No such command " ++ Text.quoted name ++ "." ++ question meant)
  | .unknownSwitch spelling meant =>
    some ("No such option " ++ Text.quoted spelling ++ "." ++ question meant)
  | .noValue spelling => some ("Option " ++ Text.quoted spelling ++ " requires an argument.")
  | .needlessValue spelling => some ("Option " ++ Text.quoted spelling ++ " does not take a value.")
  | .noArgument a => some ("Missing argument " ++ a.label ++ ".")
  | .noSwitch s => some ("Missing option " ++ s.label ++ ".")
  | .extraWords words =>
    some ("Got unexpected extra argument" ++ (if words.length == 1 then "" else "s") ++ " (" ++
      " ".intercalate words ++ ")")
  | .notInteger s value =>
    some (invalid s.label (Text.quoted value ++ " is not a valid integer range."))
  | .negative s value => some (invalid s.label (toString value ++ " is not in the range x>=0."))
  | .noFile a path => some (invalid a.label ("File " ++ Text.quoted path ++ " does not exist."))
  | .folderGiven a path =>
    some (invalid a.label ("File " ++ Text.quoted path ++ " is a directory."))
  | .folderTarget s path =>
    some (invalid s.label ("File " ++ Text.quoted path ++ " is a directory."))

end Misuse

/-- The words of a command line, taken apart: the switches with their values, as they come, and the
other words. -/
structure Words where
  switches : List (Switch × String)
  others : List String
deriving DecidableEq, Repr

namespace Words

def withSwitch (s : Switch) (value : String) (w : Words) : Words :=
  { w with switches := (s, value) :: w.switches }

def withOther (word : String) (w : Words) : Words :=
  { w with others := word :: w.others }

/-- The switches in a word of letters, and the switch, with its spelling, that waits for its value
in the next word. -/
def letters (known : List Switch) :
    List Char → Except Misuse (List (Switch × String) × Option (Switch × String))
  | [] => .ok ([], none)
  | c :: cs =>
    let spelling := String.ofList ['-', c]
    match known.find? (·.letter? == some c) with
    | none => .error (.unknownSwitch spelling [])
    | some s =>
      if !s.takesValue then (letters known cs).map fun r => ((s, "") :: r.1, r.2)
      else if cs.isEmpty then .ok ([], some (s, spelling))
      else .ok ([(s, String.ofList cs)], none)

/-- The switches in a word that starts with a dash, and the switch, with its spelling, that waits
for its value in the next word. -/
def dashed (known : List Switch) (word : List Char) :
    Except Misuse (List (Switch × String) × Option (Switch × String)) :=
  let name := word.takeWhile (· != '=')
  let spelling := String.ofList name
  match known.find? (·.long == spelling), word.dropWhile (· != '=') with
  | some s, [] => if s.takesValue then .ok ([], some (s, spelling)) else .ok ([(s, "")], none)
  | some s, _ :: value =>
    if s.takesValue then .ok ([(s, String.ofList value)], none)
    else .error (.needlessValue spelling)
  | none, _ =>
    match word with
    | '-' :: '-' :: _ =>
      .error (.unknownSwitch spelling (Text.closest spelling (known.map (·.long))))
    | _ => letters known (word.drop 1)

/-- Takes words apart, while a switch may wait for its value. The word of two dashes ends the
switches. If `mixed` does not hold, so does the first word that is no switch. -/
def parse (known : List Switch) (mixed : Bool) (waiting : Option (Switch × String)) :
    List String → Except Misuse Words
  | [] =>
    match waiting with
    | some (_, spelling) => .error (.noValue spelling)
    | none => .ok ⟨[], []⟩
  | word :: rest =>
    match waiting with
    | some (s, _) => (parse known mixed none rest).map (withSwitch s word)
    | none =>
      if word == "--" then .ok ⟨[], rest⟩
      else
        match word.toList with
        | '-' :: c :: cs => do
          let (given, next) ← dashed known ('-' :: c :: cs)
          let w ← parse known mixed next rest
          return { w with switches := given ++ w.switches }
        | _ =>
          if mixed then (parse known mixed none rest).map (withOther word)
          else .ok ⟨[], word :: rest⟩

/-- The value of a switch: the last one given. -/
def value? (w : Words) (s : Switch) : Option String :=
  w.switches.reverse.lookup s

def has (w : Words) (s : Switch) : Bool :=
  (w.value? s).isSome

end Words

end Actionary.Command
