import Actionary.Value

/-!
# Values shown in messages

The text of a value where a message names it, as in the path to a faulty flag. A text shows itself;
inside a collection it stands between quotes.
-/

namespace Actionary.Value

def commaSeparated : List Text → Text
  | [] => ""
  | [s] => s
  | s :: t :: rest => s ++ ", " ++ commaSeparated (t :: rest)

def shown : Value → Text
  | .null => "None"
  | .bool b => if b then "True" else "False"
  | .int n => toString n
  | .float x => x.text
  | .text s => Text.quoted s
  | .bytes b => Text.quotedBytes b
  | .date d _ => "datetime.date(" ++ commaSeparated
      [toString d.year, toString d.month, toString d.day] ++ ")"
  | .moment m _ => m.text
  | .list items => "[" ++ commaSeparated (allShown items) ++ "]"
  | .tuple items =>
    match items with
    | [v] => "(" ++ shown v ++ ",)"
    | vs => "(" ++ commaSeparated (allShown vs) ++ ")"
  | .set items =>
    match items with
    | [] => "set()"
    | vs => .singleton '{' ++ commaSeparated (allShown vs) ++ .singleton '}'
  | .map entries => .singleton '{' ++ commaSeparated (entriesShown entries) ++ .singleton '}'
  | .object => "<object object>"
where
  allShown : List Value → List Text
    | [] => []
    | v :: vs => shown v :: allShown vs
  entriesShown : List (Value × Value) → List Text
    | [] => []
    | (k, v) :: rest => (shown k ++ ": " ++ shown v) :: entriesShown rest

def display : Value → Text
  | .text s => s
  | v => shown v

end Actionary.Value
