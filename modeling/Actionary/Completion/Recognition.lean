import Actionary.Catalog.Snapshot
import Actionary.Pattern.Syntax

/-!
# Recognition of actions

Which action a line is about. A recognition pattern finds the phrase of an action on the line; the
phrase gives the key, and the catalog the action. If none is configured, the pattern is made from
the phrases of the catalog: whole words in letters of any case, with any blanks between them, longer
phrases before shorter ones.
-/

namespace Actionary

open Actionary.Pattern

/-- A pattern together with its written form. Where characters are sought, only the places in front
of them are tried. -/
structure Recognizer where
  source : Text
  expr : Expr
  sought : Option Test

namespace Recognizer

def ofText (source : Text) : Except Refusal Recognizer := do
  let w ← Written.ofText source.toList
  return ⟨source, w.expr, w.sought⟩

def read : Value → Checked Recognizer
  | .text s =>
    match ofText s with
    | .ok r => .valid r
    | .error refusal => .fault (.badPattern refusal)
  | .bytes _ => .fault .bytesPattern
  | _ => .fault .notPattern

def isSpecial (c : Code) : Bool :=
  (Text.toList "()[]{}?*+-|^$\\.&~# \t\n\r\x0b\x0c").contains c

/-- A text as part of the written form of a pattern. -/
def escape : List Code → List Code
  | [] => []
  | c :: cs => if isSpecial c then '\\' :: c :: escape cs else c :: escape cs

/-- The recognizer that finds nothing. -/
def nothing : Recognizer :=
  ⟨"(?!)", .fail, none⟩

def blanks : Expr :=
  .many .greedy 1 none (.set false .exact [.named .blank false false])

def wordsExpr : List (List Code) → Expr
  | [] => .empty
  | [w] => .text .full w
  | w :: v :: rest => .seq (.text .full w) (.seq blanks (wordsExpr (v :: rest)))

def joinedBy (between : List Code) : List (List Code) → List Code
  | [] => []
  | [w] => w
  | w :: v :: rest => w ++ between ++ joinedBy between (v :: rest)

/-- The written form of words with blanks between them. -/
def wordsSource (ws : List (List Code)) : List Code :=
  joinedBy (Text.toList "\\s+") (ws.map escape)

/-- Longer phrases before shorter ones, phrases of one length in ascending order. -/
def tryFirst (a b : Text) : Bool :=
  b.length < a.length || (a.length == b.length && textBefore a b)

/-- The phrases of a catalog in the order in which they are tried. -/
def phrases (s : Snapshot) : List Text :=
  (s.actions.map (·.phrase)).eraseDups.mergeSort tryFirst

/-- The recognizer of the phrases of a catalog. -/
def ofCatalog (s : Snapshot) : Recognizer :=
  match phrases s with
  | [] => nothing
  | p :: ps =>
    let alternatives := (p :: ps).map fun q => Text.words q.toList
    ⟨Text.ofList ((Text.toList "\\b(?:") ++ joinedBy ['|'] (alternatives.map wordsSource) ++
      (Text.toList ")\\b")),
      .seqAll [.anchor (.boundary false), .altAll (alternatives.map wordsExpr),
        .anchor (.boundary false)],
      none⟩

/-- The first place on a line where the pattern fits. -/
def find? (r : Recognizer) (line : List Code) : Option Found :=
  match r.sought with
  | none => r.expr.search line
  | some t => r.expr.searchAmong t line

/-- The key of the first phrase that is found on a line. -/
def key? (r : Recognizer) (line : Text) : Option Text :=
  match r.find? line.toList with
  | none => none
  | some f =>
    match keyChars f.text with
    | [] => none
    | cs => some (Text.ofList cs)

/-- The action of the catalog that a line is about. -/
def resolve? (r : Recognizer) (s : Snapshot) (line : Text) : Option Action :=
  match r.key? line with
  | none => none
  | some key => s.find? key

end Recognizer

end Actionary
