import Actionary.Text.Blank
import Actionary.Text.Line
import Actionary.Yaml.Page

/-!
# Reports

The text of a report on a catalog: what is wrong, where, and an excerpt of the source or of the
record.
-/

namespace Actionary

/-- Where something is in a catalog. Numbers count from zero. -/
structure Location where
  file : Option Text := none
  line : Option Int := none
  column : Option Int := none
  sectionName : Option Text := none
  record : Option Int := none
deriving DecidableEq, Repr

/-- A place in a source text, counted from zero. Where the text is at hand, it is kept with the
number of characters before the place. -/
structure SourceMark where
  name : Text
  line : Int
  column : Int
  source : Option (List Code × Nat)
deriving DecidableEq, Repr

inductive Excerpt where
  | nothing
  | source (mark : SourceMark)
  | record (v : Value)

def Excerpt.canWrite : Excerpt → Bool
  | .record v => Yaml.canWrite v
  | _ => true

structure Report where
  message : Text
  location : Location
  excerpt : Excerpt

namespace Report

/-- So many blanks; none for a negative number. -/
def blanks (n : Int) : Text :=
  Text.ofList (List.replicate n.toNat ' ')

def nonEmpty? (s : Option Text) : Option Text :=
  match s with
  | some t => if t.isEmpty then none else some t
  | none => none

def unnamedSource : Text := "<unicode string>"

def unnamedSection : Text := "catalog"

def sourceLine (indent : Text) (l : Location) : Text :=
  let line :=
    match l.line with
    | none => ""
    | some n =>
      ", line " ++ toString (n + 1) ++
        match l.column with
        | none => ""
        | some m => ", column " ++ toString (m + 1)
  indent ++ "in \"" ++ (nonEmpty? l.file).getD unnamedSource ++ "\"" ++ line ++ "\n"

def locationText (indent : Text) (l : Location) : Text :=
  sourceLine indent l ++
    match l.record with
    | none => ""
    | some n =>
      indent ++ "on " ++ (nonEmpty? l.sectionName).getD unnamedSection ++ " record " ++
        toString (n + 1) ++ "\n"

def joinLines : List Text → Text
  | [] => ""
  | [s] => s
  | s :: t :: rest => s ++ "\n" ++ joinLines (t :: rest)

/-- A text with its lines indented and its blank lines dropped; without an indentation, the text as
it is. -/
def indented (indent text : Text) : Text :=
  if indent.isEmpty then text
  else
    joinLines (((Text.splitLines text).filter fun s => !(Text.trim s.toList).isEmpty).map
      (indent ++ ·))

/-- The greatest number of characters on either side of a place in an excerpt. -/
def reach : Nat := 37

def more : List Code := Text.toList " ... "

/-- One side of an excerpt: the characters from the place on, and whether more are there. -/
def side (cs : List Code) : List Code × Bool :=
  let near := (cs.takeWhile fun c => !Yaml.isBreakOrEnd c).take reach
  if near.length == reach then (near.take (reach - more.length), true) else (near, false)

/-- The line of a source around a place, and a mark under the place. -/
def sourceExcerpt (text : List Code) (index : Nat) : Text :=
  let (before, cutBefore) := side (text.take index).reverse
  let (after, cutAfter) := side (text.drop index)
  let head := if cutBefore then more else []
  let tail := if cutAfter then more else []
  Text.ofList (head ++ before.reverse ++ after ++ tail ++ .char '\n' ::
    List.replicate (before.length + head.length) (.char ' ') ++ [.char '^'])

def excerptText (indent : Text) : Excerpt → Text
  | .nothing => ""
  | .source m =>
    match m.source with
    | none => indented indent ""
    | some (text, index) => indented indent (sourceExcerpt text index)
  | .record v =>
    if v.isPresent then indent ++ " ...\n" ++ indented indent (Yaml.write v) ++ "\n" else ""

def step : Nat := 4

def text (r : Report) : Text :=
  r.message ++ "\n" ++ locationText (blanks step) r.location ++
    excerptText (blanks (2 * step : Nat)) r.excerpt

end Report

end Actionary
