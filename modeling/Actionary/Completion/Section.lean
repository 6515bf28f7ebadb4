import Actionary.Completion.Document
import Actionary.Pattern.Match

/-!
# Sections of a document

A line that starts with a name between brackets announces a section. A place belongs to the section
that the nearest such line above it announces; where names are known, lines with other names do not
count.
-/

namespace Actionary

open Actionary.Pattern

def annotationGroup : Nat := 1

/-- A line that announces a section: blanks, then a name of word characters and dashes between
brackets. -/
def annotationPattern : Expr :=
  .seqAll
    [.anchor .textStart,
      .many .greedy 0 none (.set false .exact [.named .blank true false]),
      .char .exact '[',
      .capture annotationGroup
        (.many .greedy 1 none (.set false .exact [.named .word true false, .point '-'.toNat])),
      .char .exact ']']

/-- The name that a line announces. -/
def announced? (line : Text) : Option Text :=
  match annotationPattern.fitStart line.toList with
  | none => none
  | some f => (f.group? annotationGroup).map Text.ofList

/-- The name that the nearest line announces, the lines being given from the nearest on. Where names
are known, other names are passed over. -/
def nearestName? (known : List Text) : List Text → Option Text
  | [] => none
  | line :: above =>
    match announced? line with
    | none => nearestName? known above
    | some name =>
      if known.isEmpty || known.contains name then some name else nearestName? known above

/-- Whether a place is in a section. -/
def inSection (d : Document) (p : Position) (sectionName : Text) (known : List Text) : Bool :=
  match nearestName? known (d.lines.take p.line).reverse with
  | some name => name == sectionName
  | none => false

end Actionary
