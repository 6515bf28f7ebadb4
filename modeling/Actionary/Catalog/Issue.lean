import Actionary.Record.Field
import Actionary.Report

/-!
# Issues of catalogs

What can be wrong with a catalog, and the report on it.
-/

namespace Actionary

/-- A record with its faults and the place where it stands. -/
structure BadRecord where
  first : Fault
  others : List Fault
  record : Value
  file : Option Text
  sectionName : Option Text
  position : Option Int

/-- What can be wrong with a catalog. A reader of texts can also refuse by itself, and the report on
an issue can hold an integer with too many digits. -/
inductive Issue where
  | sectionShape (name : Text) (file : Option Text)
  | shadowing (key : Text) (position : Nat) (file : Option Text)
  | badRecord (r : BadRecord)
  | badText (problem : Option Text) (mark : Option SourceMark) (file : Option Text)
  | unreadable (file : Option Text)
  | notSections (file : Option Text)
  | refused (message : Text) (file : Text)
  | longInteger

inductive IssueKind where
  | structural
  | content
  | unwritable
  | general
deriving DecidableEq, Repr

/-- The first line of a message that is not blank, without the blanks around it. -/
def headline? (message : Text) : Option Text :=
  ((Text.splitLines message).map fun s => Text.ofList (Text.trim s.toList)).find? (!·.isEmpty)

/-- The headline of a message about a field of a record, and the field; none if the record has no
such field. -/
def locate? (entries : Entries) (path : List Step) (message : Text) :
    Option (Text × Step × Value) :=
  match path with
  | [] => none
  | step :: _ =>
    match Value.lookupIn step.toValue entries, headline? message with
    | some v, some line => some (line, step, v)
    | _, _ => none

namespace BadRecord

def faults (r : BadRecord) : List Fault :=
  r.first :: r.others

/-- What is said about the record, and what is shown of it: the first fault of a field that the
record has, with the field, or else the record as a whole. -/
def summary (r : BadRecord) : Text × Value :=
  match r.record with
  | .map entries =>
    if entries.isEmpty then ("Type validation error", r.record)
    else
      match r.faults.findSome? fun f => locate? entries f.path f.message with
      | some (line, step, v) => (line, .map [(step.toValue, v)])
      | none => ("Validation error", r.record)
  | v => ("Type validation error", v)

end BadRecord

namespace Issue

def longIntegerMessage : Text :=
  "Exceeds the limit (" ++ toString Numeral.mostDigits ++
    " digits) for integer string conversion; use sys.set_int_max_str_digits() to increase the limit"

def report : Issue → Report
  | .sectionShape name file =>
    ⟨"Section " ++ Text.quoted name ++ " must be a sequence of records",
      { file := file, sectionName := some name }, .nothing⟩
  | .shadowing key position file =>
    ⟨"Action " ++ Text.quoted key ++ " is shadowing an existing",
      { file := file, sectionName := some "actions", record := some position }, .nothing⟩
  | .badRecord r =>
    ⟨r.summary.1, { file := r.file, sectionName := r.sectionName, record := r.position },
      .record r.summary.2⟩
  | .badText problem mark file =>
    ⟨"Invalid YAML" ++
        match Report.nonEmpty? problem with
        | some p => "\n" ++ Report.blanks Report.step ++ p
        | none => "",
      { file := (Report.nonEmpty? file).orElse fun _ => mark.map (·.name)
        line := mark.map (·.line)
        column := mark.map (·.column) },
      match mark with
      | some m => .source m
      | none => .nothing⟩
  | .unreadable file => ⟨"Unexpected error", { file := file }, .nothing⟩
  | .notSections file => ⟨"Catalog must be a mapping of sections", { file := file }, .nothing⟩
  | .refused message file => ⟨message, { file := some file }, .nothing⟩
  | .longInteger => ⟨longIntegerMessage, {}, .nothing⟩

def brief (i : Issue) : Text :=
  i.report.message

def canWrite (i : Issue) : Bool :=
  i.report.excerpt.canWrite

/-- The kind of an issue. Whoever writes the report on an issue that cannot be written meets an
integer with too many digits instead. -/
def kind (i : Issue) : IssueKind :=
  if !i.canWrite then .unwritable
  else
    match i with
    | .sectionShape _ _ | .shadowing _ _ _ => .structural
    | .longInteger => .unwritable
    | .refused _ _ => .general
    | _ => .content

/-- The text of the report on an issue, or what is said instead if it cannot be written. -/
def text (i : Issue) : Text :=
  if !i.canWrite then longIntegerMessage
  else
    match i with
    | .longInteger => longIntegerMessage
    | i => i.report.text

end Issue

end Actionary
