import Actionary.Catalog.Build
import Actionary.Text.Utf8
import Actionary.Yaml.Document

/-!
# Catalogs from texts

Reads a catalog from the text of a document. A text that was given as a stream has no excerpts in
reports.
-/

namespace Actionary

/-- A text to load: as a whole, or as a stream that may break off behind it. -/
inductive SourceText where
  | whole (text : Text)
  | stream (text : Text) (broken : Bool)
deriving DecidableEq, Repr

namespace SourceText

def name : SourceText → Text
  | .whole _ => Report.unnamedSource
  | .stream _ _ => "<file>"

def source : SourceText → Yaml.Source
  | .whole text => .whole text.toList
  | .stream text broken => .stream text.toList broken

def excerpts? : SourceText → Option (List Code)
  | .whole text => some text.toList
  | .stream _ _ => none

def portion : Nat := 8192

/-- How many bytes of a file are decoded before a fault in them shows. -/
def soundBytes (count : Nat) (f : Text.Utf8.Fault) : Nat :=
  match f.reason with
  | .invalidStart => f.position / portion * portion
  | .invalidContinuation => (f.position + f.length) / portion * portion
  | .truncated => count

def soundText (bytes : List UInt8) : List Code :=
  match Text.Utf8.decode bytes with
  | .ok cs => cs
  | .error f => ((Text.Utf8.decode (bytes.take f.position)).toOption).getD []

/-- A text without the carriage return at its end, for which a line feed may follow. -/
def withoutReturn (cs : List Code) : List Code :=
  if cs.getLast? == some '\r' then cs.dropLast else cs

/-- The text of a file. A fault in the bytes breaks it off. -/
def ofBytes (bytes : List UInt8) : SourceText :=
  match Text.Utf8.decode bytes with
  | .ok cs => .stream (Text.ofList (Text.normalizeReturns cs)) false
  | .error f =>
    let cs := soundText (bytes.take (soundBytes bytes.length f))
    .stream (Text.ofList (Text.normalizeReturns (withoutReturn cs))) true

end SourceText

inductive ReadFailure where
  | at (problem : Text) (mark : SourceMark)
  | unreadable
  | refused (message : Text) (file : Text)

abbrev DocumentReader := SourceText → Except ReadFailure Value

def readYaml : DocumentReader := fun s =>
  match Yaml.read s.source with
  | .ok v => .ok v
  | .error .noValue => .error .unreadable
  | .error (.found complaint m) =>
    .error (.at complaint.text
      ⟨s.name, m.line, m.column, s.excerpts?.map fun text => (text, m.index)⟩)

def ReadFailure.issue (file : Option Text) : ReadFailure → Issue
  | .at problem mark => .badText (some problem) (some mark) file
  | .unreadable => .unreadable file
  | .refused message name => .refused message name

namespace Snapshot

/-- The catalog in a value: a map of sections, or nothing. -/
def ofDocument (mode : LoadMode) (file : Option Text) : Value → Loading Snapshot
  | .null => build mode file []
  | .map entries => build mode file entries
  | _ => .fail (.notSections file)

def load (reader : DocumentReader) (mode : LoadMode) (file : Option Text) (source : SourceText) :
    Loading Snapshot :=
  match reader source with
  | .error failure => .fail (failure.issue file)
  | .ok v => ofDocument mode file v

def loadBytes (mode : LoadMode) (file : Text) (bytes : List UInt8) : Loading Snapshot :=
  load readYaml mode (some file) (.ofBytes bytes)

end Snapshot

end Actionary
