import Actionary.Catalog.File
import Actionary.Command.Usage
import Actionary.Distinct
import Actionary.Json
import Actionary.Number.Numeral
import Actionary.Settings

/-!
# Running a command

A command line is checked, the settings are read, the catalog is loaded, and the result is printed
or written to a file. All dealings with files go through a given access to them, so that a command
can be run on a tree in memory.
-/

namespace Actionary.Command

/-- Why a command that was used rightly came to no result. -/
inductive Failure where
  | badRecord (kind : RecordKind) (faults : List Fault)
  | issue (i : Issue)
  | file (f : FileFault)
  | encoding (f : Text.Utf8.Fault)
  | unencodable (u : Text.Utf8.Unencodable)

/-- How a command ends; what was done is printed. -/
inductive Ending where
  | done (output : String)
  | failed (f : Failure)
  | misused (u : Misuse)
  | help

def Ending.code : Ending → Nat
  | .done _ | .help => 0
  | .failed _ => 1
  | .misused _ => 2

structure Outcome where
  warnings : List Issue
  ending : Ending

structure SnippetsRequest where
  catalog : String
  output : Option String
  strict : Bool
deriving DecidableEq, Repr

structure CompleteRequest where
  catalog : String
  document : String
  position : Position
  sectionName : Option String
  pattern : Option String
  strict : Bool

def numberOf (s : Switch) (value : String) : Except Misuse Nat :=
  match Numeral.int? 10 (Text.toList value) with
  | none => .error (.notInteger s value)
  | some n => if n < 0 then .error (.negative s n) else .ok n.toNat

def argumentOf (a : Argument) : Option String → Except Misuse String
  | some word => .ok word
  | none => .error (.noArgument a)

def switchOf (s : Switch) : Option String → Except Misuse String
  | some value => .ok value
  | none => .error (.noSwitch s)

def SnippetsRequest.ofWords (w : Words) : Except Misuse SnippetsRequest := do
  let catalog ← argumentOf .catalog (w.others[0]?)
  return ⟨catalog, w.value? .output, w.has .strict⟩

def CompleteRequest.ofWords (w : Words) : Except Misuse CompleteRequest := do
  let catalog ← argumentOf .catalog (w.others[0]?)
  let document ← argumentOf .document (w.others[1]?)
  let line ← switchOf .line (w.value? .line) >>= numberOf .line
  let column ← switchOf .column (w.value? .column) >>= numberOf .column
  return ⟨catalog, document, ⟨line, column⟩, w.value? .sectionName, w.value? .pattern,
    w.has .strict⟩

variable {m : Type → Type} [Monad m]

/-- What is at the path that a text writes, if it can be a path. -/
def statusOf (access : FileAccess m) (text : String) : ExceptT Ending m FileStatus := do
  if text.contains '\x00' then throw (.failed (.file ⟨.nullInside, .ofText text⟩))
  access.status text

def checkSwitch (access : FileAccess m) (s : Switch) (value : String) : ExceptT Ending m Unit := do
  match s with
  | .output =>
    match ← statusOf access value with
    | .folder => throw (.misused (.folderTarget s value))
    | _ => return ()
  | .line | .column =>
    match numberOf s value with
    | .error misuse => throw (.misused misuse)
    | .ok _ => return ()
  | _ => return ()

def checkArgument (access : FileAccess m) (a : Argument) (word : Option String) :
    ExceptT Ending m Unit := do
  match word with
  | none => throw (.misused (.noArgument a))
  | some path =>
    match ← statusOf access path with
    | .absent => throw (.misused (.noFile a path))
    | .folder => throw (.misused (.folderGiven a path))
    | .file => return ()

/-- Checks the words for a command: the switches in the order in which they first come, each with
its last value, then the arguments, then the switches that are not there, then the words that are
left. -/
def checkWords (access : FileAccess m) (v : Verb) (w : Words) : ExceptT Ending m Unit := do
  for (s, value) in deduplicate (·.1) w.switches do
    checkSwitch access s value
  for (a, n) in v.arguments.zipIdx do
    checkArgument access a (w.others[n]?)
  for s in v.requiredSwitches do
    if !w.has s then throw (.misused (.noSwitch s))
  let extra := w.others.drop v.arguments.length
  if !extra.isEmpty then throw (.misused (.extraWords extra))

def failure (f : Failure) : Outcome :=
  ⟨[], .failed f⟩

def withCatalog (access : FileAccess m) (file : String) (settings : Settings)
    (next : Snapshot → m Ending) : m Outcome := do
  match ← Snapshot.loadFile access settings.mode file with
  | .error fault => return failure (.file fault)
  | .ok loading =>
    match loading.result with
    | .error i => return ⟨loading.warnings, .failed (.issue i)⟩
    | .ok snapshot => return ⟨loading.warnings, ← next snapshot⟩

/-- The snippets of a catalog as the content of a snippet file, which has one member for each name.
-/
def snippetFile (s : Snapshot) : Json :=
  .object (deduplicate (·.1) ((Snippet.compose s).map fun x => (x.name, x.editorEntry.toJson)))

def printResult (result : Json) : Ending :=
  match Text.Utf8.encode (result.toText ++ "\n") with
  | .ok output => .done output
  | .error u => .failed (.unencodable u)

/-- Writes a result to a file, in a folder that is made if it is not there. The file is opened, and
so emptied, before the result is encoded. -/
def writeResult (access : FileAccess m) (file : String) (result : Json) : m Ending := do
  let path := Path.ofText file
  match ← access.ensureFolders path.parent with
  | .error fault => return .failed (.file fault)
  | .ok _ =>
    let content := Text.Utf8.encode (result.toText ++ "\n")
    match ← access.write path (content.toOption.getD "") with
    | .error problem => return .failed (.file ⟨problem, path⟩)
    | .ok _ =>
      match content with
      | .ok _ => return .done ""
      | .error u => return .failed (.unencodable u)

def SnippetsRequest.run (access : FileAccess m) (environment : List (Text × Text))
    (r : SnippetsRequest) : m Outcome := do
  match Settings.read environment (if r.strict then [("strict", .bool true)] else []) with
  | .faulty f fs => return failure (.badRecord .settings (f :: fs))
  | .valid settings =>
    withCatalog access r.catalog settings fun snapshot =>
      match r.output with
      | none => return printResult (snippetFile snapshot)
      | some file => writeResult access file (snippetFile snapshot)

def offers (c : Config) (d : Document) (p : Position) : Json :=
  .object [("actions", .array ((offeredSnippets c d p).map (·.toJson))),
    ("parameters", .array ((offeredFlagsAt FlagCondition.all c d p).map (·.toJson)))]

def CompleteRequest.arguments (r : CompleteRequest) : List (Text × Value) :=
  let given (field : Text) (value : Option Value) : List (Text × Value) :=
    value.toList.map (field, ·)
  given "section" (r.sectionName.map (.text ·)) ++
    given "action_pattern" (r.pattern.map (.text ·)) ++
    given "strict" (if r.strict then some (.bool true) else none)

def CompleteRequest.run (access : FileAccess m) (environment : List (Text × Text))
    (r : CompleteRequest) : m Outcome := do
  match Settings.read environment r.arguments with
  | .faulty f fs => return failure (.badRecord .settings (f :: fs))
  | .valid settings =>
    withCatalog access r.catalog settings fun snapshot => do
      match settings.config snapshot with
      | .faulty f fs => return .failed (.badRecord .config (f :: fs))
      | .valid config =>
        let path := Path.ofText r.document
        match ← access.read path with
        | .error problem => return .failed (.file ⟨problem, path⟩)
        | .ok bytes =>
          match Text.Utf8.decode bytes with
          | .error fault => return .failed (.encoding fault)
          | .ok cs =>
            let document := Document.ofText (Text.ofList (Text.normalizeReturns cs))
            return printResult (offers config document r.position)

def runVerb (access : FileAccess m) (environment : List (Text × Text)) (v : Verb)
    (words : List String) : m Outcome := do
  match Words.parse v.switches true none words with
  | .error misuse => return ⟨[], .misused misuse⟩
  | .ok w =>
    if w.has .help then return ⟨[], .help⟩
    match ← (checkWords access v w).run with
    | .error ending => return ⟨[], ending⟩
    | .ok _ =>
      match v with
      | .snippets =>
        match SnippetsRequest.ofWords w with
        | .error misuse => return ⟨[], .misused misuse⟩
        | .ok r => r.run access environment
      | .complete =>
        match CompleteRequest.ofWords w with
        | .error misuse => return ⟨[], .misused misuse⟩
        | .ok r => r.run access environment

/-- The ending for a name that no command has. A name with a dash in front is taken for a switch,
which comes to light only where the word of two dashes is in front of it. -/
def unknownName (name : String) (rest : List String) : Ending :=
  match Words.parse [.help] false none (name :: rest) with
  | .error misuse => .misused misuse
  | .ok w =>
    if w.has .help then .help
    else .misused (.unknownCommand name (Text.closest name (Verb.all.map (·.name))))

def run (access : FileAccess m) (environment : List (Text × Text)) (words : List String) :
    m Outcome := do
  if words.isEmpty then return ⟨[], .misused .nothing⟩
  match Words.parse [.help] false none words with
  | .error misuse => return ⟨[], .misused misuse⟩
  | .ok w =>
    if w.has .help then return ⟨[], .help⟩
    match w.others with
    | [] => return ⟨[], .misused .noCommand⟩
    | name :: rest =>
      match Verb.ofName? name with
      | some v => runVerb access environment v rest
      | none => return ⟨[], unknownName name rest⟩

end Actionary.Command
