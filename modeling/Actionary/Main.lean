import Actionary.Command.Run

/-!
# The program

Runs a command line on the file system of the machine. Results go to standard output; warnings and
messages go to standard error.
-/

namespace Actionary

/-- The problem that an error of the machine stands for. One kind of error tells by its code whether
a step of the path is no folder, or the path itself is one. -/
def FileProblem.ofError : IO.Error → FileProblem
  | .noFileOrDirectory .. => .missing
  | .alreadyExists .. => .occupied
  | .inappropriateType _ code _ => if code == 20 then .notFolder else .isFolder
  | .invalidArgument _ 36 _ => .tooLong
  | e => .other (toString e)

def attempt (act : IO α) : IO (Except FileProblem α) := do
  try
    return .ok (← act)
  catch e => return .error (.ofError e)

/-- What is at a path on the machine; a path that leads nowhere is an error of the machine. -/
def machineStatus (s : String) : IO FileStatus := do
  try
    let path ← IO.FS.realPath s
    if ← path.isDir then return .folder
    if s.endsWith "/" then return .absent
    return .file
  catch _ => return .absent

def machineFiles : FileAccess IO where
  status := machineStatus
  read p := attempt (return (← IO.FS.readBinFile p.text).toList)
  write p text := attempt (IO.FS.writeFile p.text text)
  makeFolder p := attempt (IO.FS.createDir p.text)

def settingVariables : IO (List (Text × Text)) := do
  let names := Settings.fieldNames.filterMap fun field => (Settings.variableStart ++ field).string?
  (names.map String.toUpper).filterMapM fun name =>
    return (← IO.getEnv name).map fun value => (↑name, ↑value)

/-- The string that shows a text: a half is shown by its escape. -/
def Text.shown (t : Text) : String :=
  .ofList <| t.toList.flatMap fun
    | .char c => [c]
    | .half n => '\\' :: 'u' :: Nat.toDigits 16 (Code.half n).toNat

def Command.Failure.text : Command.Failure → Text
  | .badRecord kind faults =>
    kind.title ++ ": " ++ Text.intercalate "\n" (faults.map (·.message))
  | .issue i => i.text
  | .file f => f.message
  | .encoding f => f.message
  | .unencodable u => u.message

def Command.Outcome.show (o : Command.Outcome) : IO Unit := do
  for warning in o.warnings do
    IO.eprintln warning.text.shown
  match o.ending with
  | .done output => IO.print output
  | .failed f => IO.eprintln f.text.shown
  | .misused u =>
    if let some message := u.message? then
      IO.eprintln ("Error: " ++ message.shown)
  | .help => return ()

end Actionary

def main (words : List String) : IO UInt32 := do
  let outcome ← Actionary.Command.run Actionary.machineFiles (← Actionary.settingVariables) words
  outcome.show
  return outcome.ending.code.toUInt32
