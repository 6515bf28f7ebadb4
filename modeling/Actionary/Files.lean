import Actionary.Text.Quoted

/-!
# Files

Paths of files, the faults that arise when a file is used, and what the commands need to be able to
do with files. A tree of files kept in memory has these abilities; so has the file system of the
machine.
-/

namespace Actionary

/-- A path: the slashes in front, none if it starts at the working folder, and the steps. -/
structure Path where
  root : String
  steps : List String
deriving DecidableEq, Repr

namespace Path

/-- The path that a text writes. Steps that lead nowhere are left out. -/
def ofText (s : String) : Path :=
  let slashes := (s.toList.takeWhile (· == '/')).length
  ⟨if slashes == 0 then "" else if slashes == 2 then "//" else "/",
    ((s.toList.splitOn '/').map String.ofList).filter fun step => step != "" && step != "."⟩

def text (p : Path) : String :=
  if p.root.isEmpty && p.steps.isEmpty then "." else p.root ++ "/".intercalate p.steps

def parent (p : Path) : Path :=
  { p with steps := p.steps.dropLast }

end Path

inductive FileProblem where
  | missing
  | occupied
  | notFolder
  | isFolder
  | tooLong
  | nullInside
  | other (words : String)
deriving DecidableEq, Repr

def FileProblem.text : FileProblem → String
  | .missing => "[Errno 2] No such file or directory"
  | .occupied => "[Errno 17] File exists"
  | .notFolder => "[Errno 20] Not a directory"
  | .isFolder => "[Errno 21] Is a directory"
  | .tooLong => "[Errno 36] File name too long"
  | .nullInside => "embedded null byte"
  | .other words => words

structure FileFault where
  problem : FileProblem
  path : Path
deriving DecidableEq, Repr

/-- The message for a fault. It names the path, if that can be the name of a file. -/
def FileFault.message (f : FileFault) : Text :=
  match f.problem with
  | .nullInside => f.problem.text
  | problem => problem.text ++ ": " ++ Text.quoted f.path.text

inductive FileStatus where
  | absent
  | file
  | folder
deriving DecidableEq, Repr

/-- What can be done with files. A slash at the end of a written path asks for a folder, and a text
is written in place of what was there. -/
structure FileAccess (m : Type → Type) where
  status : String → m FileStatus
  read : Path → m (Except FileProblem (List UInt8))
  write : Path → String → m (Except FileProblem Unit)
  makeFolder : Path → m (Except FileProblem Unit)

namespace FileAccess

variable {m : Type → Type} [Monad m]

def ensureFolder (access : FileAccess m) (p : Path) : m (Except FileFault Unit) := do
  match ← access.makeFolder p with
  | .ok _ => return .ok ()
  | .error .missing => return .error ⟨.missing, p⟩
  | .error problem =>
    match ← access.status p.text with
    | .folder => return .ok ()
    | _ => return .error ⟨problem, p⟩

/-- Makes the folder at the end of the given steps and the folders on the way to it, if they are not
there. The steps are given from the last to the first. -/
def ensureSteps (access : FileAccess m) (root : String) : List String → m (Except FileFault Unit)
  | [] => access.ensureFolder ⟨root, []⟩
  | step :: before => do
    let here : Path := ⟨root, (step :: before).reverse⟩
    match ← access.ensureFolder here with
    | .error ⟨.missing, _⟩ =>
      match ← access.ensureSteps root before with
      | .error fault => return .error fault
      | .ok _ => access.ensureFolder here
    | outcome => return outcome

/-- Makes a folder and the folders on the way to it, if they are not there. -/
def ensureFolders (access : FileAccess m) (p : Path) : m (Except FileFault Unit) :=
  access.ensureSteps p.root p.steps.reverse

end FileAccess

/-- A tree of files: what each path from the root holds. -/
structure FileTree where
  current : List String
  folders : List (List String)
  files : List (List String × List UInt8)
deriving DecidableEq, Repr

namespace FileTree

def ways : List String → List (List String)
  | [] => [[]]
  | step :: rest => [] :: (ways rest).map (step :: ·)

def file? (t : FileTree) (place : List String) : Option (List UInt8) :=
  t.files.lookup place

def isFolder (t : FileTree) (place : List String) : Bool :=
  place.isEmpty || t.folders.contains place

def statusAt (t : FileTree) (place : List String) : FileStatus :=
  if t.isFolder place then .folder
  else if (t.file? place).isSome then .file
  else .absent

def longestName : Nat := 255

def longestPath : Nat := 4095

/-- The place that steps lead to from a folder. All but the last step have to lead to folders. -/
def walk (t : FileTree) (place : List String) : List String → Except FileProblem (List String)
  | [] => .ok place
  | step :: rest =>
    match t.statusAt place with
    | .absent => .error .missing
    | .file => .error .notFolder
    | .folder =>
      if step.utf8ByteSize > longestName then .error .tooLong
      else t.walk (if step == ".." then place.dropLast else place ++ [step]) rest

def place (t : FileTree) (p : Path) : Except FileProblem (List String) :=
  if p.text.contains '\x00' then .error .nullInside
  else if p.text.utf8ByteSize > longestPath then .error .tooLong
  else t.walk (if p.root.isEmpty then t.current else []) p.steps

def status (t : FileTree) (s : String) : FileStatus :=
  if s.isEmpty || s.utf8ByteSize > longestPath then .absent
  else
    match t.place (.ofText s) with
    | .error _ => .absent
    | .ok place =>
      match t.statusAt place with
      | .file => if s.endsWith "/" || s.endsWith "/." then .absent else .file
      | found => found

def read (t : FileTree) (p : Path) : Except FileProblem (List UInt8) :=
  match t.place p with
  | .error problem => .error problem
  | .ok place =>
    if t.isFolder place then .error .isFolder
    else
      match t.file? place with
      | some bytes => .ok bytes
      | none => .error .missing

def put (t : FileTree) (place : List String) (bytes : List UInt8) : FileTree :=
  { t with files := (place, bytes) :: t.files.filter (·.1 != place) }

def write (t : FileTree) (p : Path) (text : String) : Except FileProblem FileTree :=
  match t.place p with
  | .error problem => .error problem
  | .ok place =>
    if t.isFolder place then .error .isFolder else .ok (t.put place text.toUTF8.toList)

def makeFolder (t : FileTree) (p : Path) : Except FileProblem FileTree :=
  match t.place p with
  | .error problem => .error problem
  | .ok place =>
    match t.statusAt place with
    | .absent => .ok { t with folders := place :: t.folders }
    | _ => .error .occupied

def ofFiles (current : List String) (files : List (Path × List UInt8)) : FileTree :=
  let placed := files.map fun f => (current ++ f.1.steps, f.2)
  { current
    folders := ways current ++ placed.flatMap fun f => ways f.1.dropLast
    files := placed.reverse }

/-- The files below the working folder that another tree does not hold in the same form. -/
def changedSince (t before : FileTree) : List (Path × List UInt8) :=
  t.files.filterMap fun f =>
    if t.current.isPrefixOf f.1 && before.file? f.1 != some f.2 then
      some (⟨"", f.1.drop t.current.length⟩, f.2)
    else none

def access : FileAccess (StateM FileTree) where
  status s := return (← get).status s
  read p := return (← get).read p
  write p text := change fun t => t.write p text
  makeFolder p := change fun t => t.makeFolder p
where
  change (f : FileTree → Except FileProblem FileTree) :
      StateM FileTree (Except FileProblem Unit) := do
    match f (← get) with
    | .ok t =>
      set t
      return .ok ()
    | .error problem => return .error problem

end FileTree

end Actionary
