import Actionary.Catalog.Load
import Actionary.Files

/-!
# Catalogs in files

Loads the catalog in a file. The file is named in reports by its path, without the steps that lead
nowhere.
-/

namespace Actionary

def Snapshot.loadFile [Monad m] (access : FileAccess m) (mode : LoadMode) (file : String) :
    m (Except FileFault (Loading Snapshot)) := do
  let path := Path.ofText file
  match ← access.read path with
  | .error problem => return .error ⟨problem, path⟩
  | .ok bytes => return .ok (loadBytes mode path.text bytes)

end Actionary
