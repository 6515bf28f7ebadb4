import Actionary.Distinct
import Actionary.Text.Code

/-!
# Tables of flags

The command-line flags of an action with their descriptions, in the order they were declared. No
name occurs twice.
-/

namespace Actionary

/-- The flags of an action, in declared order. -/
structure FlagTable where
  entries : List (Text × Text)
  distinct : (entries.map (·.1)).Nodup
deriving DecidableEq

namespace FlagTable

def empty : FlagTable :=
  ⟨[], List.nodup_nil⟩

/-- The table of a list of names and descriptions. Of equal names the first gives the place and the
last the description. -/
def ofList (pairs : List (Text × Text)) : FlagTable :=
  ⟨deduplicate (·.1) pairs, nodup_keys_deduplicate (·.1) pairs⟩

end FlagTable

end Actionary
