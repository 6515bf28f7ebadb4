import Actionary.Number.Shortest
import Actionary.Calendar
import Actionary.Text.Quoted

/-!
# Catalog data before validation

A catalog document is a tree of values: scalars, sequences and maps. Maps keep the order of their
entries. Nothing is known of such a value but its shape; the record types of the catalog are read
from it with a check of every field.
-/

namespace Actionary

/-- A value of a catalog document, which is a finite tree. A day or a moment keeps the number of the
node it was read from, if it was; an object is a value without a written form. -/
inductive Value where
  | null
  | bool (b : Bool)
  | int (n : Int)
  | float (x : Binary64)
  | text (s : Text)
  | bytes (b : List UInt8)
  | date (d : Date) (origin : Option Nat)
  | moment (m : Moment) (origin : Option Nat)
  | list (items : List Value)
  | tuple (items : List Value)
  | set (items : List Value)
  | map (entries : List (Value × Value))
  | object
deriving Repr, Inhabited

namespace Value

/-- The integer that a value stands for in a comparison. -/
def integer? : Value → Option Int
  | .bool b => some (if b then 1 else 0)
  | .int n => some n
  | _ => none

/-- Whether two scalars are equal as keys of a map: numbers are compared by what they count, so that
`1`, `1.0` and true are one key. -/
def sameScalar : Value → Value → Bool
  | .null, .null => true
  | .text s, .text t => s == t
  | .bytes b, .bytes c => b == c
  | .date d _, .date e _ => d == e
  | .moment m _, .moment n _ => m.same n
  | .float x, .float y => x.equals y
  | .float x, w =>
    match w.integer? with
    | some n => x.equalsInt n
    | none => false
  | v, .float y =>
    match v.integer? with
    | some n => y.equalsInt n
    | none => false
  | v, w =>
    match v.integer?, w.integer? with
    | some m, some n => m == n
    | _, _ => false

/-- Whether two values are equal as keys of a map. Collections are no keys, tuples apart. -/
def sameKey : Value → Value → Bool
  | .tuple xs, w =>
    match w with
    | .tuple ys => sameKeys xs ys
    | _ => false
  | v, w => sameScalar v w
where
  sameKeys : List Value → List Value → Bool
    | [], [] => true
    | x :: xs, y :: ys => sameKey x y && sameKeys xs ys
    | _, _ => false

def isKey : Value → Bool
  | .list _ | .set _ | .map _ => false
  | .tuple items => areKeys items
  | _ => true
where
  areKeys : List Value → Bool
    | [] => true
    | v :: vs => isKey v && areKeys vs

/-- Whether a value counts as present: neither nothing, nor false, nor zero, nor empty. -/
def isPresent : Value → Bool
  | .null => false
  | .bool b => b
  | .int n => n != 0
  | .float x => !x.isZero
  | .text s => !s.isEmpty
  | .bytes b => !b.isEmpty
  | .list items | .tuple items | .set items => !items.isEmpty
  | .map entries => !entries.isEmpty
  | .date _ _ | .moment _ _ | .object => true

def lookupIn (key : Value) : List (Value × Value) → Option Value
  | [] => none
  | (k, v) :: rest => if sameKey k key then some v else lookupIn key rest

def get? (entries : List (Value × Value)) (key : Text) : Option Value :=
  lookupIn (.text key) entries

/-- Entries with a key set to a value: the key keeps its place if it is there, and comes last
otherwise. -/
def put (key value : Value) : List (Value × Value) → List (Value × Value)
  | [] => [(key, value)]
  | (k, v) :: rest => if sameKey k key then (k, value) :: rest else (k, v) :: put key value rest

def assign (entries : List (Value × Value)) (key : Text) (value : Value) : List (Value × Value) :=
  put (.text key) value entries

/-- The entries of a map from a list of keys and values: of equal keys the first gives the place and
the last the value. -/
def entriesOf (pairs : List (Value × Value)) : List (Value × Value) :=
  pairs.foldl (fun entries p => put p.1 p.2 entries) []

/-- The members of a set from a list: of equal members the first stays. -/
def membersOf (items : List Value) : List Value :=
  (entriesOf (items.map fun v => (v, .null))).map (·.1)

end Value

end Actionary
