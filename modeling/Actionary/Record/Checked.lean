import Actionary.Record.Fault

/-!
# Checked values

The outcome of a check: a value of the wanted type, or all faults that were found, of which there is
at least one. Checks of several parts are joined so that the faults of all of them are kept, in
order.
-/

namespace Actionary

/-- The outcome of a check: a value, or faults, of which there is one at least. -/
inductive Checked (α : Type) where
  | valid (a : α)
  | faulty (first : Fault) (others : List Fault)
deriving Repr

namespace Checked

def fault (cause : Cause) : Checked α :=
  .faulty ⟨cause, []⟩ []

def faults : Checked α → List Fault
  | .valid _ => []
  | .faulty f fs => f :: fs

def value? : Checked α → Option α
  | .valid a => some a
  | .faulty _ _ => none

def map (f : α → β) : Checked α → Checked β
  | .valid a => .valid (f a)
  | .faulty g gs => .faulty g gs

def bind (x : Checked α) (f : α → Checked β) : Checked β :=
  match x with
  | .valid a => f a
  | .faulty g gs => .faulty g gs

/-- The outcome for two parts; the faults of the first come first. -/
def both (x : Checked α) (y : Checked β) : Checked (α × β) :=
  match x, y with
  | .valid a, .valid b => .valid (a, b)
  | .valid _, .faulty g gs => .faulty g gs
  | .faulty f fs, y => .faulty f (fs ++ y.faults)

def apply (f : Checked (α → β)) (x : Checked α) : Checked β :=
  (f.both x).map fun p => p.1 p.2

/-- The outcome as seen from one step further out. -/
def under (step : Step) : Checked α → Checked α
  | .valid a => .valid a
  | .faulty f fs => .faulty (f.under step) (fs.map (·.under step))

/-- The outcome with more faults, which come last. -/
def also (x : Checked α) (more : List Fault) : Checked α :=
  match x, more with
  | .valid a, [] => .valid a
  | .valid _, g :: gs => .faulty g gs
  | .faulty f fs, gs => .faulty f (fs ++ gs)

/-- The outcome for the members of a sequence, each seen from the sequence. -/
def eachFrom (check : α → Checked β) (n : Nat) : List α → Checked (List β)
  | [] => .valid []
  | x :: xs =>
    (((check x).under (.index n)).both (eachFrom check (n + 1) xs)).map fun p => p.1 :: p.2

def each (check : α → Checked β) (xs : List α) : Checked (List β) :=
  eachFrom check 0 xs

end Checked

end Actionary
