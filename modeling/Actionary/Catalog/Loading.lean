import Actionary.Catalog.Issue

/-!
# Loading with warnings

The outcome of loading: the issues that were passed over, in order, and the result or the issue that
ended the loading. How an issue is met depends on the mode: strict loading ends at it, relaxed
loading goes on and keeps it as a warning.
-/

namespace Actionary

/-- How issues are met: strict loading ends at the first, relaxed loading makes them warnings. -/
inductive LoadMode where
  | strict
  | relaxed
deriving DecidableEq, Repr

def LoadMode.ofStrict (strict : Bool) : LoadMode :=
  if strict then .strict else .relaxed

/-- The issues that were passed over, in order, and the result or the issue that ended the loading.
-/
structure Loading (α : Type) where
  warnings : List Issue
  result : Except Issue α

namespace Loading

def pure (a : α) : Loading α :=
  ⟨[], .ok a⟩

def bind (x : Loading α) (f : α → Loading β) : Loading β :=
  match x.result with
  | .error i => ⟨x.warnings, .error i⟩
  | .ok a =>
    let y := f a
    ⟨x.warnings ++ y.warnings, y.result⟩

instance : Monad Loading where
  pure := pure
  bind := bind

/-- Loading ends at an issue, whatever the mode. -/
def fail (i : Issue) : Loading α :=
  ⟨[], .error i⟩

/-- Meets an issue as the mode says. A warning is the text of the report, so an issue whose report
cannot be written ends relaxed loading too, and with another issue. -/
def emit (mode : LoadMode) (i : Issue) : Loading Unit :=
  match mode with
  | .strict => ⟨[], .error i⟩
  | .relaxed => if i.canWrite then ⟨[i], .ok ()⟩ else ⟨[], .error .longInteger⟩

end Loading

end Actionary
