import Actionary.Pattern.Expr

/-!
# Widths of patterns

How many characters a pattern takes at least and at most. A condition on what stands before the
cursor needs a pattern that always takes the same number.
-/

namespace Actionary.Pattern

/-- The least and the greatest number of characters that a pattern takes. -/
structure Width where
  least : Nat
  most : Option Nat
deriving DecidableEq, Repr

namespace Width

def zero : Width := ⟨0, some 0⟩

def add (v w : Width) : Width :=
  ⟨v.least + w.least, v.most.bind fun a => w.most.map (a + ·)⟩

def either (v w : Width) : Width :=
  ⟨min v.least w.least, v.most.bind fun a => w.most.map (max a ·)⟩

def repeated (least : Nat) (most : Option Nat) (w : Width) : Width :=
  ⟨least * w.least,
    if most == some 0 || w.most == some 0 then some 0 else most.bind fun a => w.most.map (a * ·)⟩

/-- The number of characters, if it is always the same and not beyond what can be counted. -/
def fixed? (w : Width) : Option Nat :=
  if w.most == some w.least && w.least < 0x100000000 then some w.least else none

end Width

def Expr.width (groups : Nat → Width) : Expr → Width
  | .empty | .fail | .anchor _ | .ahead _ _ | .behind _ _ _ => .zero
  | .one _ => ⟨1, some 1⟩
  | .seq first second => (first.width groups).add (second.width groups)
  | .alt first others =>
    if others == .fail then first.width groups
    else (first.width groups).either (others.width groups)
  | .many _ least most _ => (⟨1, some 1⟩ : Width).repeated least most
  | .rep _ least most body => (body.width groups).repeated least most
  | .capture _ body => body.width groups
  | .atomic body => body.width groups
  | .again group _ => groups group
  | .ifCaptured _ yes no => (yes.width groups).either (no.width groups)

end Actionary.Pattern
