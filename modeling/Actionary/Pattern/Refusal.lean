/-!
# Refused patterns

Why a text is not taken as a pattern.
-/

namespace Actionary.Pattern

inductive Refusal where
  | malformed
  | tooManyTimes
  | tooManyDigits (digits : Nat)
  | mixedClasses
deriving DecidableEq, Repr

end Actionary.Pattern
