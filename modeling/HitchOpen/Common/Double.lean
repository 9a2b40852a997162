import Mathlib.Algebra.Order.Field.Basic

/-!
# Doubles that leave the finite range

Arithmetic is exact in these models, but a division by zero in the C++ code does not stop it: the
quotient is an infinity or NaN and the computation goes on.  `Double R` is a number of `R` or one of
those three; the operations are the ones the controllers apply to a quotient.  A denominator that is
zero counts as the positive zero.
-/

namespace HitchOpen.Runtime

inductive Double (R : Type*)
  | finite (x : R)
  | posInf
  | negInf
  | nan
  deriving DecidableEq

namespace Double

variable {R : Type*} [Field R] [LinearOrder R]

/-- The infinity with the sign of `x`.  Zero has none. -/
def infinity (x : R) : Double R := if 0 < x then .posInf else if x < 0 then .negInf else .nan

/-- `x / y`. -/
def quotient (x y : R) : Double R := if y = 0 then infinity x else .finite (x / y)

/-- `k * d`. -/
def scale (k : R) : Double R → Double R
  | .finite x => .finite (k * x)
  | .posInf => infinity k
  | .negInf => infinity (-k)
  | .nan => .nan

/-- `a + d`. -/
def shift (a : R) : Double R → Double R
  | .finite x => .finite (a + x)
  | .posInf => .posInf
  | .negInf => .negInf
  | .nan => .nan

end Double

end HitchOpen.Runtime
