import HitchOpen.Common.Runtime
import Mathlib.Analysis.SpecialFunctions.Trigonometric.Basic

/-!
# Exact real arithmetic

The root and the trigonometric functions of the real numbers, for the results that need them exact.
-/

namespace HitchOpen.Runtime

noncomputable instance : Sqrt ℝ := ⟨Real.sqrt⟩

noncomputable instance : Trig ℝ := ⟨Real.sin, Real.cos, Real.pi⟩

theorem sqrt_real (x : ℝ) : sqrt x = Real.sqrt x := rfl

end HitchOpen.Runtime
