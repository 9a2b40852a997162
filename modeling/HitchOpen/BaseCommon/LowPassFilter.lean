import HitchOpen.Library.Smoothing
import Mathlib.Analysis.SpecialFunctions.Exp
import Mathlib.Analysis.SpecialFunctions.Trigonometric.Basic
import Mathlib.Tactic.Ring

/-!
# The low-pass filter

`LowPassFilter` takes its output a part of the way to the input.  The part is one minus an exponential
of the time step, so that what is left of the way is multiplied from step to step, and the exponentials
of several steps multiply to the exponential of all of them.

The exponential function and `M_PI` are parameters of the model.  `ERROR_CHECK` is `false`.
-/

namespace HitchOpen.BaseCommon

open HitchOpen.Smoothing

/-- `exp` and `M_PI`. -/
structure Exponential (R : Type*) where
  exp : R → R
  pi : R

structure LowPassFilter (R : Type*) where
  output : R
  ePow : R

/-- A call with a time step and a cutoff frequency.  An input that is NaN is `none`. -/
structure FilterCall (R : Type*) where
  input : Option R
  deltaTime : R
  cutoffFrequency : R

section Filter

variable {R : Type*} [Field R]

/-- The default constructor. -/
def LowPassFilter.create : LowPassFilter R := ⟨0, 0⟩

def LowPassFilter.reconfigureFilter (m : Exponential R) (f : LowPassFilter R)
    (deltaTime cutoffFrequency : R) : LowPassFilter R :=
  { f with ePow := 1 - m.exp (-deltaTime * 2 * m.pi * cutoffFrequency) }

/-- The call without a time step; it returns the output. -/
def LowPassFilter.updateOutput (f : LowPassFilter R) (input : Option R) : LowPassFilter R :=
  match input with
  | none => f
  | some input => { f with output := f.output + (input - f.output) * f.ePow }

def LowPassFilter.update (m : Exponential R) (f : LowPassFilter R) (call : FilterCall R) :
    LowPassFilter R :=
  (f.reconfigureFilter m call.deltaTime call.cutoffFrequency).updateOutput call.input

/-- Calls one after the other. -/
def LowPassFilter.updates (m : Exponential R) (f : LowPassFilter R) (calls : List (FilterCall R)) :
    LowPassFilter R :=
  calls.foldl (LowPassFilter.update m) f

/-- How much of the way is left after a time step. -/
def remaining (m : Exponential R) (deltaTime cutoffFrequency : R) : R :=
  m.exp (-deltaTime * 2 * m.pi * cutoffFrequency)

theorem LowPassFilter.update_some (m : Exponential R) (f : LowPassFilter R) (x dt cutoff : R) :
    (f.update m ⟨some x, dt, cutoff⟩).output = x + (f.output - x) * remaining m dt cutoff := by
  show f.output + (x - f.output) * (1 - remaining m dt cutoff) = _
  ring

theorem updates_nan (m : Exponential R) (cutoff : R) (dts : List R) :
    ∀ f : LowPassFilter R,
      (f.updates m (dts.map fun dt => ⟨none, dt, cutoff⟩)).output = f.output := by
  induction dts with
  | nil =>
      intro f
      rfl
  | cons dt dts ih =>
      intro f
      show ((f.update m ⟨none, dt, cutoff⟩).updates m
        (dts.map fun dt => ⟨none, dt, cutoff⟩)).output = _
      rw [ih]
      rfl

variable [LinearOrder R]

/-- What is assumed of the exponential function. -/
structure ExpLaws (m : Exponential R) : Prop where
  add : ∀ a b, m.exp (a + b) = m.exp a * m.exp b
  pos : ∀ a, 0 ≤ a → 0 < m.exp (-a)
  le_one : ∀ a, 0 ≤ a → m.exp (-a) ≤ 1
  pi_nonneg : 0 ≤ m.pi

theorem remaining_add {m : Exponential R} (hexp : ExpLaws m) (a b cutoff : R) :
    remaining m (a + b) cutoff = remaining m a cutoff * remaining m b cutoff := by
  have hsum : -(a + b) * 2 * m.pi * cutoff =
      -a * 2 * m.pi * cutoff + -b * 2 * m.pi * cutoff := by ring
  rw [remaining, hsum, hexp.add]
  rfl

theorem remaining_zero {m : Exponential R} (hexp : ExpLaws m) (cutoff : R) :
    remaining m 0 cutoff = 1 := by
  have hsq := remaining_add hexp 0 0 cutoff
  have hzero : remaining m 0 cutoff = m.exp (-0) := by
    rw [remaining]
    congr 1
    ring
  have hne : remaining m 0 cutoff ≠ 0 := by
    rw [hzero]
    exact (hexp.pos 0 (le_refl 0)).ne'
  rw [add_zero] at hsq
  exact (mul_eq_left₀ hne).mp hsq.symm

theorem updates_const {m : Exponential R} (hexp : ExpLaws m) (x cutoff : R) (dts : List R) :
    ∀ f : LowPassFilter R,
      (f.updates m (dts.map fun dt => ⟨some x, dt, cutoff⟩)).output =
        x + (f.output - x) * remaining m dts.sum cutoff := by
  induction dts with
  | nil =>
      intro f
      show f.output = x + (f.output - x) * remaining m 0 cutoff
      rw [remaining_zero hexp, mul_one, add_sub_cancel]
  | cons dt dts ih =>
      intro f
      show ((f.update m ⟨some x, dt, cutoff⟩).updates m
        (dts.map fun dt => ⟨some x, dt, cutoff⟩)).output = _
      rw [ih, LowPassFilter.update_some, List.sum_cons, remaining_add hexp]
      ring

variable [IsStrictOrderedRing R]

theorem remaining_mem {m : Exponential R} (hexp : ExpLaws m) {dt cutoff : R} (hdt : 0 ≤ dt)
    (hcutoff : 0 ≤ cutoff) : 0 ≤ remaining m dt cutoff ∧ remaining m dt cutoff ≤ 1 := by
  have hnonneg : 0 ≤ dt * 2 * m.pi * cutoff :=
    mul_nonneg (mul_nonneg (mul_nonneg hdt zero_le_two) hexp.pi_nonneg) hcutoff
  have hneg : -dt * 2 * m.pi * cutoff = -(dt * 2 * m.pi * cutoff) := by ring
  rw [remaining, hneg]
  exact ⟨(hexp.pos _ hnonneg).le, hexp.le_one _ hnonneg⟩

/-- A weighted mean lies between its two values. -/
theorem mean_towards {y x weight : R} (h0 : 0 ≤ weight) (h1 : weight ≤ 1) :
    min y x ≤ x + (y - x) * weight ∧ x + (y - x) * weight ≤ max y x := by
  rcases le_total y x with hle | hle
  · rw [min_eq_left hle, max_eq_right hle]
    have hway : (y - x) ≤ (y - x) * weight :=
      le_mul_of_le_one_right (sub_nonpos.mpr hle) h1
    have hback : (y - x) * weight ≤ 0 := mul_nonpos_of_nonpos_of_nonneg (sub_nonpos.mpr hle) h0
    constructor <;> linarith
  · rw [min_eq_right hle, max_eq_left hle]
    have hway : (y - x) * weight ≤ y - x := mul_le_of_le_one_right (sub_nonneg.mpr hle) h1
    have hback : 0 ≤ (y - x) * weight := mul_nonneg (sub_nonneg.mpr hle) h0
    constructor <;> linarith

theorem LowPassFilter.follows {m : Exponential R} (hexp : ExpLaws m) :
    Follows (LowPassFilter.update m) LowPassFilter.output FilterCall.input (fun _ => True)
      (fun call => 0 ≤ call.deltaTime ∧ 0 ≤ call.cutoffFrequency) where
  keeps _ _ _ _ := trivial
  towards f call _ hcall := by
    obtain ⟨input, dt, cutoff⟩ := call
    cases input with
    | none => rfl
    | some x =>
        obtain ⟨h0, h1⟩ := remaining_mem hexp hcall.1 hcall.2
        rw [LowPassFilter.update_some]
        exact mean_towards h0 h1

/-- **The low-pass filter.**  The output stays between the smallest and the largest value it has been
given, and cutting the time into steps makes no difference. -/
theorem lowPassFilter_spec (m : Exponential R) (hexp : ExpLaws m) (f : LowPassFilter R) :
    (∀ calls : List (FilterCall R),
      (∀ call ∈ calls, 0 ≤ call.deltaTime ∧ 0 ≤ call.cutoffFrequency) →
      smallest f.output (calls.map FilterCall.input) ≤ (f.updates m calls).output ∧
        (f.updates m calls).output ≤ largest f.output (calls.map FilterCall.input)) ∧
    ∀ (input : Option R) (cutoff : R) (dts : List R),
      (f.updates m (dts.map fun dt => ⟨input, dt, cutoff⟩)).output =
        (f.update m ⟨input, dts.sum, cutoff⟩).output := by
  refine ⟨?_, ?_⟩
  · intro calls hcalls
    exact (LowPassFilter.follows hexp).between trivial hcalls
  · intro input cutoff dts
    cases input with
    | none => exact updates_nan m cutoff dts f
    | some x => rw [updates_const hexp, LowPassFilter.update_some]

end Filter

noncomputable def realExponential : Exponential ℝ := ⟨Real.exp, Real.pi⟩

theorem realExponential_laws : ExpLaws realExponential where
  add := Real.exp_add
  pos a _ := Real.exp_pos (-a)
  le_one _ ha := Real.exp_le_one_iff.mpr (neg_nonpos.mpr ha)
  pi_nonneg := Real.pi_pos.le

/-- A second at one hertz, and then an input that is missing or no time at all. -/
theorem lowPassFilter_oneSecond :
    smallest 0 [some 1, none] ≤ ((LowPassFilter.create : LowPassFilter ℝ).updates realExponential
        [⟨some 1, 1, 1⟩, ⟨none, 1, 0⟩]).output ∧
    (LowPassFilter.create.updates realExponential ([1, 0].map fun dt => ⟨some 1, dt, 1⟩)).output =
      (LowPassFilter.create.update realExponential ⟨some 1, [1, 0].sum, 1⟩).output := by
  have hspec := lowPassFilter_spec realExponential realExponential_laws LowPassFilter.create
  refine ⟨(hspec.1 [⟨some 1, 1, 1⟩, ⟨none, 1, 0⟩] ?_).1, hspec.2 (some 1) 1 [1, 0]⟩
  simp

end HitchOpen.BaseCommon
