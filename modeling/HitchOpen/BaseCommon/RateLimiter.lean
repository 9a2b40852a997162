import HitchOpen.Library.Smoothing
import Mathlib.Algebra.Order.BigOperators.Group.List
import Mathlib.Algebra.Order.Field.Rat
import Mathlib.Tactic.Linarith

/-!
# The rate limiter

`RateLimiter` lets its output follow the input, but only by so much in a given time.  How the time is
cut into steps makes no difference: as long as the input has not been reached the output moves the full
range in every step, and once it has been reached the output stays there.
-/

namespace HitchOpen.BaseCommon

open HitchOpen.Smoothing

structure RateLimiter (R : Type*) where
  output : R
  rate : R
  defaultDt : R
  deriving DecidableEq

section Limiter

variable {R : Type*} [LinearOrder R]

/-- `std::clamp`, for bounds in order. -/
def clamp (v lo hi : R) : R := if v < lo then lo else if hi < v then hi else v

theorem clamp_mem {v lo hi : R} (h : lo ≤ hi) : lo ≤ clamp v lo hi ∧ clamp v lo hi ≤ hi := by
  rw [clamp]
  split
  · exact ⟨le_refl lo, h⟩
  · next hlo =>
      split
      · exact ⟨h, le_refl hi⟩
      · next hhi => exact ⟨not_lt.mp hlo, not_lt.mp hhi⟩

variable [Field R]

/-- The constructor. -/
def RateLimiter.create (rate defaultDt : R) : RateLimiter R := ⟨0, rate, defaultDt⟩

/-- The call with a time step; it returns the output.  An input that is NaN is `none`. -/
def RateLimiter.update (r : RateLimiter R) (input : Option R) (dt : R) : RateLimiter R :=
  match input with
  | none => r
  | some input =>
      let range := r.rate * dt
      { r with output := clamp input (r.output - range) (r.output + range) }

/-- The call without a time step. -/
def RateLimiter.updateDefault (r : RateLimiter R) (input : Option R) : RateLimiter R :=
  r.update input r.defaultDt

/-- Calls one after the other, each with its input and its time step. -/
def RateLimiter.updates (r : RateLimiter R) (calls : List (Option R × R)) : RateLimiter R :=
  calls.foldl (fun r call => r.update call.1 call.2) r

@[simp] theorem RateLimiter.update_rate (r : RateLimiter R) (input : Option R) (dt : R) :
    (r.update input dt).rate = r.rate := by
  cases input <;> rfl

/-! ### One step -/

theorem RateLimiter.update_zero (r : RateLimiter R) (input : Option R) : r.update input 0 = r := by
  cases input with
  | none => rfl
  | some x =>
      have hsame := clamp_mem (v := x) (le_refl r.output)
      have heq : clamp x r.output r.output = r.output := le_antisymm hsame.2 hsame.1
      simp only [RateLimiter.update, mul_zero, sub_zero, add_zero, heq]

variable [IsStrictOrderedRing R]

/-- Around `y`, the clamp lies between `y` and what is clamped. -/
theorem clamp_towards {y range : R} (hrange : 0 ≤ range) (x : R) :
    min y x ≤ clamp x (y - range) (y + range) ∧ clamp x (y - range) (y + range) ≤ max y x := by
  rw [clamp]
  split
  · next hlo => exact ⟨(min_le_right y x).trans hlo.le, (sub_le_self y hrange).trans (le_max_left y x)⟩
  · split
    · next hhi =>
        exact ⟨(min_le_left y x).trans (le_add_of_nonneg_right hrange), hhi.le.trans (le_max_right y x)⟩
    · exact ⟨min_le_right y x, le_max_right y x⟩

/-- **Two steps in one.**  Below, the output moves down by both ranges; above, up by both; in between
it has reached the input after the first step. -/
theorem clamp_clamp {y a b : R} (ha : 0 ≤ a) (hb : 0 ≤ b) (x : R) :
    clamp x (clamp x (y - a) (y + a) - b) (clamp x (y - a) (y + a) + b) =
      clamp x (y - (a + b)) (y + (a + b)) := by
  by_cases hlow : x < y - a
  · have hfirst : clamp x (y - a) (y + a) = y - a := if_pos hlow
    have hnot : ¬ y - a + b < x := by linarith
    have hnot' : ¬ y + (a + b) < x := by linarith
    rw [hfirst, clamp, clamp, if_neg hnot, if_neg hnot', sub_sub]
  · by_cases hhigh : y + a < x
    · have hfirst : clamp x (y - a) (y + a) = y + a := by rw [clamp, if_neg hlow, if_pos hhigh]
      have hnot : ¬ x < y + a - b := by linarith
      have hnot' : ¬ x < y - (a + b) := by linarith
      rw [hfirst, clamp, clamp, if_neg hnot, if_neg hnot', add_assoc]
    · have hfirst : clamp x (y - a) (y + a) = x := by rw [clamp, if_neg hlow, if_neg hhigh]
      have hdown : ¬ x < x - b := by linarith
      have hup : ¬ x + b < x := by linarith
      have hdown' : ¬ x < y - (a + b) := by linarith
      have hup' : ¬ y + (a + b) < x := by linarith
      rw [hfirst, clamp, clamp, if_neg hdown, if_neg hup, if_neg hdown', if_neg hup']

theorem RateLimiter.update_update {r : RateLimiter R} (hrate : 0 ≤ r.rate) (input : Option R)
    {dt dt' : R} (hdt : 0 ≤ dt) (hdt' : 0 ≤ dt') :
    (r.update input dt).update input dt' = r.update input (dt + dt') := by
  cases input with
  | none => rfl
  | some x =>
      have htwo := clamp_clamp (y := r.output) (mul_nonneg hrate hdt) (mul_nonneg hrate hdt') x
      simp only [RateLimiter.update, mul_add, htwo]

/-- The output moves by no more than the range. -/
theorem RateLimiter.update_change {r : RateLimiter R} (hrate : 0 ≤ r.rate) (input : Option R) {dt : R}
    (hdt : 0 ≤ dt) : |(r.update input dt).output - r.output| ≤ r.rate * dt := by
  have hrange := mul_nonneg hrate hdt
  cases input with
  | none =>
      show |r.output - r.output| ≤ r.rate * dt
      rwa [sub_self, abs_zero]
  | some x =>
      have hle : r.output - r.rate * dt ≤ r.output + r.rate * dt := by linarith
      have hmem := clamp_mem (v := x) hle
      show |clamp x (r.output - r.rate * dt) (r.output + r.rate * dt) - r.output| ≤ r.rate * dt
      rw [abs_le]
      constructor <;> linarith [hmem.1, hmem.2]

/-! ### Runs -/

theorem RateLimiter.updates_const {r : RateLimiter R} (hrate : 0 ≤ r.rate) (input : Option R)
    {dts : List R} (hdts : ∀ dt ∈ dts, 0 ≤ dt) :
    r.updates (dts.map fun dt => (input, dt)) = r.update input dts.sum := by
  induction dts generalizing r with
  | nil =>
      show r = r.update input 0
      exact (r.update_zero input).symm
  | cons dt dts ih =>
      obtain ⟨hdt, hrest⟩ := List.forall_mem_cons.mp hdts
      show (r.update input dt).updates (dts.map fun dt => (input, dt)) = _
      rw [ih (by simpa using hrate) hrest, List.sum_cons]
      exact update_update hrate input hdt (List.sum_nonneg hrest)

theorem RateLimiter.updates_change {r : RateLimiter R} (hrate : 0 ≤ r.rate)
    {calls : List (Option R × R)} (hcalls : ∀ call ∈ calls, 0 ≤ call.2) :
    |(r.updates calls).output - r.output| ≤ r.rate * (calls.map Prod.snd).sum := by
  induction calls generalizing r with
  | nil =>
      show |r.output - r.output| ≤ r.rate * 0
      rw [sub_self, abs_zero, mul_zero]
  | cons call calls ih =>
      obtain ⟨hcall, hrest⟩ := List.forall_mem_cons.mp hcalls
      have hfirst := update_change hrate call.1 hcall
      have hlater := ih (r := r.update call.1 call.2) (by simpa using hrate) hrest
      rw [update_rate] at hlater
      have hsum := abs_sub_le ((r.updates (call :: calls)).output) (r.update call.1 call.2).output
        r.output
      rw [List.map_cons, List.sum_cons, mul_add]
      exact hsum.trans (by rw [add_comm]; exact add_le_add hfirst hlater)

theorem RateLimiter.follows :
    Follows (fun (r : RateLimiter R) (call : Option R × R) => r.update call.1 call.2)
      RateLimiter.output Prod.fst (fun r => 0 ≤ r.rate) (fun call => 0 ≤ call.2) where
  keeps r call hrate _ := by simpa using hrate
  towards r call hrate hdt := by
    obtain ⟨input, dt⟩ := call
    cases input with
    | none => rfl
    | some x => exact clamp_towards (mul_nonneg hrate hdt) x

/-- **The rate limiter.**  Cutting the time into steps makes no difference, the output changes by no
more than the rate allows, and it stays between the smallest and the largest value it has been given. -/
theorem rateLimiter_spec (r : RateLimiter R) (hrate : 0 ≤ r.rate) :
    (∀ (input : Option R) (dts : List R), (∀ dt ∈ dts, 0 ≤ dt) →
      (r.updates (dts.map fun dt => (input, dt))).output = (r.update input dts.sum).output) ∧
    ∀ calls : List (Option R × R), (∀ call ∈ calls, 0 ≤ call.2) →
      |(r.updates calls).output - r.output| ≤ r.rate * (calls.map Prod.snd).sum ∧
        smallest r.output (calls.map Prod.fst) ≤ (r.updates calls).output ∧
        (r.updates calls).output ≤ largest r.output (calls.map Prod.fst) := by
  refine ⟨?_, ?_⟩
  · intro input dts hdts
    rw [RateLimiter.updates_const hrate input hdts]
  · intro calls hcalls
    exact ⟨RateLimiter.updates_change hrate hcalls, RateLimiter.follows.between hrate hcalls⟩

end Limiter

/-- Two units a second; the second of three inputs is missing. -/
theorem rateLimiter_two :
    ((RateLimiter.create 2 1 : RateLimiter ℚ).updates
        ([1, 0, 1 / 2].map fun dt => (some 10, dt))).output =
      ((RateLimiter.create 2 1).update (some 10) [1, 0, 1 / 2].sum).output ∧
    |((RateLimiter.create 2 1).updates [(some 10, 1), (none, 3), (some 1, 1)]).output - 0| ≤
      2 * ([1, 3, 1].sum : ℚ) := by
  have hspec := rateLimiter_spec (RateLimiter.create 2 1 : RateLimiter ℚ) (by decide)
  exact ⟨hspec.1 (some 10) [1, 0, 1 / 2] (by decide +kernel),
    (hspec.2 [(some 10, 1), (none, 3), (some 1, 1)] (by decide +kernel)).1⟩

end HitchOpen.BaseCommon
