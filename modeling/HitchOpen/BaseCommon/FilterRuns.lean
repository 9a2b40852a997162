import Mathlib.Data.List.Forall2
import HitchOpen.BaseCommon.LowPassFilter
import HitchOpen.BaseCommon.RateLimiter

/-!
# The filters in use

Two runs of a filter are made of the same calls, with the same times and parameters, but the inputs of the
one are those of the other with noise on them.  If the noise is never more than a bound, neither is the
difference between the outputs: `rateLimiter_noise` and `lowPassFilter_noise`.  The setters may come at any
place between the updates.

A rate limiter gets where it is going, and `rateLimiter_arrives` says when.
-/

namespace HitchOpen.BaseCommon

variable {R : Type*} [LinearOrder R]

theorem clamp_eq_max_min {lo hi : R} (v : R) (h : lo ≤ hi) : clamp v lo hi = max lo (min v hi) := by
  rw [clamp]
  split_ifs with hlo hhi
  · rw [min_eq_left (hlo.le.trans h), max_eq_left hlo.le]
  · rw [min_eq_right hhi.le, max_eq_right h]
  · rw [min_eq_left (not_lt.mp hhi), max_eq_right (not_lt.mp hlo)]

theorem clamp_eq_self_iff {v lo hi : R} (h : lo ≤ hi) : clamp v lo hi = v ↔ lo ≤ v ∧ v ≤ hi := by
  refine ⟨?_, ?_⟩
  · intro heq
    rw [← heq]
    exact clamp_mem h
  · rintro ⟨hlo, hhi⟩
    rw [clamp, if_neg (not_lt.mpr hlo), if_neg (not_lt.mpr hhi)]

variable [Field R]

/-- No further apart than `c`. -/
def Near (c x x' : R) : Prop := |x - x'| ≤ c

/-- Both are NaN, or the one is near the other. -/
def NearInput (c : R) : Option R → Option R → Prop := Option.Rel (Near c)

/-! ### The rate limiter -/

/-- A call that changes a rate limiter. -/
inductive LimiterCall (R : Type*)
  | update (input : Option R) (dt : R)
  | updateDefault (input : Option R)
  | setOutput (output : R)
  | setRate (rate : R)

namespace RateLimiter

def setOutput (r : RateLimiter R) (output : R) : RateLimiter R := { r with output := output }

def setRate (r : RateLimiter R) (rate : R) : RateLimiter R := { r with rate := rate }

def perform (r : RateLimiter R) : LimiterCall R → RateLimiter R
  | .update input dt => r.update input dt
  | .updateDefault input => r.updateDefault input
  | .setOutput output => r.setOutput output
  | .setRate rate => r.setRate rate

/-- Limiters with the same parameters, and outputs that are near. -/
structure Alike (c : R) (r r' : RateLimiter R) : Prop where
  output : Near c r.output r'.output
  rate : r.rate = r'.rate
  defaultDt : r.defaultDt = r'.defaultDt
  rate_nonneg : 0 ≤ r.rate
  defaultDt_nonneg : 0 ≤ r.defaultDt

end RateLimiter

/-- The same call, up to noise. -/
def LimiterCall.Near (c : R) : LimiterCall R → LimiterCall R → Prop
  | .update input dt, .update input' dt' => NearInput c input input' ∧ dt = dt' ∧ 0 ≤ dt
  | .updateDefault input, .updateDefault input' => NearInput c input input'
  | .setOutput output, .setOutput output' => BaseCommon.Near c output output'
  | .setRate rate, .setRate rate' => rate = rate' ∧ 0 ≤ rate
  | _, _ => False

variable [IsStrictOrderedRing R]

theorem near_clamp {c range x x' y y' : R} (hrange : 0 ≤ range) (hx : Near c x x') (hy : Near c y y') :
    Near c (clamp x (y - range) (y + range)) (clamp x' (y' - range) (y' + range)) := by
  have hlo : |y - range - (y' - range)| ≤ c := by rwa [sub_sub_sub_cancel_right]
  have hhi : |y + range - (y' + range)| ≤ c := by rwa [add_sub_add_right_eq_sub]
  have hmin := (abs_min_sub_min_le_max x (y + range) x' (y' + range)).trans (max_le hx hhi)
  rw [clamp_eq_max_min x (by linarith), clamp_eq_max_min x' (by linarith)]
  exact (abs_max_sub_max_le_max _ _ _ _).trans (max_le hlo hmin)

namespace RateLimiter

theorem Alike.update {c : R} {r r' : RateLimiter R} (h : Alike c r r') {input input' : Option R}
    (hinput : NearInput c input input') {dt : R} (hdt : 0 ≤ dt) :
    Alike c (r.update input dt) (r'.update input' dt) := by
  cases hinput with
  | none => exact h
  | some hx =>
      refine ⟨?_, h.rate, h.defaultDt, h.rate_nonneg, h.defaultDt_nonneg⟩
      show Near c (clamp _ _ _) (clamp _ (r'.output - r'.rate * dt) (r'.output + r'.rate * dt))
      rw [← h.rate]
      exact near_clamp (mul_nonneg h.rate_nonneg hdt) hx h.output

theorem Alike.perform {c : R} {r r' : RateLimiter R} (h : Alike c r r') {call call' : LimiterCall R}
    (hcall : call.Near c call') : Alike c (r.perform call) (r'.perform call') := by
  cases call with
  | update input dt =>
      cases call' with
      | update input' dt' =>
          obtain ⟨hinput, rfl, hdt⟩ := hcall
          exact h.update hinput hdt
      | _ => exact hcall.elim
  | updateDefault input =>
      cases call' with
      | updateDefault input' =>
          show Alike c (r.update input r.defaultDt) (r'.update input' r'.defaultDt)
          rw [← h.defaultDt]
          exact h.update hcall h.defaultDt_nonneg
      | _ => exact hcall.elim
  | setOutput output =>
      cases call' with
      | setOutput output' => exact ⟨hcall, h.rate, h.defaultDt, h.rate_nonneg, h.defaultDt_nonneg⟩
      | _ => exact hcall.elim
  | setRate rate =>
      cases call' with
      | setRate rate' => exact ⟨h.output, hcall.1, h.defaultDt, hcall.2, h.defaultDt_nonneg⟩
      | _ => exact hcall.elim

end RateLimiter

/-- **Noise through the rate limiter.**  The outputs of two runs are no further apart than their inputs, the
outputs that have been set, and the outputs that they began with. -/
theorem rateLimiter_noise {c : R} {r r' : RateLimiter R} (h : r.Alike c r')
    {calls calls' : List (LimiterCall R)} (hcalls : List.Forall₂ (LimiterCall.Near c) calls calls') :
    |(calls.foldl RateLimiter.perform r).output - (calls'.foldl RateLimiter.perform r').output| ≤ c := by
  have hend : (calls.foldl RateLimiter.perform r).Alike c (calls'.foldl RateLimiter.perform r') := by
    refine List.rel_foldl ?_ h hcalls
    intro _ _ hr _ _ hcall
    exact hr.perform hcall
  exact hend.output

theorem rateLimiter_noise_half :
    |([.update (some 4) 1, .setRate 1, .updateDefault none, .setOutput 3, .update (some 5) 1].foldl
          RateLimiter.perform (RateLimiter.create 2 1 : RateLimiter ℚ)).output -
        ([.update (some (9 / 2)) 1, .setRate 1, .updateDefault none, .setOutput 3,
          .update (some 5) 1].foldl RateLimiter.perform (RateLimiter.create 2 1)).output| ≤ 1 / 2 := by
  have hself : ∀ x : ℚ, Near (1 / 2) x x := by
    intro x
    rw [Near, sub_self, abs_zero]
    decide +kernel
  have halike : (RateLimiter.create 2 1 : RateLimiter ℚ).Alike (1 / 2) (.create 2 1) :=
    ⟨hself 0, rfl, rfl, by decide, by decide⟩
  have hnoise : Near (1 / 2 : ℚ) 4 (9 / 2) := by norm_num [Near, abs_le]
  refine rateLimiter_noise halike (.cons ⟨.some hnoise, rfl, by decide⟩ ?_)
  exact .cons ⟨rfl, by decide⟩ (.cons .none (.cons (hself 3) (.cons ⟨.some (hself 5), rfl, by decide⟩ .nil)))

/-- **Arrival.**  On the way to a fixed input, the output has arrived as soon as the time that has gone by,
in whatever steps (none of them negative), is enough for the way at the given rate, and not before. -/
theorem rateLimiter_arrives {r : RateLimiter R} (hrate : 0 ≤ r.rate) (x : R) {dts : List R}
    (hdts : ∀ dt ∈ dts, 0 ≤ dt) :
    (r.updates (dts.map fun dt => (some x, dt))).output = x ↔ |x - r.output| ≤ r.rate * dts.sum := by
  have hrange := mul_nonneg hrate (List.sum_nonneg hdts)
  rw [RateLimiter.updates_const hrate (some x) hdts]
  show clamp x (r.output - r.rate * dts.sum) (r.output + r.rate * dts.sum) = x ↔ _
  rw [clamp_eq_self_iff (by linarith), abs_le]
  refine ⟨?_, ?_⟩
  · rintro ⟨hlo, hhi⟩
    exact ⟨by linarith, by linarith⟩
  · rintro ⟨hlo, hhi⟩
    exact ⟨by linarith, by linarith⟩

/-- Three seconds for a way of five at two a second, and then too short a time. -/
theorem rateLimiter_arrives_five :
    ((RateLimiter.create 2 1 : RateLimiter ℚ).updates ([1, 2].map fun dt => (some 5, dt))).output = 5 ∧
      ((RateLimiter.create 2 1 : RateLimiter ℚ).updates ([1, 1].map fun dt => (some 5, dt))).output ≠ 5 := by
  have hrate : 0 ≤ (RateLimiter.create 2 1 : RateLimiter ℚ).rate := by decide
  refine ⟨?_, ?_⟩
  · exact (rateLimiter_arrives hrate 5 (by decide +kernel)).mpr (by decide +kernel)
  · rw [Ne, rateLimiter_arrives hrate 5 (by decide +kernel)]
    decide +kernel

/-! ### The low-pass filter -/

/-- A call that changes a low-pass filter. -/
inductive FilterUse (R : Type*)
  | update (call : FilterCall R)
  | updateOutput (input : Option R)
  | resetOutput (newOutput : R)
  | reconfigureFilter (deltaTime cutoffFrequency : R)

namespace LowPassFilter

/-- The constructor with a cutoff frequency and a time step. -/
def configured (m : Exponential R) (cutoffFrequency deltaTime : R) : LowPassFilter R :=
  ⟨0, 1 - remaining m deltaTime cutoffFrequency⟩

def resetOutput (f : LowPassFilter R) (newOutput : R) : LowPassFilter R := { f with output := newOutput }

def perform (m : Exponential R) (f : LowPassFilter R) : FilterUse R → LowPassFilter R
  | .update call => f.update m call
  | .updateOutput input => f.updateOutput input
  | .resetOutput newOutput => f.resetOutput newOutput
  | .reconfigureFilter deltaTime cutoffFrequency => f.reconfigureFilter m deltaTime cutoffFrequency

/-- Filters that go the same part of the way, with outputs that are near. -/
structure Alike (c : R) (f f' : LowPassFilter R) : Prop where
  output : Near c f.output f'.output
  ePow : f.ePow = f'.ePow
  ePow_nonneg : 0 ≤ f.ePow
  ePow_le_one : f.ePow ≤ 1

end LowPassFilter

/-- The same call, up to noise. -/
def FilterUse.Near (c : R) : FilterUse R → FilterUse R → Prop
  | .update call, .update call' =>
      NearInput c call.input call'.input ∧ call.deltaTime = call'.deltaTime ∧
        call.cutoffFrequency = call'.cutoffFrequency ∧ 0 ≤ call.deltaTime ∧ 0 ≤ call.cutoffFrequency
  | .updateOutput input, .updateOutput input' => NearInput c input input'
  | .resetOutput newOutput, .resetOutput newOutput' => BaseCommon.Near c newOutput newOutput'
  | .reconfigureFilter deltaTime cutoff, .reconfigureFilter deltaTime' cutoff' =>
      deltaTime = deltaTime' ∧ cutoff = cutoff' ∧ 0 ≤ deltaTime ∧ 0 ≤ cutoff
  | _, _ => False

/-- A weighted mean of differences. -/
theorem near_mean {c weight x x' y y' : R} (h0 : 0 ≤ weight) (h1 : weight ≤ 1) (hx : Near c x x')
    (hy : Near c y y') : Near c (y + (x - y) * weight) (y' + (x' - y') * weight) := by
  have hleft := mul_le_mul_of_nonneg_left hy (sub_nonneg.mpr h1)
  have hright := mul_le_mul_of_nonneg_left hx h0
  have hsplit : y + (x - y) * weight - (y' + (x' - y') * weight) =
      (1 - weight) * (y - y') + weight * (x - x') := by ring
  calc |y + (x - y) * weight - (y' + (x' - y') * weight)|
      = |(1 - weight) * (y - y') + weight * (x - x')| := by rw [hsplit]
    _ ≤ |(1 - weight) * (y - y')| + |weight * (x - x')| := abs_add_le _ _
    _ = (1 - weight) * |y - y'| + weight * |x - x'| := by
        rw [abs_mul, abs_mul, abs_of_nonneg (sub_nonneg.mpr h1), abs_of_nonneg h0]
    _ ≤ (1 - weight) * c + weight * c := add_le_add hleft hright
    _ = c := by ring

namespace LowPassFilter

variable {m : Exponential R} {c : R} {f f' : LowPassFilter R}

theorem Alike.updateOutput (h : Alike c f f') {input input' : Option R} (hinput : NearInput c input input') :
    Alike c (f.updateOutput input) (f'.updateOutput input') := by
  cases hinput with
  | none => exact h
  | some hx =>
      refine ⟨?_, h.ePow, h.ePow_nonneg, h.ePow_le_one⟩
      show Near c (f.output + _ * f.ePow) (f'.output + _ * f'.ePow)
      rw [← h.ePow]
      exact near_mean h.ePow_nonneg h.ePow_le_one hx h.output

theorem Alike.reconfigureFilter (h : Alike c f f') (hexp : ExpLaws m) {deltaTime cutoff : R}
    (hdt : 0 ≤ deltaTime) (hcutoff : 0 ≤ cutoff) :
    Alike c (f.reconfigureFilter m deltaTime cutoff) (f'.reconfigureFilter m deltaTime cutoff) := by
  obtain ⟨h0, h1⟩ := remaining_mem hexp hdt hcutoff
  exact ⟨h.output, rfl, sub_nonneg.mpr h1, sub_le_self 1 h0⟩

theorem Alike.perform (h : Alike c f f') (hexp : ExpLaws m) {call call' : FilterUse R}
    (hcall : call.Near c call') : Alike c (f.perform m call) (f'.perform m call') := by
  cases call with
  | update call =>
      cases call' with
      | update call' =>
          obtain ⟨hinput, hdt, hcutoff, hdt0, hcutoff0⟩ := hcall
          show Alike c (f.update m call) (f'.update m call')
          rw [LowPassFilter.update, LowPassFilter.update, ← hdt, ← hcutoff]
          exact (h.reconfigureFilter hexp hdt0 hcutoff0).updateOutput hinput
      | _ => exact hcall.elim
  | updateOutput input =>
      cases call' with
      | updateOutput input' => exact h.updateOutput hcall
      | _ => exact hcall.elim
  | resetOutput newOutput =>
      cases call' with
      | resetOutput newOutput' => exact ⟨hcall, h.ePow, h.ePow_nonneg, h.ePow_le_one⟩
      | _ => exact hcall.elim
  | reconfigureFilter deltaTime cutoff =>
      cases call' with
      | reconfigureFilter deltaTime' cutoff' =>
          obtain ⟨rfl, rfl, hdt, hcutoff⟩ := hcall
          exact h.reconfigureFilter hexp hdt hcutoff
      | _ => exact hcall.elim

end LowPassFilter

/-- **Noise through the low-pass filter.**  The same as for the rate limiter. -/
theorem lowPassFilter_noise {m : Exponential R} (hexp : ExpLaws m) {c : R} {f f' : LowPassFilter R}
    (h : f.Alike c f') {calls calls' : List (FilterUse R)}
    (hcalls : List.Forall₂ (FilterUse.Near c) calls calls') :
    |(calls.foldl (LowPassFilter.perform m) f).output -
      (calls'.foldl (LowPassFilter.perform m) f').output| ≤ c := by
  have hend : (calls.foldl (LowPassFilter.perform m) f).Alike c
      (calls'.foldl (LowPassFilter.perform m) f') := by
    refine List.rel_foldl ?_ h hcalls
    intro _ _ hf _ _ hcall
    exact hf.perform hexp hcall
  exact hend.output

theorem LowPassFilter.alike_configured {m : Exponential R} (hexp : ExpLaws m) {c cutoff deltaTime : R}
    (hc : 0 ≤ c) (hdt : 0 ≤ deltaTime) (hcutoff : 0 ≤ cutoff) :
    Alike c (configured m cutoff deltaTime) (configured m cutoff deltaTime) := by
  obtain ⟨h0, h1⟩ := remaining_mem hexp hdt hcutoff
  refine ⟨?_, rfl, sub_nonneg.mpr h1, sub_le_self 1 h0⟩
  rw [Near, sub_self, abs_zero]
  exact hc

theorem lowPassFilter_noise_one :
    |([.updateOutput (some 4), .updateOutput none].foldl (LowPassFilter.perform realExponential)
          (.configured realExponential 1 1)).output -
        ([.updateOutput (some 5), .updateOutput none].foldl (LowPassFilter.perform realExponential)
          (.configured realExponential 1 1)).output| ≤ 1 := by
  have halike := LowPassFilter.alike_configured realExponential_laws (c := 1) zero_le_one zero_le_one
    (zero_le_one' ℝ)
  refine lowPassFilter_noise realExponential_laws halike ?_
  exact .cons (.some (by norm_num [Near])) (.cons .none .nil)

end HitchOpen.BaseCommon
