import HitchOpen.Common.Messages
import HitchOpen.Common.Runtime
import HitchOpen.Library.EventMachine
import Mathlib.Algebra.Order.Field.Basic
import Mathlib.Tactic.Positivity

/-!
# The interface between the controller and the simulator

`AutowareLgsvlInterface` turns a commanded acceleration into pedals and a gear.  The pedals are
fractions of the two limits that the parameters give, the gear is counted up by the engine speed that
the CAN bus reports.

The deceleration limit is declared as `-3.0` and shipped as `3.0`.  With the negative sign
`min(|a| / max_decel, 1)` no longer cuts anything off, so that `std::abs` brings back a brake of more
than one: `pedals_iff` says for which limits and commands the pedals stay within their range.
-/

namespace HitchOpen.AutowareLgsvlInterface

open HitchOpen.EventMachine HitchOpen.Messages

structure Config (R : Type*) where
  maxAccel : R
  maxDecel : R
  /-- `VehicleControlData::GEAR_NEUTRAL`. -/
  gearNeutral : UInt8

structure State (R : Type*) where
  engineRpm : R
  currentGear : ℕ
  deriving DecidableEq

inductive Event (R : Type*)
  | can (engineRpm : R)
  | control (stamp : R) (msg : Control R)

/-- `lgsvl_msgs/VehicleControlData`, as far as the node fills it in. -/
structure VehicleControlData (R : Type*) where
  stamp : R
  accelerationPct : R
  brakingPct : R
  targetWheelAngle : R
  targetGear : UInt8
  deriving DecidableEq

section Node

variable {R : Type*} [Field R] [LinearOrder R]

def init : State R where
  engineRpm := 0
  currentGear := 1

/-- Shifts up, at most to the sixth gear. -/
def onCanMsg (s : State R) (engineRpm : R) : State R where
  engineRpm := engineRpm
  currentGear := if engineRpm > 3000 ∧ s.currentGear < 6 then s.currentGear + 1 else s.currentGear

/-- The share of the throttle. -/
def accelerationPct (c : Config R) (acceleration : R) : R :=
  if acceleration ≥ 0 then min (acceleration / c.maxAccel) 1 else 0

/-- The share of the brake. -/
def brakingPct (c : Config R) (acceleration : R) : R :=
  if acceleration ≥ 0 then 0 else |min (|acceleration| / c.maxDecel) 1|

def targetGear (c : Config R) (s : State R) (acceleration : R) : UInt8 :=
  if |acceleration| < 1 / 100 ∨ c.maxAccel = 0 then c.gearNeutral
  else if acceleration > 0 then UInt8.ofNat s.currentGear
  else c.gearNeutral

def onControlMsg (c : Config R) (s : State R) (stamp : R) (msg : Control R) :
    VehicleControlData R where
  stamp := stamp
  accelerationPct := accelerationPct c msg.acceleration
  brakingPct := brakingPct c msg.acceleration
  targetWheelAngle := msg.steeringTireAngle
  targetGear := targetGear c s msg.acceleration

def step (c : Config R) (s : State R) :
    Event R → Reply (State R) (VehicleControlData R) Empty
  | .can engineRpm => .done (onCanMsg s engineRpm) []
  | .control stamp msg => .done s [onControlMsg c s stamp msg]

def interfaceNode (c : Config R) : Machine (State R) (Event R) (VehicleControlData R) Empty where
  init := init
  step := step c

/-- The run `es` publishes `out` for the command `msg`. -/
def Publishes (c : Config R) (es : List (Event R)) (msg : Control R) (out : VehicleControlData R) :
    Prop :=
  ∃ pre stamp s, pre ++ [.control stamp msg] <+: es ∧
    (interfaceNode c).runFrom init pre = some s ∧ (step c s (.control stamp msg)).outputs = [out]

/-- The signed effort: throttle counts up, brake counts down. -/
def effort (out : VehicleControlData R) : R := out.accelerationPct - out.brakingPct

/-- A gear to drive forward in. -/
def IsForward (gear : UInt8) : Prop := 1 ≤ gear.toNat ∧ gear.toNat ≤ 6

/-- What the simulator is promised about the commands of a run. -/
structure Pedals (c : Config R) (es : List (Event R)) : Prop where
  accelerationPct : ∀ msg out, Publishes c es msg out →
    0 ≤ out.accelerationPct ∧ out.accelerationPct ≤ 1
  brakingPct : ∀ msg out, Publishes c es msg out → 0 ≤ out.brakingPct ∧ out.brakingPct ≤ 1
  exclusive : ∀ msg out, Publishes c es msg out → out.accelerationPct ≤ 0 ∨ out.brakingPct ≤ 0
  monotone : ∀ s s' stamp stamp' msg msg', msg.acceleration ≤ msg'.acceleration →
    effort (onControlMsg c s stamp msg) ≤ effort (onControlMsg c s' stamp' msg')
  gear : ∀ msg out, Publishes c es msg out →
    (out.targetGear = c.gearNeutral ∨ IsForward out.targetGear) ∧
      (IsForward out.targetGear ↔ 1 / 100 ≤ msg.acceleration)

/-! ### The gear -/

theorem onCanMsg_gear {s : State R} (h : 1 ≤ s.currentGear ∧ s.currentGear ≤ 6) (engineRpm : R) :
    1 ≤ (onCanMsg s engineRpm).currentGear ∧ (onCanMsg s engineRpm).currentGear ≤ 6 := by
  simp only [onCanMsg]
  split <;> omega

theorem run_gear {c : Config R} {es : List (Event R)} {s : State R}
    (h : (interfaceNode c).runFrom init es = some s) : 1 ≤ s.currentGear ∧ s.currentGear ≤ 6 := by
  refine (interfaceNode c).runFrom_induct (P := fun s => 1 ≤ s.currentGear ∧ s.currentGear ≤ 6)
    ⟨le_refl 1, Nat.one_le_ofNat⟩ ?_ h
  intro s e hs _
  cases e with
  | can engineRpm => exact onCanMsg_gear hs engineRpm
  | control stamp msg => exact hs

theorem isForward_ofNat {gear : ℕ} (h : 1 ≤ gear ∧ gear ≤ 6) : IsForward (UInt8.ofNat gear) := by
  rw [IsForward, UInt8.toNat_ofNat_of_lt' (by rw [UInt8.size]; omega)]
  exact h

/-! ### What a run publishes -/

/-- No message stops the node, so every command of a run is answered. -/
theorem publishes_of_mem (c : Config R) {es : List (Event R)} {stamp : R} {msg : Control R}
    (h : .control stamp msg ∈ es) : ∃ out, Publishes c es msg out := by
  obtain ⟨pre, post, rfl⟩ := List.append_of_mem h
  have hnever : ∀ s e, ((interfaceNode c).step s e).stop = none := by
    intro s e
    cases e <;> rfl
  obtain ⟨s, hs⟩ := (interfaceNode c).runFrom_of_never_stops hnever init pre
  exact ⟨onControlMsg c s stamp msg, pre, stamp, s, by simp, hs, rfl⟩

theorem Publishes.eq {c : Config R} {es : List (Event R)} {msg : Control R}
    {out : VehicleControlData R} (h : Publishes c es msg out) :
    ∃ s stamp, (1 ≤ s.currentGear ∧ s.currentGear ≤ 6) ∧ .control stamp msg ∈ es ∧
      out = onControlMsg c s stamp msg := by
  obtain ⟨pre, stamp, s, hpre, hrun, hout⟩ := h
  refine ⟨s, stamp, run_gear hrun, hpre.subset (by simp), ?_⟩
  exact (List.cons.inj hout).1.symm

/-! ### The pedals -/

theorem accelerationPct_of_neg (c : Config R) {a : R} (h : a < 0) : accelerationPct c a = 0 :=
  if_neg (not_le.mpr h)

theorem brakingPct_of_nonneg (c : Config R) {a : R} (h : 0 ≤ a) : brakingPct c a = 0 := if_pos h

theorem accelerationPct_of_nonneg (c : Config R) {a : R} (h : 0 ≤ a) :
    accelerationPct c a = min (a / c.maxAccel) 1 := if_pos h

theorem exclusive_pedals (c : Config R) (a : R) : accelerationPct c a ≤ 0 ∨ brakingPct c a ≤ 0 := by
  rcases le_or_gt 0 a with h | h
  · exact .inr (brakingPct_of_nonneg c h).le
  · exact .inl (accelerationPct_of_neg c h).le

variable [IsStrictOrderedRing R]

/-- The gear is a forward one from one hundredth upwards, and neutral below. -/
theorem targetGear_forward {c : Config R} (hmax : 0 < c.maxAccel) {s : State R} {acceleration : R}
    (h : 1 / 100 ≤ acceleration) : targetGear c s acceleration = UInt8.ofNat s.currentGear := by
  have hpos : 0 < acceleration := lt_of_lt_of_le (by positivity) h
  have hband : ¬ (|acceleration| < 1 / 100 ∨ c.maxAccel = 0) := by
    rw [abs_of_pos hpos]
    intro hc
    rcases hc with hlt | hz
    · exact absurd h (not_le.mpr hlt)
    · exact absurd hz hmax.ne'
  rw [targetGear, if_neg hband, if_pos hpos]

theorem targetGear_neutral (c : Config R) (s : State R) {acceleration : R}
    (h : acceleration < 1 / 100) : targetGear c s acceleration = c.gearNeutral := by
  rw [targetGear]
  by_cases hband : |acceleration| < 1 / 100 ∨ c.maxAccel = 0
  · rw [if_pos hband]
  · have hneg : ¬ acceleration > 0 := by
      intro hpos
      exact hband (.inl (by rwa [abs_of_pos hpos]))
    rw [if_neg hband, if_neg hneg]

/-- With a positive limit the brake is cut off at one. -/
theorem brakingPct_of_pos {c : Config R} (hmax : 0 < c.maxDecel) {a : R} (h : a < 0) :
    brakingPct c a = min (-a / c.maxDecel) 1 := by
  have hnonneg : 0 ≤ min (-a / c.maxDecel) 1 :=
    le_min (div_nonneg (by linarith) hmax.le) zero_le_one
  rw [brakingPct, if_neg (not_le.mpr h), abs_of_neg h, abs_of_nonneg hnonneg]

/-- With a negative limit nothing is cut off. -/
theorem brakingPct_of_neg {c : Config R} (hmax : c.maxDecel < 0) {a : R} (h : a < 0) :
    brakingPct c a = a / c.maxDecel := by
  have hneg : -a / c.maxDecel < 0 := div_neg_of_pos_of_neg (by linarith) hmax
  rw [brakingPct, if_neg (not_le.mpr h), abs_of_neg h, min_eq_left (by linarith), abs_of_neg hneg,
    neg_div, neg_neg]

theorem accelerationPct_mem {c : Config R} (hmax : 0 < c.maxAccel) (a : R) :
    0 ≤ accelerationPct c a ∧ accelerationPct c a ≤ 1 := by
  rcases le_or_gt 0 a with h | h
  · rw [accelerationPct_of_nonneg c h]
    exact ⟨le_min (div_nonneg h hmax.le) zero_le_one, min_le_right _ _⟩
  · rw [accelerationPct_of_neg c h]
    exact ⟨le_refl 0, zero_le_one⟩

theorem brakingPct_nonneg (c : Config R) (a : R) : 0 ≤ brakingPct c a := by
  rw [brakingPct]
  split
  · exact le_refl 0
  · exact abs_nonneg _

/-- The brake stays within its range unless a negative limit is exceeded. -/
theorem brakingPct_le_one_iff {c : Config R} (hmax : c.maxDecel ≠ 0) (a : R) :
    brakingPct c a ≤ 1 ↔ 0 < c.maxDecel ∨ c.maxDecel ≤ a := by
  rcases le_or_gt 0 a with h | h
  · rw [brakingPct_of_nonneg c h]
    refine iff_of_true zero_le_one ?_
    rcases lt_or_gt_of_ne hmax with hneg | hpos
    · exact .inr (by linarith)
    · exact .inl hpos
  · rcases lt_or_gt_of_ne hmax with hneg | hpos
    · rw [brakingPct_of_neg hneg h, div_le_one_of_neg hneg]
      exact ⟨.inr, fun hc => hc.resolve_left (not_lt.mpr hneg.le)⟩
    · rw [brakingPct_of_pos hpos h]
      exact iff_of_true (min_le_right _ _) (.inl hpos)

/-- A harder brake for a stronger deceleration, whatever the sign of the limit. -/
theorem brakingPct_antitone {c : Config R} (hmax : c.maxDecel ≠ 0) {a b : R} (hab : a ≤ b)
    (hb : b < 0) : brakingPct c b ≤ brakingPct c a := by
  have ha : a < 0 := lt_of_le_of_lt hab hb
  rcases lt_or_gt_of_ne hmax with hneg | hpos
  · rw [brakingPct_of_neg hneg ha, brakingPct_of_neg hneg hb]
    exact div_le_div_of_nonpos_of_le hneg.le hab
  · rw [brakingPct_of_pos hpos ha, brakingPct_of_pos hpos hb]
    exact min_le_min_right 1 (div_le_div_of_nonneg_right (by linarith) hpos.le)

theorem pedals_monotone {c : Config R} (hmax : 0 < c.maxAccel) (hdec : c.maxDecel ≠ 0) {a b : R}
    (hab : a ≤ b) :
    accelerationPct c a - brakingPct c a ≤ accelerationPct c b - brakingPct c b := by
  rcases le_or_gt 0 a with ha | ha
  · have hb : 0 ≤ b := ha.trans hab
    rw [brakingPct_of_nonneg c ha, brakingPct_of_nonneg c hb, accelerationPct_of_nonneg c ha,
      accelerationPct_of_nonneg c hb]
    exact sub_le_sub_right (min_le_min_right 1 (div_le_div_of_nonneg_right hab hmax.le)) 0
  · have hlow := brakingPct_nonneg c a
    rw [accelerationPct_of_neg c ha]
    rcases le_or_gt 0 b with hb | hb
    · have hhigh := (accelerationPct_mem hmax b).1
      rw [brakingPct_of_nonneg c hb]
      linarith
    · have hbrake := brakingPct_antitone hdec hab hb
      rw [accelerationPct_of_neg c hb]
      linarith

/-- **Pedals and gear.**  Along a run the pedals stay within their range, one at a time, the effort
follows the commanded acceleration and the gear is forward from one hundredth upwards, if and only if
the deceleration limit is positive or no command falls below it. -/
theorem pedals_iff (c : Config R) (hmax : 0 < c.maxAccel) (hdec : c.maxDecel ≠ 0)
    (hneutral : ¬ IsForward c.gearNeutral) (es : List (Event R)) :
    Pedals c es ↔
      0 < c.maxDecel ∨ ∀ stamp msg, .control stamp msg ∈ es → c.maxDecel ≤ msg.acceleration := by
  refine ⟨?_, ?_⟩
  · intro h
    by_cases hpos : 0 < c.maxDecel
    · exact .inl hpos
    · refine .inr fun stamp msg hmem => ?_
      obtain ⟨out, hout⟩ := publishes_of_mem c hmem
      obtain ⟨s, stamp', -, -, rfl⟩ := hout.eq
      have hle := (h.brakingPct msg _ hout).2
      exact ((brakingPct_le_one_iff hdec msg.acceleration).mp hle).resolve_left hpos
  · intro hcond
    refine ⟨?_, ?_, ?_, fun s s' stamp stamp' msg msg' hle => pedals_monotone hmax hdec hle, ?_⟩
    · intro msg out hout
      obtain ⟨s, stamp, -, -, rfl⟩ := hout.eq
      exact accelerationPct_mem hmax msg.acceleration
    · intro msg out hout
      obtain ⟨s, stamp, -, hmem, rfl⟩ := hout.eq
      exact ⟨brakingPct_nonneg c _, (brakingPct_le_one_iff hdec _).mpr
        (hcond.imp_right fun hall => hall stamp msg hmem)⟩
    · intro msg out hout
      obtain ⟨s, stamp, -, -, rfl⟩ := hout.eq
      exact exclusive_pedals c msg.acceleration
    · intro msg out hout
      obtain ⟨s, stamp, hgear, -, rfl⟩ := hout.eq
      have hfwd := isForward_ofNat hgear
      simp only [onControlMsg]
      rcases lt_or_ge msg.acceleration (1 / 100) with hlow | hhigh
      · rw [targetGear_neutral c s hlow]
        exact ⟨.inl rfl, iff_of_false hneutral (not_le.mpr hlow)⟩
      · rw [targetGear_forward hmax hhigh]
        exact ⟨.inr hfwd, iff_of_true hfwd hhigh⟩

end Node

/-- The parameters as the node declares them. -/
def declared : Config ℚ where
  maxAccel := 3
  maxDecel := -3
  gearNeutral := 0

/-- Throttle, then a brake at the limit. -/
def withinLimit : List (Event ℚ) :=
  [.can 3500, .control 1 ⟨2, true, 0, true⟩, .control 2 ⟨-3, true, 0, true⟩]

theorem declared_neutral : ¬ IsForward declared.gearNeutral := by
  intro h
  exact absurd h.1 (by decide)

theorem pedals_withinLimit : Pedals declared withinLimit := by
  refine (pedals_iff declared (by decide +kernel) (by decide +kernel) declared_neutral
    withinLimit).mpr (.inr ?_)
  intro stamp msg hmem
  simp only [withinLimit, List.mem_cons, reduceCtorEq, Event.control.injEq, List.not_mem_nil,
    false_or, or_false] at hmem
  rcases hmem with ⟨-, rfl⟩ | ⟨-, rfl⟩ <;> decide +kernel

/-- Twice the declared limit is answered by twice the full brake. -/
theorem brakingPct_exceeds_one :
    ¬ ∀ (c : Config ℚ) es, 0 < c.maxAccel → c.maxDecel ≠ 0 → ¬ IsForward c.gearNeutral →
      Pedals c es := by
  intro h
  have hp := h declared [.control 0 ⟨-6, true, 0, true⟩] (by decide +kernel) (by decide +kernel)
    declared_neutral
  have hle := (hp.brakingPct ⟨-6, true, 0, true⟩ (onControlMsg declared init 0 ⟨-6, true, 0, true⟩)
    ⟨[], 0, init, List.prefix_refl _, rfl, rfl⟩).2
  exact absurd hle (by decide +kernel)

end HitchOpen.AutowareLgsvlInterface
