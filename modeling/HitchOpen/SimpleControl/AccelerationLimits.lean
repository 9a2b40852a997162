import HitchOpen.SimpleControl.PidController
import Mathlib.Order.Lattice
import Mathlib.Tactic.Linarith

/-!
# The acceleration between its limits

`PIDLonController::runStep` limits the new acceleration from one side only: from above when the desired
value lies above the last one, from below when it lies below.  That is enough, because the last value
lies between the limits itself, from `setup` on: the new one is the desired value, clamped to one step
around the last one and then to the limits.

Two steps at the same reading of the clock desire an infinity, which `Double.clamp` treats like any
other value, or NaN, which leaves the acceleration as it is.
-/

namespace HitchOpen.Runtime.Double

variable {R : Type*} [LinearOrder R]

/-- `std::clamp`.  NaN passes through it. -/
def clamp (lo hi : R) : Double R → Double R
  | .finite x => .finite (max lo (min x hi))
  | .posInf => .finite hi
  | .negInf => .finite lo
  | .nan => .nan

end HitchOpen.Runtime.Double

namespace HitchOpen.SimpleControl

open HitchOpen.EventMachine HitchOpen.Messages HitchOpen.Runtime

namespace Pid

section Step

variable {R : Type*} [Field R] [LinearOrder R]

/-- `desired_accel` in a step with the tracking error `error` at the reading `now`. -/
def desired (c : PidParams R) (p : PidState R) (error now : R) : Double R :=
  desiredAccel c error (p.integralError + error * (now - p.lastTime)) p.prevError (now - p.lastTime)

theorem advance_lastAccel (c : PidParams R) (p : PidState R) (error now : R) :
    (advance c p error now).lastAccel = approach c p.lastAccel (desired c p error now) := rfl

/-- `last_accel_` lies between the limits. -/
def InLimits (c : PidParams R) (accel : R) : Prop := c.maxDecel ≤ accel ∧ accel ≤ c.maxAccel

/-- What a step makes of the last acceleration. -/
structure LimitedStep (c : PidParams R) (lastAccel : R) (desired : Double R) (lastAccel' : R) :
    Prop where
  nan : desired = .nan → lastAccel' = lastAccel
  clamped : desired ≠ .nan → .finite lastAccel' =
    (desired.clamp (lastAccel - c.decelStep) (lastAccel + c.accelStep)).clamp c.maxDecel c.maxAccel
  inLimits : InLimits c lastAccel'
  oneStep : lastAccel - c.decelStep ≤ lastAccel' ∧ lastAccel' ≤ lastAccel + c.accelStep
  /-- The acceleration goes towards the desired one and not beyond it. -/
  towards : ∀ x, desired = .finite x →
    lastAccel ≤ x ∧ lastAccel ≤ lastAccel' ∧ lastAccel' ≤ x ∨
      x ≤ lastAccel ∧ x ≤ lastAccel' ∧ lastAccel' ≤ lastAccel

variable [IsStrictOrderedRing R]

/-- The steps lead up and down. -/
structure Steps (c : PidParams R) : Prop where
  accel : 0 ≤ c.accelStep
  decel : 0 ≤ c.decelStep

theorem Steps.le_add {c : PidParams R} (hsteps : Steps c) (lastAccel : R) :
    lastAccel ≤ lastAccel + c.accelStep := le_add_of_nonneg_right hsteps.accel

theorem Steps.sub_le {c : PidParams R} (hsteps : Steps c) (lastAccel : R) :
    lastAccel - c.decelStep ≤ lastAccel := sub_le_self lastAccel hsteps.decel

theorem approach_up {c : PidParams R} (hsteps : Steps c) {lastAccel x : R}
    (hlast : InLimits c lastAccel) (hx : lastAccel < x) :
    max c.maxDecel (min (max (lastAccel - c.decelStep) (min x (lastAccel + c.accelStep))) c.maxAccel) =
      min (min (lastAccel + c.accelStep) x) c.maxAccel := by
  have hup : lastAccel ≤ min x (lastAccel + c.accelStep) :=
    le_min hx.le (hsteps.le_add lastAccel)
  have hlow : lastAccel - c.decelStep ≤ min x (lastAccel + c.accelStep) :=
    (hsteps.sub_le lastAccel).trans hup
  rw [max_eq_right hlow, max_eq_right (hlast.1.trans (le_min hup hlast.2)), min_comm x]

theorem approach_down {c : PidParams R} (hsteps : Steps c) {lastAccel x : R}
    (hlast : InLimits c lastAccel) (hx : x < lastAccel) :
    max c.maxDecel (min (max (lastAccel - c.decelStep) (min x (lastAccel + c.accelStep))) c.maxAccel) =
      max (max (lastAccel - c.decelStep) x) c.maxDecel := by
  have hhigh : x ≤ lastAccel + c.accelStep := hx.le.trans (hsteps.le_add lastAccel)
  have hdown : max (lastAccel - c.decelStep) x ≤ lastAccel :=
    max_le (hsteps.sub_le lastAccel) hx.le
  rw [min_eq_left hhigh, min_eq_left (hdown.trans hlast.2), max_comm c.maxDecel]

/-- **Step lemma.**  From an acceleration between the limits, the one-sided limits come to the same as
the clamp, whatever is desired. -/
theorem approach_eq_clamp {c : PidParams R} (hsteps : Steps c) {lastAccel : R}
    (hlast : InLimits c lastAccel) {d : Double R} (hd : d ≠ .nan) :
    .finite (approach c lastAccel d) =
      (d.clamp (lastAccel - c.decelStep) (lastAccel + c.accelStep)).clamp c.maxDecel c.maxAccel := by
  have hup := hsteps.le_add lastAccel
  have hdown := hsteps.sub_le lastAccel
  cases d with
  | nan => exact absurd rfl hd
  | posInf =>
      rw [approach, Double.clamp, Double.clamp, max_eq_right]
      exact hlast.1.trans (le_min hup hlast.2)
  | negInf =>
      rw [approach, Double.clamp, Double.clamp, min_eq_left (hdown.trans hlast.2), max_comm]
  | finite x =>
      rw [approach, Double.clamp, Double.clamp]
      congr 1
      rcases lt_trichotomy lastAccel x with hx | rfl | hx
      · rw [if_pos hx, approach_up hsteps hlast hx]
      · rw [if_neg (lt_irrefl _), if_neg (lt_irrefl _), min_eq_left hup, max_eq_right hdown,
          min_eq_left hlast.2, max_eq_right hlast.1]
      · rw [if_neg (not_lt.mpr hx.le), if_pos hx, approach_down hsteps hlast hx]

theorem approach_inLimits {c : PidParams R} (hsteps : Steps c) {lastAccel : R}
    (hlast : InLimits c lastAccel) (d : Double R) : InLimits c (approach c lastAccel d) := by
  by_cases hd : d = .nan
  · rw [hd]
    exact hlast
  · have hclamp := approach_eq_clamp hsteps hlast hd
    have hlimits : c.maxDecel ≤ c.maxAccel := hlast.1.trans hlast.2
    generalize d.clamp (lastAccel - c.decelStep) (lastAccel + c.accelStep) = e at hclamp
    cases e with
    | nan => cases hclamp
    | posInf =>
        rw [Double.finite.inj hclamp]
        exact ⟨hlimits, le_refl _⟩
    | negInf =>
        rw [Double.finite.inj hclamp]
        exact ⟨le_refl _, hlimits⟩
    | finite x =>
        rw [Double.finite.inj hclamp]
        exact ⟨le_max_left _ _, max_le hlimits (min_le_right _ _)⟩

theorem approach_oneStep {c : PidParams R} (hsteps : Steps c) {lastAccel : R}
    (hlast : InLimits c lastAccel) (d : Double R) :
    lastAccel - c.decelStep ≤ approach c lastAccel d ∧
      approach c lastAccel d ≤ lastAccel + c.accelStep := by
  have hup := hsteps.le_add lastAccel
  have hdown := hsteps.sub_le lastAccel
  cases d with
  | nan => exact ⟨hdown, hup⟩
  | posInf =>
      rw [approach]
      exact ⟨hdown.trans (le_min hup hlast.2), min_le_left _ _⟩
  | negInf =>
      rw [approach]
      exact ⟨le_max_left _ _, (max_le hdown hlast.1).trans hup⟩
  | finite x =>
      rw [approach]
      split
      · next hx =>
          refine ⟨hdown.trans (le_min (le_min hup hx.le) hlast.2), ?_⟩
          exact (min_le_left _ _).trans (min_le_left _ _)
      · split
        · next hx =>
            refine ⟨(le_max_left _ _).trans (le_max_left _ _), ?_⟩
            exact (max_le (max_le hdown hx.le) hlast.1).trans hup
        · exact ⟨hdown, hup⟩

theorem approach_towards {c : PidParams R} (hsteps : Steps c) {lastAccel : R}
    (hlast : InLimits c lastAccel) (x : R) :
    lastAccel ≤ x ∧ lastAccel ≤ approach c lastAccel (.finite x) ∧
        approach c lastAccel (.finite x) ≤ x ∨
      x ≤ lastAccel ∧ x ≤ approach c lastAccel (.finite x) ∧
        approach c lastAccel (.finite x) ≤ lastAccel := by
  have hup := hsteps.le_add lastAccel
  have hdown := hsteps.sub_le lastAccel
  rw [approach]
  rcases lt_trichotomy lastAccel x with hx | rfl | hx
  · rw [if_pos hx]
    exact .inl ⟨hx.le, le_min (le_min hup hx.le) hlast.2, (min_le_left _ _).trans (min_le_right _ _)⟩
  · rw [if_neg (lt_irrefl _), if_neg (lt_irrefl _)]
    exact .inl ⟨le_refl _, le_refl _, le_refl _⟩
  · rw [if_neg (not_lt.mpr hx.le), if_pos hx]
    exact .inr ⟨hx.le, (le_max_right _ _).trans (le_max_left _ _),
      max_le (max_le hdown hx.le) hlast.1⟩

theorem approach_limitedStep {c : PidParams R} (hsteps : Steps c) {lastAccel : R}
    (hlast : InLimits c lastAccel) (d : Double R) :
    LimitedStep c lastAccel d (approach c lastAccel d) where
  nan := by
    rintro rfl
    rfl
  clamped := approach_eq_clamp hsteps hlast
  inLimits := approach_inLimits hsteps hlast d
  oneStep := approach_oneStep hsteps hlast d
  towards := by
    rintro x rfl
    exact approach_towards hsteps hlast x

end Step

/-! ### Runs of the plugin -/

section Run

variable {R : Type*} [Field R] [LinearOrder R]

/-- A call of `runStep`. -/
structure StepCall (R : Type*) where
  state : State R
  now : R
  control : Control R

/-- The plugin, set up at the reading `createdAt`. -/
def plugin (c : PidParams R) (createdAt : R) :
    Machine (PidState R) (StepCall R) (Control R) Undefined where
  init := setup createdAt
  step p e :=
    match runStep c p e.state e.now e.control with
    | .ok (p, control) => .done p [control]
    | .error u => .halt p [] u

/-- A step with a vehicle state and a waypoint to follow clamps the desired acceleration. -/
def ClampsDesired (c : PidParams R) (p : PidState R) (e : StepCall R) : Prop :=
  ∀ vehicle path (hne : path.points ≠ []), e.state = ⟨some vehicle, some path⟩ →
    ∃ p' control', runStep c p e.state e.now e.control = .ok (p', control') ∧
      control'.acceleration = p'.lastAccel ∧
      LimitedStep c p.lastAccel
        (desired c p (trackingError c vehicle (path.points.getLast hne)) e.now) p'.lastAccel

variable [IsStrictOrderedRing R]

theorem plugin_inLimits {c : PidParams R} (hsteps : Steps c) {createdAt : R} {p : PidState R}
    (h : InLimits c p.lastAccel) (e : StepCall R) :
    InLimits c ((plugin c createdAt).step p e).state.lastAccel := by
  obtain ⟨⟨vehicleState, localPath⟩, now, control⟩ := e
  rw [plugin]
  dsimp only
  cases vehicleState with
  | none =>
      rw [runStep_idle c p now control (.inl rfl)]
      exact h
  | some vehicle =>
      cases localPath with
      | none =>
          rw [runStep_idle c p now control (.inr rfl)]
          exact h
      | some path =>
          by_cases hnil : path.points = []
          · rw [runStep_empty c p now control rfl rfl hnil]
            exact h
          · rw [runStep_drive c p now control rfl rfl hnil]
            exact approach_inLimits hsteps h _

/-- **Limits.**  In every run of the plugin, each step clamps the acceleration it desires. -/
theorem runStep_clampsDesired (c : PidParams R) (hdecel : c.maxDecel ≤ 0) (haccel : 0 ≤ c.maxAccel)
    (hsteps : Steps c) (createdAt : R) (calls : List (StepCall R)) :
    (plugin c createdAt).EachStep (plugin c createdAt).init calls (ClampsDesired c) := by
  intro pre e p _ hrun vehicle path hne hstate
  have hlast : InLimits c p.lastAccel :=
    (plugin c createdAt).runFrom_induct (P := fun p => InLimits c p.lastAccel) ⟨hdecel, haccel⟩
      (fun p e h _ => plugin_inLimits hsteps h e) hrun
  have hdrive := runStep_drive c p e.now e.control (congrArg State.vehicleState hstate)
    (congrArg State.localPath hstate) hne
  refine ⟨_, _, hdrive, rfl, ?_⟩
  rw [advance_lastAccel]
  exact approach_limitedStep hsteps hlast _

end Run

/-- The values that `setup` declares. -/
def defaults : PidParams ℚ where
  kp := 1 / 2
  ki := 1 / 10
  kd := 1 / 10
  maxAccel := 5
  maxDecel := -5
  accelStep := 1 / 10
  decelStep := 1 / 10
  maxVelocity := 80

/-- A vehicle at rest, in front of a waypoint with a target speed of twenty. -/
def standing (now : ℚ) : StepCall ℚ where
  state := ⟨some ⟨0, 0, 0, 0⟩, some ⟨⟨0, "map"⟩, [⟨⟨1, 0, 0⟩, 20⟩]⟩⟩
  now := now
  control := newControl

/-- The second of three steps comes at the same reading of the clock as the first. -/
theorem standing_clampsDesired :
    (plugin defaults 0).EachStep (plugin defaults 0).init [standing 1, standing 1, standing 2]
      (ClampsDesired defaults) :=
  runStep_clampsDesired defaults (by decide +kernel) (by decide +kernel)
    ⟨by decide +kernel, by decide +kernel⟩ 0 _

end Pid

end HitchOpen.SimpleControl
