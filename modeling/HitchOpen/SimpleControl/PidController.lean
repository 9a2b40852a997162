import HitchOpen.Common.Double
import HitchOpen.SimpleControl.ControllerManager

/-!
# The longitudinal plugin

`PIDLonController` follows the target speed of the last waypoint of the local path.  The acceleration
that the three terms ask for is approached in steps, from the value that the plugin wrote last.

Two steps at the same reading of the clock divide by zero, so that the desired acceleration is a
`Double`.  The log lines are left out.
-/

namespace HitchOpen.SimpleControl

open HitchOpen.Messages HitchOpen.Runtime

/-- The parameters of the plugin. -/
structure PidParams (R : Type*) where
  kp : R
  ki : R
  kd : R
  maxAccel : R
  maxDecel : R
  accelStep : R
  decelStep : R
  maxVelocity : R

/-- The members that `runStep` writes. -/
structure PidState (R : Type*) where
  prevError : R
  integralError : R
  lastTime : R
  lastAccel : R
  deriving DecidableEq

/-- `v.back()` of a `std::vector`. -/
def vectorBack {α : Type*} (v : List α) : Except Undefined α :=
  match v.getLast? with
  | some x => .ok x
  | none => .error .outOfRange

theorem vectorBack_ok {α : Type*} {v : List α} (h : v ≠ []) : vectorBack v = .ok (v.getLast h) := by
  rw [vectorBack, List.getLast?_eq_some_getLast h]

namespace Pid

variable {R : Type*} [Field R] [LinearOrder R]

/-- `setup`, at a reading of the clock. -/
def setup (now : R) : PidState R where
  prevError := 0
  integralError := 0
  lastTime := now
  lastAccel := 0

/-- The target speed at the end of the path, capped, minus the speed of the vehicle. -/
def trackingError (c : PidParams R) (v : VehicleState R) (back : PathPoint R) : R :=
  min back.longitudinalVelocityMps c.maxVelocity - v.velocity

def desiredAccel (c : PidParams R) (error integralError prevError dt : R) : Double R :=
  ((Double.quotient (error - prevError) dt).scale c.kd).shift (c.kp * error + c.ki * integralError)

/-- The new `last_accel_`.  `std::min` and `std::max` of a number and the infinity that has passed the
comparison give the number, and NaN passes neither comparison. -/
def approach (c : PidParams R) (lastAccel : R) : Double R → R
  | .finite desired =>
      if desired > lastAccel then min (min (lastAccel + c.accelStep) desired) c.maxAccel
      else if desired < lastAccel then max (max (lastAccel - c.decelStep) desired) c.maxDecel
      else lastAccel
  | .posInf => min (lastAccel + c.accelStep) c.maxAccel
  | .negInf => max (lastAccel - c.decelStep) c.maxDecel
  | .nan => lastAccel

/-- The members after a step with the tracking error `error` at the reading `now`. -/
def advance (c : PidParams R) (p : PidState R) (error now : R) : PidState R :=
  let dt := now - p.lastTime
  let integralError := p.integralError + error * dt
  { prevError := error
    integralError := integralError
    lastTime := now
    lastAccel := approach c p.lastAccel (desiredAccel c error integralError p.prevError dt) }

def runStep (c : PidParams R) (p : PidState R) (state : State R) (now : R) (control : Control R) :
    Except Undefined (PidState R × Control R) :=
  match state.vehicleState with
  | none => .ok (p, control)
  | some vehicleState =>
      match state.localPath with
      | none => .ok (p, control)
      | some path => do
          let back ← vectorBack path.points
          let p := advance c p (trackingError c vehicleState back) now
          return (p, { control with
            acceleration := p.lastAccel, isDefinedAcceleration := true })

/-! ### What a step does -/

/-- Without a vehicle state or a path nothing happens. -/
theorem runStep_idle (c : PidParams R) (p : PidState R) {state : State R} (now : R)
    (control : Control R) (h : state.vehicleState = none ∨ state.localPath = none) :
    runStep c p state now control = .ok (p, control) := by
  rw [runStep]
  cases hv : state.vehicleState with
  | none => rfl
  | some vehicle =>
      rcases h with h | h
      · rw [hv] at h
        cases h
      · rw [h]

/-- With a waypoint to follow, the plugin writes its new acceleration into the command. -/
theorem runStep_drive (c : PidParams R) (p : PidState R) {state : State R} {vehicle : VehicleState R}
    {path : Path R} (now : R) (control : Control R) (hv : state.vehicleState = some vehicle)
    (hp : state.localPath = some path) (hne : path.points ≠ []) :
    runStep c p state now control =
      .ok (advance c p (trackingError c vehicle (path.points.getLast hne)) now, { control with
        acceleration := (advance c p
          (trackingError c vehicle (path.points.getLast hne)) now).lastAccel
        isDefinedAcceleration := true }) := by
  simp only [runStep, hv, hp, vectorBack_ok hne]
  rfl

/-- Without a waypoint the last one is read all the same. -/
theorem runStep_empty (c : PidParams R) (p : PidState R) {state : State R} {vehicle : VehicleState R}
    {path : Path R} (now : R) (control : Control R) (hv : state.vehicleState = some vehicle)
    (hp : state.localPath = some path) (hnil : path.points = []) :
    runStep c p state now control = .error .outOfRange := by
  simp only [runStep, hv, hp, hnil]
  rfl

end Pid

end HitchOpen.SimpleControl
