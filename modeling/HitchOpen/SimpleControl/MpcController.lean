import HitchOpen.SimpleControl.ControllerManager

/-!
# The lateral plugin

`MPCController` (in `pure_pursuit.cpp`) steers towards the local path: it looks for the waypoint closest
to the vehicle, measures the distance and the heading relative to it, and combines the two.

Every waypoint is read through `vectorAt`.  `sin`, `cos`, `atan2` and the largest `double` are
parameters of the model.  The members `wheel_base_` and `r_ddelta_`, which no function reads, and the
log line are left out.
-/

namespace HitchOpen.SimpleControl

open HitchOpen.Messages HitchOpen.Runtime

structure MpcParams (R : Type*) where
  predictionHorizon : ℤ
  controlHorizon : ℤ
  dt : R
  maxSteeringAngle : R
  qCte : R
  qEpsi : R
  rDelta : R
  sin : R → R
  cos : R → R
  atan2 : R → R → R
  /-- `std::numeric_limits<double>::max()`. -/
  maxDouble : R

structure MpcState (R : Type*) where
  previousSteering : R
  deriving DecidableEq

structure MpcErrors (R : Type*) where
  cte : R
  epsi : R
  velocity : R
  deriving DecidableEq

structure ReferencePoint (R : Type*) where
  x : R
  y : R
  psi : R
  curvature : R
  deriving DecidableEq

namespace Mpc

variable {R : Type*} [Field R]

def setup : MpcState R where
  previousSteering := 0

section Closest

variable [LinearOrder R] [Sqrt R]

/-- The distance in the plane. -/
def distanceTo (vehicle : VehicleState R) (point : PathPoint R) : R :=
  let dx := point.position.x - vehicle.x
  let dy := point.position.y - vehicle.y
  sqrt (dx * dx + dy * dy)

/-- The loop of `findClosestPoint` from the index `i` on. -/
def findClosestLoop (vehicle : VehicleState R) :
    List (PathPoint R) → ℕ → R → ℕ → ℕ
  | [], _, _, closestIdx => closestIdx
  | point :: points, i, minDistance, closestIdx =>
      let distance := distanceTo vehicle point
      if distance < minDistance then findClosestLoop vehicle points (i + 1) distance i
      else findClosestLoop vehicle points (i + 1) minDistance closestIdx

def findClosestPoint (c : MpcParams R) (vehicle : VehicleState R) (path : Path R) : ℕ :=
  findClosestLoop vehicle path.points 0 c.maxDouble 0

end Closest

/-- The heading from one waypoint to another. -/
def heading (c : MpcParams R) (a b : PathPoint R) : R :=
  c.atan2 (b.position.y - a.position.y) (b.position.x - a.position.x)

def calculateErrors (c : MpcParams R) (vehicle : VehicleState R) (path : Path R) (closestIdx : ℕ) :
    Except Undefined (MpcErrors R) :=
  if closestIdx ≥ path.points.length then .ok ⟨0, 0, vehicle.velocity⟩
  else do
    let refPoint ← vectorAt path.points closestIdx
    let refPsi ←
      if closestIdx + 1 < path.points.length then do
        let nextPoint ← vectorAt path.points (closestIdx + 1)
        pure (heading c refPoint nextPoint)
      else pure 0
    let dx := vehicle.x - refPoint.position.x
    let dy := vehicle.y - refPoint.position.y
    let psiError := vehicle.yaw - refPsi
    return {
      cte := dy * c.cos refPsi - dx * c.sin refPsi
      epsi := c.atan2 (c.sin psiError) (c.cos psiError)
      velocity := vehicle.velocity }

/-- The body of the loop of `getReferencePath`. -/
def referencePoint (c : MpcParams R) (path : Path R) (startIdx i : ℕ) :
    Except Undefined (ReferencePoint R) := do
  let idx := min (startIdx + i) (path.points.length - 1)
  let point ← vectorAt path.points idx
  let psi ←
    if idx + 1 < path.points.length then do
      let next ← vectorAt path.points (idx + 1)
      pure (heading c point next)
    else if idx > 0 then do
      let previous ← vectorAt path.points (idx - 1)
      pure (heading c previous point)
    else pure 0
  return ⟨point.position.x, point.position.y, psi, 0⟩

/-- The loop of `getReferencePath` runs from zero up to the horizon. -/
def getReferencePath (c : MpcParams R) (path : Path R) (startIdx : ℕ) (horizon : ℤ) :
    Except Undefined (List (ReferencePoint R)) :=
  (List.range horizon.toNat).mapM (referencePoint c path startIdx)

/-! ### Every waypoint that is read exists -/

theorem calculateErrors_ok (c : MpcParams R) (vehicle : VehicleState R) (path : Path R) (i : ℕ) :
    ∃ errors, calculateErrors c vehicle path i = .ok errors := by
  rw [calculateErrors]
  by_cases hi : i ≥ path.points.length
  · rw [if_pos hi]
    exact ⟨_, rfl⟩
  · rw [if_neg hi]
    obtain ⟨point, hpoint⟩ := vectorAt_ok_iff.mpr (not_le.mp hi)
    rw [hpoint]
    by_cases hnext : i + 1 < path.points.length
    · obtain ⟨next, hn⟩ := vectorAt_ok_iff.mpr hnext
      simp only [if_pos hnext, hn]
      exact ⟨_, rfl⟩
    · simp only [if_neg hnext]
      exact ⟨_, rfl⟩

theorem referencePoint_ok (c : MpcParams R) {path : Path R} (hne : path.points ≠ [])
    (startIdx i : ℕ) : ∃ point, referencePoint c path startIdx i = .ok point := by
  have hpos := List.length_pos_iff.mpr hne
  have hidx : min (startIdx + i) (path.points.length - 1) < path.points.length := by omega
  rw [referencePoint]
  generalize min (startIdx + i) (path.points.length - 1) = idx at hidx ⊢
  obtain ⟨point, hpoint⟩ := vectorAt_ok_iff.mpr hidx
  dsimp only
  rw [hpoint]
  by_cases hnext : idx + 1 < path.points.length
  · obtain ⟨next, hn⟩ := vectorAt_ok_iff.mpr hnext
    simp only [if_pos hnext, hn]
    exact ⟨_, rfl⟩
  · by_cases hprev : idx > 0
    · obtain ⟨previous, hp⟩ := vectorAt_ok_iff.mpr (show idx - 1 < path.points.length by omega)
      simp only [if_neg hnext, if_pos hprev, hp]
      exact ⟨_, rfl⟩
    · simp only [if_neg hnext, if_neg hprev]
      exact ⟨_, rfl⟩

theorem getReferencePath_ok (c : MpcParams R) {path : Path R} (hne : path.points ≠ [])
    (startIdx : ℕ) (horizon : ℤ) : ∃ points, getReferencePath c path startIdx horizon = .ok points := by
  rw [getReferencePath]
  induction List.range horizon.toNat with
  | nil => exact ⟨[], rfl⟩
  | cons i is ih =>
      obtain ⟨point, hpoint⟩ := referencePoint_ok c hne startIdx i
      obtain ⟨points, hpoints⟩ := ih
      rw [List.mapM_cons, hpoint]
      refine ⟨point :: points, ?_⟩
      show (List.mapM (referencePoint c path startIdx) is).bind _ = _
      rw [hpoints]
      rfl

variable [LinearOrder R]

/-- The feedback law.  The reference trajectory is an argument of the source, which does not use it.
Where a weight and `rDelta` add up to zero, the quotient is zero here and infinite or NaN in C++. -/
def solveMPC (c : MpcParams R) (m : MpcState R) (vehicle : VehicleState R) (errors : MpcErrors R) : R :=
  let v := max vehicle.velocity (1 / 10)
  let kCte := c.qCte / (c.qCte + c.rDelta)
  let deltaCte := -kCte * errors.cte
  let kEpsi := c.qEpsi / (c.qEpsi + c.rDelta)
  let deltaEpsi := -kEpsi * errors.epsi
  let predictionTime := c.dt * c.controlHorizon
  let predictedCte := errors.cte + v * c.sin errors.epsi * predictionTime
  let deltaPred := -(1 / 10) * predictedCte
  let totalSteering := deltaCte + deltaEpsi + deltaPred + 0
  3 / 10 * totalSteering + (1 - 3 / 10) * m.previousSteering

/-- `std::clamp`. -/
def clamp (x lo hi : R) : R := if x < lo then lo else if hi < x then hi else x

variable [Sqrt R]

def runStep (c : MpcParams R) (m : MpcState R) (state : State R) (control : Control R) :
    Except Undefined (MpcState R × Control R) :=
  match state.vehicleState with
  | none => .ok (m, control)
  | some vehicleState =>
      match state.localPath with
      | none => .ok (m, control)
      | some path =>
          if path.points = [] then .ok (m, control)
          else do
            let closestIdx := findClosestPoint c vehicleState path
            let errors ← calculateErrors c vehicleState path closestIdx
            let _refTrajectory ← getReferencePath c path closestIdx c.predictionHorizon
            let steering := clamp (solveMPC c m vehicleState errors) (-c.maxSteeringAngle)
              c.maxSteeringAngle
            return (⟨steering⟩, { control with
              steeringTireAngle := steering, isDefinedSteeringTireRotationRate := false })

/-- The plugin goes through on every state, and it does not touch the acceleration. -/
theorem runStep_ok (c : MpcParams R) (m : MpcState R) (state : State R) (control : Control R) :
    ∃ m' control', runStep c m state control = .ok (m', control') ∧
      control'.acceleration = control.acceleration := by
  rw [runStep]
  cases state.vehicleState with
  | none => exact ⟨m, control, rfl, rfl⟩
  | some vehicle =>
      cases state.localPath with
      | none => exact ⟨m, control, rfl, rfl⟩
      | some path =>
          dsimp only
          by_cases hne : path.points = []
          · rw [if_pos hne]
            exact ⟨m, control, rfl, rfl⟩
          · rw [if_neg hne]
            obtain ⟨errors, herrors⟩ :=
              calculateErrors_ok c vehicle path (findClosestPoint c vehicle path)
            obtain ⟨points, hpoints⟩ :=
              getReferencePath_ok c hne (findClosestPoint c vehicle path) c.predictionHorizon
            rw [herrors, hpoints]
            exact ⟨_, _, rfl, rfl⟩

end Mpc

end HitchOpen.SimpleControl
