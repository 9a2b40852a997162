import HitchOpen.Common.Messages
import HitchOpen.Common.Runtime
import HitchOpen.Common.VehicleFlag
import HitchOpen.Library.EventMachine

/-!
# The controller manager node

`ControllerManagerNode` keeps the latest path, odometry and flag.  Its control timer publishes a
command: a fixed brake command unless publishing is enabled and the flag is `GREEN`, and otherwise
what the controller plugins make of the current state, each writing into the same message in turn.  A
second timer turns a flag that has become stale into `RED`.

The plugins are loaded by name at run time; here they are a list of states and one function.  An
exception that leaves a plugin is caught and logged by the manager, so that a plugin that throws is
one that returns early, with what it has written so far; only undefined behaviour ends the node.
Every callback comes with a reading of the node's clock.
-/

namespace HitchOpen.SimpleControl

open HitchOpen.EventMachine HitchOpen.Messages HitchOpen.Runtime HitchOpen.VehicleFlag

structure VehicleState (R : Type*) where
  x : R
  y : R
  yaw : R
  velocity : R
  deriving DecidableEq

/-- What a plugin is given; a pointer may be null. -/
structure State (R : Type*) where
  vehicleState : Option (VehicleState R)
  localPath : Option (Path R)
  deriving DecidableEq

structure Config (R π : Type*) where
  flagTimeout : R
  /-- The plugins after their `setup`. -/
  plugins : List π
  /-- `runStep` of a plugin, at a reading of the clock. -/
  runPlugin : π → State R → R → Control R → Except Undefined (π × Control R)
  /-- `tf2::getYaw`. -/
  getYaw : Quaternion R → R
  /-- The clock when the node is created. -/
  createdAt : R

/-- The members of the node. -/
structure ManagerState (R π : Type*) where
  shouldPublishControl : Bool
  vehicleFlag : UInt8
  localPath : Option (Path R)
  plugins : List π
  odom : Option (Odometry R)
  lastFlagTime : R
  deriving DecidableEq

inductive Callback (R : Type*)
  | shouldPublishControl (data : Bool)
  | vehicleFlag (flag : UInt8)
  | localPath (msg : Path R)
  | odom (msg : Odometry R)
  | controlTimer
  | flagCheckTimer
  deriving DecidableEq

structure Event (R : Type*) where
  now : R
  callback : Callback R
  deriving DecidableEq

/-- The two places in `runStep` that publish. -/
inductive Source
  | brake
  | plugins
  deriving DecidableEq

inductive Output (R : Type*)
  | control (source : Source) (msg : Control R)
  deriving DecidableEq

section Model

variable {R π : Type*} [Field R] [LinearOrder R]

def init (c : Config R π) : ManagerState R π where
  shouldPublishControl := true
  vehicleFlag := RED
  localPath := none
  plugins := c.plugins
  odom := none
  lastFlagTime := c.createdAt

/-- A `Control` message as it is constructed. -/
def newControl : Control R := ⟨0, false, 0, false⟩

def brakeControl : Control R :=
  { (newControl : Control R) with
    acceleration := -3, isDefinedAcceleration := true, steeringTireAngle := 0 }

def generateCurrentState (c : Config R π) (s : ManagerState R π) : State R :=
  match s.localPath with
  | none => ⟨none, none⟩
  | some path =>
      match s.odom with
      | none => ⟨none, some path⟩
      | some odom =>
          ⟨some ⟨odom.position.x, odom.position.y, c.getYaw odom.orientation, odom.twistLinearX⟩,
            some path⟩

/-- The loop over the plugins. -/
def runPlugins (c : Config R π) (state : State R) (now : R) :
    List π → Control R → Except Undefined (List π × Control R)
  | [], control => .ok ([], control)
  | p :: ps, control => do
      let (p, control) ← c.runPlugin p state now control
      let (ps, control) ← runPlugins c state now ps control
      return (p :: ps, control)

def runStep (c : Config R π) (s : ManagerState R π) (now : R) :
    Reply (ManagerState R π) (Output R) Undefined :=
  if !s.shouldPublishControl || s.vehicleFlag != GREEN then .done s [.control .brake brakeControl]
  else
    match runPlugins c (generateCurrentState c s) now s.plugins newControl with
    | .error u => .halt s [] u
    | .ok (plugins, control) => .done { s with plugins := plugins } [.control .plugins control]

def checkFlagTimeout (c : Config R π) (s : ManagerState R π) (now : R) : ManagerState R π :=
  if now - s.lastFlagTime > c.flagTimeout ∧ s.vehicleFlag ≠ RED then { s with vehicleFlag := RED }
  else s

def step (c : Config R π) (s : ManagerState R π) (e : Event R) :
    Reply (ManagerState R π) (Output R) Undefined :=
  match e.callback with
  | .shouldPublishControl data => .done { s with shouldPublishControl := data } []
  | .vehicleFlag flag => .done { s with vehicleFlag := flag, lastFlagTime := e.now } []
  | .localPath msg => .done { s with localPath := some msg } []
  | .odom msg => .done { s with odom := some msg } []
  | .controlTimer => runStep c s e.now
  | .flagCheckTimer => .done (checkFlagTimeout c s e.now) []

def managerNode (c : Config R π) :
    Machine (ManagerState R π) (Event R) (Output R) Undefined where
  init := init c
  step := step c

end Model

/-! ### What a control tick does -/

section ControlTick

variable {R π : Type*}

/-- Only a path and an odometry message together give a vehicle state. -/
theorem generateCurrentState_incomplete (c : Config R π) {s : ManagerState R π}
    (h : s.localPath = none ∨ s.odom = none) :
    (generateCurrentState c s).vehicleState = none := by
  rw [generateCurrentState]
  cases hp : s.localPath with
  | none => rfl
  | some path =>
      rcases h with h | h
      · rw [hp] at h
        cases h
      · rw [h]

theorem generateCurrentState_complete (c : Config R π) {s : ManagerState R π} {path : Path R}
    {odom : Odometry R} (hp : s.localPath = some path) (ho : s.odom = some odom) :
    generateCurrentState c s =
      ⟨some ⟨odom.position.x, odom.position.y, c.getYaw odom.orientation, odom.twistLinearX⟩,
        some path⟩ := by
  simp only [generateCurrentState, hp, ho]

/-- The plugins are to run. -/
def Driving (s : ManagerState R π) : Prop := s.shouldPublishControl = true ∧ s.vehicleFlag = GREEN

instance (s : ManagerState R π) : Decidable (Driving s) := inferInstanceAs (Decidable (_ ∧ _))

variable [Field R]

theorem runStep_brake (c : Config R π) {s : ManagerState R π} (now : R) (h : ¬ Driving s) :
    runStep c s now = .done s [.control .brake brakeControl] := by
  refine if_pos ?_
  rw [Bool.or_eq_true]
  by_cases hs : s.shouldPublishControl = true
  · exact .inr (bne_iff_ne.mpr fun hg => h ⟨hs, hg⟩)
  · exact .inl (by simpa using hs)

theorem runStep_driving (c : Config R π) {s : ManagerState R π} (now : R) (h : Driving s)
    {ps : List π} {control : Control R}
    (hrun : runPlugins c (generateCurrentState c s) now s.plugins newControl = .ok (ps, control)) :
    runStep c s now = .done { s with plugins := ps } [.control .plugins control] := by
  simp [runStep, h.1, h.2, hrun]

theorem runStep_undefined (c : Config R π) {s : ManagerState R π} (now : R) (h : Driving s)
    {u : Undefined}
    (hrun : runPlugins c (generateCurrentState c s) now s.plugins newControl = .error u) :
    runStep c s now = .halt s [] u := by
  simp [runStep, h.1, h.2, hrun]

end ControlTick

end HitchOpen.SimpleControl
