import HitchOpen.Common.Messages
import HitchOpen.Common.Runtime
import HitchOpen.Common.VehicleFlag
import HitchOpen.Library.EventMachine

/-!
# The keyboard control node

`KeyboardControlNode` turns key presses into throttle, brake, steering and gear, and publishes them on
a 10 Hz timer.  Presses and releases come from a listener thread, flags and fixes from the executor;
each handler is taken to run to its end before the next one starts.

The node ends on an exception that leaves `rclpy.spin` and on the key `q`, which shuts `rclpy` down.
A press can raise only while a flag without a name is in place; no run gets there, because the message
with that flag has ended the node.
Log lines are left out.  `odom_callback` is never subscribed to anything, so that no odometry arrives.
-/

namespace HitchOpen.KeyboardController

open HitchOpen.EventMachine HitchOpen.Messages HitchOpen.Runtime HitchOpen.VehicleFlag

/-- What `pynput` reports: a `KeyCode`, whose `char` may be `None`, or a special key, which has no
attribute `char`. -/
inductive Key
  | char (c : Option Char)
  | up
  | down
  | ctrlR
  | other
  deriving DecidableEq

/-- `lgsvl_msgs/VehicleControlData`, as far as the node fills it in. -/
structure VehicleControlData where
  header : Header ℚ
  accelerationPct : ℚ
  brakingPct : ℚ
  targetWheelAngle : ℚ
  targetWheelAngularRate : ℚ
  targetGear : ℤ
  deriving DecidableEq

/-- A recorded fix and the two placeholders that follow it. -/
abbrev Waypoint := ℚ × ℚ × ℚ × ℚ × ℚ

structure Config where
  flagTimeout : ℚ
  saveWaypointsEnabled : Bool
  /-- `VehicleControlData.GEAR_DRIVE`. -/
  gearDrive : ℤ
  /-- The clock when the node is created. -/
  createdAt : ℚ

structure State where
  throttle : ℚ
  brake : ℚ
  steering : ℚ
  currentGear : ℤ
  vehicleFlag : UInt8
  lastFlagTime : ℚ
  latestGps : Option (NavSatFix ℚ)
  /-- Whether `latest_odom` is set. -/
  receivedOdom : Bool
  firstWaypointRecorded : Bool
  waypoints : List Waypoint
  deriving DecidableEq

inductive Event
  | press (key : Key)
  | release (key : Key)
  | vehicleFlag (flag : UInt8) (now : ℚ)
  | gps (msg : NavSatFix ℚ)
  | flagCheck (now : ℚ)
  | controlTick (now : ℚ)

inductive Output
  | control (msg : VehicleControlData)
  | waypointFile (rows : List Waypoint)
  deriving DecidableEq

/-- Why the node ended. -/
inductive Stop
  | raised (e : PyError)
  | shutdown
  deriving DecidableEq

def throttleStep : ℚ := 1 / 10
def brakeStep : ℚ := 1 / 10
def steeringStep : ℚ := 2 / 100
def maxSteering : ℚ := 15 / 100

/-- `__init__`. -/
def init (c : Config) : State where
  throttle := 0
  brake := 0
  steering := 0
  currentGear := c.gearDrive
  vehicleFlag := RED
  lastFlagTime := c.createdAt
  latestGps := none
  receivedOdom := false
  firstWaypointRecorded := false
  waypoints := []

def checkFlagTimeout (c : Config) (s : State) (now : ℚ) : Reply State Output Stop :=
  if now - s.lastFlagTime > c.flagTimeout then
    .done { s with vehicleFlag := RED, throttle := 0, brake := 1, steering := 0 } []
  else .done s []

def recordWaypoint (s : State) : State :=
  match s.latestGps with
  | none => s
  | some fix =>
      { s with waypoints := s.waypoints ++ [(fix.latitude, fix.longitude, fix.altitude, 0, 0)] }

def gpsCallback (s : State) (msg : NavSatFix ℚ) : Reply State Output Stop :=
  let s := { s with latestGps := some msg }
  if !s.firstWaypointRecorded && s.receivedOdom then
    .done { recordWaypoint s with firstWaypointRecorded := true } []
  else .done s []

def saveWaypoints (s : State) : List Output :=
  if s.waypoints = [] then [] else [.waypointFile s.waypoints]

/-- The new flag is in place before the log line looks its name up. -/
def vehicleFlagCallback (s : State) (flag : UInt8) (now : ℚ) : Reply State Output Stop :=
  let oldFlag := s.vehicleFlag
  let s := { s with vehicleFlag := flag, lastFlagTime := now }
  if oldFlag ≠ s.vehicleFlag then
    match flagToString s.vehicleFlag with
    | none => .halt s [] (.raised .keyError)
    | some _ => .done s []
  else .done s []

def shiftUp (s : State) : State :=
  if s.currentGear < 6 then { s with currentGear := s.currentGear + 1 } else s

def shiftDown (s : State) : State :=
  if s.currentGear > 0 then { s with currentGear := s.currentGear - 1 } else s

/-- A key that only works under a green flag; otherwise the node logs the name of the flag. -/
def whenGreen (s : State) (act : State → State) : Reply State Output Stop :=
  if isGreen s.vehicleFlag then .done (act s) []
  else
    match flagToString s.vehicleFlag with
    | none => .halt s [] (.raised .keyError)
    | some _ => .done s []

def onPress (c : Config) (s : State) : Key → Reply State Output Stop
  | .char (some '8') =>
      whenGreen s fun s => { s with throttle := min (3 / 10) (s.throttle + throttleStep), brake := 0 }
  | .char (some '5') => .done { s with brake := min 1 (s.brake + brakeStep), throttle := 0 } []
  | .char (some '4') => .done { s with steering := min maxSteering (s.steering - steeringStep) } []
  | .char (some '6') => .done { s with steering := max (-maxSteering) (s.steering + steeringStep) } []
  | .char (some 'o') => .done s (if c.saveWaypointsEnabled then saveWaypoints s else [])
  | .char (some 'q') => .halt s [] .shutdown
  | .char _ => .done s []
  | .up => whenGreen s shiftUp
  | .down => whenGreen s shiftDown
  | .ctrlR => .done (if c.saveWaypointsEnabled then recordWaypoint s else s) []
  | .other => .done s []

def onRelease (s : State) : Key → Reply State Output Stop
  | .char (some '8') => .done { s with throttle := 0 } []
  | .char (some '5') => .done { s with brake := 0 } []
  | .char (some '4') => .done { s with steering := 0 } []
  | .char (some '6') => .done { s with steering := 0 } []
  | _ => .done s []

/-- The message that `timer_callback` publishes. -/
def controlMessage (s : State) (now : ℚ) : VehicleControlData where
  header := ⟨now, "base_link"⟩
  accelerationPct := s.throttle
  brakingPct := if s.vehicleFlag = RED then 1 else s.brake
  targetWheelAngle := s.steering
  targetWheelAngularRate := 0
  targetGear := s.currentGear

def timerCallback (s : State) (now : ℚ) : Reply State Output Stop :=
  .done s [.control (controlMessage s now)]

def step (c : Config) (s : State) : Event → Reply State Output Stop
  | .press key => onPress c s key
  | .release key => onRelease s key
  | .vehicleFlag flag now => vehicleFlagCallback s flag now
  | .gps msg => gpsCallback s msg
  | .flagCheck now => checkFlagTimeout c s now
  | .controlTick now => timerCallback s now

def keyboardNode (c : Config) : Machine State Event Output Stop where
  init := init c
  step := step c

end HitchOpen.KeyboardController
