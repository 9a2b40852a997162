import HitchOpen.Common.Messages
import HitchOpen.Common.Runtime
import HitchOpen.Library.History
import Mathlib.Algebra.Field.Defs

/-!
# The interface of the race car to the simulator

`LgsvlInterface` keeps the last message of each kind behind a pointer and a flag that says whether one has
come.  Commands are passed on to the simulator as they come; twenty times a second the node reports what
it knows, if all the flags are set.  The attitude in the position report is set by the other timer.
-/

namespace HitchOpen.LgsvlInterface

open HitchOpen.EventMachine HitchOpen.Messages HitchOpen.Runtime

/-! ### Messages -/

structure VehicleControlCommand (R : Type*) where
  stamp : R
  acceleratorCmd : R
  brakeCmd : R
  steeringCmd : R
  gearCmd : UInt8
  deriving DecidableEq

/-- `lgsvl_msgs/CanBusData`, as far as the node reads it. -/
structure CanBusData (R : Type*) where
  speedMps : R
  selectedGear : ℤ
  engineRpm : R
  deriving DecidableEq

structure VehicleControlData (R : Type*) where
  header : Header R
  accelerationPct : R
  brakingPct : R
  targetWheelAngle : R
  targetGear : UInt8
  deriving DecidableEq

structure WheelSpeedReport (R : Type*) where
  stamp : R
  frontLeft : R
  frontRight : R
  rearLeft : R
  rearRight : R
  deriving DecidableEq

structure SteeringReport (R : Type*) where
  stamp : R
  frontWheelAngleRad : R
  frontWheelAngleRadCmd : R
  deriving DecidableEq

structure Attitude (R : Type*) where
  roll : R
  pitch : R
  yaw : R
  deriving DecidableEq

/-- `gps_msgs/GPSFix`; its `track` is the yaw. -/
structure GPSFix (R : Type*) where
  header : Header R
  latitude : R
  longitude : R
  altitude : R
  speed : R
  attitude : Attitude R
  deriving DecidableEq

structure EngineReport (R : Type*) where
  stamp : R
  currentGear : Int8
  engineRpm : R
  gearShiftStatus : Int8
  deriving DecidableEq

structure FaultReport (R : Type*) where
  stamp : R
  stopType : UInt8
  reason : String
  deriving DecidableEq

/-! ### The node -/

structure Config (R : Type*) where
  controlFrame : String
  gpsFrame : String
  faultReportLevel : ℤ
  publishFaultReport : Bool
  /-- `getRPY` of the matrix of an orientation. -/
  rpy : Messages.Quaternion R → Attitude R

structure State (R : Type*) where
  canSeen : Bool
  vehicleOdomSeen : Bool
  odomSeen : Bool
  imuSeen : Bool
  fixSeen : Bool
  vehicleControlMsg : Option (VehicleControlCommand R)
  canBusMsg : Option (CanBusData R)
  /-- The front wheel angle of `vehicle_odom_msg_`. -/
  vehicleOdomMsg : Option R
  /-- The orientation of `imu_msg_`. -/
  imuMsg : Option (Messages.Quaternion R)
  fixMsg : Option (NavSatFix R)
  lgsvlControlMsg : VehicleControlData R
  gpsFixMsg : GPSFix R

inductive Event (R : Type*)
  | vehicleControl (msg : VehicleControlCommand R)
  | canData (msg : CanBusData R)
  | vehicleOdom (frontWheelAngle : R)
  | odom
  | imu (orientation : Messages.Quaternion R)
  | fix (msg : NavSatFix R)
  | wheelSpeeds (now x y width height : R)
  | step100Hz (now : R)
  | step20Hz (now : R)

inductive Output (R : Type*)
  | control (msg : VehicleControlData R)
  | wheelSpeeds (msg : WheelSpeedReport R)
  | fault (msg : FaultReport R)
  | steering (msg : SteeringReport R)
  | gpsFix (msg : GPSFix R)
  | engine (msg : EngineReport R)
  deriving DecidableEq

section Node

variable {R : Type*} [Field R]

def init : State R where
  canSeen := false
  vehicleOdomSeen := false
  odomSeen := false
  imuSeen := false
  fixSeen := false
  vehicleControlMsg := none
  canBusMsg := none
  vehicleOdomMsg := none
  imuMsg := none
  fixMsg := none
  lgsvlControlMsg := ⟨⟨0, ""⟩, 0, 0, 0, 0⟩
  gpsFixMsg := ⟨⟨0, ""⟩, 0, 0, 0, 0, ⟨0, 0, 0⟩⟩

/-- `MAX_BRAKE_PSI` -/
def maxBrakePsi : R := 10000

/-- The command as the simulator takes it. -/
def lgsvlControl (c : Config R) (msg : VehicleControlCommand R) : VehicleControlData R where
  header := ⟨msg.stamp, c.controlFrame⟩
  accelerationPct := msg.acceleratorCmd / (100 : ℕ)
  brakingPct := msg.brakeCmd / maxBrakePsi
  targetWheelAngle := -1 * msg.steeringCmd
  targetGear := msg.gearCmd

def onVehicleControlReceived (c : Config R) (s : State R) (msg : VehicleControlCommand R) :
    Reply (State R) (Output R) Undefined :=
  .done { s with vehicleControlMsg := some msg, lgsvlControlMsg := lgsvlControl c msg }
    [.control (lgsvlControl c msg)]

def faultReport (c : Config R) (now : R) : FaultReport R where
  stamp := now
  stopType := UInt8.ofInt c.faultReportLevel
  reason := "OSSDC DOES NOT PROVIDE FAULTS"

def step100Hz (c : Config R) (s : State R) (now : R) : Reply (State R) (Output R) Undefined :=
  let out := if c.publishFaultReport then [.fault (faultReport c now)] else []
  if s.imuSeen then
    match s.imuMsg with
    | none => .halt s out .nullDereference
    | some orientation => .done { s with gpsFixMsg := { s.gpsFixMsg with attitude := c.rpy orientation } } out
  else .done s out

/-- The gear as it is reported: neutral shows as the first gear. -/
def currentGear (selectedGear : ℤ) : Int8 :=
  if Int8.ofInt selectedGear = 0 then 1 else Int8.ofInt selectedGear

/-- The difference is taken from the gear that is selected, not from the one that is reported. -/
def gearShiftStatus (command : Option (VehicleControlCommand R)) (selectedGear : ℤ) : Int8 :=
  let gearCmd : ℤ := match command with
    | some msg => msg.gearCmd.toNat
    | none => 1
  let gearDiff := gearCmd - selectedGear
  if gearDiff = 0 then 1
  else if gearDiff = 1 then 3
  else if gearDiff = -1 then 4
  else 1

def engineReport (now : R) (command : Option (VehicleControlCommand R)) (can : CanBusData R) :
    EngineReport R where
  stamp := now
  currentGear := currentGear can.selectedGear
  engineRpm := can.engineRpm
  gearShiftStatus := gearShiftStatus command can.selectedGear

def steeringReport (s : State R) (now frontWheelAngle : R) : SteeringReport R where
  stamp := now
  frontWheelAngleRad := -1 * frontWheelAngle
  frontWheelAngleRadCmd := -1 * s.lgsvlControlMsg.targetWheelAngle

/-- The position and the speed, with the attitude that is there. -/
def gpsFix (c : Config R) (s : State R) (now : R) (can : CanBusData R) (fix : NavSatFix R) : GPSFix R where
  header := ⟨now, c.gpsFrame⟩
  latitude := fix.latitude
  longitude := fix.longitude
  altitude := fix.altitude
  speed := can.speedMps
  attitude := s.gpsFixMsg.attitude

def step20Hz (c : Config R) (s : State R) (now : R) : Reply (State R) (Output R) Undefined :=
  if s.imuSeen ∧ s.vehicleOdomSeen ∧ s.canSeen ∧ s.odomSeen ∧ s.fixSeen then
    match s.vehicleOdomMsg with
    | none => .halt s [] .nullDereference
    | some frontWheelAngle =>
        match s.fixMsg, s.canBusMsg with
        | some fix, some can =>
            .done { s with gpsFixMsg := gpsFix c s now can fix }
              [.steering (steeringReport s now frontWheelAngle), .gpsFix (gpsFix c s now can fix),
                .engine (engineReport now s.vehicleControlMsg can)]
        | _, _ => .halt s [.steering (steeringReport s now frontWheelAngle)] .nullDereference
  else .done s []

def step (c : Config R) (s : State R) : Event R → Reply (State R) (Output R) Undefined
  | .vehicleControl msg => onVehicleControlReceived c s msg
  | .canData msg => .done { s with canBusMsg := some msg, canSeen := true } []
  | .vehicleOdom angle => .done { s with vehicleOdomMsg := some angle, vehicleOdomSeen := true } []
  | .odom => .done { s with odomSeen := true } []
  | .imu orientation => .done { s with imuMsg := some orientation, imuSeen := true } []
  | .fix msg => .done { s with fixMsg := some msg, fixSeen := true } []
  | .wheelSpeeds now x y width height => .done s [.wheelSpeeds ⟨now, x, y, width, height⟩]
  | .step100Hz now => step100Hz c s now
  | .step20Hz now => step20Hz c s now

def interfaceNode (c : Config R) : Machine (State R) (Event R) (Output R) Undefined where
  init := init
  step := step c

end Node

end HitchOpen.LgsvlInterface
