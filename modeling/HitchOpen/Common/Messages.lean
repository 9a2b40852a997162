import Mathlib.Init

/-!
# The messages that the nodes exchange

Only the fields that some node reads or fills in are kept; the covariances, the other components of a
twist and the orientation of a path point are not among them.
-/

namespace HitchOpen.Messages

structure Header (R : Type*) where
  stamp : R
  frameId : String
  deriving DecidableEq

/-- `sensor_msgs/NavSatFix`. -/
structure NavSatFix (R : Type*) where
  latitude : R
  longitude : R
  altitude : R
  deriving DecidableEq

/-- `geometry_msgs/Point`, and the planner's own `Point3D`. -/
structure Point3D (R : Type*) where
  x : R
  y : R
  z : R
  deriving DecidableEq

/-- `geometry_msgs/Quaternion`. -/
structure Quaternion (R : Type*) where
  x : R
  y : R
  z : R
  w : R
  deriving DecidableEq

/-- `nav_msgs/Odometry`, with `twist.twist.linear.x` as the only component of its twist. -/
structure Odometry (R : Type*) where
  header : Header R
  position : Point3D R
  orientation : Quaternion R
  twistLinearX : R
  deriving DecidableEq

/-- `autoware_planning_msgs/PathPoint`. -/
structure PathPoint (R : Type*) where
  position : Point3D R
  longitudinalVelocityMps : R
  deriving DecidableEq

/-- `autoware_planning_msgs/Path`. -/
structure Path (R : Type*) where
  header : Header R
  points : List (PathPoint R)
  deriving DecidableEq

/-- `nav_msgs/Path`: stamped positions. -/
structure NavPath (R : Type*) where
  header : Header R
  poses : List (Header R × Point3D R)
  deriving DecidableEq

/-- `lgsvl_msgs/VehicleOdometry`. -/
structure VehicleOdometry (R : Type*) where
  header : Header R
  deriving DecidableEq

/-- `autoware_control_msgs/Control`. -/
structure Control (R : Type*) where
  acceleration : R
  isDefinedAcceleration : Bool
  steeringTireAngle : R
  isDefinedSteeringTireRotationRate : Bool
  deriving DecidableEq

end HitchOpen.Messages
