import HitchOpen.Common.Messages
import HitchOpen.Common.Runtime
import HitchOpen.Library.DelimitedText
import HitchOpen.Library.EventMachine
import HitchOpen.Library.FirstMinimum

/-!
# The global planning node

`GlobalPlanningNode` loads a track file in its constructor and then serves three timers: the whole
track, the part of it ahead of the vehicle, and the vehicle's odometry in track coordinates.

A null pointer is `none`, and what dereferences it, reads a vector past its end, copies an invalid
range or converts a value that does not fit is an `Except.error`: the node does not go on from there.
A file is the text read from it, or `none` if it cannot be opened.  `std::stod` and the projection of
GeographicLib are parameters of the model.  Log lines are left out, and so are the two arguments of
`findClosestWaypoint` that it does not use.
-/

namespace HitchOpen.GlobalPlanning

open HitchOpen.DelimitedText HitchOpen.EventMachine HitchOpen.FirstMinimum HitchOpen.Messages
open HitchOpen.Runtime

structure Config (R : Type*) where
  localPathLengthM : R
  visualize : Bool
  /-- `std::stod`; `none` when it throws. -/
  stod : List Char → Option R
  /-- `LocalCartesian::Forward`, for the projection with the given origin. -/
  forward : R × R × R → R → R → R → Point3D R

structure State (R : Type*) where
  originX : R
  originY : R
  originZ : R
  /-- The origin of the projection `proj`. -/
  proj : R × R × R
  globalPath : Option (Path R)
  currentWaypointIndex : ℕ
  receivedGps : Bool
  currentPosition : Option (Point3D R)
  lgsvlOdom : Option (VehicleOdometry R)
  odom : Option (Odometry R)
  deriving DecidableEq

inductive Event (R : Type*)
  | gps (msg : NavSatFix R)
  | lgsvlOdom (msg : VehicleOdometry R)
  | odom (msg : Odometry R)
  | globalPathTimer (now : R)
  | localPathTimer (now : R)
  | planningOdomTimer

inductive Output (R : Type*)
  | globalPath (msg : Path R)
  | globalPathVis (msg : NavPath R)
  | localPath (msg : Path R)
  | localPathVis (msg : NavPath R)
  | planningOdom (msg : Odometry R)
  deriving DecidableEq

section Model

variable {R : Type} [Field R]

/-! ### The track file -/

/-- The characters `" \t\r\n"`. -/
def isBlank (ch : Char) : Bool := ch == ' ' || ch == '\t' || ch == '\r' || ch == '\n'

def safeStod (c : Config R) (str : List Char) : R := (c.stod str).getD 0

/-- The fields of the first line, trimmed, without the empty ones. -/
def headerRow (c : Config R) (line : List Char) : List R :=
  (getlines ',' line).filterMap fun value =>
    let value := trim isBlank value
    if value = [] then none else some (safeStod c value)

/-- The fields of a later line. -/
def dataRow (c : Config R) (line : List Char) : List R := (getlines ',' line).map (safeStod c)

/-- The origin is read off the first line, unless the line is rejected. -/
def loadOrigin (c : Config R) (s : State R) (line : List Char) : Except Undefined (Option (State R)) :=
  let row := headerRow c line
  if row.length ≥ 5 then do
    let originX ← vectorAt row 3
    let originY ← vectorAt row 4
    let originZ ← vectorAt row 5
    return some { s with originX := originX, originY := originY, originZ := originZ }
  else return none

/-- A later line gives a waypoint, unless it is skipped. -/
def loadWaypoint (c : Config R) (line : List Char) : Except Undefined (Option (PathPoint R)) :=
  let row := dataRow c line
  if row.length ≥ 3 then do
    let x ← vectorAt row 0
    let y ← vectorAt row 1
    let z ← vectorAt row 2
    let speed ← vectorAt row 4
    return some ⟨⟨x, y, z⟩, speed⟩
  else return none

def loadWaypoints (c : Config R) : List (List Char) → Except Undefined (List (PathPoint R))
  | [] => .ok []
  | line :: lines => do
      let point ← loadWaypoint c line
      let points ← loadWaypoints c lines
      return point.toList ++ points

/-- What follows once the first line has been accepted, or the file has none. -/
def loadTrack (c : Config R) (s : State R) (lines : List (List Char)) :
    Except Undefined (State R) := do
  let points ← loadWaypoints c lines
  return { s with proj := (s.originX, s.originY, s.originZ), globalPath := some ⟨⟨0, "map"⟩, points⟩ }

def loadWaypointsFromCSV (c : Config R) (s : State R) (file : Option (List Char)) :
    Except Undefined (State R) :=
  match file with
  | none => .ok s
  | some text =>
      match getlines '\n' text with
      | [] => loadTrack c s []
      | line :: lines => do
          match ← loadOrigin c s line with
          | none => return s
          | some s => loadTrack c s lines

/-- The members before the constructor loads the file. -/
def initial : State R where
  originX := 0
  originY := 0
  originZ := 0
  proj := (0, 0, 0)
  globalPath := none
  currentWaypointIndex := 0
  receivedGps := false
  currentPosition := none
  lgsvlOdom := none
  odom := none

/-! ### The callbacks -/

def gpsCallback (c : Config R) (s : State R) (msg : NavSatFix R) : State R :=
  { s with
    currentPosition := some (c.forward s.proj msg.latitude msg.longitude msg.altitude),
    receivedGps := true }

def convertAutowarePathToNavPath (path : Path R) : NavPath R where
  header := { path.header with frameId := "map" }
  poses := path.points.map fun point => ({ path.header with frameId := "map" }, point.position)

def publishGlobalPath (c : Config R) (s : State R) (now : R) : Reply (State R) (Output R) Undefined :=
  if !s.receivedGps then .done s []
  else
    match s.globalPath with
    | none => .halt s [] .nullDereference
    | some path =>
        if path.points = [] then .done s []
        else
          let message : Path R := ⟨⟨now, "map"⟩, path.points⟩
          .done s (.globalPath message ::
            if c.visualize then [.globalPathVis (convertAutowarePathToNavPath message)] else [])

def publishPlanningOdom (s : State R) : Reply (State R) (Output R) Undefined :=
  if !s.receivedGps then .done s []
  else
    match s.currentPosition with
    | none => .done s []
    | some position =>
        match s.odom with
        | none => .done s []
        | some odom =>
            match s.lgsvlOdom with
            | none => .halt s [] .nullDereference
            | some lgsvlOdom =>
                .done s [.planningOdom {
                  header := { lgsvlOdom.header with frameId := "map" }, position := position,
                  orientation := odom.orientation, twistLinearX := odom.twistLinearX }]

/-! ### The local path -/

variable [Sqrt R]

def calculateDistance (p1 p2 : Point3D R) : R :=
  sqrt ((p2.x - p1.x) ^ 2 + (p2.y - p1.y) ^ 2 + (p2.z - p1.z) ^ 2)

/-- How far a waypoint lies from the vehicle. -/
def distanceTo (position : Point3D R) (point : PathPoint R) : R :=
  calculateDistance position point.position

variable [LinearOrder R]

def findClosestWaypoint (path : Path R) (position : Point3D R) : ℕ :=
  minElement (distanceTo position) path.points

/-- The loop of `findNextWaypoint`, with fuel. -/
def findNextLoop (path : Path R) (position : Point3D R) (startIndex : ℕ) (radius : R) :
    ℕ → ℕ → R → Except Undefined ℕ
  | 0, _, _ => .error .diverges
  | fuel + 1, nextIndex, distance =>
      if distance < radius then
        let tempNext := (nextIndex + 1) % path.points.length
        if tempNext = startIndex then .ok nextIndex
        else do
          let point ← vectorAt path.points tempNext
          findNextLoop path position startIndex radius fuel tempNext
            (distance + distanceTo position point)
      else .ok nextIndex

/-- The new member `current_waypoint_index_` and the index returned. -/
def findNextWaypoint (path : Path R) (position : Point3D R) (searchRadius : ℕ) :
    Except Undefined (ℕ × ℕ) := do
  let closestIndex := findClosestWaypoint path position
  let nextIndex ← findNextLoop path position closestIndex searchRadius path.points.length
    closestIndex 0
  return (closestIndex, nextIndex)

variable [FloorSemiring R]

/-- The part of `publishLocalPath` that can go wrong: the new `current_waypoint_index_` and the points
of the message. -/
def localPathPoints (c : Config R) (path : Path R) (position : Point3D R) :
    Except Undefined (ℕ × List (PathPoint R)) := do
  let searchRadius ← sizeTOfDouble c.localPathLengthM
  let (currentWaypointIndex, nextIndex) ← findNextWaypoint path position searchRadius
  let points ← iteratorRange path.points currentWaypointIndex (nextIndex + 1)
  return (currentWaypointIndex, points)

def publishLocalPath (c : Config R) (s : State R) (now : R) : Reply (State R) (Output R) Undefined :=
  if !s.receivedGps then .done s []
  else
    match s.currentPosition with
    | none => .done s []
    | some position =>
        match s.globalPath with
        | none => .halt s [] .nullDereference
        | some path =>
            if path.points = [] then .done s []
            else
              match localPathPoints c path position with
              | .error u => .halt s [] u
              | .ok (currentWaypointIndex, points) =>
                  let message : Path R := ⟨⟨now, "map"⟩, points⟩
                  .done { s with currentWaypointIndex := currentWaypointIndex }
                    (.localPath message ::
                      if c.visualize then [.localPathVis (convertAutowarePathToNavPath message)]
                      else [])

def step (c : Config R) (s : State R) : Event R → Reply (State R) (Output R) Undefined
  | .gps msg => .done (gpsCallback c s msg) []
  | .lgsvlOdom msg => .done { s with lgsvlOdom := some msg } []
  | .odom msg => .done { s with odom := some msg } []
  | .globalPathTimer now => publishGlobalPath c s now
  | .localPathTimer now => publishLocalPath c s now
  | .planningOdomTimer => publishPlanningOdom s

/-- The node from the state in which its constructor has left it. -/
def planningNode (c : Config R) (loaded : State R) :
    Machine (State R) (Event R) (Output R) Undefined where
  init := loaded
  step := step c

end Model

end HitchOpen.GlobalPlanning
