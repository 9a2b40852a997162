import HitchOpen.Common.Messages
import HitchOpen.Common.Runtime
import HitchOpen.Common.VehicleFlag
import HitchOpen.Library.EventMachine

/-!
# The competition timer node

`CompetitionTimerNode` reads GPS fixes, the simulation clock and its own parameter `vehicle_flag`.
A 50 Hz timer turns the parameter into the published flag and opens and closes competitions; the GPS
callback counts crossings of the finish line, records lap times and, once the target lap is recorded,
writes `black` into the parameter.

An attribute that `__init__` leaves at `None`, or does not create at all (`current_lap`), is an
`Option` here, and using it unset stops the node with the exception Python raises.  The conversion
`pymap3d.geodetic2enu` is a parameter of the model.  Log lines are left out, except for the total
time, which `save_results` logs beside the one it writes.
-/

namespace HitchOpen.CompetitionTimer

open HitchOpen.EventMachine HitchOpen.Messages HitchOpen.Runtime HitchOpen.VehicleFlag

/-- What the parameters and the yaml file set before the node starts. -/
structure Config (R : Type*) where
  targetLaps : ℕ
  /-- The value that the parameter `vehicle_flag` starts with. -/
  vehicleFlag : String
  origin : R × R × R
  point1 : R × R
  point2 : R × R
  crossingTolerance : R
  minCrossingInterval : R
  /-- `pymap3d.geodetic2enu(lat, lon, h, lat0, lon0, h0)`. -/
  geodetic2enu : R → R → R → R → R → R → R × R × R

/-- The attributes of the node. -/
structure State (R : Type*) where
  /-- The parameter `vehicle_flag`, which the operator may write at any time. -/
  vehicleFlagParam : String
  vehicleFlag : UInt8
  competitionActive : Bool
  startTime : Option R
  endTime : Option R
  currentTime : Option R
  lastCrossingTime : Option R
  lapTimes : List R
  /-- `__init__` does not create this attribute; starting a competition does. -/
  currentLap : Option ℕ
  deriving DecidableEq

inductive Event (R : Type*)
  | gps (msg : NavSatFix R)
  | clock (sec : ℤ) (nanosec : ℕ)
  | setVehicleFlag (value : String)
  | flagTick

/-- The content of a results file. -/
structure Results (R : Type*) where
  laps : List (ℕ × R)
  totalLaps : ℕ
  totalTime : R
  averageLapTime : R
  bestLapTime : R
  deriving DecidableEq

inductive Output (R : Type*)
  | flag (flag : UInt8)
  | lapTime (data : R)
  /-- The log line `Total time`. -/
  | loggedTotalTime (seconds : R)
  /-- The CSV-writing part of `save_results`. -/
  | csv (results : Results R)
  deriving DecidableEq

/-- `self._flag_map.get(value.lower(), VehicleFlag.RED)`. -/
def flagOfParam (value : String) : UInt8 :=
  match lower value with
  | "green" => GREEN
  | "red" => RED
  | "black" => BLACK
  | "g10" => G10
  | "g20" => G20
  | "g40" => G40
  | "g60" => G60
  | "g80" => G80
  | "g100" => G100
  | _ => RED

section Node

variable {R : Type*} [Field R] [LinearOrder R]

/-- `__init__`. -/
def init (c : Config R) : State R where
  vehicleFlagParam := c.vehicleFlag
  vehicleFlag := flagOfParam c.vehicleFlag
  competitionActive := false
  startTime := none
  endTime := none
  currentTime := none
  lastCrossingTime := none
  lapTimes := []
  currentLap := none

/-- What `save_results` writes for a non-empty list of lap times. -/
def results (lapTimes : List R) : Results R where
  laps := (lapTimes.zipIdx 1).map fun p => (p.2, p.1)
  totalLaps := lapTimes.length
  totalTime := lapTimes.sum
  averageLapTime := lapTimes.sum / (lapTimes.length : R)
  bestLapTime := lapTimes.tail.foldl min (lapTimes.headD 0)

def saveResults (s : State R) : List (Output R) × Option PyError :=
  match s.startTime with
  | none => ([], none)
  | some startTime =>
      -- `if not self.start_time`: zero is as false as `None`
      if startTime = 0 then ([], none)
      else
        match s.endTime with
        | none => ([], some .typeError)
        | some endTime =>
            let logged := .loggedTotalTime (endTime - startTime)
            if s.lapTimes = [] then ([logged], none)
            else ([logged, .csv (results s.lapTimes)], none)

/-- The branch of `publish_vehicle_flag` for a `BLACK` flag during a competition. -/
def endCompetition (c : Config R) (s : State R) (published : List (Output R)) :
    Reply (State R) (Output R) PyError :=
  let s := { s with competitionActive := false }
  match s.currentLap with
  | none => .halt s published .attributeError
  | some currentLap =>
      if currentLap ≤ c.targetLaps then .done s published
      else
        match saveResults s with
        | (saved, none) => .done s (published ++ saved)
        | (saved, some e) => .halt s (published ++ saved) e

def publishVehicleFlag (c : Config R) (s : State R) : Reply (State R) (Output R) PyError :=
  let flag := flagOfParam s.vehicleFlagParam
  let s := { s with vehicleFlag := flag }
  let published := [.flag flag]
  if isGreen flag then
    if s.competitionActive then .done s published
    else
      .done
        { s with
          competitionActive := true
          startTime := s.currentTime
          lastCrossingTime := none
          lapTimes := []
          currentLap := some 0 }
        published
  else if s.competitionActive then
    match flagToString flag with
    | none => .halt s published .keyError
    | some _ => if flag = BLACK then endCompetition c s published else .done s published
  else .done s published

def clockCallback (s : State R) (sec : ℤ) (nanosec : ℕ) : Reply (State R) (Output R) PyError :=
  .done { s with currentTime := some (sec + nanosec * (1 / 10 ^ 9)) } []

/-- The distance that `check_finish_line_crossing` computes.  On a finish line whose two points
coincide numpy divides zero by zero, and every comparison with the resulting NaN is false. -/
def finishLineDistance [Sqrt R] (c : Config R) (p : R × R) : Option R :=
  let ab := c.point2 - c.point1
  let ap := p - c.point1
  if dot ab ab = 0 then none
  else
    let projection := dot ap ab / dot ab ab
    if projection < 0 then some (norm ap)
    else if projection > 1 then some (norm (p - c.point2))
    else some (norm (ap - (projection * ab.1, projection * ab.2)))

/-- `distance < self.crossing_tolerance`. -/
def withinTolerance [Sqrt R] (c : Config R) (p : R × R) : Bool :=
  match finishLineDistance c p with
  | none => false
  | some distance => decide (distance < c.crossingTolerance)

def checkFinishLineCrossing [Sqrt R] (c : Config R) (lastCrossingTime : Option R) (currentTime : R)
    (p : R × R) : Bool :=
  match lastCrossingTime with
  | none => withinTolerance c p
  | some last =>
      if currentTime - last < c.minCrossingInterval then false else withinTolerance c p

/-- The first two ENU coordinates of a fix. -/
def localPosition (c : Config R) (msg : NavSatFix R) : R × R :=
  let enu := c.geodetic2enu msg.latitude msg.longitude
    (if msg.altitude ≠ 0 then msg.altitude else 0) c.origin.1 c.origin.2.1 c.origin.2.2
  (enu.1, enu.2.1)

/-- The lap that a crossing at `crossingTime` completes: the first lap is measured from the start. -/
def lapTime (s : State R) (currentLap : ℕ) (crossingTime last : R) : Except PyError R :=
  if currentLap = 1 then
    match s.startTime with
    | none => .error .typeError
    | some startTime => .ok (crossingTime - startTime)
  else .ok (crossingTime - last)

/-- Recording a lap, and ending the race when it is the target lap. -/
def recordLap (c : Config R) (s : State R) (currentLap : ℕ) (crossingTime lap : R) : State R :=
  let s := { s with lapTimes := s.lapTimes ++ [lap] }
  if currentLap ≥ c.targetLaps then
    { s with endTime := some crossingTime, vehicleFlagParam := "black", vehicleFlag := BLACK }
  else s

/-- The body of `gps_callback` after a crossing has been detected. -/
def countCrossing (c : Config R) (s : State R) (crossingTime : R) :
    Reply (State R) (Output R) PyError :=
  match s.currentLap with
  | none => .halt s [] .attributeError
  | some currentLap =>
      match s.lastCrossingTime with
      | none =>
          .done { s with
            currentLap := some (currentLap + 1), lastCrossingTime := some crossingTime } []
      | some last =>
          match lapTime s currentLap crossingTime last with
          | .error e => .halt s [] e
          | .ok lap =>
              .done { recordLap c s currentLap crossingTime lap with
                currentLap := some (currentLap + 1), lastCrossingTime := some crossingTime }
                [.lapTime lap]

def gpsCallback [Sqrt R] (c : Config R) (s : State R) (msg : NavSatFix R) :
    Reply (State R) (Output R) PyError :=
  if !s.competitionActive then .done s []
  else
    match s.currentTime with
    | none => .done s []
    | some currentTime =>
        if checkFinishLineCrossing c s.lastCrossingTime currentTime (localPosition c msg) then
          countCrossing c s currentTime
        else .done s []

def step [Sqrt R] (c : Config R) (s : State R) : Event R → Reply (State R) (Output R) PyError
  | .gps msg => gpsCallback c s msg
  | .clock sec nanosec => clockCallback s sec nanosec
  | .setVehicleFlag value => .done { s with vehicleFlagParam := value } []
  | .flagTick => publishVehicleFlag c s

def timerNode [Sqrt R] (c : Config R) : Machine (State R) (Event R) (Output R) PyError where
  init := init c
  step := step c

/-- The `finally` clause of `main`. -/
def shutdown (s : State R) : List (Output R) :=
  if s.competitionActive then (saveResults s).1 else []

/-- `main`: the node spins until it is interrupted or a callback raises, and then shuts down. -/
def main [Sqrt R] (c : Config R) (es : List (Event R)) : List (Output R) :=
  let r := (timerNode c).spin (init c) es
  r.outputs ++ shutdown r.state

end Node

/-! ### A track on which runs can be evaluated -/

/-- A finish line through the origin of the map, at which the conversion gives `(0, 0, 0)`. -/
def oval (targetLaps : ℕ) : Config ℚ where
  targetLaps := targetLaps
  vehicleFlag := "red"
  origin := (36, -115, 595)
  point1 := (-5, 0)
  point2 := (5, 0)
  crossingTolerance := 2
  minCrossingInterval := 10
  geodetic2enu lat lon h lat0 lon0 h0 := (lon - lon0, lat - lat0, h - h0)

/-- A fix at the origin of the map. -/
def onTheLine : Event ℚ := .gps ⟨36, -115, 595⟩

end HitchOpen.CompetitionTimer
