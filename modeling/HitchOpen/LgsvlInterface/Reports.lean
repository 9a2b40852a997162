import HitchOpen.LgsvlInterface.InterfaceNode
import Mathlib.Tactic.Ring

/-!
# What the node reports

The purpose of the node, said of the messages it has got: a command is passed on, and a tick of the slow
timer reports the last message of each kind once there is one of every kind.  The steering angle that is
reported as commanded is the last one commanded, although it goes through two changes of sign; the attitude
is that of the last orientation before the last tick of the fast timer.

`interfaceNode_refines` says that the node does this in every run, and in particular that it never follows
a pointer that has not been set.
-/

namespace HitchOpen.LgsvlInterface

open HitchOpen.EventMachine HitchOpen.History HitchOpen.Messages HitchOpen.Runtime

theorem step100Hz_seen {R : Type*} {c : Config R} {s : State R} (now : R) {orientation : Messages.Quaternion R}
    (hseen : s.imuSeen = true) (hmsg : s.imuMsg = some orientation) :
    step100Hz c s now = .done { s with gpsFixMsg := { s.gpsFixMsg with attitude := c.rpy orientation } }
      (if c.publishFaultReport then [.fault (faultReport c now)] else []) := by
  cases s
  cases hseen
  cases hmsg
  rfl

section Reports

variable {R : Type*} [Field R]

/-! ### The history -/

def control? : Event R → Option (VehicleControlCommand R)
  | .vehicleControl msg => some msg
  | _ => none

def can? : Event R → Option (CanBusData R)
  | .canData msg => some msg
  | _ => none

def vehicleOdom? : Event R → Option R
  | .vehicleOdom angle => some angle
  | _ => none

def odom? : Event R → Option Unit
  | .odom => some ()
  | _ => none

def imu? : Event R → Option (Messages.Quaternion R)
  | .imu orientation => some orientation
  | _ => none

def fix? : Event R → Option (NavSatFix R)
  | .fix msg => some msg
  | _ => none

def isStep100Hz : Event R → Bool
  | .step100Hz _ => true
  | _ => false

/-- The orientation known at the last tick of the fast timer. -/
def attitude (c : Config R) (past : List (Event R)) : Attitude R :=
  ((last imu? (beforeLast isStep100Hz past)).map c.rpy).getD ⟨0, 0, 0⟩

/-- The angle that was commanded last. -/
def steeringCmd (past : List (Event R)) : R :=
  ((last control? past).map VehicleControlCommand.steeringCmd).getD 0

def reports (c : Config R) (past : List (Event R)) (now frontWheelAngle : R) (can : CanBusData R)
    (fix : NavSatFix R) : List (Output R) :=
  [.steering ⟨now, -frontWheelAngle, steeringCmd past⟩,
    .gpsFix ⟨⟨now, c.gpsFrame⟩, fix.latitude, fix.longitude, fix.altitude, can.speedMps, attitude c past⟩,
    .engine (engineReport now (last control? past) can)]

/-- What the node is for. -/
def answer (c : Config R) (past : List (Event R)) : Event R → List (Output R)
  | .vehicleControl msg => [.control (lgsvlControl c msg)]
  | .wheelSpeeds now x y width height => [.wheelSpeeds ⟨now, x, y, width, height⟩]
  | .step100Hz now => if c.publishFaultReport then [.fault (faultReport c now)] else []
  | .step20Hz now =>
      match last imu? past, last vehicleOdom? past, last can? past, last odom? past, last fix? past with
      | some _, some angle, some can, some _, some fix => reports c past now angle can fix
      | _, _, _, _, _ => []
  | _ => []

/-! ### The members -/

/-- What the members of the node are after the events `past`. -/
structure Knows (c : Config R) (past : List (Event R)) (s : State R) : Prop where
  control : s.vehicleControlMsg = last control? past
  can : s.canBusMsg = last can? past
  vehicleOdom : s.vehicleOdomMsg = last vehicleOdom? past
  imu : s.imuMsg = last imu? past
  fix : s.fixMsg = last fix? past
  canSeen : s.canSeen = (last can? past).isSome
  vehicleOdomSeen : s.vehicleOdomSeen = (last vehicleOdom? past).isSome
  odomSeen : s.odomSeen = (last odom? past).isSome
  imuSeen : s.imuSeen = (last imu? past).isSome
  fixSeen : s.fixSeen = (last fix? past).isSome
  attitude : s.gpsFixMsg.attitude = attitude c past
  target : s.lgsvlControlMsg.targetWheelAngle = -1 * steeringCmd past

theorem knows_init (c : Config R) : Knows c [] (init : State R) :=
  ⟨rfl, rfl, rfl, rfl, rfl, rfl, rfl, rfl, rfl, rfl, rfl, (mul_zero (-1)).symm⟩

variable {c : Config R} {past : List (Event R)} {s : State R}

/-- Before the first orientation, no tick has seen one. -/
theorem attitude_of_none (h : last imu? past = none) : attitude c past = ⟨0, 0, 0⟩ := by
  have hnone : last imu? (beforeLast isStep100Hz past) = none := by
    rw [last_eq_none_iff] at h ⊢
    exact fun e he => h e ((beforeLast_sublist isStep100Hz past).subset he)
  rw [attitude, hnone]
  rfl

/-- The members after one more event. -/
theorem Knows.concat {e : Event R} {s' : State R}
    (control : s'.vehicleControlMsg = (control? e).or (last control? past))
    (can : s'.canBusMsg = (can? e).or (last can? past))
    (vehicleOdom : s'.vehicleOdomMsg = (vehicleOdom? e).or (last vehicleOdom? past))
    (imu : s'.imuMsg = (imu? e).or (last imu? past)) (fix : s'.fixMsg = (fix? e).or (last fix? past))
    (canSeen : s'.canSeen = ((can? e).or (last can? past)).isSome)
    (vehicleOdomSeen : s'.vehicleOdomSeen = ((vehicleOdom? e).or (last vehicleOdom? past)).isSome)
    (odomSeen : s'.odomSeen = ((odom? e).or (last odom? past)).isSome)
    (imuSeen : s'.imuSeen = ((imu? e).or (last imu? past)).isSome)
    (fixSeen : s'.fixSeen = ((fix? e).or (last fix? past)).isSome)
    (attitude : s'.gpsFixMsg.attitude = if isStep100Hz e then
      ((last imu? past).map c.rpy).getD ⟨0, 0, 0⟩ else LgsvlInterface.attitude c past)
    (target : s'.lgsvlControlMsg.targetWheelAngle =
      -1 * (((control? e).or (last control? past)).map VehicleControlCommand.steeringCmd).getD 0) :
    Knows c (past ++ [e]) s' := by
  refine ⟨?_, ?_, ?_, ?_, ?_, ?_, ?_, ?_, ?_, ?_, ?_, ?_⟩
  · rw [last_concat, control]
  · rw [last_concat, can]
  · rw [last_concat, vehicleOdom]
  · rw [last_concat, imu]
  · rw [last_concat, fix]
  · rw [last_concat, canSeen]
  · rw [last_concat, vehicleOdomSeen]
  · rw [last_concat, odomSeen]
  · rw [last_concat, imuSeen]
  · rw [last_concat, fixSeen]
  · rw [attitude]
    show _ = ((last imu? (beforeLast isStep100Hz (past ++ [e]))).map c.rpy).getD ⟨0, 0, 0⟩
    rw [beforeLast_concat]
    cases isStep100Hz e <;> rfl
  · rw [steeringCmd, last_concat, target]

theorem step20Hz_seen (now : R) {angle : R} {can : CanBusData R} {fix : NavSatFix R}
    (hseen : s.imuSeen ∧ s.vehicleOdomSeen ∧ s.canSeen ∧ s.odomSeen ∧ s.fixSeen)
    (hvehicleOdom : s.vehicleOdomMsg = some angle) (hcan : s.canBusMsg = some can)
    (hfix : s.fixMsg = some fix) :
    step20Hz c s now = .done { s with gpsFixMsg := gpsFix c s now can fix }
      [.steering (steeringReport s now angle), .gpsFix (gpsFix c s now can fix),
        .engine (engineReport now s.vehicleControlMsg can)] := by
  rw [step20Hz, if_pos hseen]
  cases s
  cases hvehicleOdom
  cases hcan
  cases hfix
  rfl

/-- A tick of the fast timer sets the attitude, if there is an orientation. -/
theorem Knows.step100Hz (h : Knows c past s) (now : R) :
    (step100Hz c s now).stop = none ∧ (step100Hz c s now).outputs = answer c past (.step100Hz now) ∧
      Knows c (past ++ [.step100Hz now]) (step100Hz c s now).state := by
  have hattitude : ∀ gpsFixMsg : GPSFix R,
      gpsFixMsg.attitude = ((last imu? past).map c.rpy).getD ⟨0, 0, 0⟩ →
        Knows c (past ++ [.step100Hz now]) { s with gpsFixMsg := gpsFixMsg } := by
    intro gpsFixMsg hnew
    exact .concat h.control h.can h.vehicleOdom h.imu h.fix h.canSeen h.vehicleOdomSeen h.odomSeen
      h.imuSeen h.fixSeen hnew h.target
  cases himu : last imu? past with
  | none =>
      have hseen : s.imuSeen = false := by rw [h.imuSeen, himu, Option.isSome_none]
      rw [LgsvlInterface.step100Hz, hseen]
      refine ⟨rfl, rfl, hattitude s.gpsFixMsg ?_⟩
      rw [h.attitude, attitude_of_none himu, himu]
      rfl
  | some orientation =>
      have hseen : s.imuSeen = true := by rw [h.imuSeen, himu, Option.isSome_some]
      have hmsg : s.imuMsg = some orientation := h.imu.trans himu
      rw [step100Hz_seen now hseen hmsg]
      refine ⟨rfl, rfl, hattitude { s.gpsFixMsg with attitude := c.rpy orientation } ?_⟩
      rw [himu]
      rfl

/-- A tick of the slow timer reports what is known. -/
theorem Knows.step20Hz (h : Knows c past s) (now : R) :
    (step20Hz c s now).stop = none ∧ (step20Hz c s now).outputs = answer c past (.step20Hz now) ∧
      Knows c (past ++ [.step20Hz now]) (step20Hz c s now).state := by
  have hkeep : ∀ gpsFixMsg : GPSFix R, gpsFixMsg.attitude = s.gpsFixMsg.attitude →
      Knows c (past ++ [.step20Hz now]) { s with gpsFixMsg := gpsFixMsg } := by
    intro gpsFixMsg hsame
    exact .concat h.control h.can h.vehicleOdom h.imu h.fix h.canSeen h.vehicleOdomSeen h.odomSeen
      h.imuSeen h.fixSeen (hsame.trans h.attitude) h.target
  by_cases hall : (last imu? past).isSome ∧ (last vehicleOdom? past).isSome ∧ (last can? past).isSome ∧
      (last odom? past).isSome ∧ (last fix? past).isSome
  · have hseen : s.imuSeen ∧ s.vehicleOdomSeen ∧ s.canSeen ∧ s.odomSeen ∧ s.fixSeen := by
      rw [h.imuSeen, h.vehicleOdomSeen, h.canSeen, h.odomSeen, h.fixSeen]
      exact hall
    obtain ⟨himu, hvehicleOdom, hcan, hodom, hfix⟩ := hall
    obtain ⟨orientation, himu⟩ := Option.isSome_iff_exists.mp himu
    obtain ⟨angle, hvehicleOdom⟩ := Option.isSome_iff_exists.mp hvehicleOdom
    obtain ⟨can, hcan⟩ := Option.isSome_iff_exists.mp hcan
    obtain ⟨u, hodom⟩ := Option.isSome_iff_exists.mp hodom
    obtain ⟨fix, hfix⟩ := Option.isSome_iff_exists.mp hfix
    have hsteering : steeringReport s now angle = ⟨now, -angle, steeringCmd past⟩ := by
      rw [steeringReport, h.target]
      congr 1 <;> ring
    rw [step20Hz_seen now hseen (h.vehicleOdom.trans hvehicleOdom) (h.can.trans hcan) (h.fix.trans hfix)]
    refine ⟨rfl, ?_, hkeep _ rfl⟩
    rw [Reply.done_outputs, answer, himu, hvehicleOdom, hcan, hodom, hfix]
    show _ = reports c past now angle can fix
    rw [reports, hsteering, gpsFix, h.attitude, h.control]
  · have hseen : ¬ (s.imuSeen ∧ s.vehicleOdomSeen ∧ s.canSeen ∧ s.odomSeen ∧ s.fixSeen) := by
      rw [h.imuSeen, h.vehicleOdomSeen, h.canSeen, h.odomSeen, h.fixSeen]
      exact hall
    rw [LgsvlInterface.step20Hz, if_neg hseen]
    refine ⟨rfl, ?_, hkeep s.gpsFixMsg rfl⟩
    rw [Reply.done_outputs, answer]
    cases himu : last imu? past with
    | none => rfl
    | some orientation =>
        cases hvehicleOdom : last vehicleOdom? past with
        | none => rfl
        | some angle =>
            cases hcan : last can? past with
            | none => rfl
            | some can =>
                cases hodom : last odom? past with
                | none => rfl
                | some u =>
                    cases hfix : last fix? past with
                    | none => rfl
                    | some fix =>
                        rw [himu, hvehicleOdom, hcan, hodom, hfix] at hall
                        exact absurd ⟨rfl, rfl, rfl, rfl, rfl⟩ hall

theorem remembers (c : Config R) : Remembers (interfaceNode c) (answer c) (Knows c) := by
  have hstep : ∀ past s e, Knows c past s → ((interfaceNode c).step s e).stop = none ∧
      ((interfaceNode c).step s e).outputs = answer c past e ∧
        Knows c (past ++ [e]) ((interfaceNode c).step s e).state := by
    intro past s e h
    cases e with
    | vehicleControl msg =>
        exact ⟨rfl, rfl, .concat rfl h.can h.vehicleOdom h.imu h.fix h.canSeen h.vehicleOdomSeen
          h.odomSeen h.imuSeen h.fixSeen h.attitude rfl⟩
    | canData msg =>
        exact ⟨rfl, rfl, .concat h.control rfl h.vehicleOdom h.imu h.fix rfl h.vehicleOdomSeen
          h.odomSeen h.imuSeen h.fixSeen h.attitude h.target⟩
    | vehicleOdom angle =>
        exact ⟨rfl, rfl, .concat h.control h.can rfl h.imu h.fix h.canSeen rfl h.odomSeen h.imuSeen
          h.fixSeen h.attitude h.target⟩
    | odom =>
        exact ⟨rfl, rfl, .concat h.control h.can h.vehicleOdom h.imu h.fix h.canSeen
          h.vehicleOdomSeen rfl h.imuSeen h.fixSeen h.attitude h.target⟩
    | imu orientation =>
        exact ⟨rfl, rfl, .concat h.control h.can h.vehicleOdom rfl h.fix h.canSeen h.vehicleOdomSeen
          h.odomSeen rfl h.fixSeen h.attitude h.target⟩
    | fix msg =>
        exact ⟨rfl, rfl, .concat h.control h.can h.vehicleOdom h.imu rfl h.canSeen h.vehicleOdomSeen
          h.odomSeen h.imuSeen rfl h.attitude h.target⟩
    | wheelSpeeds now x y width height =>
        exact ⟨rfl, rfl, .concat h.control h.can h.vehicleOdom h.imu h.fix h.canSeen
          h.vehicleOdomSeen h.odomSeen h.imuSeen h.fixSeen h.attitude h.target⟩
    | step100Hz now => exact h.step100Hz now
    | step20Hz now => exact h.step20Hz now
  exact ⟨fun past s e h => (hstep past s e h).1, fun past s e h => (hstep past s e h).2.1,
    fun past s e h => (hstep past s e h).2.2⟩

/-- **The node does what it is for.**  No run follows a pointer that has not been set, and what a run sends
out is what its history asks for, event by event. -/
theorem interfaceNode_refines (c : Config R) (es : List (Event R)) :
    ((interfaceNode c).spin init es).stop = none ∧
      ((interfaceNode c).spin init es).outputs = answers (answer c) [] es :=
  spin_of_remembers (remembers c) (knows_init c) es

end Reports

end HitchOpen.LgsvlInterface
