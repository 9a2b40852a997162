import HitchOpen.GlobalPlanning.LocalPath
import HitchOpen.Library.TopicChain
import HitchOpen.SimpleControl.FlagFreshness
import HitchOpen.SimpleControl.WaypointAccess

/-!
# The manager behind the planner

The manager reads past the end of a path without waypoints, and it takes its paths from the planner.  The
planner publishes such a path in one situation only: the search for the end of the local path has gone once
around the track, and it did not start at the front of the file.  In every other case there is a waypoint
to copy, or the planner itself does not survive.

So the manager stops in a run of the two nodes only if the planner has been there before:
`stopped_goesAround`.
-/

namespace HitchOpen.SimpleControl

open HitchOpen.EventMachine HitchOpen.EventMachine.Link HitchOpen.Messages HitchOpen.Runtime
open HitchOpen.GlobalPlanning (GoesAround WalksAround planningNode lookahead endsAtOrigin)
open HitchOpen.VehicleFlag

section Stopping

variable {R : Type} [Field R] [LinearOrder R]

/-- The stored path is one that has arrived. -/
theorem localPath_arrived {π : Type} {c : Config R π} {es : List (Event R)} {s : ManagerState R π}
    (h : (managerNode c).runFrom (init c) es = some s) {path : Path R} (hpath : s.localPath = some path) :
    ∃ now, ⟨now, .localPath path⟩ ∈ es := by
  have hhistory := (managerNode c).runFrom_induct_history
    (H := fun es s => ∀ path, s.localPath = some path → ∃ now, ⟨now, .localPath path⟩ ∈ es) ?_ ?_ h
  · exact hhistory path hpath
  · intro path hnone
    cases hnone
  · intro es s e ih _ path hstep
    by_cases hsame : s.localPath = some path
    · obtain ⟨now, hmem⟩ := ih path hsame
      exact ⟨now, List.mem_append_left _ hmem⟩
    · obtain ⟨now, callback⟩ := e
      cases callback with
      | localPath msg =>
          obtain rfl : msg = path := Option.some.inj hstep
          exact ⟨now, List.mem_append_right _ List.mem_cons_self⟩
      | controlTimer =>
          have hkeep : (runStep c s now).state.localPath = s.localPath := by
            obtain hr | ⟨-, -, ⟨u, hr⟩ | ⟨ps, msg, hr⟩⟩ := runStep_cases c s now <;> rw [hr] <;> rfl
          exact absurd (hkeep.symm.trans hstep) hsame
      | flagCheckTimer =>
          have hkeep : (checkFlagTimeout c s now).localPath = s.localPath := by
            rw [checkFlagTimeout]
            split <;> rfl
          exact absurd (hkeep.symm.trans hstep) hsame
      | shouldPublishControl data => exact absurd hstep hsame
      | vehicleFlag flag => exact absurd hstep hsame
      | odom msg => exact absurd hstep hsame

variable [Sqrt R]

/-- The only thing that stops the manager is a path without waypoints. -/
theorem emptyPathTick_of_stop {c : ControllerConfig R} {s : ManagerState R (Plugin R)} {e : Event R}
    (h : (step c.manager s e).stop ≠ none) : EmptyPathTick s e := by
  rw [← step_outOfRange_iff c s e]
  obtain ⟨now, callback⟩ := e
  cases callback with
  | controlTimer =>
      have h : (runStep c.manager s now).stop ≠ none := h
      show (runStep c.manager s now).stop = _
      by_cases hdrive : Driving s
      · obtain ⟨-, hrun⟩ | ⟨-, r, hrun⟩ :=
          runPlugins_cases c (generateCurrentState c.manager s) now s.plugins newControl
        · rw [runStep_undefined c.manager now hdrive hrun]
          rfl
        · rw [runStep_driving c.manager now hdrive hrun] at h
          exact absurd rfl h
      · rw [runStep_brake c.manager now hdrive] at h
        exact absurd rfl h
  | shouldPublishControl data => exact absurd rfl h
  | vehicleFlag flag => exact absurd rfl h
  | localPath msg => exact absurd rfl h
  | odom msg => exact absurd rfl h
  | flagCheckTimer => exact absurd rfl h

/-! ### The two nodes together -/

/-- What reaches the manager by other ways than `local_path`. -/
abbrev OtherEvent (R : Type) := {e : Event R // ∀ msg, e.callback ≠ .localPath msg}

abbrev PlannedEvent (R : Type) := LinkEvent (GlobalPlanning.Event R) R (OtherEvent R)

variable [FloorSemiring R]

/-- The topic `local_path` from the planner, in the state in which its constructor has left it. -/
def pathTopic (p : GlobalPlanning.Config R) (loaded : GlobalPlanning.State R) (c : ControllerConfig R) :
    Link (GlobalPlanning.State R) (GlobalPlanning.Event R) (GlobalPlanning.Output R) Undefined
      (ManagerState R (Plugin R)) (Event R) (Output R) Undefined (Path R) R (OtherEvent R) where
  publisher := planningNode p loaded
  subscriber := managerNode c.manager
  sent
    | .localPath msg => some msg
    | _ => none
  receive now msg := ⟨now, .localPath msg⟩
  own := Subtype.val

/-- **Who is to blame.**  If the manager has stopped in a run of the two nodes, then at a local path tick
before that the planner's walk has gone around the track. -/
theorem stopped_goesAround (p : GlobalPlanning.Config R) (loaded : GlobalPlanning.State R)
    (c : ControllerConfig R) (es : List (PlannedEvent R))
    (hstop : ((pathTopic p loaded c).run (pathTopic p loaded c).start es).subscriber = none) :
    ∃ pre now s, pre ++ [.publisher (.localPathTimer now)] <+: es ∧
      (planningNode p loaded).runFrom loaded (publisherEvents pre) = some s ∧ GoesAround p s := by
  obtain ⟨pre, e, s, d, hpre, hs, -, hd⟩ := exists_stop_of_none rfl hstop
  obtain ⟨-, -, -, ⟨path, hpath, hempty⟩, -⟩ := emptyPathTick_of_stop hd
  have hreached : (managerNode c.manager).runFrom (init c.manager)
      ((pathTopic p loaded c).heard (pathTopic p loaded c).start pre) = some s := by
    rw [subscriber_eq] at hs
    exact hs
  obtain ⟨now, hheard⟩ := localPath_arrived hreached hpath
  obtain ⟨own, hown⟩ | ⟨k, msg, hmsg, hsent⟩ := heard_sentIn hheard
  · -- no path reaches the manager by other ways
    exact absurd (congrArg Event.callback hown).symm (own.2 path)
  · cases hmsg
    obtain ⟨before, tick, q, out, hbefore, hq, hout, hpublished⟩ := hsent.exists_step
    obtain rfl : out = .localPath path := by
      cases out with
      | localPath msg =>
          obtain rfl : msg = path := Option.some.inj hpublished
          rfl
      | _ => cases hpublished
    obtain ⟨now, rfl, hgps, track, position, i, htrack, hposition, hne, hcopy⟩ :=
      GlobalPlanning.localPath_of_step hout
    rw [hempty] at hcopy
    obtain ⟨hfit, haround⟩ := (GlobalPlanning.localPathPoints_nil_iff p position hne).mp ⟨i, hcopy⟩
    exact ⟨before, now, q, hbefore.trans ((List.prefix_append pre [e]).trans hpre), hq,
      hgps, hfit, track, position, htrack, hposition, hne, haround⟩

end Stopping

/-- A planner that looks two metres ahead on a track of two waypoints, a metre apart. -/
def twoMetres : GlobalPlanning.State ℚ :=
  { (GlobalPlanning.initial : GlobalPlanning.State ℚ) with globalPath := some (endsAtOrigin [⟨1, 0, 0⟩]) }

/-- The vehicle stands at the second waypoint when the flag turns green. -/
def secondWaypoint : List (PlannedEvent ℚ) :=
  [.publisher (.gps ⟨0, 0, 0⟩), .publisher (.localPathTimer 1), .deliver 1,
    .subscriber ⟨⟨1, .odom standingOdom⟩, by simp⟩, .subscriber ⟨⟨1, .vehicleFlag GREEN⟩, by simp⟩,
    .subscriber ⟨⟨1, .controlTimer⟩, by simp⟩]

theorem secondWaypoint_goesAround :
    ∃ pre now s, pre ++ [.publisher (.localPathTimer now)] <+: secondWaypoint ∧
      (planningNode (lookahead 2) twoMetres).runFrom twoMetres (publisherEvents pre) = some s ∧
      GoesAround (lookahead 2) s :=
  stopped_goesAround (lookahead 2) twoMetres bothPlugins secondWaypoint (by decide +kernel)

end HitchOpen.SimpleControl
