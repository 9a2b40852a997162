import HitchOpen.Library.Gaps
import HitchOpen.SimpleControl.ControllerManager

/-!
# A plugin command needs a fresh green flag

The manager stores the last flag and the time of its message; a separate timer compares that time with
the clock.  The history of a run says more than the two members: which flag message was the last, and
which checks have run since.  The invariant `Fresh` relates them: while the member is `GREEN`, the last
message was, and no check since has found it stale.

Between a message and the next check nothing looks at the clock.  With a check at least every `d`
seconds a plugin command can therefore be as late as the timeout, or 0 if that is negative, plus `d`.
-/

namespace HitchOpen.SimpleControl

open HitchOpen.EventMachine HitchOpen.Gaps HitchOpen.Messages HitchOpen.Runtime
open HitchOpen.VehicleFlag

/-! ### Reading a history -/

section History

variable {R : Type*}

/-- The last flag message of a history came at `m` and carried `flag`; `after` came since. -/
structure LastFlag (es : List (Event R)) (m : R) (flag : UInt8) (after : List (Event R)) : Prop where
  split : ∃ before, es = before ++ ⟨m, .vehicleFlag flag⟩ :: after
  noFlag : ∀ e ∈ after, ∀ f, e.callback ≠ .vehicleFlag f

/-- When `checkFlagTimeout` has run. -/
def checkTimes (es : List (Event R)) : List R :=
  es.filterMap fun e =>
    match e.callback with
    | .flagCheckTimer => some e.now
    | _ => none

theorem LastFlag.of_message (es : List (Event R)) (m : R) (flag : UInt8) :
    LastFlag (es ++ [⟨m, .vehicleFlag flag⟩]) m flag [] where
  split := ⟨es, rfl⟩
  noFlag := by simp

theorem LastFlag.concat {es after : List (Event R)} {m : R} {flag : UInt8}
    (h : LastFlag es m flag after) {e : Event R} (he : ∀ f, e.callback ≠ .vehicleFlag f) :
    LastFlag (es ++ [e]) m flag (after ++ [e]) where
  split := by
    obtain ⟨before, rfl⟩ := h.split
    exact ⟨before, by simp⟩
  noFlag := by
    intro x hx
    rcases List.mem_append.mp hx with hx | hx
    · exact h.noFlag x hx
    · rw [List.mem_singleton.mp hx]
      exact he

theorem checkTimes_append (es fs : List (Event R)) :
    checkTimes (es ++ fs) = checkTimes es ++ checkTimes fs := List.filterMap_append

theorem checkTimes_check (t : R) : checkTimes [⟨t, .flagCheckTimer⟩] = [t] := rfl

theorem checkTimes_other {e : Event R} (he : e.callback ≠ .flagCheckTimer) : checkTimes [e] = [] := by
  obtain ⟨t, callback⟩ := e
  cases callback with
  | flagCheckTimer => exact absurd rfl he
  | _ => rfl

theorem exists_now_of_mem_checkTimes {es : List (Event R)} {t : R} (h : t ∈ checkTimes es) :
    ∃ e ∈ es, e.now = t := by
  obtain ⟨e, he, ht⟩ := List.mem_filterMap.mp h
  refine ⟨e, he, ?_⟩
  split at ht
  · exact Option.some.inj ht
  · cases ht

/-- A clock that starts at `t₀` and never goes back. -/
def ClockFrom [LE R] (t₀ : R) (es : List (Event R)) : Prop :=
  (t₀ :: es.map Event.now).Pairwise (· ≤ ·)

/-- At no event of the history does the last check lie more than `d` back. -/
def ChecksEvery [Add R] [LE R] (d t₀ : R) (es : List (Event R)) : Prop :=
  ∀ pre e, pre ++ [e] <+: es → e.now ≤ latest t₀ (checkTimes pre) + d

theorem checksEvery_concat [Add R] [LE R] {d t₀ : R} {es : List (Event R)} {e : Event R} :
    ChecksEvery d t₀ (es ++ [e]) ↔
      ChecksEvery d t₀ es ∧ e.now ≤ latest t₀ (checkTimes es) + d := by
  refine ⟨?_, ?_⟩
  · intro h
    refine ⟨fun pre x hpre => h pre x (hpre.trans (List.prefix_append es [e])), ?_⟩
    exact h es e (List.prefix_refl _)
  · intro h pre x hpre
    rcases List.prefix_concat_iff.mp hpre with heq | hpre
    · obtain ⟨rfl, rfl⟩ := List.append_singleton_inj.mp heq
      exact h.2
    · exact h.1 pre x hpre

/-- What comes before an event, the start included, has an earlier reading of the clock. -/
theorem ClockFrom.le [LE R] {t₀ : R} {before rest : List (Event R)} {e : Event R}
    (h : ClockFrom t₀ (before ++ e :: rest)) :
    t₀ ≤ e.now ∧ ∀ x ∈ before, x.now ≤ e.now := by
  unfold ClockFrom at h
  rw [List.map_append, List.map_cons, List.pairwise_cons, List.pairwise_append] at h
  obtain ⟨hstart, -, -, hcross⟩ := h
  refine ⟨hstart _ (by simp), ?_⟩
  intro x hx
  exact hcross _ (List.mem_map_of_mem hx) _ (by simp)

theorem checkTimes_message (before after : List (Event R)) (m : R) (flag : UInt8) :
    checkTimes (before ++ ⟨m, .vehicleFlag flag⟩ :: after) =
      checkTimes before ++ checkTimes after := by
  rw [checkTimes_append, ← List.singleton_append, checkTimes_append, checkTimes_other (by simp),
    List.nil_append]

/-- No check before a flag message is later than the message. -/
theorem checkTimes_le_of_message [Preorder R] {t₀ m b : R} {flag : UInt8}
    {before after rest : List (Event R)} (h : ClockFrom t₀ (before ++ ⟨m, .vehicleFlag flag⟩ :: rest))
    (hm : m ≤ b) (hafter : ∀ t ∈ checkTimes after, t ≤ b) :
    ∀ t ∈ checkTimes (before ++ ⟨m, .vehicleFlag flag⟩ :: after), t ≤ b := by
  intro t ht
  rw [checkTimes_message] at ht
  rcases List.mem_append.mp ht with ht | ht
  · obtain ⟨x, hx, rfl⟩ := exists_now_of_mem_checkTimes ht
    exact (h.le.2 x hx).trans hm
  · exact hafter t ht

end History

/-! ### What a control tick does -/

section ControlTick

variable {R π : Type*} [Field R]

theorem runStep_cases (c : Config R π) (s : ManagerState R π) (now : R) :
    runStep c s now = .done s [.control .brake brakeControl] ∨
    s.shouldPublishControl = true ∧ s.vehicleFlag = GREEN ∧
      ((∃ u, runStep c s now = .halt s [] u) ∨
        ∃ ps msg, runStep c s now = .done { s with plugins := ps } [.control .plugins msg]) := by
  by_cases hbrake : (!s.shouldPublishControl || s.vehicleFlag != GREEN) = true
  · exact .inl (if_pos hbrake)
  · right
    rw [runStep, if_neg hbrake]
    rw [Bool.or_eq_true, not_or] at hbrake
    refine ⟨by simpa using hbrake.1, by simpa using hbrake.2, ?_⟩
    cases runPlugins c (generateCurrentState c s) now s.plugins newControl with
    | error u => exact .inl ⟨u, rfl⟩
    | ok r => exact .inr ⟨r.1, r.2, rfl⟩

theorem runStep_flag (c : Config R π) (s : ManagerState R π) (now : R) :
    (runStep c s now).state.vehicleFlag = s.vehicleFlag ∧
      (runStep c s now).state.lastFlagTime = s.lastFlagTime := by
  rcases runStep_cases c s now with h | ⟨-, -, ⟨u, h⟩ | ⟨ps, msg, h⟩⟩ <;> rw [h] <;> exact ⟨rfl, rfl⟩

end ControlTick

/-! ### The invariant -/

section Invariant

variable {R π : Type*} [Field R] [LinearOrder R]

/-- What a green member remembers. -/
def Fresh (c : Config R π) (es : List (Event R)) (s : ManagerState R π) : Prop :=
  s.vehicleFlag = GREEN → ∃ after, LastFlag es s.lastFlagTime GREEN after ∧
    ∀ t ∈ checkTimes after, t - s.lastFlagTime ≤ c.flagTimeout

/-- A callback other than a flag message and a check only adds itself to the history. -/
theorem Fresh.concat {c : Config R π} {es : List (Event R)} {s s' : ManagerState R π}
    (h : Fresh c es s) {e : Event R} (hflag : ∀ f, e.callback ≠ .vehicleFlag f)
    (hcheck : e.callback ≠ .flagCheckTimer) (hsame : s'.vehicleFlag = s.vehicleFlag)
    (htime : s'.lastFlagTime = s.lastFlagTime) : Fresh c (es ++ [e]) s' := by
  intro hgreen
  obtain ⟨after, hlast, hchecks⟩ := h (hsame ▸ hgreen)
  refine ⟨after ++ [e], htime ▸ hlast.concat hflag, ?_⟩
  rw [checkTimes_append, checkTimes_other hcheck, List.append_nil, htime]
  exact hchecks

/-- A check that leaves the flag green has found it fresh. -/
theorem checkFlagTimeout_green {c : Config R π} {s : ManagerState R π} {now : R}
    (h : (checkFlagTimeout c s now).vehicleFlag = GREEN) :
    checkFlagTimeout c s now = s ∧ now - s.lastFlagTime ≤ c.flagTimeout := by
  unfold checkFlagTimeout at h ⊢
  split at h
  · exact absurd h red_ne_green
  · rename_i hfresh
    rw [if_neg hfresh]
    refine ⟨rfl, le_of_not_gt fun hstale => hfresh ⟨hstale, ?_⟩⟩
    rw [h]
    exact red_ne_green.symm

theorem step_fresh (c : Config R π) (es : List (Event R)) (s : ManagerState R π) (e : Event R)
    (h : Fresh c es s) : Fresh c (es ++ [e]) (step c s e).state := by
  obtain ⟨now, callback⟩ := e
  cases callback with
  | shouldPublishControl data => exact h.concat (by simp) (by simp) rfl rfl
  | vehicleFlag flag =>
      intro hgreen
      have hflag : flag = GREEN := hgreen
      exact ⟨[], hflag ▸ LastFlag.of_message es now flag, by simp [checkTimes]⟩
  | localPath msg => exact h.concat (by simp) (by simp) rfl rfl
  | odom msg => exact h.concat (by simp) (by simp) rfl rfl
  | controlTimer =>
      have hsame := runStep_flag c s now
      exact h.concat (by simp) (by simp) hsame.1 hsame.2
  | flagCheckTimer =>
      intro hgreen
      have hcheck : (checkFlagTimeout c s now).vehicleFlag = GREEN := hgreen
      obtain ⟨hs, hfresh⟩ := checkFlagTimeout_green hcheck
      show ∃ after, LastFlag _ (checkFlagTimeout c s now).lastFlagTime GREEN after ∧
        ∀ t ∈ checkTimes after, t - (checkFlagTimeout c s now).lastFlagTime ≤ c.flagTimeout
      rw [hs]
      obtain ⟨after, hlast, hchecks⟩ := h (hs ▸ hgreen)
      refine ⟨after ++ [⟨now, .flagCheckTimer⟩], hlast.concat (by simp), ?_⟩
      intro t ht
      rw [checkTimes_append, checkTimes_check] at ht
      rcases List.mem_append.mp ht with ht | ht
      · exact hchecks t ht
      · rw [List.mem_singleton.mp ht]
        exact hfresh

/-- **Run lemma.**  Whatever the run, a green member is fresh. -/
theorem run_fresh {c : Config R π} {es : List (Event R)} {s : ManagerState R π}
    (h : (managerNode c).runFrom (init c) es = some s) : Fresh c es s := by
  refine (managerNode c).runFrom_induct_history (H := Fresh c) ?_ ?_ h
  · intro hgreen
    exact absurd hgreen red_ne_green
  · intro es s e hs _
    exact step_fresh c es s e hs

/-- What is published is the brake command, or else publishing is enabled and the member green. -/
theorem brake_or_green {c : Config R π} {s : ManagerState R π} {e : Event R} {source : Source}
    {msg : Control R} (h : .control source msg ∈ (step c s e).outputs) :
    (source = .brake ∧ msg = brakeControl) ∨
      s.shouldPublishControl = true ∧ s.vehicleFlag = GREEN := by
  obtain ⟨now, callback⟩ := e
  cases callback with
  | controlTimer =>
      have hmem : .control source msg ∈ (runStep c s now).outputs := h
      rcases runStep_cases c s now with hr | ⟨hpub, hgreen, -⟩
      · left
        rw [hr] at hmem
        simpa using hmem
      · exact .inr ⟨hpub, hgreen⟩
  | _ => exact absurd h List.not_mem_nil

end Invariant

/-! ### The bound -/

section Bound

variable {R π : Type*} [Field R] [LinearOrder R] [IsStrictOrderedRing R]

/-- **Fresh flags.**  A command that comes from the plugins, or differs from the brake command, is
published with publishing enabled and with `GREEN` as the last flag received, at `m`; no check since
has run later than the timeout after `m`, and with a timeout that is not negative no check at all has.
With a check at least every `d` seconds it comes at most `d` after the timeout has passed. -/
theorem pluginCommand_fresh (c : Config R π) (es : List (Event R)) (e : Event R)
    (s : ManagerState R π) (source : Source) (msg : Control R)
    (hclock : ClockFrom c.createdAt (es ++ [e]))
    (hrun : (managerNode c).runFrom (init c) es = some s)
    (hmsg : .control source msg ∈ (step c s e).outputs)
    (hsource : source = .plugins ∨ msg ≠ brakeControl) :
    s.shouldPublishControl = true ∧ ∃ m after, LastFlag es m GREEN after ∧
      (∀ t ∈ checkTimes after, t ≤ m + c.flagTimeout) ∧
      (0 ≤ c.flagTimeout → ∀ t ∈ checkTimes es, t ≤ m + c.flagTimeout) ∧
      ∀ d, ChecksEvery d c.createdAt (es ++ [e]) → e.now ≤ m + max c.flagTimeout 0 + d := by
  obtain ⟨hpub, hgreen⟩ : s.shouldPublishControl = true ∧ s.vehicleFlag = GREEN := by
    rcases brake_or_green hmsg with ⟨rfl, rfl⟩ | h
    · simp at hsource
    · exact h
  obtain ⟨after, hlast, hfresh⟩ := run_fresh hrun hgreen
  have hafter : ∀ t ∈ checkTimes after, t ≤ s.lastFlagTime + c.flagTimeout := by
    intro t ht
    have hcheck := hfresh t ht
    linarith
  obtain ⟨before, hsplit⟩ := hlast.split
  rw [hsplit, List.append_assoc, List.cons_append] at hclock
  refine ⟨hpub, s.lastFlagTime, after, hlast, hafter, ?_, ?_⟩
  · intro hnonneg
    rw [hsplit]
    exact checkTimes_le_of_message hclock (le_add_of_nonneg_right hnonneg) hafter
  · intro d hevery
    have hgap := (checksEvery_concat.mp hevery).2
    have hmax : s.lastFlagTime ≤ s.lastFlagTime + max c.flagTimeout 0 :=
      le_add_of_nonneg_right (le_max_right c.flagTimeout 0)
    have hlater : ∀ t ∈ checkTimes after, t ≤ s.lastFlagTime + max c.flagTimeout 0 := fun t ht =>
      (hafter t ht).trans (add_le_add_right (le_max_left c.flagTimeout 0) s.lastFlagTime)
    have hcheck : latest c.createdAt (checkTimes es) ≤ s.lastFlagTime + max c.flagTimeout 0 := by
      rcases latest_mem_or c.createdAt (checkTimes es) with hnone | hmem
      · -- no check has run at all
        rw [hnone]
        exact hclock.le.1.trans hmax
      · rw [hsplit] at hmem ⊢
        exact checkTimes_le_of_message hclock hmax hlater _ hmem
    linarith

end Bound

/-- A manager with one plugin, which always asks for full throttle. -/
def floorIt (flagTimeout : ℚ) : Config ℚ Unit where
  flagTimeout := flagTimeout
  plugins := [()]
  runPlugin := fun p _ _ control => .ok (p, { control with acceleration := 1 })
  getYaw := Quaternion.z
  createdAt := 0

/-- A green flag half a second after a check. -/
def greenAfterCheck : List (Event ℚ) := [⟨0, .flagCheckTimer⟩, ⟨1 / 2, .vehicleFlag GREEN⟩]

/-- The control tick that follows. -/
def nextTick : Event ℚ := ⟨7 / 10, .controlTimer⟩

/-- The state in which the tick finds the manager. -/
def greenState (flagTimeout : ℚ) : ManagerState ℚ Unit :=
  { init (floorIt flagTimeout) with vehicleFlag := GREEN, lastFlagTime := 1 / 2 }

theorem greenAfterCheck_clock : ClockFrom 0 (greenAfterCheck ++ [nextTick]) := by
  simp [ClockFrom, greenAfterCheck, nextTick]
  norm_num

theorem greenAfterCheck_checks : ChecksEvery 1 0 (greenAfterCheck ++ [nextTick]) := by
  have hnil : ChecksEvery (1 : ℚ) 0 [] := fun pre e hpre => by simp at hpre
  have hcheck : ChecksEvery (1 : ℚ) 0 ([] ++ [⟨0, .flagCheckTimer⟩]) :=
    checksEvery_concat.mpr ⟨hnil, show (0 : ℚ) ≤ 0 + 1 by norm_num⟩
  have hflag : ChecksEvery (1 : ℚ) 0 greenAfterCheck :=
    checksEvery_concat.mpr ⟨hcheck, show (1 / 2 : ℚ) ≤ 0 + 1 by norm_num⟩
  exact checksEvery_concat.mpr ⟨hflag, show (7 / 10 : ℚ) ≤ 0 + 1 by norm_num⟩

theorem greenAfterCheck_runs (flagTimeout : ℚ) :
    (managerNode (floorIt flagTimeout)).runFrom (init (floorIt flagTimeout)) greenAfterCheck =
      some (greenState flagTimeout) := by
  have hcheck : checkFlagTimeout (floorIt flagTimeout) (init (floorIt flagTimeout)) 0 =
      init (floorIt flagTimeout) := if_neg fun h => h.2 rfl
  show some (step (floorIt flagTimeout)
    (checkFlagTimeout (floorIt flagTimeout) (init (floorIt flagTimeout)) 0) _).state = _
  rw [hcheck]
  rfl

theorem nextTick_publishes (flagTimeout : ℚ) :
    .control .plugins { (newControl : Control ℚ) with acceleration := 1 } ∈
      (step (floorIt flagTimeout) (greenState flagTimeout) nextTick).outputs :=
  List.mem_singleton.mpr rfl

/-- The tick with the default timeout of one second. -/
theorem greenAfterCheck_fresh :
    (greenState 1).shouldPublishControl = true ∧
    ∃ m after, LastFlag greenAfterCheck m GREEN after ∧
      (∀ t ∈ checkTimes after, t ≤ m + (floorIt 1).flagTimeout) ∧
      (0 ≤ (floorIt 1).flagTimeout →
        ∀ t ∈ checkTimes greenAfterCheck, t ≤ m + (floorIt 1).flagTimeout) ∧
      ∀ d, ChecksEvery d (floorIt 1).createdAt (greenAfterCheck ++ [nextTick]) →
        nextTick.now ≤ m + max (floorIt 1).flagTimeout 0 + d :=
  pluginCommand_fresh (floorIt 1) greenAfterCheck nextTick (greenState 1) .plugins _
    greenAfterCheck_clock (greenAfterCheck_runs 1) (nextTick_publishes 1) (.inl rfl)

/-- With a negative timeout the tick is later than the timeout and a check interval allow: nothing has
looked at the clock since the message came. -/
theorem negative_timeout_exceeded :
    ¬ ∀ (c : Config ℚ Unit) (es : List (Event ℚ)) (e : Event ℚ) (s : ManagerState ℚ Unit)
        (msg : Control ℚ) (m d : ℚ) (after : List (Event ℚ)),
      ClockFrom c.createdAt (es ++ [e]) → (managerNode c).runFrom (init c) es = some s →
      .control .plugins msg ∈ (step c s e).outputs → ChecksEvery d c.createdAt (es ++ [e]) →
      LastFlag es m GREEN after → e.now ≤ m + c.flagTimeout + d := by
  intro h
  have hlate := h (floorIt (-2)) greenAfterCheck nextTick (greenState (-2)) _ (1 / 2) 1 []
    greenAfterCheck_clock (greenAfterCheck_runs (-2)) (nextTick_publishes (-2))
    greenAfterCheck_checks (LastFlag.of_message [⟨0, .flagCheckTimer⟩] (1 / 2) GREEN)
  norm_num [nextTick, floorIt] at hlate

end HitchOpen.SimpleControl
