import HitchOpen.Library.EventMachine
import Mathlib.Algebra.BigOperators.Group.List.Basic
import Mathlib.Algebra.Ring.Int.Defs
import Mathlib.Data.List.DropRight
import Mathlib.Data.List.MinMax
import Mathlib.Order.Lattice

/-!
# The cycle profiler

`CycleProfiler` keeps the durations of the latest cycles in a `boost::circular_buffer` and summarises
them.  It is meant to be a sliding window over the durations that were measured; `Window` is that.

`set_window` does not change the capacity of the buffer but resizes it: a larger window is filled up
with zeros that nobody measured, and a smaller one keeps the oldest durations and leaves room for more
than it should.  `Fits` singles out the calls at which this makes no difference, and
`profile_eq_window` is what the profiler does as long as there are no others.

The ring buffer is a parameter of the model, with its documentation in `CircularBuffer.Documented`.
Durations are whole numbers of some unit, of either sign; the system clock can be set back.  They are
unbounded: the overflow of the duration type, and of the sum behind the mean, is left out.
-/

namespace HitchOpen.BaseCommon

open HitchOpen.EventMachine

/-- What the profiler uses of `boost::circular_buffer<Duration>`. -/
structure CircularBuffer (B : Type*) where
  /-- The default constructor. -/
  empty : B
  withCapacity : ℕ → B
  pushBack : B → ℤ → B
  resize : B → ℕ → B
  capacity : B → ℕ
  /-- The elements, the oldest one first. -/
  elements : B → List ℤ

/-- The documentation of `boost::circular_buffer`. -/
structure CircularBuffer.Documented {B : Type*} (cb : CircularBuffer B) : Prop where
  empty : cb.elements cb.empty = [] ∧ cb.capacity cb.empty = 0
  withCapacity : ∀ n, cb.elements (cb.withCapacity n) = [] ∧ cb.capacity (cb.withCapacity n) = n
  length_le : ∀ b, (cb.elements b).length ≤ cb.capacity b
  pushBack_capacity : ∀ b x, cb.capacity (cb.pushBack b x) = cb.capacity b
  pushBack_room : ∀ b x, (cb.elements b).length < cb.capacity b →
    cb.elements (cb.pushBack b x) = cb.elements b ++ [x]
  pushBack_full : ∀ b x, 0 < cb.capacity b → (cb.elements b).length = cb.capacity b →
    cb.elements (cb.pushBack b x) = (cb.elements b).tail ++ [x]
  pushBack_zero : ∀ b x, cb.capacity b = 0 → cb.elements (cb.pushBack b x) = cb.elements b
  resize_capacity : ∀ b n, cb.capacity (cb.resize b n) = max (cb.capacity b) n
  /-- New elements are value-initialized. -/
  resize_elements : ∀ b n, cb.elements (cb.resize b n) =
    (cb.elements b).take n ++ List.replicate (n - (cb.elements b).length) 0

structure Profile where
  mean : ℤ
  max : ℤ
  min : ℤ
  deriving DecidableEq

structure Config (B : Type*) where
  buffer : CircularBuffer B
  /-- `std::chrono::duration_cast` from the ticks of the system clock. -/
  durationCast : ℤ → ℤ

/-- The members. -/
structure CycleProfiler (B : Type*) where
  durations : B
  lastStartTime : ℤ

/-- A call of a member function; `start` and `end` come with a reading of the clock. -/
inductive Call
  | setWindow (window : ℕ)
  | start (now : ℤ)
  /-- `end`. -/
  | endCycle (now : ℤ)

section Profiler

variable {B : Type*}

/-- The two constructors. -/
def create (c : Config B) : Option ℕ → CycleProfiler B
  | none => ⟨c.buffer.empty, 0⟩
  | some window => ⟨c.buffer.withCapacity window, 0⟩

def call (c : Config B) (p : CycleProfiler B) : Call → CycleProfiler B
  | .setWindow window => { p with durations := c.buffer.resize p.durations window }
  | .start now => { p with lastStartTime := now }
  | .endCycle now =>
      { p with durations := c.buffer.pushBack p.durations (c.durationCast (now - p.lastStartTime)) }

/-- The loop of `profile`. -/
def profileLoop : List ℤ → Profile → Profile
  | [], result => result
  | duration :: durations, result =>
      profileLoop durations {
        mean := result.mean + duration
        max := if duration > result.max then duration else result.max
        min := if duration < result.min then duration else result.min }

/-- What `profile` makes of the elements of the buffer. -/
def profileOf (durations : List ℤ) : Profile :=
  match durations with
  | [] => ⟨0, 0, 0⟩
  | first :: _ =>
      let result := profileLoop durations ⟨0, first, first⟩
      { result with mean := result.mean.tdiv durations.length }

def profile (c : Config B) (p : CycleProfiler B) : Profile := profileOf (c.buffer.elements p.durations)

end Profiler

/-! ### The sliding window -/

/-- The most recent durations that were measured, and how many of them are to be kept. -/
structure Window where
  window : ℕ
  durations : List ℤ
  lastStartTime : ℤ

def Window.create (window : Option ℕ) : Window := ⟨window.getD 0, [], 0⟩

def Window.call (durationCast : ℤ → ℤ) (r : Window) : Call → Window
  | .setWindow window => { r with window := window, durations := r.durations.rtake window }
  | .start now => { r with lastStartTime := now }
  | .endCycle now =>
      { r with
        durations := (r.durations ++ [durationCast (now - r.lastStartTime)]).rtake r.window }

/-- The mean, the largest and the smallest of the durations, or zeros when there are none. -/
def Window.profile (r : Window) : Profile where
  mean := r.durations.sum.tdiv r.durations.length
  max := r.durations.max?.getD 0
  min := r.durations.min?.getD 0

theorem rtake_of_length_le {α : Type*} {xs : List α} {n : ℕ} (h : xs.length ≤ n) :
    xs.rtake n = xs := by
  rw [List.rtake, Nat.sub_eq_zero_of_le h, List.drop_zero]

theorem length_rtake_le {α : Type*} (xs : List α) (n : ℕ) : (xs.rtake n).length ≤ n := by
  rw [List.rtake, List.length_drop]
  omega

/-- A full window makes room for one more element by dropping its oldest. -/
theorem rtake_concat_full {α : Type*} {xs : List α} {n : ℕ} (hn : 0 < n) (h : xs.length = n) (x : α) :
    (xs ++ [x]).rtake n = xs.tail ++ [x] := by
  have hone : (xs ++ [x]).length - n = 1 := by
    rw [List.length_append, List.length_singleton]
    omega
  have hne : xs ≠ [] := by
    rintro rfl
    simp at h
    omega
  rw [List.rtake, hone, List.drop_one, List.tail_append_of_ne_nil hne]

/-! ### The summary -/

theorem profileLoop_eq (durations : List ℤ) (result : Profile) :
    profileLoop durations result =
      ⟨result.mean + durations.sum, durations.foldl max result.max,
        durations.foldl min result.min⟩ := by
  induction durations generalizing result with
  | nil => simp [profileLoop]
  | cons duration durations ih =>
      have hmax : (if duration > result.max then duration else result.max) =
          max result.max duration := by
        rw [max_def]
        split <;> split <;> omega
      have hmin : (if duration < result.min then duration else result.min) =
          min result.min duration := by
        rw [min_def]
        split <;> split <;> omega
      rw [profileLoop, ih, hmax, hmin, List.sum_cons, List.foldl_cons, List.foldl_cons]
      simp only [add_assoc]

/-- The summary of a window over exactly the elements of the buffer. -/
theorem profileOf_eq (r : Window) : profileOf r.durations = r.profile := by
  rw [Window.profile]
  cases hr : r.durations with
  | nil => rfl
  | cons first rest =>
      have hmax : (first :: rest).foldl max first = rest.foldl max first := by simp
      have hmin : (first :: rest).foldl min first = rest.foldl min first := by simp
      simp only [profileOf, profileLoop_eq, List.max?_cons', List.min?_cons', Option.getD_some, zero_add,
        hmax, hmin]

/-- Zeros are summarised like no duration at all. -/
theorem profileOf_zeros (n : ℕ) : profileOf (List.replicate n 0) = ⟨0, 0, 0⟩ := by
  have hmax : ∀ m, (List.replicate m (0 : ℤ)).foldl max 0 = 0 := by
    intro m
    induction m with
    | zero => rfl
    | succ m ih => rw [List.replicate_succ, List.foldl_cons, max_self, ih]
  have hmin : ∀ m, (List.replicate m (0 : ℤ)).foldl min 0 = 0 := by
    intro m
    induction m with
    | zero => rfl
    | succ m ih => rw [List.replicate_succ, List.foldl_cons, min_self, ih]
  cases n with
  | zero => rfl
  | succ n =>
      have hcons : List.replicate (n + 1) (0 : ℤ) = 0 :: List.replicate n 0 := List.replicate_succ
      simp only [profileOf, hcons]
      rw [← hcons, profileLoop_eq, hmax, hmin]
      simp

/-! ### The profiler beside the window -/

section Run

variable {B : Type*}

/-- The profiler and the window get the same calls. -/
def besideWindow (c : Config B) (window : Option ℕ) :
    Machine (CycleProfiler B × Window) Call Unit Unit where
  init := (create c window, Window.create window)
  step s e := .done (call c s.1 e, s.2.call c.durationCast e) []

/-- The buffer holds the durations of the window, or nothing but zeros while the window is empty. -/
structure Tracks (c : Config B) (p : CycleProfiler B) (r : Window) : Prop where
  elements : c.buffer.elements p.durations = r.durations ∨
    r.durations = [] ∧ ∃ n, c.buffer.elements p.durations = List.replicate n 0
  lastStartTime : p.lastStartTime = r.lastStartTime
  length_le : r.durations.length ≤ r.window

/-- A call at which the buffer does what the window does: a new window that finds nothing to keep,
keeps everything or keeps nothing, or a duration that is added to a buffer of the right capacity with
no zeros in it, or at most one, which makes room for it. -/
def Fits (c : Config B) (s : CycleProfiler B × Window) : Call → Prop
  | .setWindow window =>
      s.2.durations = [] ∨ window = s.2.durations.length ∨ window = 0
  | .start _ => True
  | .endCycle _ =>
      c.buffer.capacity s.1.durations = s.2.window ∧
        ((c.buffer.elements s.1.durations).length = s.2.durations.length ∨ s.2.window = 1)

instance decidableFits (c : Config B) (s : CycleProfiler B × Window) : ∀ e, Decidable (Fits c s e)
  | .setWindow _ => inferInstanceAs (Decidable (_ ∨ _ ∨ _))
  | .start _ => isTrue trivial
  | .endCycle _ => inferInstanceAs (Decidable (_ ∧ (_ ∨ _)))

/-- With room for another duration, the buffer takes it in as the window does. -/
theorem Tracks.concat_room {c : Config B} {p : CycleProfiler B} {r : Window} (h : Tracks c p r)
    (hsize : (c.buffer.elements p.durations).length = r.durations.length ∨ r.window = 1)
    (hroom : (c.buffer.elements p.durations).length < r.window) (x : ℤ) :
    c.buffer.elements p.durations ++ [x] = (r.durations ++ [x]).rtake r.window := by
  have heq : c.buffer.elements p.durations = r.durations := by
    rcases h.elements with heq | ⟨hnil, -⟩
    · exact heq
    · rw [hnil] at hsize ⊢
      refine List.eq_nil_of_length_eq_zero ?_
      rcases hsize with hsame | hone
      · exact hsame
      · omega
  rw [heq, rtake_of_length_le]
  rw [List.length_append, List.length_singleton, ← heq]
  exact hroom

/-- A full buffer drops the oldest duration, or the only zero. -/
theorem Tracks.concat_full {c : Config B} {p : CycleProfiler B} {r : Window} (h : Tracks c p r)
    (hpos : 0 < r.window)
    (hsize : (c.buffer.elements p.durations).length = r.durations.length ∨ r.window = 1)
    (hfull : (c.buffer.elements p.durations).length = r.window) (x : ℤ) :
    (c.buffer.elements p.durations).tail ++ [x] = (r.durations ++ [x]).rtake r.window := by
  rcases h.elements with heq | ⟨hnil, -⟩
  · rw [heq] at hfull ⊢
    exact (rtake_concat_full hpos hfull x).symm
  · have hone : r.window = 1 := by
      rcases hsize with hsame | hone
      · rw [hnil, List.length_nil] at hsame
        omega
      · exact hone
    have htail : (c.buffer.elements p.durations).tail = [] := by
      apply List.eq_nil_of_length_eq_zero
      rw [List.length_tail]
      omega
    rw [htail, hnil, hone]
    rfl

variable {c : Config B} (hbuffer : c.buffer.Documented)
include hbuffer

theorem create_tracks (window : Option ℕ) : Tracks c (create c window) (Window.create window) := by
  cases window with
  | none => exact ⟨.inl hbuffer.empty.1, rfl, Nat.zero_le _⟩
  | some window => exact ⟨.inl (hbuffer.withCapacity window).1, rfl, Nat.zero_le _⟩

theorem setWindow_tracks {p : CycleProfiler B} {r : Window} (h : Tracks c p r) {window : ℕ}
    (hfits : Fits c (p, r) (.setWindow window)) :
    Tracks c (call c p (.setWindow window)) (r.call c.durationCast (.setWindow window)) := by
  refine ⟨?_, h.lastStartTime, ?_⟩
  · show c.buffer.elements (c.buffer.resize p.durations window) = r.durations.rtake window ∨
      r.durations.rtake window = [] ∧
        ∃ n, c.buffer.elements (c.buffer.resize p.durations window) = List.replicate n 0
    rw [hbuffer.resize_elements]
    by_cases hnil : r.durations = []
    · -- zeros are cut off, or more of them added
      have hzeros : ∃ n, c.buffer.elements p.durations = List.replicate n 0 := by
        rcases h.elements with heq | ⟨-, hz⟩
        · exact ⟨0, heq.trans hnil⟩
        · exact hz
      obtain ⟨n, hn⟩ := hzeros
      refine .inr ⟨by rw [hnil, List.rtake_nil], ?_⟩
      rw [hn, List.take_replicate, List.replicate_append_replicate]
      exact ⟨_, rfl⟩
    · have heq : c.buffer.elements p.durations = r.durations :=
        h.elements.resolve_right fun hr => hnil hr.1
      rcases hfits with hf | rfl | rfl
      · exact absurd hf hnil
      · rw [heq, List.take_length, Nat.sub_self, rtake_of_length_le (Nat.le_refl _)]
        exact .inl (List.append_nil _)
      · rw [List.take_zero, Nat.zero_sub, List.rtake_zero]
        exact .inl rfl
  · exact length_rtake_le r.durations window

theorem endCycle_tracks {p : CycleProfiler B} {r : Window} (h : Tracks c p r) {now : ℤ}
    (hfits : Fits c (p, r) (.endCycle now)) :
    Tracks c (call c p (.endCycle now)) (r.call c.durationCast (.endCycle now)) := by
  obtain ⟨hcapacity, hsize⟩ := hfits
  dsimp only at hcapacity hsize
  refine ⟨.inl ?_, h.lastStartTime, length_rtake_le (r.durations ++ [_]) r.window⟩
  show c.buffer.elements (c.buffer.pushBack p.durations _) = List.rtake (r.durations ++ [_]) r.window
  rw [h.lastStartTime]
  have hle := hbuffer.length_le p.durations
  rcases Nat.eq_zero_or_pos r.window with hzero | hpos
  · -- nothing is kept
    rw [hbuffer.pushBack_zero _ _ (hcapacity.trans hzero), hzero, List.rtake_zero]
    exact List.eq_nil_of_length_eq_zero (by omega)
  · by_cases hroom : (c.buffer.elements p.durations).length < c.buffer.capacity p.durations
    · rw [hbuffer.pushBack_room _ _ hroom]
      exact h.concat_room hsize (hcapacity ▸ hroom) _
    · have hfull : (c.buffer.elements p.durations).length = c.buffer.capacity p.durations := by omega
      rw [hbuffer.pushBack_full _ _ (hcapacity ▸ hpos) hfull]
      exact h.concat_full hpos hsize (hfull.trans hcapacity) _

theorem call_tracks {p : CycleProfiler B} {r : Window} (h : Tracks c p r) (e : Call)
    (hfits : Fits c (p, r) e) : Tracks c (call c p e) (r.call c.durationCast e) := by
  cases e with
  | setWindow window => exact setWindow_tracks hbuffer h hfits
  | start now => exact ⟨h.elements, rfl, h.length_le⟩
  | endCycle now => exact endCycle_tracks hbuffer h hfits

end Run

theorem Tracks.profile_eq {B : Type*} {c : Config B} {p : CycleProfiler B} {r : Window}
    (h : Tracks c p r) : profile c p = r.profile := by
  rw [profile]
  rcases h.elements with heq | ⟨hnil, n, hn⟩
  · rw [heq, profileOf_eq]
  · rw [hn, profileOf_zeros, Window.profile, hnil]
    rfl

/-- **Profiles.**  As long as all calls fit, the profiler reports what the sliding window holds, in
every state it passes through. -/
theorem profile_eq_window {B : Type*} (c : Config B) (hbuffer : c.buffer.Documented)
    (window : Option ℕ) (calls : List Call)
    (hfits : (besideWindow c window).EachStep (besideWindow c window).init calls (Fits c)) :
    (besideWindow c window).EachState (besideWindow c window).init calls
      fun s => profile c s.1 = s.2.profile := by
  have htracks : (besideWindow c window).EachState (besideWindow c window).init calls
      fun s => Tracks c s.1 s.2 :=
    (besideWindow c window).eachState_of_eachStep (I := fun _ => True) trivial
      (fun _ _ _ _ _ => trivial) (create_tracks hbuffer window)
      (fun s e _ hs hf _ => call_tracks hbuffer hs e hf) hfits
  intro pre s hpre hrun
  exact (htracks pre s hpre hrun).profile_eq

/-! ### A buffer on which runs can be evaluated -/

/-- A ring buffer as the list of its elements. -/
structure ListBuffer where
  capacity : ℕ
  elements : List ℤ
  bounded : elements.length ≤ capacity

def ListBuffer.pushBack (b : ListBuffer) (x : ℤ) : ListBuffer where
  capacity := b.capacity
  elements := (b.elements ++ [x]).rtake b.capacity
  bounded := length_rtake_le _ _

def ListBuffer.resize (b : ListBuffer) (n : ℕ) : ListBuffer where
  capacity := max b.capacity n
  elements := b.elements.take n ++ List.replicate (n - b.elements.length) 0
  bounded := by
    rw [List.length_append, List.length_take, List.length_replicate]
    omega

def listBuffer : CircularBuffer ListBuffer where
  empty := ⟨0, [], Nat.le_refl 0⟩
  withCapacity n := ⟨n, [], Nat.zero_le n⟩
  pushBack := ListBuffer.pushBack
  resize := ListBuffer.resize
  capacity := ListBuffer.capacity
  elements := ListBuffer.elements

theorem listBuffer_documented : listBuffer.Documented where
  empty := ⟨rfl, rfl⟩
  withCapacity _ := ⟨rfl, rfl⟩
  length_le b := b.bounded
  pushBack_capacity _ _ := rfl
  pushBack_room b x h := by
    show (b.elements ++ [x]).rtake b.capacity = b.elements ++ [x]
    refine rtake_of_length_le ?_
    rw [List.length_append]
    exact h
  pushBack_full _ x hpos h := rtake_concat_full hpos h x
  pushBack_zero b x h := by
    have hzero : b.capacity = 0 := h
    have hnil : b.elements = [] := List.eq_nil_of_length_eq_zero (by have := b.bounded; omega)
    show (b.elements ++ [x]).rtake b.capacity = b.elements
    rw [hzero, List.rtake_zero, hnil]
  resize_capacity _ _ := rfl
  resize_elements _ _ := rfl

/-- Durations in the ticks of the clock. -/
def ticks : Config ListBuffer := ⟨listBuffer, id⟩

/-- A window of two is set up by the constructor, and set once more when it is full. -/
theorem profile_windowOfTwo :
    (besideWindow ticks (some 2)).EachState (besideWindow ticks (some 2)).init
      [.start 0, .endCycle 4, .endCycle 6, .setWindow 2, .endCycle 9]
      fun s => profile ticks s.1 = s.2.profile :=
  profile_eq_window ticks listBuffer_documented (some 2) _ (by decide)

/-- The window is set to three before the first cycle, which takes five ticks.  Its duration is
reported together with two that were never measured. -/
theorem profile_not_measured :
    ¬ ∀ window calls, (besideWindow ticks window).EachState (besideWindow ticks window).init calls
      fun s => profile ticks s.1 = s.2.profile := by
  intro h
  have hstate := h none [.setWindow 3, .start 0, .endCycle 5]
  revert hstate
  decide

end HitchOpen.BaseCommon
