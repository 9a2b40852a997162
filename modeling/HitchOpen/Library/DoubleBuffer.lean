import Mathlib.Data.List.Basic
import Mathlib.Data.List.Infix

/-!
# A queue with two buffers

One buffer is being carried out while the other one collects what is put in meanwhile; when the first is
done the second one takes its place.  Nothing waits while nothing is under way.

What has been put in comes out once and in order: `all` grows by what is put in and by nothing else, and
`done` is its beginning.  After two completions with nothing put in between, everything is out.
-/

namespace HitchOpen.DoubleBuffer

structure Lane (μ : Type*) where
  done : List μ
  underway : List μ
  waiting : List μ
  idle : underway = [] → waiting = []

namespace Lane

variable {μ : Type*}

def empty : Lane μ := ⟨[], [], [], fun _ => rfl⟩

/-- Everything that has been put in. -/
def all (l : Lane μ) : List μ := l.done ++ l.underway ++ l.waiting

/-- An item goes under way at once if nothing is. -/
def put (l : Lane μ) (m : μ) : Lane μ :=
  if h : l.underway = [] then ⟨l.done, [m], [], fun _ => rfl⟩
  else ⟨l.done, l.underway, l.waiting ++ [m], fun hnil => absurd hnil h⟩

/-- What is under way is out. -/
def complete (l : Lane μ) : Lane μ := ⟨l.done ++ l.underway, l.waiting, [], fun _ => rfl⟩

theorem put_idle {l : Lane μ} (m : μ) (h : l.underway = []) :
    l.put m = ⟨l.done, [m], [], fun _ => rfl⟩ := dif_pos h

theorem put_busy {l : Lane μ} (m : μ) (h : l.underway ≠ []) :
    l.put m = ⟨l.done, l.underway, l.waiting ++ [m], fun hnil => absurd hnil h⟩ := dif_neg h

theorem all_put (l : Lane μ) (m : μ) : (l.put m).all = l.all ++ [m] := by
  by_cases h : l.underway = []
  · rw [l.put_idle m h, all, all, h, l.idle h]
    simp
  · rw [l.put_busy m h, all, all]
    exact (List.append_assoc _ _ _).symm

theorem all_complete (l : Lane μ) : l.complete.all = l.all := List.append_nil _

theorem done_complete_complete (l : Lane μ) : l.complete.complete.done = l.all := rfl

end Lane

end HitchOpen.DoubleBuffer
