import Mathlib.Algebra.Order.Field.Rat
import Mathlib.Data.Rat.Floor
import Mathlib.Data.Rat.Sqrt
import Mathlib.Tactic.Linarith

/-!
# What the nodes take from Python, C++ and the math libraries

The nodes are written in two languages, and each ends a process in its own way: an exception that a
Python callback does not catch leaves `rclpy.spin`, and a C++ handler can run into undefined
behaviour.  Both are data here, so that a model says where they happen.

Floating point numbers are taken as exact: a model works over an ordered field `R` with a square
root, so that it can be evaluated over `ℚ` and reasoned about over any such field.
-/

namespace HitchOpen.Runtime

/-! ### Numbers -/

-- Named, so that a literal is the same term in every definition that uses it.
scoped instance twoAtLeastTwo : Nat.AtLeastTwo 2 := ⟨le_refl 2⟩
scoped instance threeAtLeastTwo : Nat.AtLeastTwo 3 := ⟨Nat.le_succ 2⟩
scoped instance tenAtLeastTwo : Nat.AtLeastTwo 10 := ⟨by decide⟩

/-- The exceptions that the Python callbacks can raise. -/
inductive PyError
  | typeError
  | keyError
  | attributeError
  deriving DecidableEq, Repr

/-- The undefined behaviours that the C++ code can reach.  `diverges` stands for a loop that is still
running when its fuel is used up. -/
inductive Undefined
  | nullDereference
  | outOfRange
  | invalidRange
  | conversion
  | diverges
  deriving DecidableEq, Repr

/-- `str.lower`, as far as it can produce ASCII text: the Kelvin sign U+212A is the one character
beyond ASCII whose lower case is an ASCII letter. -/
def lower (s : String) : String :=
  s.map fun ch => if ch = '\u212a' then 'k' else ch.toLower

/-- `std::sqrt` and the root inside `np.linalg.norm`. -/
class Sqrt (R : Type*) where
  sqrt : R → R

export Sqrt (sqrt)

/-- On a perfect square this is the root itself. -/
instance : Sqrt ℚ := ⟨Rat.sqrt⟩

/-- `math.sin`, `math.cos` and `math.pi`. -/
class Trig (R : Type*) where
  sin : R → R
  cos : R → R
  pi : R

/-- `np.dot` of two plane vectors. -/
def dot {R : Type*} [Add R] [Mul R] (a b : R × R) : R := a.1 * b.1 + a.2 * b.2

/-- `np.linalg.norm` of a plane vector. -/
def norm {R : Type*} [Add R] [Mul R] [Sqrt R] (a : R × R) : R := sqrt (dot a a)

/-- A computation goes through exactly when both of its parts do. -/
theorem bind_ok_iff {ε α β : Type*} {x : Except ε α} {f : α → Except ε β} {b : β} :
    x.bind f = .ok b ↔ ∃ a, x = .ok a ∧ f a = .ok b := by
  cases x <;> simp [Except.bind]

/-- A computation fails exactly when one of its parts does. -/
theorem bind_error_iff {ε α β : Type*} {x : Except ε α} {f : α → Except ε β} {e : ε} :
    x.bind f = .error e ↔ x = .error e ∨ ∃ a, x = .ok a ∧ f a = .error e := by
  cases x <;> simp [Except.bind]

theorem ok_bind.{u, v} {ε : Type u} {α β : Type v} (a : α) (f : α → Except ε β) : ((.ok a : Except ε α) >>= f) = f a := rfl

theorem error_bind.{u, v} {ε : Type u} {α β : Type v} (e : ε) (f : α → Except ε β) :
    ((.error e : Except ε α) >>= f) = .error e := rfl

/-- `v[i]` of a `std::vector`. -/
def vectorAt {α : Type*} (v : List α) (i : ℕ) : Except Undefined α :=
  match v[i]? with
  | some x => .ok x
  | none => .error .outOfRange

/-- What an insertion from `v.begin() + first` to `v.begin() + last` copies. -/
def iteratorRange {α : Type*} (v : List α) (first last : ℕ) : Except Undefined (List α) :=
  if first ≤ last ∧ last ≤ v.length then .ok ((v.take last).drop first) else .error .invalidRange

theorem vectorAt_of_getElem? {α : Type*} {v : List α} {i : ℕ} {x : α} (h : v[i]? = some x) :
    vectorAt v i = .ok x := by
  rw [vectorAt, h]

theorem vectorAt_ok_iff {α : Type*} {v : List α} {i : ℕ} :
    (∃ x, vectorAt v i = .ok x) ↔ i < v.length := by
  rw [vectorAt]
  cases h : v[i]? with
  | none => simpa using List.getElem?_eq_none_iff.mp h
  | some x => simpa using (List.getElem?_eq_some_iff.mp h).1

theorem vectorAt_error {α : Type*} {v : List α} {i : ℕ} {u : Undefined}
    (h : vectorAt v i = .error u) : u = .outOfRange := by
  rw [vectorAt] at h
  cases hv : v[i]? with
  | none =>
      rw [hv] at h
      cases h
      rfl
  | some x =>
      rw [hv] at h
      cases h

theorem iteratorRange_error {α : Type*} {v : List α} {first last : ℕ} {u : Undefined}
    (h : iteratorRange v first last = .error u) : u = .invalidRange := by
  by_cases hr : first ≤ last ∧ last ≤ v.length
  · rw [iteratorRange, if_pos hr] at h
    cases h
  · rw [iteratorRange, if_neg hr] at h
    cases h
    rfl

theorem iteratorRange_ok {α : Type*} {v : List α} {first last : ℕ} (h : first ≤ last)
    (hlast : last ≤ v.length) : iteratorRange v first last = .ok ((v.take last).drop first) :=
  if_pos ⟨h, hlast⟩

section Conversion

variable {R : Type*} [Field R] [LinearOrder R] [FloorSemiring R]

/-- The truncated value is one of `size_t`. -/
def FitsSizeT (x : R) : Prop := -1 < x ∧ x < 2 ^ 64

instance (x : R) : Decidable (FitsSizeT x) := inferInstanceAs (Decidable (_ ∧ _))

/-- The conversion of a `double` argument to `size_t`, which truncates; it is undefined when the result
does not fit. -/
def sizeTOfDouble (x : R) : Except Undefined ℕ :=
  if FitsSizeT x then .ok ⌊x⌋₊ else .error .conversion

theorem sizeTOfDouble_ok {x : R} (h : FitsSizeT x) : sizeTOfDouble x = .ok ⌊x⌋₊ := if_pos h

theorem sizeTOfDouble_error {x : R} (h : ¬ FitsSizeT x) : sizeTOfDouble x = .error .conversion :=
  if_neg h

theorem sizeTOfDouble_error_eq {x : R} {u : Undefined} (h : sizeTOfDouble x = .error u) :
    u = .conversion := by
  by_cases hx : FitsSizeT x
  · rw [sizeTOfDouble_ok hx] at h
    cases h
  · rw [sizeTOfDouble_error hx] at h
    cases h
    rfl

end Conversion

end HitchOpen.Runtime
