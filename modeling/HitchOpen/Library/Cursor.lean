import HitchOpen.Library.PrefixCode

/-!
# Readers that move a cursor

A reader of this kind keeps the whole text and an offset into it, and it fails with an error when what it
looks for is not there.  `Follows` compares it with a decoder, which sees only the rest of the text: they
find the same items, leave off at the same place, and where the one finds nothing the other fails with an
error of the expected kind.

A reader that follows a decoder never looks outside the text, if looking there is not an expected error.
-/

namespace HitchOpen.Cursor

open PrefixCode

/-- A computation with an offset that may fail. -/
abbrev Reader (ε β : Type) := StateT ℕ (Except ε) β

variable {α ε β γ : Type} {text : List α} {E : ε → Prop}

/-- The reader `r` of `text` does what the decoder `d` does, and its errors are in `E`. -/
def Follows (text : List α) (E : ε → Prop) (r : Reader ε β) (d : Decoder α β) : Prop :=
  ∀ offset, offset ≤ text.length →
    (∃ b next, next ≤ text.length ∧ r.run offset = .ok (b, next) ∧
      d (text.drop offset) = some (b, text.drop next)) ∨
    (∃ e, E e ∧ r.run offset = .error e ∧ d (text.drop offset) = none)

theorem Follows.mono {E' : ε → Prop} {r : Reader ε β} {d : Decoder α β} (h : Follows text E r d)
    (hE : ∀ e, E e → E' e) : Follows text E' r d := by
  intro offset hoffset
  obtain hfound | ⟨e, he, hr, hd⟩ := h offset hoffset
  · exact .inl hfound
  · exact .inr ⟨e, hE e he, hr, hd⟩

theorem follows_pure (b : β) : Follows text E (pure b) (.pure b) :=
  fun offset h => .inl ⟨b, offset, h, rfl, rfl⟩

theorem Follows.bind {r : Reader ε β} {d : Decoder α β} {f : β → Reader ε γ} {g : β → Decoder α γ}
    (h : Follows text E r d) (hf : ∀ b, Follows text E (f b) (g b)) :
    Follows text E (r >>= f) (d.andThen g) := by
  intro offset hoffset
  obtain ⟨b, mid, hmid, hr, hd⟩ | ⟨e, he, hr, hd⟩ := h offset hoffset
  · have hrun : (r >>= f).run offset = (f b).run mid := by
      rw [StateT.run_bind, hr]
      rfl
    have hdec : d.andThen g (text.drop offset) = g b (text.drop mid) := by
      rw [Decoder.andThen, hd]
      rfl
    rw [hrun, hdec]
    exact hf b mid hmid
  · refine .inr ⟨e, he, ?_, ?_⟩
    · rw [StateT.run_bind, hr]
      rfl
    · rw [Decoder.andThen, hd]
      rfl

theorem Follows.map {r : Reader ε β} {d : Decoder α β} (g : β → γ) (h : Follows text E r d) :
    Follows text E (r >>= fun b => pure (g b)) (d.map g) := h.bind fun b => follows_pure (g b)

theorem Follows.mapM {ι : Type} {r : ι → Reader ε β} {d : ι → Decoder α β} {is : List ι}
    (h : ∀ i, Follows text E (r i) (d i)) : Follows text E (is.mapM r) (Decoder.each d is) := by
  induction is with
  | nil => exact follows_pure []
  | cons i is ih =>
      rw [List.mapM_cons]
      exact (h i).bind fun b => ih.map _

end HitchOpen.Cursor
