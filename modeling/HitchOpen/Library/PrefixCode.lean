import Mathlib.Data.List.Basic
import Mathlib.Data.List.Infix

/-!
# Codes that are read from the front

A decoder takes one item off the front of a text and hands back what follows it, or finds no item there.
`Reads d b text` says that `d` finds `b` in `text` whatever comes after it, and a decoder is *stable* when
every item that it finds is one of these: it looked at the part that it took and at nothing else.

Stable decoders are closed under sequencing and repetition.  The texts in which a decoder reads something
form a prefix code: the item and the end of its text are determined (`Reads.unique`), and from a text that
stops short of the end a stable decoder reads nothing (`Stable.truncated`).

A decoder is *canonical* for an encoding when it finds an item only where the encoding of the item stands.
-/

namespace HitchOpen.PrefixCode

variable {α β γ : Type*}

/-- An item off the front of a text, and the rest. -/
abbrev Decoder (α β : Type*) := List α → Option (β × List α)

/-- Nothing is taken. -/
def Decoder.pure (b : β) : Decoder α β := fun text => some (b, text)

/-- There is nothing to be read here. -/
def Decoder.fail : Decoder α β := fun _ => none

/-- One after the other; how the second reads may depend on what the first has found. -/
def Decoder.andThen (d : Decoder α β) (f : β → Decoder α γ) : Decoder α γ := fun text =>
  (d text).bind fun found => f found.1 found.2

/-- The first element. -/
def Decoder.one : Decoder α α
  | [] => none
  | a :: text => some (a, text)

/-- The first `n` elements. -/
def Decoder.take (n : ℕ) : Decoder α (List α) := fun text =>
  if n ≤ text.length then some (text.take n, text.drop n) else none

/-- What is found turned into something else. -/
def Decoder.map (g : β → γ) (d : Decoder α β) : Decoder α γ := d.andThen fun b => .pure (g b)

/-- One item in a row for each element of a list, which may say how it is to be read. -/
def Decoder.each {ι : Type*} (d : ι → Decoder α β) : List ι → Decoder α (List β)
  | [] => .pure []
  | i :: is => (d i).andThen fun b => (Decoder.each d is).map fun bs => b :: bs

/-- `d` finds `b` in `text` whatever follows. -/
def Reads (d : Decoder α β) (b : β) (text : List α) : Prop := ∀ rest, d (text ++ rest) = some (b, rest)

/-- What `d` finds, it finds in the part that it takes. -/
def Stable (d : Decoder α β) : Prop :=
  ∀ text b rest, d text = some (b, rest) → ∃ used, text = used ++ rest ∧ Reads d b used

/-! ### The pieces -/

theorem reads_pure (b : β) : Reads (.pure b : Decoder α β) b [] := fun _ => rfl

theorem stable_pure (b : β) : Stable (.pure b : Decoder α β) := by
  intro text b' rest h
  obtain ⟨rfl, rfl⟩ := Prod.mk.inj (Option.some.inj h)
  exact ⟨[], rfl, reads_pure b⟩

theorem stable_fail : Stable (.fail : Decoder α β) := by
  intro text b rest h
  cases h

theorem reads_one (a : α) : Reads .one a [a] := fun _ => rfl

theorem stable_one : Stable (.one : Decoder α α) := by
  intro text a rest h
  cases text with
  | nil => cases h
  | cons b text =>
      obtain ⟨rfl, rfl⟩ := Prod.mk.inj (Option.some.inj h)
      exact ⟨[b], rfl, reads_one b⟩

theorem reads_take (xs : List α) : Reads (.take xs.length) xs xs := by
  intro rest
  have hle : xs.length ≤ (xs ++ rest).length := by simp
  rw [Decoder.take, if_pos hle, List.take_left, List.drop_left]

theorem take_eq_some {n : ℕ} {text xs rest : List α} :
    Decoder.take n text = some (xs, rest) ↔ text = xs ++ rest ∧ xs.length = n := by
  refine ⟨?_, ?_⟩
  · intro h
    rw [Decoder.take] at h
    by_cases hn : n ≤ text.length
    · rw [if_pos hn] at h
      obtain ⟨rfl, rfl⟩ := Prod.mk.inj (Option.some.inj h)
      exact ⟨(List.take_append_drop n text).symm, List.length_take_of_le hn⟩
    · rw [if_neg hn] at h
      cases h
  · rintro ⟨rfl, rfl⟩
    exact reads_take xs rest

theorem stable_take (n : ℕ) : Stable (.take n : Decoder α (List α)) := by
  intro text xs rest h
  obtain ⟨rfl, rfl⟩ := take_eq_some.mp h
  exact ⟨xs, rfl, reads_take xs⟩

theorem andThen_eq_some {d : Decoder α β} {f : β → Decoder α γ} {text rest : List α} {c : γ} :
    d.andThen f text = some (c, rest) ↔ ∃ b mid, d text = some (b, mid) ∧ f b mid = some (c, rest) := by
  rw [Decoder.andThen, Option.bind_eq_some_iff]
  refine ⟨?_, ?_⟩
  · rintro ⟨⟨b, mid⟩, hd, hf⟩
    exact ⟨b, mid, hd, hf⟩
  · rintro ⟨b, mid, hd, hf⟩
    exact ⟨(b, mid), hd, hf⟩

theorem Reads.andThen {d : Decoder α β} {f : β → Decoder α γ} {b : β} {c : γ} {t u : List α}
    (hd : Reads d b t) (hf : Reads (f b) c u) : Reads (d.andThen f) c (t ++ u) := by
  intro rest
  rw [List.append_assoc]
  exact andThen_eq_some.mpr ⟨b, u ++ rest, hd _, hf rest⟩

theorem Stable.andThen {d : Decoder α β} {f : β → Decoder α γ} (hd : Stable d)
    (hf : ∀ b, Stable (f b)) : Stable (d.andThen f) := by
  intro text c rest h
  obtain ⟨b, mid, hb, hc⟩ := andThen_eq_some.mp h
  obtain ⟨t, rfl, ht⟩ := hd text b mid hb
  obtain ⟨u, rfl, hu⟩ := hf b mid c rest hc
  exact ⟨t ++ u, (List.append_assoc t u rest).symm, ht.andThen hu⟩

theorem Reads.map {d : Decoder α β} {b : β} {t : List α} (g : β → γ) (h : Reads d b t) :
    Reads (d.map g) (g b) t := by
  have hread := h.andThen (f := fun b => .pure (g b)) (reads_pure (g b))
  rw [List.append_nil] at hread
  exact hread

theorem Stable.map {d : Decoder α β} (g : β → γ) (h : Stable d) : Stable (d.map g) :=
  h.andThen fun b => stable_pure (g b)

theorem map_eq_some {d : Decoder α β} {g : β → γ} {text rest : List α} {c : γ} :
    d.map g text = some (c, rest) ↔ ∃ b, d text = some (b, rest) ∧ g b = c := by
  rw [Decoder.map, andThen_eq_some]
  refine ⟨?_, ?_⟩
  · rintro ⟨b, mid, hd, hpure⟩
    obtain ⟨rfl, rfl⟩ := Prod.mk.inj (Option.some.inj hpure)
    exact ⟨b, hd, rfl⟩
  · rintro ⟨b, hd, rfl⟩
    exact ⟨b, rest, hd, rfl⟩

section Each

variable {ι : Type*} {d : ι → Decoder α β}

theorem Stable.each {is : List ι} (h : ∀ i ∈ is, Stable (d i)) : Stable (Decoder.each d is) := by
  induction is with
  | nil => exact stable_pure []
  | cons i is ih =>
      have htail := ih fun j hj => h j (List.mem_cons_of_mem i hj)
      exact (h i List.mem_cons_self).andThen fun b => htail.map _

/-- Items written one after the other are read one after the other. -/
theorem Reads.each {enc : β → List α} {is : List ι} {bs : List β} (hlen : is.length = bs.length)
    (h : ∀ b ∈ bs, ∀ i, Reads (d i) b (enc b)) : Reads (Decoder.each d is) bs (bs.flatMap enc) := by
  induction is generalizing bs with
  | nil =>
      obtain rfl := List.length_eq_zero_iff.mp hlen.symm
      exact reads_pure []
  | cons i is ih =>
      cases bs with
      | nil => cases hlen
      | cons b bs =>
          have htail := ih (Nat.succ.inj hlen) fun c hc => h c (List.mem_cons_of_mem b hc)
          exact (h b List.mem_cons_self i).andThen (htail.map _)

end Each

/-! ### What a prefix code gives -/

/-- **Unique parsing.**  Where two items are read, they are the same item in the same text. -/
theorem Reads.unique {d : Decoder α β} {b c : β} {t u r s : List α} (hb : Reads d b t)
    (hc : Reads d c u) (h : t ++ r = u ++ s) : b = c ∧ t = u ∧ r = s := by
  have hsame : some (b, r) = some (c, s) := by rw [← hb r, ← hc s, h]
  obtain ⟨rfl, rfl⟩ := Prod.mk.inj (Option.some.inj hsame)
  exact ⟨rfl, List.append_cancel_right h, rfl⟩

/-- **Truncation.**  A text that stops before the end of the item holds no item. -/
theorem Stable.truncated {d : Decoder α β} (hd : Stable d) {b : β} {t u v : List α}
    (hb : Reads d b t) (ht : t = u ++ v) (hv : v ≠ []) : d u = none := by
  cases hu : d u with
  | none => rfl
  | some found =>
      obtain ⟨c, rest⟩ := found
      obtain ⟨used, rfl, hc⟩ := hd u c rest hu
      have heq : t ++ [] = used ++ (rest ++ v) := by rw [ht, List.append_nil, List.append_assoc]
      obtain ⟨-, -, hnil⟩ := hb.unique hc heq
      exact absurd (List.append_eq_nil_iff.mp hnil.symm).2 hv

/-! ### Canonical texts -/

/-- In a text of less than `n` elements, `d` finds only items with `P`, and each where `enc` has written
it. -/
def Canonical (n : ℕ) (d : Decoder α β) (P : β → Prop) (enc : β → List α) : Prop :=
  ∀ text b rest, text.length < n → d text = some (b, rest) → P b ∧ text = enc b ++ rest

section Canonical

variable {n : ℕ} {d : Decoder α β} {P : β → Prop} {enc : β → List α}

theorem Canonical.each {ι : Type*} {d : ι → Decoder α β} (h : ∀ i, Canonical n (d i) P enc) (is : List ι) :
    Canonical n (Decoder.each d is) (fun bs => bs.length = is.length ∧ ∀ b ∈ bs, P b)
      (fun bs => bs.flatMap enc) := by
  induction is with
  | nil =>
      intro text bs rest _ hx
      obtain ⟨rfl, rfl⟩ := Prod.mk.inj (Option.some.inj hx)
      exact ⟨⟨rfl, fun b hb => absurd hb List.not_mem_nil⟩, rfl⟩
  | cons i is ih =>
      intro text bs rest hn hx
      obtain ⟨b, mid, hb, hmap⟩ := andThen_eq_some.mp hx
      obtain ⟨bs, hbs, rfl⟩ := map_eq_some.mp hmap
      obtain ⟨hP, rfl⟩ := h i text b mid hn hb
      rw [List.length_append] at hn
      obtain ⟨⟨hlen, hall⟩, rfl⟩ := ih mid bs rest (by omega) hbs
      refine ⟨⟨by rw [List.length_cons, hlen, List.length_cons], ?_⟩, ?_⟩
      · intro c hc
        rcases List.mem_cons.mp hc with rfl | hc
        · exact hP
        · exact hall c hc
      · show enc b ++ (bs.flatMap enc ++ rest) = (b :: bs).flatMap enc ++ rest
        rw [List.flatMap_cons, List.append_assoc]

end Canonical

end HitchOpen.PrefixCode
