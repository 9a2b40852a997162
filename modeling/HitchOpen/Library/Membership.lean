import Mathlib.Data.Finset.Basic
import Mathlib.Data.List.Nodup

/-!
# A registry of keys and their members

Every key that is listed has one entry, with a tag and at least one member: the first member brings the
tag, and the entry goes with the last one.

Seen from outside, a registry is the members of each key and the tag of each key that is listed;
`members_join`, `members_leave` and their companions for the tags say what the two operations do to that.
`mem_run_iff` describes a run in which every newcomer is admitted: the members are those who have joined
and not left since.
-/

namespace HitchOpen.Membership

variable {κ τ μ : Type*}

structure Entry (κ τ μ : Type*) where
  key : κ
  tag : τ
  members : Finset μ
  nonempty : members.Nonempty

structure Registry (κ τ μ : Type*) where
  entries : List (Entry κ τ μ)
  nodup : (entries.map Entry.key).Nodup

/-! ### Entries -/

section Leave

variable [DecidableEq μ]

/-- What is left of an entry without `m`. -/
def Entry.leave (m : μ) (e : Entry κ τ μ) : Option (Entry κ τ μ) :=
  if h : (e.members.erase m).Nonempty then some ⟨e.key, e.tag, e.members.erase m, h⟩ else none

theorem Entry.leave_key {m : μ} {e e' : Entry κ τ μ} (h : e.leave m = some e') : e'.key = e.key := by
  rw [Entry.leave] at h
  split_ifs at h
  obtain rfl := Option.some.inj h
  rfl

theorem keys_leave_sublist (m : μ) (es : List (Entry κ τ μ)) :
    ((es.filterMap (Entry.leave m)).map Entry.key).Sublist (es.map Entry.key) := by
  induction es with
  | nil => exact List.Sublist.refl _
  | cons e es ih =>
      cases h : e.leave m with
      | none =>
          rw [List.filterMap_cons_none h]
          exact ih.cons _
      | some e' =>
          rw [List.filterMap_cons_some h, List.map_cons, List.map_cons, Entry.leave_key h]
          exact ih.cons_cons _

end Leave

section Join

variable [DecidableEq κ] [DecidableEq μ]

def Entry.join (m : μ) (e : Entry κ τ μ) : Entry κ τ μ :=
  ⟨e.key, e.tag, insert m e.members, Finset.insert_nonempty m e.members⟩

/-- `m` joins the entry of `k`, or a new one at the end if there is none and it is admitted. -/
def joinEntries (k : κ) (t : τ) (m : μ) (admitted : Bool) : List (Entry κ τ μ) → List (Entry κ τ μ)
  | [] => if admitted then [⟨k, t, {m}, Finset.singleton_nonempty m⟩] else []
  | e :: es => if e.key = k then e.join m :: es else e :: joinEntries k t m admitted es

theorem mem_keys_join {k k' : κ} {t : τ} {m : μ} {admitted : Bool} {es : List (Entry κ τ μ)}
    (h : k' ∈ (joinEntries k t m admitted es).map Entry.key) : k' = k ∨ k' ∈ es.map Entry.key := by
  induction es with
  | nil =>
      rw [joinEntries] at h
      cases admitted with
      | false => cases h
      | true => exact .inl (List.mem_singleton.mp h)
  | cons e es ih =>
      rw [joinEntries] at h
      by_cases he : e.key = k
      · rw [if_pos he] at h
        exact .inr h
      · rw [if_neg he] at h
        rcases List.mem_cons.mp h with hhead | htail
        · exact .inr (hhead ▸ List.mem_cons_self)
        · exact (ih htail).imp_right (List.mem_cons_of_mem _)

theorem nodup_join {k : κ} {t : τ} {m : μ} {admitted : Bool} {es : List (Entry κ τ μ)}
    (h : (es.map Entry.key).Nodup) : ((joinEntries k t m admitted es).map Entry.key).Nodup := by
  induction es with
  | nil =>
      rw [joinEntries]
      cases admitted <;> simp
  | cons e es ih =>
      obtain ⟨hhead, htail⟩ := List.nodup_cons.mp h
      rw [joinEntries]
      by_cases he : e.key = k
      · rw [if_pos he]
        exact h
      · rw [if_neg he]
        refine List.nodup_cons.mpr ⟨fun hmem => ?_, ih htail⟩
        exact (mem_keys_join hmem).elim he hhead

end Join

/-! ### Lookup -/

section Find

variable [DecidableEq κ]

def findEntry (k : κ) : List (Entry κ τ μ) → Option (Entry κ τ μ)
  | [] => none
  | e :: es => if e.key = k then some e else findEntry k es

theorem findEntry_eq_none {k : κ} {es : List (Entry κ τ μ)} (h : k ∉ es.map Entry.key) :
    findEntry k es = none := by
  induction es with
  | nil => rfl
  | cons e es ih =>
      rw [List.map_cons, List.mem_cons, not_or] at h
      rw [findEntry, if_neg (Ne.symm h.1)]
      exact ih h.2

variable [DecidableEq μ]

theorem findEntry_leave (k : κ) (m : μ) {es : List (Entry κ τ μ)} (h : (es.map Entry.key).Nodup) :
    findEntry k (es.filterMap (Entry.leave m)) = (findEntry k es).bind (Entry.leave m) := by
  induction es with
  | nil => rfl
  | cons e es ih =>
      obtain ⟨hhead, htail⟩ := List.nodup_cons.mp h
      rw [findEntry]
      cases hl : e.leave m with
      | none =>
          rw [List.filterMap_cons_none hl]
          by_cases he : e.key = k
          · rw [if_pos he, Option.bind_some, hl]
            exact findEntry_eq_none fun hmem => hhead (he ▸ (keys_leave_sublist m es).subset hmem)
          · rw [if_neg he]
            exact ih htail
      | some e' =>
          rw [List.filterMap_cons_some hl, findEntry, Entry.leave_key hl]
          by_cases he : e.key = k
          · rw [if_pos he, if_pos he, Option.bind_some, hl]
          · rw [if_neg he, if_neg he]
            exact ih htail

theorem findEntry_join_self (k : κ) (t : τ) (m : μ) (admitted : Bool) (es : List (Entry κ τ μ)) :
    findEntry k (joinEntries k t m admitted es) =
      ((findEntry k es).map (Entry.join m)).or
        (if admitted then some ⟨k, t, {m}, Finset.singleton_nonempty m⟩ else none) := by
  induction es with
  | nil =>
      rw [joinEntries]
      cases admitted with
      | false => rfl
      | true => exact if_pos rfl
  | cons e es ih =>
      rw [joinEntries, findEntry]
      by_cases he : e.key = k
      · rw [if_pos he, if_pos he]
        exact if_pos he
      · rw [if_neg he, if_neg he, findEntry, if_neg he, ih]

theorem findEntry_join_of_ne {k k' : κ} (h : k' ≠ k) (t : τ) (m : μ) (admitted : Bool)
    (es : List (Entry κ τ μ)) : findEntry k' (joinEntries k t m admitted es) = findEntry k' es := by
  induction es with
  | nil =>
      rw [joinEntries]
      cases admitted with
      | false => rfl
      | true => exact if_neg (Ne.symm h)
  | cons e es ih =>
      rw [joinEntries]
      by_cases he : e.key = k
      · have hne : e.key ≠ k' := fun he' => h (he'.symm.trans he)
        rw [if_pos he, findEntry, findEntry, if_neg hne]
        exact if_neg hne
      · rw [if_neg he, findEntry, findEntry, ih]

end Find

namespace Registry

variable [DecidableEq κ]

def empty : Registry κ τ μ := ⟨[], List.nodup_nil⟩

def find (r : Registry κ τ μ) (k : κ) : Option (Entry κ τ μ) := findEntry k r.entries

/-- The members of `k`, none if it is not listed. -/
def members (r : Registry κ τ μ) (k : κ) : Finset μ := (r.find k).elim ∅ Entry.members

/-- The tag of `k`, if it is listed. -/
def tag (r : Registry κ τ μ) (k : κ) : Option τ := (r.find k).map Entry.tag

variable [DecidableEq μ]

def join (r : Registry κ τ μ) (k : κ) (t : τ) (m : μ) (admitted : Bool) : Registry κ τ μ :=
  ⟨joinEntries k t m admitted r.entries, nodup_join r.nodup⟩

def leave (r : Registry κ τ μ) (m : μ) : Registry κ τ μ :=
  ⟨r.entries.filterMap (Entry.leave m), (keys_leave_sublist m r.entries).nodup r.nodup⟩

/-! ### What the operations do -/

/-- A member joins if the key is listed or it is admitted. -/
theorem members_join (r : Registry κ τ μ) (k k' : κ) (t : τ) (m : μ) (admitted : Bool) :
    (r.join k t m admitted).members k' =
      if k' = k ∧ (r.tag k ≠ none ∨ admitted = true) then insert m (r.members k') else r.members k' := by
  by_cases hk : k' = k
  · subst hk
    rw [members, find, join, findEntry_join_self, ← find, members, tag]
    cases r.find k' with
    | some e => simp [Entry.join]
    | none => cases admitted <;> simp
  · rw [if_neg fun h => hk h.1, members, find, join, findEntry_join_of_ne hk]
    rfl

/-- The first tag stays. -/
theorem tag_join (r : Registry κ τ μ) (k k' : κ) (t : τ) (m : μ) (admitted : Bool) :
    (r.join k t m admitted).tag k' =
      if k' = k ∧ r.tag k = none ∧ admitted = true then some t else r.tag k' := by
  by_cases hk : k' = k
  · subst hk
    rw [tag, find, join, findEntry_join_self, ← find, tag]
    cases r.find k' with
    | some e => simp [Entry.join]
    | none => cases admitted <;> simp
  · rw [if_neg fun h => hk h.1, tag, find, join, findEntry_join_of_ne hk]
    rfl

theorem members_leave (r : Registry κ τ μ) (k : κ) (m : μ) :
    (r.leave m).members k = (r.members k).erase m := by
  rw [members, find, leave, findEntry_leave k m r.nodup, ← find, members]
  cases r.find k with
  | none => rfl
  | some e =>
      rw [Option.bind_some, Option.elim_some, Entry.leave]
      split_ifs with h
      · rfl
      · exact (Finset.not_nonempty_iff_eq_empty.mp h).symm

theorem tag_leave (r : Registry κ τ μ) (k : κ) (m : μ) :
    (r.leave m).tag k = if ((r.members k).erase m).Nonempty then r.tag k else none := by
  rw [tag, find, leave, findEntry_leave k m r.nodup, ← find, members, tag]
  cases r.find k with
  | none => rfl
  | some e =>
      rw [Option.bind_some, Option.elim_some, Entry.leave]
      split_ifs <;> rfl

end Registry

/-! ### Runs -/

/-- An operation on a registry. -/
inductive Operation (κ τ μ : Type*)
  | join (k : κ) (t : τ) (m : μ)
  | leave (m : μ)
  deriving DecidableEq

/-- `m` has joined `k`, and has not left since. -/
def Joined (k : κ) (m : μ) (ops : List (Operation κ τ μ)) : Prop :=
  ∃ pre t post, ops = pre ++ .join k t m :: post ∧ .leave m ∉ post

theorem joined_concat_iff {k : κ} {m : μ} {ops : List (Operation κ τ μ)} {op : Operation κ τ μ} :
    Joined k m (ops ++ [op]) ↔ (∃ t, op = .join k t m) ∨ (Joined k m ops ∧ op ≠ .leave m) := by
  refine ⟨?_, ?_⟩
  · rintro ⟨pre, t, post, heq, hpost⟩
    rcases List.eq_nil_or_concat' post with rfl | ⟨post, last, rfl⟩
    · exact .inl ⟨t, List.singleton_inj.mp (List.append_inj' heq rfl).2⟩
    · rw [← List.cons_append, ← List.append_assoc] at heq
      obtain ⟨hops, hlast⟩ := List.append_inj' heq rfl
      obtain rfl := List.singleton_inj.mp hlast
      rw [List.mem_append, not_or, List.mem_singleton] at hpost
      exact .inr ⟨⟨pre, t, post, hops, hpost.1⟩, Ne.symm hpost.2⟩
  · rintro (⟨t, rfl⟩ | ⟨⟨pre, t, post, rfl, hpost⟩, hop⟩)
    · exact ⟨ops, t, [], rfl, List.not_mem_nil⟩
    · refine ⟨pre, t, post ++ [op], List.append_assoc _ _ _, ?_⟩
      rw [List.mem_append, not_or, List.mem_singleton]
      exact ⟨hpost, Ne.symm hop⟩

def Operation.member : Operation κ τ μ → μ
  | .join _ _ m => m
  | .leave m => m

/-- What the others do does not count. -/
theorem joined_filter_iff [DecidableEq μ] {k : κ} {m : μ} {ops : List (Operation κ τ μ)} :
    Joined k m (ops.filter fun op => op.member = m) ↔ Joined k m ops := by
  induction ops using List.reverseRecOn with
  | nil => rfl
  | append_singleton ops op ih =>
      rw [List.filter_append, joined_concat_iff, ← ih]
      by_cases hop : op.member = m
      · rw [List.filter_cons_of_pos (by simpa using hop), List.filter_nil, joined_concat_iff]
      · rw [List.filter_cons_of_neg (by simpa using hop), List.filter_nil, List.append_nil]
        refine ⟨fun h => .inr ⟨h, fun heq => hop (by rw [heq]; rfl)⟩, ?_⟩
        rintro (⟨t, rfl⟩ | ⟨h, -⟩)
        · exact absurd rfl hop
        · exact h

section Runs

variable [DecidableEq κ] [DecidableEq μ]

/-- `allowed` says which keys may be listed with which tags. -/
def Registry.run (allowed : κ → τ → Bool) (r : Registry κ τ μ) : Operation κ τ μ → Registry κ τ μ
  | .join k t m => r.join k t m (allowed k t)
  | .leave m => r.leave m

variable {allowed : κ → τ → Bool} {k : κ} {m : μ} {ops : List (Operation κ τ μ)}

theorem run_concat (ops : List (Operation κ τ μ)) (op : Operation κ τ μ) (r : Registry κ τ μ) :
    (ops ++ [op]).foldl (Registry.run allowed) r = (ops.foldl (Registry.run allowed) r).run allowed op :=
  List.foldl_append

/-- A member stays until it leaves. -/
theorem mem_run_of_not_leave {r : Registry κ τ μ} (h : m ∈ r.members k) (hops : .leave m ∉ ops) :
    m ∈ (ops.foldl (Registry.run allowed) r).members k := by
  induction ops generalizing r with
  | nil => exact h
  | cons op ops ih =>
      rw [List.mem_cons, not_or] at hops
      apply ih _ hops.2
      cases op with
      | join k' t m' =>
          rw [Registry.run, Registry.members_join]
          split_ifs
          · exact Finset.mem_insert_of_mem h
          · exact h
      | leave m' =>
          rw [Registry.run, Registry.members_leave]
          exact Finset.mem_erase.mpr ⟨fun heq => hops.1 (by rw [heq]), h⟩

/-- Nobody is a member who has not joined, or who has left since. -/
theorem joined_of_mem (h : m ∈ (ops.foldl (Registry.run allowed) .empty).members k) : Joined k m ops := by
  induction ops using List.reverseRecOn with
  | nil => exact absurd h (Finset.notMem_empty m)
  | append_singleton ops op ih =>
      rw [run_concat] at h
      rw [joined_concat_iff]
      cases op with
      | join k' t m' =>
          rw [Registry.run, Registry.members_join] at h
          split_ifs at h with hk
          · rcases Finset.mem_insert.mp h with rfl | hold
            · exact .inl ⟨t, by rw [hk.1]⟩
            · exact .inr ⟨ih hold, by simp⟩
          · exact .inr ⟨ih h, by simp⟩
      | leave m' =>
          rw [Registry.run, Registry.members_leave, Finset.mem_erase] at h
          refine .inr ⟨ih h.2, fun heq => h.1 ?_⟩
          exact (Operation.leave.inj heq).symm

/-- **Runs.**  Where the operations join only what may be listed, the members of a key are those who have
joined and not left since. -/
theorem mem_run_iff (hallowed : ∀ k t m, .join k t m ∈ ops → allowed k t = true) :
    m ∈ (ops.foldl (Registry.run allowed) .empty).members k ↔ Joined k m ops := by
  refine ⟨joined_of_mem, ?_⟩
  induction ops using List.reverseRecOn with
  | nil =>
      rintro ⟨pre, t, post, heq, -⟩
      simp at heq
  | append_singleton ops op ih =>
      have hmem := ih fun k t m hop => hallowed k t m (List.mem_append_left _ hop)
      rw [run_concat, joined_concat_iff]
      rintro (⟨t, rfl⟩ | ⟨hjoined, hop⟩)
      · have hnew := hallowed k t m (List.mem_append_right _ List.mem_cons_self)
        rw [Registry.run, Registry.members_join, if_pos ⟨rfl, .inr hnew⟩]
        exact Finset.mem_insert_self m _
      · have hold := hmem hjoined
        cases op with
        | join k' t m' =>
            rw [Registry.run, Registry.members_join]
            split_ifs
            · exact Finset.mem_insert_of_mem hold
            · exact hold
        | leave m' =>
            rw [Registry.run, Registry.members_leave]
            exact Finset.mem_erase.mpr ⟨fun heq => hop (by rw [heq]), hold⟩

end Runs

end HitchOpen.Membership
