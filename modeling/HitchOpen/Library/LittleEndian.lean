import Mathlib.Data.Nat.Digits.Defs
import HitchOpen.Library.PrefixCode

/-!
# Numbers as bytes, the lowest first

`bytes k n` are the `k` low bytes of `n`.  They hold `n` up to a multiple of `256 ^ k`, and every list of
`k` bytes comes from exactly one number below that.
-/

namespace HitchOpen.LittleEndian

open PrefixCode

/-- The `k` low bytes of `n`. -/
def bytes : ℕ → ℕ → List UInt8
  | 0, _ => []
  | k + 1, n => UInt8.ofNat n :: bytes k (n / 256)

/-- The number with these digits to base 256. -/
def value (bs : List UInt8) : ℕ := Nat.ofDigits 256 (bs.map UInt8.toNat)

theorem value_cons (b : UInt8) (bs : List UInt8) : value (b :: bs) = b.toNat + 256 * value bs :=
  Nat.ofDigits_cons

@[simp] theorem bytes_length (k n : ℕ) : (bytes k n).length = k := by
  induction k generalizing n with
  | zero => rfl
  | succ k ih => rw [bytes, List.length_cons, ih]

theorem value_lt (bs : List UInt8) : value bs < 256 ^ bs.length := by
  have hdigit : ∀ x ∈ bs.map UInt8.toNat, x < 256 := by
    intro x hx
    obtain ⟨b, -, rfl⟩ := List.mem_map.mp hx
    exact b.toNat_lt
  have hlt := Nat.ofDigits_lt_base_pow_length (by decide) hdigit
  rw [List.length_map] at hlt
  exact hlt

theorem value_bytes (k n : ℕ) : value (bytes k n) = n % 256 ^ k := by
  induction k generalizing n with
  | zero => exact (Nat.mod_one n).symm
  | succ k ih =>
      have hlow : (UInt8.ofNat n).toNat = n % 256 := UInt8.toNat_ofNat'
      rw [bytes, value_cons, ih, hlow, Nat.pow_succ, Nat.mul_comm (256 ^ k) 256, Nat.mod_mul]

theorem value_bytes_of_lt {k n : ℕ} (h : n < 256 ^ k) : value (bytes k n) = n := by
  rw [value_bytes, Nat.mod_eq_of_lt h]

theorem bytes_value {k : ℕ} {bs : List UInt8} (h : bs.length = k) : bytes k (value bs) = bs := by
  induction bs generalizing k with
  | nil =>
      subst h
      rfl
  | cons b bs ih =>
      subst h
      have hlt : b.toNat < 256 := b.toNat_lt
      have hdiv : (b.toNat + 256 * value bs) / 256 = value bs := by omega
      have hlow : UInt8.ofNat (b.toNat + 256 * value bs) = b := by
        apply UInt8.toNat_inj.mp
        rw [UInt8.toNat_ofNat']
        show (b.toNat + 256 * value bs) % 2 ^ 8 = b.toNat
        omega
      rw [List.length_cons, bytes, value_cons, hdiv, hlow, ih rfl]

/-- Only the remainder counts. -/
theorem bytes_mod (k n : ℕ) : bytes k (n % 256 ^ k) = bytes k n := by
  rw [← value_bytes, bytes_value (bytes_length k n)]

/-! ### As a code -/

/-- A number of `k` bytes. -/
def word (k : ℕ) : Decoder UInt8 ℕ := (Decoder.take k).andThen fun bs => .pure (value bs)

theorem stable_word (k : ℕ) : Stable (word k) := (stable_take k).andThen fun bs => stable_pure (value bs)

theorem reads_word (k n : ℕ) : Reads (word k) (n % 256 ^ k) (bytes k n) := by
  have hread := (reads_take (bytes k n)).andThen (f := fun bs => .pure (value bs))
    (reads_pure (value (bytes k n)))
  rw [List.append_nil, bytes_length, value_bytes] at hread
  exact hread

theorem reads_word_of_lt {k n : ℕ} (h : n < 256 ^ k) : Reads (word k) n (bytes k n) := by
  have hread := reads_word k n
  rw [Nat.mod_eq_of_lt h] at hread
  exact hread

theorem word_eq_some {k n : ℕ} {text rest : List UInt8} (h : word k text = some (n, rest)) :
    n < 256 ^ k ∧ text = bytes k n ++ rest := by
  obtain ⟨bs, mid, htake, hpure⟩ := andThen_eq_some.mp h
  obtain ⟨rfl, rfl⟩ := Prod.mk.inj (Option.some.inj hpure)
  obtain ⟨rfl, hlen⟩ := take_eq_some.mp htake
  have hlt := value_lt bs
  rw [hlen] at hlt
  rw [bytes_value hlen]
  exact ⟨hlt, rfl⟩

/-! ### Texts behind their length -/

/-- A text with its length in front, in `k` bytes. -/
def counted (k : ℕ) (text : List UInt8) : List UInt8 := bytes k text.length ++ text

/-- As many bytes as the number in front says. -/
def field (k : ℕ) : Decoder UInt8 (List UInt8) := (word k).andThen Decoder.take

theorem counted_length (k : ℕ) (text : List UInt8) : (counted k text).length = k + text.length := by
  rw [counted, List.length_append, bytes_length]

theorem field_eq (k : ℕ) (input : List UInt8) :
    field k input =
      if k ≤ input.length ∧ k + value (input.take k) ≤ input.length then
        some ((input.drop k).take (value (input.take k)), input.drop (k + value (input.take k)))
      else none := by
  by_cases hk : k ≤ input.length
  · have hword : word k input = some (value (input.take k), input.drop k) := by
      rw [word, Decoder.andThen, Decoder.take, if_pos hk]
      rfl
    rw [field, Decoder.andThen, hword, Option.bind_some, Decoder.take, List.length_drop]
    by_cases hn : k + value (input.take k) ≤ input.length
    · rw [if_pos (by omega), if_pos ⟨hk, hn⟩, List.drop_drop]
    · rw [if_neg (by omega), if_neg fun h => hn h.2]
  · rw [field, word, Decoder.andThen, Decoder.andThen, Decoder.take, if_neg hk, if_neg fun h => hk h.1]
    rfl

theorem stable_field (k : ℕ) : Stable (field k) := (stable_word k).andThen stable_take

theorem reads_field {k : ℕ} {text : List UInt8} (h : text.length < 256 ^ k) :
    Reads (field k) text (counted k text) :=
  (reads_word_of_lt h).andThen (reads_take text)

theorem field_eq_some {k : ℕ} {text input rest : List UInt8} (h : field k input = some (text, rest)) :
    text.length < 256 ^ k ∧ input = counted k text ++ rest := by
  obtain ⟨n, mid, hword, htake⟩ := andThen_eq_some.mp h
  obtain ⟨hlt, rfl⟩ := word_eq_some hword
  obtain ⟨rfl, hlen⟩ := take_eq_some.mp htake
  rw [counted, hlen, List.append_assoc]
  exact ⟨hlt, rfl⟩

end HitchOpen.LittleEndian
