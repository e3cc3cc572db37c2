import Mathlib.Tactic.Ring
import SealedTokens.Proofs.Texts
import SealedTokens.Wire.Compact
/-!
# The compact encoding

The compact encoding is read back value by value, whatever follows. The one thing it cannot carry
is a byte string whose length has more than 64 bits, and reading refuses what was written for it.

## Main results

- `Varint.decode_encode`: a number is read back if its type has room for it, and refused otherwise
- `reads_bytes`, `refuses_bytes`: the same of byte strings and their lengths

## Proof strategy

`Reads` and `Refuses` say what a reader does on everything that starts with a written form. They
compose along `>>=`, so a record is read as its fields are, one after the other.
-/
namespace SealedTokens

namespace Varint

/-- The last byte of a number decides whether the number fits. -/
theorem decodeFrom_last (bits room value weight n : Nat) (rest : Bytes) (last : n < 128) :
    decodeFrom bits (room + 1) value weight (encode n ++ rest) =
      if value + n * weight < 2 ^ bits then .ok (value + n * weight, rest)
      else .error .unterminated := by
  have byte : (UInt8.ofNat n).toNat = n := Bytes.toNat_byte (by omega)
  rw [encode, if_pos last]
  simp only [List.singleton_append, decodeFrom, byte, Nat.mod_eq_of_lt last, last, ite_true]
  rfl

/-- Any other byte adds seven bits. -/
theorem decodeFrom_more (bits room value weight n : Nat) (rest : Bytes) (more : ¬ n < 128) :
    decodeFrom bits (room + 1) value weight (encode n ++ rest) =
      decodeFrom bits room (value + n % 128 * weight) (weight * 128)
        (encode (n / 128) ++ rest) := by
  have byte : (UInt8.ofNat (n % 128 + 128)).toNat = n % 128 + 128 :=
    Bytes.toNat_byte (by omega)
  have low : (n % 128 + 128) % 128 = n % 128 := by omega
  have continues : ¬ n % 128 + 128 < 128 := by omega
  rw [encode, if_neg more]
  simp only [List.cons_append, decodeFrom, byte, low, continues, ite_false]

theorem value_split (value weight n : Nat) :
    value + n % 128 * weight + n / 128 * (weight * 128) = value + n * weight := by
  calc value + n % 128 * weight + n / 128 * (weight * 128)
      = value + (128 * (n / 128) + n % 128) * weight := by ring
    _ = value + n * weight := by rw [Nat.div_add_mod]

theorem decodeFrom_encode (bits room value weight n : Nat) (rest : Bytes)
    (roomy : n < 128 ^ (room + 1)) (small : value + n * weight < 2 ^ bits) :
    decodeFrom bits (room + 1) value weight (encode n ++ rest) =
      .ok (value + n * weight, rest) := by
  -- The number that is left and the value that was read add up to the same at every byte.
  induction room generalizing value weight n with
  | zero => rw [decodeFrom_last _ _ _ _ _ _ (by simpa using roomy), if_pos small]
  | succ room ih =>
    by_cases last : n < 128
    · rw [decodeFrom_last _ _ _ _ _ _ last, if_pos small]
    · have roomLeft : n / 128 < 128 ^ (room + 1) := by
        rw [Nat.pow_succ] at roomy
        omega
      rw [decodeFrom_more _ _ _ _ _ _ last, ih _ _ _ roomLeft (by rw [value_split]; exact small),
        value_split]

theorem decodeFrom_encode_large (bits room value weight n : Nat) (rest : Bytes)
    (large : 2 ^ bits ≤ value + n * weight) :
    decodeFrom bits room value weight (encode n ++ rest) = .error .unterminated := by
  -- Either the room runs out, or the last byte finds the value too large.
  induction room generalizing value weight n with
  | zero => rfl
  | succ room ih =>
    by_cases last : n < 128
    · rw [decodeFrom_last _ _ _ _ _ _ last, if_neg (Nat.not_lt.mpr large)]
    · rw [decodeFrom_more _ _ _ _ _ _ last]
      exact ih _ _ _ (by rw [value_split]; exact large)

/-- A number is read back if its type has room for it, and refused otherwise. -/
theorem decode_encode (bits n : Nat) (rest : Bytes) (positive : 0 < bits) :
    decode bits (encode n ++ rest) =
      if n < 2 ^ bits then .ok (n, rest) else .error .unterminated := by
  split
  next small =>
    have positive : maxLength bits ≠ 0 := by
      simp only [maxLength]
      omega
    obtain ⟨room, enough⟩ := Nat.exists_eq_succ_of_ne_zero positive
    -- The room is for as many bits as the type has, rounded up to sevens.
    have roomy : n < 128 ^ (room + 1) := by
      calc n < 2 ^ bits := small
        _ ≤ 2 ^ (7 * (room + 1)) := Nat.pow_le_pow_right (by decide) (by
            simp only [maxLength] at enough
            omega)
        _ = 128 ^ (room + 1) := by rw [Nat.pow_mul]
    have read := decodeFrom_encode bits room 0 1 n rest roomy (by simpa using small)
    rw [decode, enough, read]
    simp
  next large =>
    exact decodeFrom_encode_large bits (maxLength bits) 0 1 n rest (by simpa using large)

/-- Each byte holds seven bits. -/
theorem length_encode_le (room n : Nat) (small : n < 128 ^ (room + 1)) :
    (encode n).length ≤ room + 1 := by
  induction room generalizing n with
  | zero =>
    rw [encode, if_pos (by simpa using small)]
    exact Nat.le_refl 1
  | succ room ih =>
    rw [encode]
    split
    · simp
    next more =>
      rw [Nat.pow_succ] at small
      have shorter := ih (n / 128) (by omega)
      simp only [List.length_cons]
      omega

end Varint

namespace Compact

variable {α β : Type}

/-- A reader takes a value off any input that starts with its written form. -/
def Reads (reader : Reader α) (written : Bytes) (value : α) : Prop :=
  ∀ rest, reader.run (written ++ rest) = .ok (value, rest)

/-- A reader refuses any input that starts with a written form. -/
def Refuses (reader : Reader α) (written : Bytes) : Prop :=
  ∀ rest, ∃ fault, reader.run (written ++ rest) = .error fault

theorem Reads.pure (value : α) : Reads (Pure.pure value) [] value := fun _ => rfl

theorem Reads.bind {reader : Reader α} {next : α → Reader β} {written more : Bytes} {a : α} {b : β}
    (first : Reads reader written a) (second : Reads (next a) more b) :
    Reads (reader >>= next) (written ++ more) b := by
  intro rest
  rw [StateT.run_bind, List.append_assoc, first (more ++ rest)]
  exact second rest

theorem Refuses.bind {reader : Reader α} {next : α → Reader β} {written more : Bytes}
    (first : Refuses reader written) : Refuses (reader >>= next) (written ++ more) := by
  intro rest
  obtain ⟨fault, failed⟩ := first (more ++ rest)
  refine ⟨fault, ?_⟩
  rw [StateT.run_bind, List.append_assoc, failed]
  rfl

theorem Reads.bind_refuses {reader : Reader α} {next : α → Reader β} {written more : Bytes} {a : α}
    (first : Reads reader written a) (second : Refuses (next a) more) :
    Refuses (reader >>= next) (written ++ more) := by
  intro rest
  obtain ⟨fault, failed⟩ := second rest
  refine ⟨fault, ?_⟩
  rw [StateT.run_bind, List.append_assoc, first (more ++ rest)]
  exact failed

theorem reads_nat (bits n : Nat) (positive : 0 < bits) (small : n < 2 ^ bits) :
    Reads (readNat bits) (Varint.encode n) n := by
  intro rest
  simp only [readNat, StateT.run, Varint.decode_encode bits n rest positive, small, ite_true]

theorem refuses_nat (bits n : Nat) (positive : 0 < bits) (large : ¬ n < 2 ^ bits) :
    Refuses (readNat bits) (Varint.encode n) := by
  intro rest
  simp only [readNat, StateT.run, Varint.decode_encode bits n rest positive, large, ite_false]
  exact ⟨_, rfl⟩

theorem split?_append (value rest taken : Bytes) :
    split? value.length (value ++ rest) taken = some (taken.reverse ++ value, rest) := by
  induction value generalizing taken with
  | nil => simp [split?]
  | cons b value ih => simp [split?, ih]

/-- A byte string is read back if its length is a number of 64 bits. -/
theorem reads_bytes (value : Bytes) (addressable : value.length < 2 ^ 64) :
    Reads readBytes (bytes value) value := by
  refine (reads_nat 64 value.length (by decide) addressable).bind fun rest => ?_
  simp [StateT.run, split?_append]

theorem refuses_bytes (value : Bytes) (large : ¬ value.length < 2 ^ 64) :
    Refuses readBytes (bytes value) := (refuses_nat 64 value.length (by decide) large).bind

theorem reads_text (value : String) (addressable : (Bytes.ofText value).length < 2 ^ 64) :
    Reads readText (text value) value := by
  have content := reads_bytes (Bytes.ofText value) addressable
  rw [readText, text, ← List.append_nil (bytes _)]
  refine content.bind ?_
  rw [Bytes.toText?_ofText]
  exact .pure value

end Compact

end SealedTokens
