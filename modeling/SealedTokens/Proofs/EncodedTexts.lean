import Mathlib.Tactic.IntervalCases
import SealedTokens.Http.Form
import SealedTokens.Proofs.Base64
import SealedTokens.Proofs.Texts
/-!
# Encoded texts

Texts that readers leave as they are: percent decoding one without percent signs, and the reader
that repairs damage the bytes of any text.

## Main results

- `Text.lossy_ofText`: there is no damage in the bytes of a text
- `Form.decode_plain`: a form value without escapes is the text that it spells
- `Base64.plain_of_mem_encode`: the URL safe alphabet needs no escapes

The repairing reader is followed over one character at a time, whatever comes after it.
-/
namespace SealedTokens

theorem Bytes.ofText_append (a b : String) : ofText (a ++ b) = ofText a ++ ofText b := by
  rw [ofText_eq_flatMap, ofText_eq_flatMap, ofText_eq_flatMap, String.toList_append,
    List.flatMap_append]

namespace Http

theorem percentDecodeFrom_cons {b : UInt8} (plain : b ≠ 37) (rest done : Bytes) :
    percentDecodeFrom (b :: rest) done = percentDecodeFrom rest (b :: done) := by
  rw [percentDecodeFrom]
  rintro _ _ _ rfl
  exact absurd rfl plain

theorem percentDecodeFrom_plain {text done : Bytes} (plain : ∀ b ∈ text, b ≠ 37) :
    percentDecodeFrom text done = done.reverse ++ text := by
  induction text generalizing done with
  | nil => rw [percentDecodeFrom, List.append_nil]
  | cons b text ih =>
    rw [List.forall_mem_cons] at plain
    rw [percentDecodeFrom_cons plain.1, ih plain.2, List.reverse_cons, List.append_assoc,
      List.singleton_append]

theorem percentDecode_plain {text : Bytes} (plain : ∀ b ∈ text, b ≠ 37) :
    percentDecode text = text := percentDecodeFrom_plain plain

end Http

/-! ### Repairing reader -/

namespace Text

/-- A byte of ASCII starts a character and completes it. -/
theorem startChar_ascii {b : UInt8} (ascii : b < 128) :
    startChar b = (some (Char.ofNat b.toNat), none) := by
  have alone : followers b = some (0, 0, 0) := if_pos ascii
  simp only [startChar, alone]

theorem startChar_two {n : Nat} (low : 2 ≤ n) (high : n < 32) :
    startChar (UInt8.ofNat (n + 192)) = (none, some ⟨n, 1, 0x80, 0xBF⟩) := by
  interval_cases n <;> rfl

theorem startChar_three {n : Nat} (high : n < 16) :
    startChar (UInt8.ofNat (n + 224)) = (none, some ⟨n, 2, if n = 0 then 0xA0 else 0x80,
      if n = 13 then 0x9F else 0xBF⟩) := by
  interval_cases n <;> rfl

theorem startChar_four {n : Nat} (high : n < 5) :
    startChar (UInt8.ofNat (n + 240)) = (none, some ⟨n, 3, if n = 0 then 0x90 else 0x80,
      if n = 4 then 0x8F else 0xBF⟩) := by
  interval_cases n <;> rfl

section Followers

variable {x value owed : Nat} {low high : UInt8} (small : x < 64) (above : low.toNat ≤ x + 128)
  (below : x + 128 ≤ high.toNat) (rest : Bytes) (found : List Char)

include small above below

theorem follower_inRange :
    (decide (low ≤ UInt8.ofNat (x + 128)) && decide (UInt8.ofNat (x + 128) ≤ high)) = true := by
  have byte : (UInt8.ofNat (x + 128)).toNat = x + 128 := Bytes.toNat_byte (by omega)
  simp only [Bool.and_eq_true, decide_eq_true_eq, UInt8.le_iff_toNat_le, byte]
  exact ⟨above, below⟩

/-- The last follower completes the character. -/
theorem lossyFrom_last :
    lossyFrom (UInt8.ofNat (x + 128) :: rest) (some ⟨value, 1, low, high⟩) found =
      lossyFrom rest none (Char.ofNat (value * 64 + x) :: found) := by
  have byte : (UInt8.ofNat (x + 128)).toNat % 64 = x := by
    rw [Bytes.toNat_byte (by omega)]
    omega
  rw [lossyFrom, if_pos (follower_inRange small above below), byte]
  rfl

theorem lossyFrom_follower :
    lossyFrom (UInt8.ofNat (x + 128) :: rest) (some ⟨value, owed + 2, low, high⟩) found =
      lossyFrom rest (some ⟨value * 64 + x, owed + 1, 0x80, 0xBF⟩) found := by
  have byte : (UInt8.ofNat (x + 128)).toNat % 64 = x := by
    rw [Bytes.toNat_byte (by omega)]
    omega
  have more : ¬ owed + 2 ≤ 1 := by omega
  rw [lossyFrom, if_pos (follower_inRange small above below), byte]
  simp only [more, ite_false]
  rfl

end Followers

/-- A character is read from the bytes that encode it. -/
theorem lossyFrom_encodeChar (c : Char) (rest : Bytes) (found : List Char) :
    lossyFrom (String.utf8EncodeChar c ++ rest) none found = lossyFrom rest none (c :: found) := by
  have valid : c.val.toNat < 0xD800 ∨ 0xDFFF < c.val.toNat ∧ c.val.toNat < 0x110000 := c.valid
  have number {n : Nat} (same : n = c.val.toNat) : Char.ofNat n = c := by
    rw [same]
    exact Char.ofNat_toNat c
  rw [String.utf8EncodeChar]
  generalize c.val.toNat = v at *
  -- The split is on how many bytes the character takes.
  split
  next one =>
    have byte : (UInt8.ofNat v).toNat = v := Bytes.toNat_byte (by omega)
    have ascii : UInt8.ofNat v < 128 := by
      rw [UInt8.lt_iff_toNat_lt, byte]
      exact Nat.lt_succ_of_le one
    rw [List.singleton_append, lossyFrom, startChar_ascii ascii, byte, number rfl]
  next one =>
  split
  next two =>
    rw [List.cons_append, List.singleton_append, lossyFrom, startChar_two (by omega) (by omega)]
    simp only
    rw [lossyFrom_last (by omega) (by simp) (by simp; omega), number (by omega)]
  next two =>
  split
  next three =>
    -- The first follower's range leaves out shorter writings and surrogates.
    have above : (if v / 4096 % 16 = 0 then 0xA0 else 0x80 : UInt8).toNat ≤ v / 64 % 64 + 128 := by
      split <;> simp only [UInt8.reduceToNat] <;> omega
    have below : v / 64 % 64 + 128 ≤ (if v / 4096 % 16 = 13 then 0x9F else 0xBF : UInt8).toNat := by
      split <;> simp only [UInt8.reduceToNat] <;> omega
    simp only [List.cons_append, List.nil_append]
    rw [lossyFrom, startChar_three (by omega)]
    simp only
    rw [lossyFrom_follower (by omega) above below, lossyFrom_last (by omega) (by simp)
      (by simp; omega), number (by omega)]
  next three =>
    -- Here it leaves out shorter writings and numbers that no character has.
    have above : (if v / 262144 % 8 = 0 then 0x90 else 0x80 : UInt8).toNat ≤
        v / 4096 % 64 + 128 := by
      split <;> simp only [UInt8.reduceToNat] <;> omega
    have below : v / 4096 % 64 + 128 ≤
        (if v / 262144 % 8 = 4 then 0x8F else 0xBF : UInt8).toNat := by
      split <;> simp only [UInt8.reduceToNat] <;> omega
    simp only [List.cons_append, List.nil_append]
    rw [lossyFrom, startChar_four (by omega)]
    simp only
    rw [lossyFrom_follower (by omega) above below, lossyFrom_follower (by omega) (by simp)
      (by simp; omega), lossyFrom_last (by omega) (by simp) (by simp; omega), number (by omega)]

theorem lossyFrom_encodeChars (chars : List Char) (found : List Char) :
    lossyFrom (chars.flatMap String.utf8EncodeChar) none found = found.reverse ++ chars := by
  induction chars generalizing found with
  | nil => simp [lossyFrom]
  | cons c chars ih =>
    rw [List.flatMap_cons, lossyFrom_encodeChar, ih, List.reverse_cons, List.append_assoc,
      List.singleton_append]

/-- There is no damage in the bytes of a text. -/
@[simp] theorem lossy_ofText (text : String) : lossy (Bytes.ofText text) = text := by
  rw [lossy, lossyChars, Bytes.ofText_eq_flatMap, lossyFrom_encodeChars]
  exact String.ofList_toList

theorem lossy_ascii {bytes : Bytes} (ascii : ∀ b ∈ bytes, b < 128) :
    lossy bytes = Bytes.asciiText bytes := by
  have text := lossy_ofText (Bytes.asciiText bytes)
  rwa [Bytes.ofText_asciiText ascii] at text

end Text

/-! ### Plain texts -/

/-- A form value without escapes and pluses is the text that it spells. -/
theorem Http.Form.decode_plain {written : Bytes}
    (plain : ∀ b ∈ written, b < 128 ∧ b ≠ 37 ∧ b ≠ 43) :
    decode written = Bytes.asciiText written := by
  have same : (written.map fun b => if b = 43 then 32 else b) = written := by
    refine (List.map_congr_left fun b member => ?_).trans (List.map_id written)
    exact if_neg (plain b member).2.2
  rw [decode, same, percentDecode_plain fun b member => (plain b member).2.1]
  exact Text.lossy_ascii fun b member => (plain b member).1

/-- No symbol of the URL safe alphabet has a meaning in a query or in a cookie, where percent signs,
ampersands, pluses and semicolons have one. -/
theorem Base64.plain_of_mem_encode {form : Form} (safe : form.alphabet = .urlSafe) {bytes : Bytes}
    {s : UInt8} (member : s ∈ encode form bytes) :
    33 ≤ s ∧ s < 127 ∧ s ≠ 37 ∧ s ≠ 38 ∧ s ≠ 43 ∧ s ≠ 59 := by
  have all : ∀ v < 64, 33 ≤ Alphabet.urlSafe.symbol v ∧ Alphabet.urlSafe.symbol v < 127 ∧
      Alphabet.urlSafe.symbol v ≠ 37 ∧ Alphabet.urlSafe.symbol v ≠ 38 ∧
      Alphabet.urlSafe.symbol v ≠ 43 ∧ Alphabet.urlSafe.symbol v ≠ 59 := by decide
  rcases mem_encode member with ⟨v, small, rfl⟩ | rfl
  · rw [safe]
    exact all v small
  · decide

end SealedTokens
