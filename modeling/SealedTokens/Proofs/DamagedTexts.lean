import SealedTokens.Proofs.EncodedTexts
/-!
# Damaged texts

The reader that repairs damage leaves a mark wherever it does. A text without marks was read from
its own bytes, so what is read as such a text can be told from everything else by what is read.

## Main result

`Text.ofText_lossy`: bytes that are read without a mark are those of the text.

## Proof strategy

The reader is followed over the bytes of one character. Either it finds a mark, which it then
keeps, or the lead byte and its followers are all in their ranges, and then they are what encodes
the character. What comes after them is read as if nothing had stood before.
-/
namespace SealedTokens.Text

/-! ### Marks -/

/-- What has been found stays found. -/
theorem mem_lossyFrom {c : Char} {found : List Char} (member : c ∈ found) (bytes : Bytes)
    (state : Option Partial) : c ∈ lossyFrom bytes state found := by
  fun_induction lossyFrom bytes state found <;> simp_all

variable {bytes : Bytes} {found : List Char}

theorem followers_of_unmarked {b : UInt8}
    (unmarked : replacement ∉ lossyFrom (b :: bytes) none found) : followers b ≠ none := by
  intro none
  apply unmarked
  simp only [lossyFrom, startChar, none]
  exact mem_lossyFrom List.mem_cons_self _ _

/-- A follower that is owed is there, and in its range. -/
theorem exists_follower {value owed : Nat} {low high : UInt8} (least : 128 ≤ low.toNat)
    (greatest : high.toNat ≤ 191)
    (unmarked : replacement ∉ lossyFrom bytes (some ⟨value, owed, low, high⟩) found) :
    ∃ x rest, bytes = UInt8.ofNat (x + 128) :: rest ∧ x < 64 ∧
      low.toNat ≤ x + 128 ∧ x + 128 ≤ high.toNat := by
  cases bytes with
  | nil => exact absurd (by simp [lossyFrom]) unmarked
  | cons b rest =>
    by_cases inRange : (decide (low ≤ b) && decide (b ≤ high)) = true
    · rw [Bool.and_eq_true, decide_eq_true_eq, decide_eq_true_eq, UInt8.le_iff_toNat_le,
        UInt8.le_iff_toNat_le] at inRange
      refine ⟨b.toNat - 128, rest, ?_, by omega, by omega, by omega⟩
      rw [Nat.sub_add_cancel (by omega), UInt8.ofNat_toNat]
    -- Anything else ends the character before it is complete.
    · refine absurd ?_ unmarked
      rw [lossyFrom, if_neg inRange]
      split <;> exact mem_lossyFrom (by simp) _ _

/-! ### Characters and their bytes -/

theorem val_ofNat {v : Nat} (valid : v.isValidChar) : (Char.ofNat v).val.toNat = v := by
  rw [Char.ofNat, dif_pos valid]
  rfl

theorem encodeChar_two {n x : Nat} (low : 2 ≤ n) (high : n < 32) (small : x < 64) :
    String.utf8EncodeChar (Char.ofNat (n * 64 + x)) =
      [UInt8.ofNat (n + 192), UInt8.ofNat (x + 128)] := by
  have valid : (n * 64 + x).isValidChar := Or.inl (by omega)
  have digits : (n * 64 + x) / 64 % 32 = n ∧ (n * 64 + x) % 64 = x := by omega
  simp only [String.utf8EncodeChar, val_ofNat valid, digits]
  rw [if_neg (by omega), if_pos (by omega)]

theorem encodeChar_three {n x y : Nat} (high : n < 16) (smallX : x < 64) (smallY : y < 64)
    (long : n = 0 → 32 ≤ x) (noSurrogate : n = 13 → x < 32) :
    String.utf8EncodeChar (Char.ofNat ((n * 64 + x) * 64 + y)) =
      [UInt8.ofNat (n + 224), UInt8.ofNat (x + 128), UInt8.ofNat (y + 128)] := by
  have valid : ((n * 64 + x) * 64 + y).isValidChar := by
    unfold Nat.isValidChar
    omega
  have digits : ((n * 64 + x) * 64 + y) / 4096 % 16 = n ∧
      ((n * 64 + x) * 64 + y) / 64 % 64 = x ∧ ((n * 64 + x) * 64 + y) % 64 = y := by omega
  simp only [String.utf8EncodeChar, val_ofNat valid, digits]
  rw [if_neg (by omega), if_neg (by omega), if_pos (by omega)]

theorem encodeChar_four {n x y z : Nat} (high : n < 5) (smallX : x < 64) (smallY : y < 64)
    (smallZ : z < 64) (long : n = 0 → 16 ≤ x) (inUnicode : n = 4 → x < 16) :
    String.utf8EncodeChar (Char.ofNat (((n * 64 + x) * 64 + y) * 64 + z)) =
      [UInt8.ofNat (n + 240), UInt8.ofNat (x + 128), UInt8.ofNat (y + 128),
        UInt8.ofNat (z + 128)] := by
  have valid : (((n * 64 + x) * 64 + y) * 64 + z).isValidChar := by
    unfold Nat.isValidChar
    omega
  have digits : (((n * 64 + x) * 64 + y) * 64 + z) / 262144 % 8 = n ∧
      (((n * 64 + x) * 64 + y) * 64 + z) / 4096 % 64 = x ∧
      (((n * 64 + x) * 64 + y) * 64 + z) / 64 % 64 = y ∧
      (((n * 64 + x) * 64 + y) * 64 + z) % 64 = z := by omega
  simp only [String.utf8EncodeChar, val_ofNat valid, digits]
  rw [if_neg (by omega), if_neg (by omega), if_neg (by omega)]

/-- Where the lead bytes lie that bytes may follow, or none at all. -/
theorem lead_ranges {b : UInt8} (some : followers b ≠ none) : b.toNat < 128 ∨
    (194 ≤ b.toNat ∧ b.toNat < 224) ∨ (224 ≤ b.toNat ∧ b.toNat < 240) ∨
      (240 ≤ b.toNat ∧ b.toNat < 245) := by
  have all : ∀ n < 256, followers (UInt8.ofNat n) ≠ none → n < 128 ∨ (194 ≤ n ∧ n < 224) ∨
      (224 ≤ n ∧ n < 240) ∨ (240 ≤ n ∧ n < 245) := by decide +kernel
  exact all b.toNat b.toNat_lt (by rwa [UInt8.ofNat_toNat])

theorem exists_lead {b : UInt8} (base : Nat) {stop : Nat} {first : Nat}
    (range : first ≤ b.toNat ∧ b.toNat < stop) (above : base ≤ first := by decide) :
    ∃ n, first ≤ n + base ∧ n + base < stop ∧ b = UInt8.ofNat (n + base) :=
  ⟨b.toNat - base, by omega, by omega, by
    rw [Nat.sub_add_cancel (by omega), UInt8.ofNat_toNat]⟩

/-- Where no mark is left, the bytes of a character stand first. -/
theorem exists_char {b : UInt8} (unmarked : replacement ∉ lossyFrom (b :: bytes) none found) :
    ∃ c rest, b :: bytes = String.utf8EncodeChar c ++ rest := by
  rcases lead_ranges (followers_of_unmarked unmarked) with one | two | three | four
  · refine ⟨Char.ofNat b.toNat, bytes, ?_⟩
    have value : (Char.ofNat b.toNat).val.toNat = b.toNat := val_ofNat (Or.inl (by omega))
    rw [String.utf8EncodeChar, value, if_pos (by omega), UInt8.ofNat_toNat, List.singleton_append]
  -- After any other lead byte, the followers are taken one by one.
  · obtain ⟨n, low, high, rfl⟩ := exists_lead 192 two
    rw [lossyFrom, startChar_two (by omega) (by omega)] at unmarked
    obtain ⟨x, rest, rfl, smallX, -, -⟩ := exists_follower (by decide) (by decide) unmarked
    have encoded := encodeChar_two (n := n) (by omega) (by omega) smallX
    exact ⟨_, rest, by rw [encoded]; rfl⟩
  · obtain ⟨n, low, high, rfl⟩ := exists_lead 224 three
    rw [lossyFrom, startChar_three (by omega)] at unmarked
    simp only at unmarked
    obtain ⟨x, rest, rfl, smallX, above, below⟩ := exists_follower
      (by split <;> decide) (by split <;> decide) unmarked
    rw [lossyFrom_follower smallX above below] at unmarked
    obtain ⟨y, rest, rfl, smallY, -, -⟩ := exists_follower (by decide) (by decide) unmarked
    have long (first : n = 0) : 32 ≤ x := by
      rw [if_pos first] at above
      exact Nat.le_of_add_le_add_right (b := 128) above
    have inUnicode (last : n = 13) : x < 32 := by
      rw [if_pos last] at below
      exact Nat.lt_of_add_lt_add_right (n := 128) (Nat.lt_succ_of_le below)
    have encoded := encodeChar_three (n := n) (by omega) smallX smallY long inUnicode
    exact ⟨_, rest, by rw [encoded]; rfl⟩
  · obtain ⟨n, low, high, rfl⟩ := exists_lead 240 four
    rw [lossyFrom, startChar_four (by omega)] at unmarked
    simp only at unmarked
    obtain ⟨x, rest, rfl, smallX, above, below⟩ := exists_follower
      (by split <;> decide) (by split <;> decide) unmarked
    rw [lossyFrom_follower smallX above below] at unmarked
    obtain ⟨y, rest, rfl, smallY, aboveY, belowY⟩ :=
      exists_follower (by decide) (by decide) unmarked
    rw [lossyFrom_follower smallY aboveY belowY] at unmarked
    obtain ⟨z, rest, rfl, smallZ, -, -⟩ := exists_follower (by decide) (by decide) unmarked
    have long (first : n = 0) : 16 ≤ x := by
      rw [if_pos first] at above
      exact Nat.le_of_add_le_add_right (b := 128) above
    have inUnicode (last : n = 4) : x < 16 := by
      rw [if_pos last] at below
      exact Nat.lt_of_add_lt_add_right (n := 128) (Nat.lt_succ_of_le below)
    have encoded := encodeChar_four (n := n) (by omega) smallX smallY smallZ long inUnicode
    exact ⟨_, rest, by rw [encoded]; rfl⟩

/-! ### Main result -/

theorem encoded_of_unmarked (unmarked : replacement ∉ lossyFrom bytes none found) :
    ∃ chars, lossyFrom bytes none found = found.reverse ++ chars ∧
      chars.flatMap String.utf8EncodeChar = bytes := by
  induction long : bytes.length using Nat.strong_induction_on generalizing bytes found with
  | _ length ih =>
    cases bytes with
    | nil => exact ⟨[], by simp [lossyFrom], rfl⟩
    | cons b bytes =>
      obtain ⟨c, rest, split⟩ := exists_char unmarked
      rw [split, lossyFrom_encodeChar] at unmarked
      have shorter : rest.length < length := by
        have whole := congrArg List.length split
        have some := String.length_utf8EncodeChar c
        have := c.utf8Size_pos
        rw [List.length_append] at whole
        omega
      obtain ⟨chars, read, encoded⟩ := ih _ shorter unmarked rfl
      refine ⟨c :: chars, ?_, ?_⟩
      · rw [split, lossyFrom_encodeChar, read]
        simp
      · rw [List.flatMap_cons, encoded, split]

/-- Bytes that are read without a mark are those of the text. -/
theorem ofText_lossy (unmarked : replacement ∉ (lossy bytes).toList) :
    Bytes.ofText (lossy bytes) = bytes := by
  rw [lossy, String.toList_ofList, lossyChars] at unmarked
  obtain ⟨chars, read, encoded⟩ := encoded_of_unmarked unmarked
  rw [Bytes.ofText_eq_flatMap, lossy, String.toList_ofList, lossyChars, read, List.reverse_nil,
    List.nil_append, encoded]

end SealedTokens.Text
