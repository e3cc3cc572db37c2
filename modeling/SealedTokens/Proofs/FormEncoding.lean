import Mathlib.Tactic.IntervalCases
import SealedTokens.Http.Uri
import SealedTokens.Proofs.EncodedTexts
import SealedTokens.Proofs.Runs
/-!
# Form encoding

Writing the pairs of a form and reading them back gives the same pairs: any names and values,
empty ones and repeated ones, with any characters.

## Main results

- `Form.decode_encode`: a name or value is read back
- `Form.decodePairs_encodePairs`: so is a list of pairs
- `Form.of_mem_encodePairs`: what is written may stand in a query

## Proof strategy

Percent decoding is followed over what is written for one byte at a time, whatever comes after it.
Ampersands and equals signs are not written for any byte, so the pieces between them are those that
were joined.
-/
namespace SealedTokens

/-! ### Names and values -/

namespace Http

theorem percentDecodeFrom_escape {high low x y : UInt8} (first : hexDigit? high = some x)
    (second : hexDigit? low = some y) (rest done : Bytes) :
    percentDecodeFrom (37 :: high :: low :: rest) done =
      percentDecodeFrom rest ((x * 16 + y) :: done) := by
  rw [percentDecodeFrom, first, second]

namespace Form

/-- The bytes of written characters. -/
def written (chars : List Char) : Bytes := chars.map fun c => UInt8.ofNat c.toNat

/-- What a byte of a written name or value stands for, where a plus is a space. -/
def unplus (b : UInt8) : UInt8 := if b = 43 then 32 else b

/-- What is written for a byte: ASCII characters that may stand in a query and separate nothing. -/
theorem of_mem_encodeByte {b : UInt8} {c : Char} (member : c ∈ encodeByte b) :
    Uri.isQueryChar c = true ∧ c.toNat < 128 ∧ c ≠ '&' ∧ c ≠ '=' := by
  have all : ((List.range 256).all fun n => (encodeByte (UInt8.ofNat n)).all fun c =>
      Uri.isQueryChar c && decide (c.toNat < 128) && c != '&' && c != '=') = true := by
    decide +kernel
  have byte := List.all_eq_true.mp all b.toNat (List.mem_range.mpr b.toNat_lt)
  rw [UInt8.ofNat_toNat] at byte
  simpa only [Bool.and_eq_true, decide_eq_true_eq, bne_iff_ne, and_assoc] using
    List.all_eq_true.mp byte c member

/-- A digit in upper case is read as its value, and is no plus. -/
theorem hexDigit?_upper {n : Nat} (small : n < 16) :
    hexDigit? (unplus (UInt8.ofNat (Bytes.hexDigit n).toUpper.toNat)) = some (UInt8.ofNat n) := by
  interval_cases n <;> rfl

/-- A byte is read from the characters that are written for it. -/
theorem percentDecodeFrom_encodeByte (b : UInt8) (rest done : Bytes) :
    percentDecodeFrom ((written (encodeByte b)).map unplus ++ rest) done =
      percentDecodeFrom rest (b :: done) := by
  unfold encodeByte
  split
  -- Neither mark of the encoding is plain.
  next plain =>
    have same : UInt8.ofNat (Char.ofNat b.toNat).toNat = b := by
      have small := b.toNat_lt
      have valid : b.toNat.isValidChar := Or.inl (by omega)
      have number : (Char.ofNat b.toNat).toNat = b.toNat := by
        rw [Char.ofNat, dif_pos valid]
        rfl
      rw [number, UInt8.ofNat_toNat]
    have noPlus : b ≠ 43 := by
      rintro rfl
      cases plain
    have noEscape : b ≠ 37 := by
      rintro rfl
      cases plain
    have read : (written [Char.ofNat b.toNat]).map unplus = [b] := by
      simp only [written, List.map_cons, List.map_nil, same, unplus, noPlus, ite_false]
    rw [read, List.singleton_append, percentDecodeFrom_cons noEscape]
  next plain =>
  split
  -- A space is written as a plus, and a plus itself by its digits.
  next space =>
    rw [space]
    exact percentDecodeFrom_cons (by decide) rest done
  next space =>
    have value : UInt8.ofNat (b.toNat / 16) * 16 + UInt8.ofNat (b.toNat % 16) = b := by
      have small := b.toNat_lt
      apply UInt8.toNat_inj.mp
      simp only [UInt8.toNat_add, UInt8.toNat_mul, UInt8.toNat_ofNat']
      show (b.toNat / 16 % 2 ^ 8 * 16 % 2 ^ 8 + b.toNat % 16 % 2 ^ 8) % 2 ^ 8 = b.toNat
      omega
    have small := b.toNat_lt
    have digits := percentDecodeFrom_escape (hexDigit?_upper (n := b.toNat / 16) (by omega))
      (hexDigit?_upper (n := b.toNat % 16) (by omega)) rest done
    rw [value] at digits
    exact digits

theorem percentDecodeFrom_encodeBytes (bytes done : Bytes) :
    percentDecodeFrom ((written (bytes.flatMap encodeByte)).map unplus) done =
      done.reverse ++ bytes := by
  induction bytes generalizing done with
  | nil => simp [written, percentDecodeFrom]
  | cons b bytes ih =>
    have split : written ((b :: bytes).flatMap encodeByte) =
        written (encodeByte b) ++ written (bytes.flatMap encodeByte) := by
      rw [List.flatMap_cons, written, List.map_append]
      rfl
    rw [split, List.map_append, percentDecodeFrom_encodeByte, ih, List.reverse_cons,
      List.append_assoc, List.singleton_append]

@[simp] theorem decode_encode (text : String) : decode (written (encode text)) = text := by
  have bytes := percentDecodeFrom_encodeBytes (Bytes.ofText text) []
  rw [decode, percentDecode]
  show Text.lossy (percentDecodeFrom ((written (encode text)).map unplus) []) = text
  rw [encode, bytes, List.reverse_nil, List.nil_append, Text.lossy_ofText]

/-! ### Pairs -/

theorem of_mem_encode {text : String} {c : Char} (member : c ∈ encode text) :
    Uri.isQueryChar c = true ∧ c.toNat < 128 ∧ c ≠ '&' ∧ c ≠ '=' := by
  obtain ⟨b, -, member⟩ := List.mem_flatMap.mp member
  exact of_mem_encodeByte member

theorem of_mem_encodePair {pair : FormPair} {c : Char} (member : c ∈ encodePair pair) :
    Uri.isQueryChar c = true ∧ c.toNat < 128 ∧ c ≠ '&' := by
  rcases List.mem_append.mp member with member | member
  · obtain ⟨query, ascii, apart, -⟩ := of_mem_encode member
    exact ⟨query, ascii, apart⟩
  rcases List.mem_cons.mp member with rfl | member
  · decide
  · obtain ⟨query, ascii, apart, -⟩ := of_mem_encode member
    exact ⟨query, ascii, apart⟩

theorem ofText_ascii {chars : List Char} (ascii : ∀ c ∈ chars, c.toNat < 128) :
    Bytes.ofText (String.ofList chars) = written chars := by
  rw [← Bytes.ofAscii_eq_ofText (by rwa [String.toList_ofList]), Bytes.ofAscii,
    String.toList_ofList]
  rfl

/-- Different ASCII characters are different bytes. -/
theorem not_mem_written {chars : List Char} {c : Char}
    (apart : ∀ a ∈ chars, a.toNat < 128 ∧ a ≠ c) (ascii : c.toNat < 128) :
    UInt8.ofNat c.toNat ∉ written chars := by
  intro member
  obtain ⟨a, inside, same⟩ := List.mem_map.mp member
  have numbers := congrArg UInt8.toNat same
  rw [Bytes.toNat_byte (by have := (apart a inside).1; omega), Bytes.toNat_byte (by omega)]
    at numbers
  exact (apart a inside).2 (Char.toNat_inj.mp numbers)

theorem decodePair_encodePair (pair : FormPair) :
    decodePair (written (encodePair pair)) = pair := by
  have parts : written (encodePair pair) =
      written (encode pair.1) ++ 61 :: written (encode pair.2) := by
    rw [encodePair, written, List.map_append, List.map_cons]
    rfl
  have name : ∀ b ∈ written (encode pair.1), decide (b ≠ 61) = true := by
    intro b member
    refine decide_eq_true ?_
    rintro rfl
    have apart : ∀ c ∈ encode pair.1, c.toNat < 128 ∧ c ≠ '=' := fun c inside =>
      ⟨(of_mem_encode inside).2.1, (of_mem_encode inside).2.2.2⟩
    exact not_mem_written apart (by decide) member
  have stops : Stops (fun b : UInt8 => decide (b ≠ 61)) (61 :: written (encode pair.2)) :=
    .cons (by decide)
  -- The first equals sign is the one between name and value.
  rw [parts, decodePair, takeWhile_run name stops, dropWhile_run name stops, List.drop_succ_cons,
    List.drop_zero, decode_encode, decode_encode]

theorem written_encodePairs (pairs : List FormPair) :
    written (encodePairs pairs) =
      [38].intercalate (pairs.map fun pair => written (encodePair pair)) := by
  rw [encodePairs]
  induction pairs with
  | nil => rfl
  | cons pair pairs ih =>
    cases pairs with
    | nil => simp
    | cons next pairs =>
      simp only [List.map_cons, List.intercalate_cons_cons] at ih ⊢
      rw [← ih]
      simp [written]

/-- The pieces between ampersands are those that were joined by them. -/
theorem pieces_intercalate {pieces : List Bytes} (apart : ∀ piece ∈ pieces, (38 : UInt8) ∉ piece)
    (nonempty : ∀ piece ∈ pieces, (!piece.isEmpty) = true) :
    (([38].intercalate pieces).splitOn 38).filter (!·.isEmpty) = pieces := by
  rcases pieces.eq_nil_or_concat with rfl | ⟨front, last, rfl⟩
  · rfl
  · rw [List.splitOn_intercalate 38 apart (by simp), List.filter_eq_self.mpr nonempty]

theorem not_mem_written_encodePair (pair : FormPair) : (38 : UInt8) ∉ written (encodePair pair) :=
  not_mem_written (c := '&') (fun _ inside => (of_mem_encodePair inside).2) (by decide)

/-- A written pair has an equals sign. -/
theorem written_encodePair_nonempty (pair : FormPair) :
    (!(written (encodePair pair)).isEmpty) = true := by simp [written, encodePair]

theorem decodePairs_written (pairs : List FormPair) :
    decodePairs (written (encodePairs pairs)) = pairs := by
  have apart : ∀ piece ∈ pairs.map fun pair => written (encodePair pair), (38 : UInt8) ∉ piece :=
    List.forall_mem_map.mpr fun pair _ => not_mem_written_encodePair pair
  have nonempty : ∀ piece ∈ pairs.map fun pair => written (encodePair pair),
      (!piece.isEmpty) = true :=
    List.forall_mem_map.mpr fun pair _ => written_encodePair_nonempty pair
  rw [decodePairs, written_encodePairs, pieces_intercalate apart nonempty, List.map_map]
  refine (List.map_congr_left fun pair _ => ?_).trans (List.map_id pairs)
  exact decodePair_encodePair pair

theorem of_mem_encodePairs {pairs : List FormPair} {c : Char} (member : c ∈ encodePairs pairs) :
    Uri.isQueryChar c = true ∧ c.toNat < 128 := by
  unfold encodePairs at member
  induction pairs with
  | nil => simp at member
  | cons pair pairs ih =>
    cases pairs with
    | nil =>
      rw [List.map_singleton, List.intercalate_singleton] at member
      exact ⟨(of_mem_encodePair member).1, (of_mem_encodePair member).2.1⟩
    | cons next pairs =>
      simp only [List.map_cons, List.intercalate_cons_cons, List.append_assoc, List.mem_append]
        at member ih
      rcases member with member | member | member
      · exact ⟨(of_mem_encodePair member).1, (of_mem_encodePair member).2.1⟩
      · cases List.mem_singleton.mp member
        decide
      · exact ih member

/-- Pairs are read back from the query that they are written as. -/
theorem decodePairs_encodePairs (pairs : List FormPair) :
    decodePairs (Bytes.ofText (String.ofList (encodePairs pairs))) = pairs := by
  rw [ofText_ascii fun c member => (of_mem_encodePairs member).2]
  exact decodePairs_written pairs

end Form

end Http

end SealedTokens
