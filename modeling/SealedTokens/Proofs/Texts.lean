import Mathlib.Data.List.DropRight
import SealedTokens.Proofs.Runs
import SealedTokens.Text.Blank
import SealedTokens.Bytes
/-!
# Texts

Texts and their bytes: the two are inverse to each other, one byte stands for each ASCII character,
and a text without blanks is left alone by trimming.
-/
namespace SealedTokens

namespace Bytes

@[simp] theorem toText?_ofText (text : String) : toText? (ofText text) = some text := by
  simp only [toText?, ofText, String.toUTF8_eq_toByteArray, String.fromUTF8?]
  -- A text carries the proof that its bytes are valid.
  exact (dif_pos text.isValidUTF8).trans rfl

theorem ofText_of_toText? {bytes : Bytes} {text : String} (read : toText? bytes = some text) :
    ofText text = bytes := by
  simp only [toText?, String.fromUTF8?] at read
  split at read
  · cases read
    simp [ofText, String.fromUTF8]
  · simp at read

theorem ofText_injective : Function.Injective ofText := by
  intro a b same
  have read := congrArg toText? same
  simpa using read

theorem ofText_eq_flatMap (text : String) :
    ofText text = text.toList.flatMap String.utf8EncodeChar := by
  have encoded := String.utf8Encode_toList (b := text)
  simp [ofText, ← encoded, List.utf8Encode]

theorem utf8EncodeChar_ascii {c : Char} (ascii : c.toNat < 128) :
    String.utf8EncodeChar c = [UInt8.ofNat c.toNat] := by
  have small : c.val.toNat ≤ 0x7f := Nat.le_of_lt_succ ascii
  rw [String.utf8EncodeChar, if_pos small]
  rfl

theorem ofAscii_eq_ofText {text : String} (ascii : ∀ c ∈ text.toList, c.toNat < 128) :
    ofAscii text = ofText text := by
  rw [ofText_eq_flatMap, ofAscii, List.map_eq_flatMap]
  exact List.flatMap_congr fun c member => (utf8EncodeChar_ascii (ascii c member)).symm

/-- The text of bytes each of which is a character. -/
def asciiText (bytes : Bytes) : String := String.ofList (bytes.map fun b => Char.ofNat b.toNat)

theorem toNat_ofNat_ascii {b : UInt8} (ascii : b < 128) : (Char.ofNat b.toNat).toNat = b.toNat := by
  have small : b.toNat < 128 := ascii
  have valid : b.toNat.isValidChar := Or.inl (by omega)
  rw [Char.ofNat, dif_pos valid]
  rfl

theorem ofText_asciiText {bytes : Bytes} (ascii : ∀ b ∈ bytes, b < 128) :
    ofText (asciiText bytes) = bytes := by
  rw [← ofAscii_eq_ofText]
  · simp only [ofAscii, asciiText, String.toList_ofList, List.map_map]
    refine (List.map_congr_left fun b member => ?_).trans (List.map_id bytes)
    simp [toNat_ofNat_ascii (ascii b member)]
  · intro c member
    simp only [asciiText, String.toList_ofList, List.mem_map] at member
    obtain ⟨b, member, rfl⟩ := member
    rw [toNat_ofNat_ascii (ascii b member)]
    exact ascii b member

theorem toText?_ascii {bytes : Bytes} (ascii : ∀ b ∈ bytes, b < 128) :
    toText? bytes = some (asciiText bytes) := by
  have read := toText?_ofText (asciiText bytes)
  rwa [ofText_asciiText ascii] at read

end Bytes

namespace Text

/-- Digits are the characters from 48 to 57. -/
theorem toNat_of_isDigit {c : Char} (h : c.isDigit = true) : 48 ≤ c.toNat ∧ c.toNat ≤ 57 := by
  simp only [Char.isDigit, Bool.and_eq_true, decide_eq_true_eq, UInt32.le_iff_toNat_le] at h
  exact h

theorem dropWhile_isBlank {blanks rest : List Char} (blank : ∀ c ∈ blanks, isBlank c = true)
    (visible : ∀ c ∈ rest, isBlank c = false) : (blanks ++ rest).dropWhile isBlank = rest := by
  apply dropWhile_run blank
  intro c first
  exact visible c (List.mem_of_mem_head? first)

/-- Blanks around visible characters are what trimming takes away. -/
theorem trimChars_around {left text right : List Char} (before : ∀ c ∈ left, isBlank c = true)
    (visible : ∀ c ∈ text, isBlank c = false) (after : ∀ c ∈ right, isBlank c = true) :
    trimChars (left ++ text ++ right) = text := by
  rcases text.eq_nil_or_concat with rfl | ⟨front, last, rfl⟩
  · have blank : ∀ c ∈ left ++ right, isBlank c = true := by
      simpa only [List.forall_mem_append] using ⟨before, after⟩
    have nothing := dropWhile_isBlank blank visible
    rw [List.append_nil] at nothing ⊢
    rw [trimChars, nothing]
    rfl
  · have open' : (left ++ (front.concat last) ++ right).dropWhile isBlank =
        front.concat last ++ right := by
      rw [List.append_assoc]
      refine dropWhile_run before fun c first => visible c ?_
      cases front <;> simp_all
    have close : (front.concat last ++ right).reverse.dropWhile isBlank =
        (front.concat last).reverse := by
      rw [List.reverse_append]
      exact dropWhile_isBlank (fun c member => after c (List.mem_reverse.mp member))
        fun c member => visible c (List.mem_reverse.mp member)
    rw [trimChars, open', close, List.reverse_reverse]

theorem trim_eq_self {text : String} (visible : ∀ c ∈ text.toList, isBlank c = false) :
    trim text = text := by
  have nothing : ∀ c ∈ ([] : List Char), isBlank c = true := by simp
  have trimmed := trimChars_around nothing visible nothing
  rw [List.nil_append, List.append_nil] at trimmed
  rw [trim, trimmed, String.ofList_toList]

/-- The blanks of ASCII are the space and the controls before it, and one control after it. -/
theorem isBlank_of_visible {b : UInt8} (low : 33 ≤ b) (high : b < 127) :
    isBlank (Char.ofNat b.toNat) = false := by
  have ascii : b < 128 := UInt8.lt_trans high (by decide)
  have low : 33 ≤ b.toNat := low
  have high : b.toNat < 127 := high
  simp only [isBlank, Bytes.toNat_ofNat_ascii ascii, Bool.or_eq_false_iff, Bool.and_eq_false_iff,
    decide_eq_false_iff_not, beq_eq_false_iff_ne]
  omega

/-- Bytes that are visible ASCII characters are a text that trimming leaves alone. -/
theorem trim_asciiText {bytes : Bytes} (visible : ∀ b ∈ bytes, 33 ≤ b ∧ b < 127) :
    trim (Bytes.asciiText bytes) = Bytes.asciiText bytes := by
  apply trim_eq_self
  intro c member
  simp only [Bytes.asciiText, String.toList_ofList, List.mem_map] at member
  obtain ⟨b, member, rfl⟩ := member
  exact isBlank_of_visible (visible b member).1 (visible b member).2

/-- A character that is no small letter is a character in lower case only of itself. -/
theorem eq_of_toLower_eq {c mark : Char} (other : mark.val.toNat < 97 ∨ 122 < mark.val.toNat)
    (same : c.toLower = mark) : c = mark := by
  unfold Char.toLower at same
  split at same
  next upper =>
    have low : 65 ≤ c.val.toNat := UInt32.le_iff_toNat_le.mp upper.1
    have high : c.val.toNat ≤ 90 := UInt32.le_iff_toNat_le.mp upper.2
    have value : (c.val + 32).toNat = mark.val.toNat := congrArg (fun c : Char => c.val.toNat) same
    have offset : (32 : UInt32).toNat = 32 := rfl
    rw [UInt32.toNat_add] at value
    omega
  next => exact same

theorem sameIgnoringCase_comm {a b : String} :
    sameIgnoringCase a b = true ↔ sameIgnoringCase b a = true := by
  simp only [sameIgnoringCase, beq_iff_eq]
  exact eq_comm

/-- A character without case is in both of two texts that are the same but for their case. -/
theorem mem_of_sameIgnoringCase {a b : String} (same : sameIgnoringCase a b = true) {mark : Char}
    (other : mark.val.toNat < 97 ∨ 122 < mark.val.toNat) (caseless : mark.toLower = mark)
    (member : mark ∈ a.toList) : mark ∈ b.toList := by
  have lower : mark ∈ a.toList.map Char.toLower := List.mem_map.mpr ⟨mark, member, caseless⟩
  rw [beq_iff_eq.mp same] at lower
  obtain ⟨c, inside, isMark⟩ := List.mem_map.mp lower
  rwa [← eq_of_toLower_eq other isMark]

/-! ### Trimming -/

theorem sublist_dropWhile {p : Char → Bool} {kept chars : List Char}
    (keeps : ∀ c ∈ kept, p c = false) (inside : kept.Sublist chars) :
    kept.Sublist (chars.dropWhile p) := by
  induction inside with
  | slnil => exact .slnil
  | @cons kept chars c inside ih =>
    rw [List.dropWhile_cons]
    split
    · exact ih keeps
    · exact inside.cons c
  | @cons_cons kept chars c inside ih =>
    rw [List.dropWhile_cons, keeps c List.mem_cons_self]
    exact inside.cons_cons c

/-- Visible characters stay, and in their order. -/
theorem sublist_trimChars {kept chars : List Char} (visible : ∀ c ∈ kept, isBlank c = false)
    (inside : kept.Sublist chars) : kept.Sublist (trimChars chars) := by
  have opened := (sublist_dropWhile visible inside).reverse
  have visible' : ∀ c ∈ kept.reverse, isBlank c = false := fun c member =>
    visible c (List.mem_reverse.mp member)
  simpa [trimChars] using (sublist_dropWhile visible' opened).reverse

theorem dropWhile_append_visible (front back : List Char) {c : Char} (visible : isBlank c = false) :
    (front ++ c :: back).dropWhile isBlank = front.dropWhile isBlank ++ c :: back := by
  rw [List.dropWhile_append, List.dropWhile_cons_of_neg (by simp [visible])]
  split
  next blank =>
    rw [List.isEmpty_iff.mp blank]
    rfl
  next => rfl

/-- With a visible character in it, trimming leaves what is in front of it and what is behind it to
their own. -/
theorem trimChars_append_visible (front back : List Char) {c : Char} (visible : isBlank c = false) :
    trimChars (front ++ c :: back) =
      front.dropWhile isBlank ++ c :: (back.reverse.dropWhile isBlank).reverse := by
  rw [trimChars, dropWhile_append_visible _ _ visible, List.reverse_append, List.reverse_cons,
    List.append_assoc, List.singleton_append, dropWhile_append_visible _ _ visible,
    List.reverse_append, List.reverse_cons, List.reverse_reverse, List.append_assoc,
    List.singleton_append]

@[simp] theorem toList_trim (text : String) : (trim text).toList = trimChars text.toList :=
  String.toList_ofList

/-- What trimming leaves ends in a visible character. -/
theorem exists_visible_of_trimChars {chars front back : List Char}
    (split : trimChars chars = front ++ back) (filled : back ≠ []) :
    ∃ c ∈ back, isBlank c = false := by
  obtain ⟨inner, last, rfl⟩ := List.eq_nil_or_concat back |>.resolve_left filled
  have opened : (chars.dropWhile isBlank).reverse.dropWhile isBlank =
      last :: (front ++ inner).reverse := by
    rw [← List.reverse_inj, ← trimChars, split]
    simp
  have visible := List.head?_dropWhile_not isBlank (chars.dropWhile isBlank).reverse
  rw [opened] at visible
  exact ⟨last, by simp, by simpa using visible⟩

theorem trimChars_eq_nil {chars : List Char} :
    trimChars chars = [] ↔ ∀ c ∈ chars, isBlank c = true := by
  constructor
  · intro empty c member
    by_contra visible
    have kept : [c].Sublist (trimChars chars) :=
      sublist_trimChars (by simpa using visible) (List.singleton_sublist.mpr member)
    rw [empty] at kept
    exact absurd kept.length_le (by simp)
  · intro blank
    have opened : chars.dropWhile isBlank = [] := List.dropWhile_eq_nil_iff.mpr blank
    rw [trimChars, opened]
    rfl

theorem isBlankText_eq_false {text : String} :
    isBlankText text = false ↔ trimChars text.toList ≠ [] := by
  rw [Ne, trimChars_eq_nil, isBlankText, List.all_eq_false]
  simp

/-- What trimming leaves starts with a visible character. -/
theorem dropWhile_trimChars (chars : List Char) :
    (trimChars chars).dropWhile isBlank = trimChars chars := by
  have start : trimChars chars <+: chars.dropWhile isBlank := by
    have ending := List.dropWhile_suffix isBlank (l := (chars.dropWhile isBlank).reverse)
    simpa [trimChars] using List.reverse_prefix.mpr ending
  obtain ⟨more, whole⟩ := start
  cases trimmed : trimChars chars with
  | nil => rfl
  | cons first rest =>
    have visible := List.head?_dropWhile_not isBlank chars
    rw [← whole, trimmed] at visible
    exact List.dropWhile_cons_of_neg (by simpa using visible)

/-- Trimming trims once and for all. -/
theorem trimChars_trimChars (chars : List Char) :
    trimChars (trimChars chars) = trimChars chars := by
  rw [trimChars, dropWhile_trimChars, trimChars, List.reverse_reverse, List.dropWhile_idempotent]

/-- In front of visible characters, trimming takes away the first blanks. -/
theorem trimChars_append_word (front : List Char) {word : List Char} (filled : word ≠ [])
    (visible : ∀ c ∈ word, isBlank c = false) :
    trimChars (front ++ word) = front.dropWhile isBlank ++ word := by
  obtain ⟨first, rest, rfl⟩ := List.exists_cons_of_ne_nil filled
  have kept : rest.reverse.dropWhile isBlank = rest.reverse := by
    have nothing : ∀ c ∈ ([] : List Char), isBlank c = true := by simp
    refine dropWhile_isBlank nothing fun c member => ?_
    exact visible c (List.mem_cons_of_mem _ (List.mem_reverse.mp member))
  rw [trimChars_append_visible _ _ (visible first List.mem_cons_self), kept, List.reverse_reverse]

end Text

end SealedTokens
