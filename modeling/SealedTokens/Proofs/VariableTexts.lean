import SealedTokens.Config.Environment
/-!
# Texts of environment variables

The text of a variable is first taken for the truth or the number that it looks like. What arrives at
a setting that is a text is how that truth or number is written, which need not be the text.

## Main results

- `Environment.standsFor_value`: what a text stands for
- `Environment.layOver_value`: a variable replaces what is there
- `Environment.delivered_eq_self_iff`: the texts that arrive as they are
- `Environment.delivered_of_other_char`: a character that keeps a text as it is
-/
namespace SealedTokens

/-! ### Characters of truths and numbers -/

namespace Decimal

/-- A character of a text is its sign or comes after it. -/
theorem mem_of_splitSign {c : Char} {chars : List Char} (member : c ∈ chars) :
    c ∈ ['+', '-'] ∨ c ∈ (splitSign chars).2 := by
  unfold splitSign
  split
  · rcases List.mem_cons.mp member with rfl | later
    · exact .inl (by decide)
    · exact .inr later
  · rcases List.mem_cons.mp member with rfl | later
    · exact .inl (by decide)
    · exact .inr later
  · exact .inr member

/-- The letters of the words for truths and numbers. -/
def wordLetters : List Char := "aefilnrstuy".toList

/-- The characters of truths and numbers. -/
def isValueChar (c : Char) : Bool :=
  c.isDigit || ['+', '-', '.'].contains c || wordLetters.contains c.toLower

/-- A sign and digits. -/
theorem isValueChar_of_digits {c : Char} {chars : List Char}
    (digits : (splitSign chars).2.all Char.isDigit = true) (member : c ∈ chars) :
    isValueChar c = true := by
  obtain sign | digit := mem_of_splitSign member
  · simp only [List.mem_cons, List.not_mem_nil, or_false] at sign
    rcases sign with rfl | rfl <;> rfl
  · rw [isValueChar, List.all_eq_true.mp digits c digit]
    rfl

theorem isValueChar_of_integer {text : String} {n : Int} {c : Char}
    (whole : integer? text = some n) (member : c ∈ text.toList) : isValueChar c = true := by
  unfold integer? at whole
  simp only at whole
  split at whole
  · cases whole
  next digits =>
    simp only [Bool.or_eq_true, Bool.not_eq_true', not_or, Bool.not_eq_false] at digits
    exact isValueChar_of_digits digits.2 member

theorem isValueChar_of_exponent {chars : List Char} {e : Int} {c : Char}
    (scaled : exponent? chars = some e) (member : c ∈ chars) : isValueChar c = true := by
  unfold exponent? at scaled
  split at scaled
  · cases member
  next mark rest =>
    split at scaled
    · cases scaled
    next marked =>
      simp only at scaled
      split at scaled
      · cases scaled
      next digits =>
        rcases List.mem_cons.mp member with rfl | later
        · rw [Decidable.not_and_iff_or_not, Decidable.not_not, Decidable.not_not] at marked
          rcases marked with rfl | rfl <;> rfl
        · simp only [Bool.or_eq_true, Bool.not_eq_true', not_or, Bool.not_eq_false] at digits
          exact isValueChar_of_digits digits.2 later

theorem isValueChar_of_word {word : String} {chars : List Char} {c : Char}
    (same : chars.map Char.toLower = word.toList)
    (letters : word.toList.all wordLetters.contains = true) (member : c ∈ chars) :
    isValueChar c = true := by
  have lower : c.toLower ∈ word.toList := same ▸ List.mem_map_of_mem member
  rw [isValueChar, List.all_eq_true.mp letters _ lower, Bool.or_true]

theorem isValueChar_of_real {text : String} {x : Binary64} {c : Char}
    (number : real? text = some x) (member : c ∈ text.toList) : isValueChar c = true := by
  obtain sign | unsigned := mem_of_splitSign member
  · simp only [List.mem_cons, List.not_mem_nil, or_false] at sign
    rcases sign with rfl | rfl <;> rfl
  unfold real? at number
  simp only [String.toList_ofList] at number
  generalize (splitSign text.toList).2 = chars at number unsigned
  have digit {chars : List Char} (inside : c ∈ chars.takeWhile Char.isDigit) :
      isValueChar c = true := by
    rw [isValueChar, List.all_eq_true.mp List.all_takeWhile c inside]
    rfl
  -- A word, or digits with what follows them.
  split at number
  next word =>
    rcases word with word | word
    · exact isValueChar_of_word word (by decide) unsigned
    · exact isValueChar_of_word word (by decide) unsigned
  split at number
  next word => exact isValueChar_of_word word (by decide) unsigned
  rw [← List.takeWhile_append_dropWhile (p := Char.isDigit) (l := chars), List.mem_append]
    at unsigned
  obtain whole | rest := unsigned
  · exact digit whole
  split at number
  next fraction point =>
    split at number
    next => cases number
    next =>
      obtain ⟨e, scaled, -⟩ := Option.map_eq_some_iff.mp number
      rw [point] at rest
      obtain rfl | behind := List.mem_cons.mp rest
      · rfl
      rw [← List.takeWhile_append_dropWhile (p := Char.isDigit) (l := fraction), List.mem_append]
        at behind
      obtain inside | after := behind
      · exact digit inside
      · exact isValueChar_of_exponent scaled after
  next =>
    split at number
    next => cases number
    next =>
      obtain ⟨e, scaled, -⟩ := Option.map_eq_some_iff.mp number
      exact isValueChar_of_exponent scaled rest

end Decimal

/-! ### Texts of variables -/

namespace Environment

variable {text : String}

/-- What the text of a variable stands for: a truth, a number, or itself. -/
inductive StandsFor (text : String) : ConfigValue → Prop
  | yes (word : Text.lower text = "true") : StandsFor text (.bool true)
  | no (word : Text.lower text = "false") : StandsFor text (.bool false)
  | integer (wordless : Text.lower text ∉ ["true", "false"]) {n : Int}
      (whole : Decimal.integer? text = some n) : StandsFor text (.integer n)
  | real (wordless : Text.lower text ∉ ["true", "false"]) (broken : Decimal.integer? text = none)
      {x : Binary64} (number : Decimal.real? text = some x) : StandsFor text (.real x)
  | text (wordless : Text.lower text ∉ ["true", "false"]) (broken : Decimal.integer? text = none)
      (numberless : Decimal.real? text = none) : StandsFor text (.text text)

theorem standsFor_value (text : String) : StandsFor text (value text) := by
  unfold value
  simp only
  split
  next word => exact .yes word
  next notTrue =>
    split
    next word => exact .no word
    next notFalse =>
      have wordless : Text.lower text ∉ ["true", "false"] := by simp [notTrue, notFalse]
      split
      next whole => exact .integer wordless whole
      next broken number => exact .real wordless broken number
      next broken numberless => exact .text wordless broken numberless

/-- The text that a setting has when a variable gives it. -/
def delivered (text : String) : String := ((value text).text? .lenient).getD text

theorem text?_value (text : String) : (value text).text? .lenient = some (delivered text) := by
  have stands := standsFor_value text
  unfold delivered
  generalize value text = v at stands ⊢
  cases stands <;> rfl

/-- No text stands for a table, so a variable replaces what is there. -/
theorem layOver_value (text : String) : ConfigValue.layOver (value text) = fun _ => value text := by
  have stands := standsFor_value text
  generalize value text = v at stands ⊢
  funext lower
  cases stands <;> rfl

/-- Texts of a truth or of a number, which are not how that truth or number is written. -/
inductive Respelled (text : String) : Prop
  | truth (word : Text.lower text ∈ ["true", "false"]) (differs : Text.lower text ≠ text)
  | integer {n : Int} (whole : Decimal.integer? text = some n) (differs : toString n ≠ text)
  | real {x : Binary64} (broken : Decimal.integer? text = none)
      (number : Decimal.real? text = some x) (differs : x.text ≠ text)

theorem not_respelled_of_word (word : text = "true" ∨ text = "false") : ¬ Respelled text := by
  rcases word with rfl | rfl
  all_goals
    rintro (⟨-, differs⟩ | ⟨whole, -⟩ | ⟨-, number, -⟩)
    · exact differs (by decide)
    · cases whole
    · cases number

theorem delivered_eq_self_iff (text : String) : delivered text = text ↔ ¬ Respelled text := by
  have stands := standsFor_value text
  unfold delivered
  generalize value text = v at stands ⊢
  cases stands with
  | yes word =>
    refine ⟨fun same => not_respelled_of_word (.inl same.symm), fun right => ?_⟩
    refine Decidable.byContradiction fun differs => right (.truth (by simp [word]) ?_)
    rw [word]
    exact differs
  | no word =>
    refine ⟨fun same => not_respelled_of_word (.inr same.symm), fun right => ?_⟩
    refine Decidable.byContradiction fun differs => right (.truth (by simp [word]) ?_)
    rw [word]
    exact differs
  | @integer wordless n whole =>
    constructor
    · rintro same (⟨word, -⟩ | ⟨whole', differs⟩ | ⟨broken, -, -⟩)
      · exact wordless word
      · cases whole.symm.trans whole'
        exact differs same
      · cases whole.symm.trans broken
    · exact fun right =>
        Decidable.byContradiction fun differs => right (.integer whole differs)
  | @real wordless broken x number =>
    constructor
    · rintro same (⟨word, -⟩ | ⟨whole, -⟩ | ⟨-, number', differs⟩)
      · exact wordless word
      · cases broken.symm.trans whole
      · cases number.symm.trans number'
        exact differs same
    · exact fun right =>
        Decidable.byContradiction fun differs => right (.real broken number differs)
  | text wordless broken numberless =>
    refine ⟨fun _ => ?_, fun _ => rfl⟩
    rintro (⟨word, -⟩ | ⟨whole, -⟩ | ⟨-, number, -⟩)
    · exact wordless word
    · cases broken.symm.trans whole
    · cases numberless.symm.trans number

/-- Truths and numbers are made of few characters, and a text with any other one arrives. -/
theorem delivered_of_other_char {c : Char} (member : c ∈ text.toList)
    (other : Decimal.isValueChar c = false) : delivered text = text := by
  refine (delivered_eq_self_iff text).mpr fun respelled => ?_
  refine Bool.false_ne_true (other.symm.trans ?_)
  cases respelled with
  | integer whole => exact Decimal.isValueChar_of_integer whole member
  | real broken number => exact Decimal.isValueChar_of_real number member
  | truth word =>
    simp only [List.mem_cons, List.not_mem_nil, or_false, Text.lower] at word
    rcases word with same | same
    all_goals
      have same := congrArg String.toList same
      rw [String.toList_ofList] at same
      exact Decimal.isValueChar_of_word same (by decide) member

end Environment

end SealedTokens
