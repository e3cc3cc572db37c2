import SealedTokens.Json.Shape
import SealedTokens.Proofs.Runs
import SealedTokens.Proofs.Texts
/-!
# JSON texts

JSON texts are parsed into the value they were printed for, as long as the value is one that the
library writes: whole numbers, strings without escapes, and objects of these.

## Main result

`Json.parse?_print`: a printed value is parsed into itself.

## Proof strategy

The parser is a machine with a stack and with fuel. A value that was printed takes it from a state
that expects a value to one that has the value, with whatever stack and whatever may follow, in
no more steps than two for each byte (`Parses`). This goes by induction on the value, with an
induction on the members of an object inside it. The fuel of a parse is what these bounds ask for.
-/
namespace SealedTokens

namespace Bytes

/-! ### Decimal numbers -/

theorem isDigit_of_mem_ofDecimal {n : Nat} {b : UInt8} (member : b ∈ ofDecimal n) :
    Json.isDigit b = true := by
  obtain ⟨c, char, rfl⟩ := List.mem_map.mp member
  have range := Text.toNat_of_isDigit (Nat.isDigit_of_mem_toDigits (by decide) (by decide) char)
  have byte : (UInt8.ofNat c.toNat).toNat = c.toNat := Bytes.toNat_byte (by omega)
  simp only [Json.isDigit, Bool.and_eq_true, decide_eq_true_eq, UInt8.le_iff_toNat_le, byte]
  exact range

theorem ofDecimal_ne_nil (n : Nat) : ofDecimal n ≠ [] := by
  simp [ofDecimal]

/-- A decimal number is its last digit after the digits of the rest. -/
theorem ofDecimal_of_le {n : Nat} (large : 10 ≤ n) :
    ofDecimal n = ofDecimal (n / 10) ++ [UInt8.ofNat (48 + n % 10)] := by
  rw [ofDecimal, Nat.toDigits_of_base_le (by decide) large, List.map_append, ← ofDecimal,
    List.map_singleton, Nat.toNat_digitChar_of_lt_ten (Nat.mod_lt _ (by decide))]

theorem ofDecimal_of_lt {n : Nat} (small : n < 10) : ofDecimal n = [UInt8.ofNat (48 + n)] := by
  rw [ofDecimal, Nat.toDigits_of_lt_base small, List.map_singleton,
    Nat.toNat_digitChar_of_lt_ten small]

theorem digitsValue_ofDecimal (n : Nat) : Json.digitsValue (ofDecimal n) = n := by
  induction n using Nat.strongRecOn with
  | ind n ih =>
    by_cases small : n < 10
    · have byte : (UInt8.ofNat (48 + n)).toNat = 48 + n := Bytes.toNat_byte (by omega)
      rw [ofDecimal_of_lt small]
      simp only [Json.digitsValue, List.foldl_cons, List.foldl_nil, byte]
      omega
    · have byte : (UInt8.ofNat (48 + n % 10)).toNat = 48 + n % 10 :=
        Bytes.toNat_byte (by omega)
      have earlier := ih (n / 10) (by omega)
      rw [Json.digitsValue] at earlier
      rw [ofDecimal_of_le (by omega), Json.digitsValue, List.foldl_append, earlier]
      simp only [List.foldl_cons, List.foldl_nil, byte]
      omega

/-- Only zero starts with a zero. -/
theorem head_ofDecimal_ne_zero {n : Nat} (positive : 0 < n) : (ofDecimal n).head? ≠ some 48 := by
  induction n using Nat.strongRecOn with
  | ind n ih =>
    by_cases small : n < 10
    · rw [ofDecimal_of_lt small]
      intro zero
      have byte : (UInt8.ofNat (48 + n)).toNat = 48 + n := Bytes.toNat_byte (by omega)
      have same := congrArg UInt8.toNat (Option.some.inj zero)
      rw [byte] at same
      have : (48 : UInt8).toNat = 48 := rfl
      omega
    · obtain ⟨first, more, shape⟩ := List.exists_cons_of_ne_nil (ofDecimal_ne_nil (n / 10))
      have earlier := ih (n / 10) (by omega) (by omega)
      rw [shape] at earlier
      rw [ofDecimal_of_le (by omega), shape]
      exact earlier

end Bytes

namespace Json

/-- The written form of a string without escapes. -/
def IsPlain (written : Bytes) : Prop := ∀ b ∈ written, 32 ≤ b ∧ b ≠ quote ∧ b ≠ backslash

/-! ### Scanning -/

/-- The values that the library writes. -/
inductive IsWritten : Json → Prop where
  | integer (n : Int) : IsWritten (.integer n)
  | text {written : Bytes} (plain : IsPlain written) : IsWritten (.text written)
  | object {members : List (Bytes × Json)} (keys : ∀ m ∈ members, IsPlain m.1)
      (values : ∀ m ∈ members, IsWritten m.2) : IsWritten (.object members)

/-- What may follow a value: the end, a comma or a closing bracket. -/
def Follows (rest : Bytes) : Prop :=
  ∀ b, rest.head? = some b → b = comma ∨ b = closeObject ∨ b = closeList

theorem scanText_plain (written rest done : Bytes) (plain : IsPlain written) :
    scanText (written ++ quote :: rest) done = some (done.reverse ++ written, rest) := by
  induction written generalizing done with
  | nil =>
    rw [List.nil_append, scanText.eq_def]
    simp
  | cons b written ih =>
    obtain ⟨visible, notQuote, notBackslash⟩ := plain b (by simp)
    have notControl : ¬ b < 32 := UInt8.not_lt.mpr visible
    rw [List.cons_append, scanText.eq_def]
    simp only [notQuote, notControl, notBackslash, ite_false]
    rw [ih _ fun c member => plain c (by simp [member])]
    simp

theorem Follows.stops {rest : Bytes} (follows : Follows rest) : Stops isDigit rest := by
  intro b first
  rcases follows b first with rfl | rfl | rfl <;> decide

theorem scanFraction_follows {rest : Bytes} (follows : Follows rest) :
    scanFraction rest = some ([], rest) := by
  match rest, follows with
  | [], _ => rfl
  | b :: rest, follows => rcases follows b rfl with rfl | rfl | rfl <;> rfl

theorem scanExponent_follows {rest : Bytes} (follows : Follows rest) :
    scanExponent rest = some ([], rest) := by
  match rest, follows with
  | [], _ => rfl
  | b :: rest, follows => rcases follows b rfl with rfl | rfl | rfl <;> rfl

theorem scanNumber_digits (negative : Bool) (m : Nat) (rest : Bytes) (follows : Follows rest)
    (notNegativeZero : negative = true → m ≠ 0) :
    scanNumber ((if negative then [45] else []) ++ Bytes.ofDecimal m ++ rest) =
      some (.integer (if negative then -(m : Int) else m), rest) := by
  have isDigit : ∀ b ∈ Bytes.ofDecimal m, Json.isDigit b = true :=
    fun b member => Bytes.isDigit_of_mem_ofDecimal member
  obtain ⟨first, more, shape⟩ := List.exists_cons_of_ne_nil (Bytes.ofDecimal_ne_nil m)
  have noSign : first ≠ 45 := by
    rintro rfl
    exact absurd (isDigit 45 (by simp [shape])) (by decide)
  have noLeadingZero :
      ¬ ((Bytes.ofDecimal m).head? = some 48 ∧ (Bytes.ofDecimal m).length > 1) := by
    rintro ⟨zero, long⟩
    by_cases positive : 0 < m
    · exact Bytes.head_ofDecimal_ne_zero positive zero
    · rw [Bytes.ofDecimal_of_lt (by omega)] at long
      simp at long
  have scan : (Bytes.ofDecimal m ++ rest).takeWhile Json.isDigit = Bytes.ofDecimal m :=
    takeWhile_run isDigit follows.stops
  have scanned : (Bytes.ofDecimal m ++ rest).dropWhile Json.isDigit = rest :=
    dropWhile_run isDigit follows.stops
  have sign : scanSign ((if negative then [45] else []) ++ Bytes.ofDecimal m ++ rest) =
      (negative, Bytes.ofDecimal m ++ rest) := by
    cases negative
    · simp only [Bool.false_eq_true, ite_false, List.nil_append, shape, List.cons_append]
      unfold scanSign
      split
      next same => simp_all
      · rfl
    · rfl
  have filled : (Bytes.ofDecimal m).isEmpty = false := by simp [shape]
  -- A negative zero would be read as a number with a fraction.
  have sound : (negative && decide (m = 0)) = false := by
    cases negative <;> simp_all
  unfold scanNumber
  rw [sign]
  simp only [scan, scanned, Bytes.digitsValue_ofDecimal, Bool.or_eq_true, Bool.and_eq_true,
    decide_eq_true_eq, filled, Bool.false_eq_true, false_or, noLeadingZero, ite_false,
    scanFraction_follows follows]
  refine Option.bind_eq_some_iff.mpr ⟨_, rfl, ?_⟩
  refine Option.bind_eq_some_iff.mpr ⟨_, scanExponent_follows follows, ?_⟩
  simp [sound]

theorem scanNumber_integer (n : Int) (rest : Bytes) (follows : Follows rest) :
    scanNumber (integerBytes n ++ rest) = some (.integer n, rest) := by
  have scan := scanNumber_digits (decide (n < 0)) n.natAbs rest follows
    (by rw [decide_eq_true_eq]; omega)
  simp only [decide_eq_true_eq] at scan
  rw [integerBytes, scan]
  simp only [Option.some.injEq, Prod.mk.injEq, integer.injEq, and_true]
  split <;> omega

theorem integerBytes_eq_cons (n : Int) :
    ∃ b more, integerBytes n = b :: more ∧ (b = 45 ∨ isDigit b = true) := by
  unfold integerBytes
  split
  · exact ⟨45, _, rfl, .inl rfl⟩
  · obtain ⟨b, more, shape⟩ := List.exists_cons_of_ne_nil (Bytes.ofDecimal_ne_nil n.natAbs)
    have member : b ∈ Bytes.ofDecimal n.natAbs := by simp [shape]
    exact ⟨b, more, shape, .inr (Bytes.isDigit_of_mem_ofDecimal member)⟩

/-! ### Steps of the parser -/

theorem skipBlanks_cons {b : UInt8} {rest : Bytes} (visible : isBlank b = false) :
    skipBlanks (b :: rest) = b :: rest := (Stops.cons visible).dropWhile_eq

theorem run_integer (n : Int) (fuel : Nat) (rest : Bytes) (stack : List Frame)
    (follows : Follows rest) :
    run (fuel + 1) .value (integerBytes n ++ rest) stack =
      run fuel (.after (.integer n)) rest stack := by
  have scan := scanNumber_integer n rest follows
  obtain ⟨b, more, shape, first⟩ := integerBytes_eq_cons n
  rw [shape, List.cons_append] at scan ⊢
  -- Neither a sign nor a digit is a blank, a quote, a bracket or the start of a word.
  have other : ∀ c, (c = 45 ∨ isDigit c = true) → isBlank c = false ∧ c ≠ quote ∧ c ≠ openList ∧
      c ≠ openObject ∧ c ≠ closeList ∧ c ≠ 110 ∧ c ≠ 116 ∧ c ≠ 102 := by
    intro c h
    rcases h with rfl | h
    · decide
    · have low : 48 ≤ c.toNat := by
        simp only [isDigit, Bool.and_eq_true, decide_eq_true_eq] at h
        exact h.1
      have high : c.toNat ≤ 57 := by
        simp only [isDigit, Bool.and_eq_true, decide_eq_true_eq] at h
        exact h.2
      refine ⟨?_, ?_⟩
      · simp only [isBlank, Bool.or_eq_false_iff, decide_eq_false_iff_not]
        refine ⟨⟨⟨?_, ?_⟩, ?_⟩, ?_⟩ <;> rintro rfl <;> revert low high <;> decide
      · refine ⟨?_, ?_, ?_, ?_, ?_, ?_, ?_⟩ <;> rintro rfl <;> revert low high <;> decide
  obtain ⟨visible, h1, h2, h3, h4, h5, h6, h7⟩ := other b first
  rw [run.eq_def]
  simp only [skipBlanks_cons visible, h1, h2, h3, h4, h5, h6, h7, ite_false, scan]

theorem run_text (written : Bytes) (plain : IsPlain written) (fuel : Nat) (rest : Bytes)
    (stack : List Frame) :
    run (fuel + 1) .value (quotedBytes written ++ rest) stack =
      run fuel (.after (.text written)) rest stack := by
  have scan := scanText_plain written rest [] plain
  have visible : isBlank quote = false := by decide
  rw [run.eq_def]
  simp only [quotedBytes, List.cons_append, List.append_assoc, List.nil_append,
    skipBlanks_cons visible, ite_true, scan, List.reverse_nil]

theorem run_key (key : Bytes) (plain : IsPlain key) (fuel : Nat) (rest : Bytes)
    (done : List (Bytes × Json)) (mayClose : Bool) (stack : List Frame) :
    run (fuel + 1) (.key done mayClose) (quotedBytes key ++ colon :: rest) stack =
      run fuel .value rest (.object done key :: stack) := by
  have scan := scanText_plain key (colon :: rest) [] plain
  have visible : isBlank quote = false := by decide
  have visible' : isBlank colon = false := by decide
  rw [run.eq_def]
  simp only [quotedBytes, List.cons_append, List.append_assoc, List.nil_append,
    skipBlanks_cons visible, skipBlanks_cons visible', ite_true, scan, List.reverse_nil]

theorem run_comma (v : Json) (fuel : Nat) (rest key : Bytes) (done : List (Bytes × Json))
    (stack : List Frame) :
    run (fuel + 1) (.after v) (comma :: rest) (.object done key :: stack) =
      run fuel (.key ((key, v) :: done) false) rest stack := by
  have visible : isBlank comma = false := by decide
  rw [run.eq_def]
  simp only [skipBlanks_cons visible, ite_true]

theorem run_close (v : Json) (fuel : Nat) (rest key : Bytes) (done : List (Bytes × Json))
    (stack : List Frame) :
    run (fuel + 1) (.after v) (closeObject :: rest) (.object done key :: stack) =
      run fuel (.after (.object (done.reverse ++ [(key, v)]))) rest stack := by
  have visible : isBlank closeObject = false := by decide
  have notComma : closeObject ≠ comma := by decide
  rw [run.eq_def]
  simp only [skipBlanks_cons visible, notComma, ite_true, ite_false, List.reverse_cons]

/-! ### Whole values -/

/-- A value is read from its text, in no more steps than two for each byte. -/
def Parses (v : Json) : Prop :=
  ∃ steps, steps ≤ 2 * (print v).length ∧ ∀ fuel rest stack, Follows rest →
    run (fuel + steps) .value (print v ++ rest) stack = run fuel (.after v) rest stack

/-- The members of an object are read up to its closing bracket. -/
theorem run_members : (members : List (Bytes × Json)) → members ≠ [] →
    (∀ m ∈ members, IsPlain m.1) → (∀ m ∈ members, Parses m.2) →
    ∃ steps, steps ≤ 2 * (printMembers members).length ∧ ∀ fuel rest stack done mayClose,
      run (fuel + steps) (.key done mayClose) (printMembers members ++ closeObject :: rest) stack =
        run fuel (.after (.object (done.reverse ++ members))) rest stack
  -- Key, value and closing bracket.
  | [(key, v)], _, keys, values => by
    obtain ⟨steps, bound, reads⟩ := values (key, v) (by simp)
    refine ⟨1 + steps + 1, ?_, fun fuel rest stack done mayClose => ?_⟩
    · simp only [printMembers, quotedBytes, List.length_append, List.length_cons, List.length_nil]
      simp only at bound
      omega
    · have follows : Follows (closeObject :: rest) := by
        intro b first
        cases first
        exact .inr (.inl rfl)
      rw [printMembers, List.append_assoc, List.cons_append,
        show fuel + (1 + steps + 1) = fuel + 1 + steps + 1 by omega,
        run_key key (keys (key, v) (by simp)), reads (fuel + 1) _ _ follows, run_close]
  -- Key, value, comma, and then the rest with this member done.
  | (key, v) :: next :: more, _, keys, values => by
    obtain ⟨steps, bound, reads⟩ := values (key, v) (by simp)
    obtain ⟨steps', bound', reads'⟩ := run_members (next :: more) (by simp)
      (fun m member => keys m (by simp [member])) (fun m member => values m (by simp [member]))
    refine ⟨steps' + 1 + steps + 1, ?_, fun fuel rest stack done mayClose => ?_⟩
    · simp only [printMembers, quotedBytes, List.length_append, List.length_cons, List.length_nil]
      simp only at bound
      omega
    · have follows : Follows (comma :: (printMembers (next :: more) ++ closeObject :: rest)) := by
        intro b first
        cases first
        exact .inl rfl
      rw [printMembers, List.append_assoc, List.append_assoc, List.cons_append, List.cons_append,
        show fuel + (steps' + 1 + steps + 1) = fuel + steps' + 1 + steps + 1 by omega,
        run_key key (keys (key, v) (by simp)), reads (fuel + steps' + 1) _ _ follows, run_comma,
        reads']
      · simp
      · simp

theorem parses_of_isWritten {v : Json} (written : IsWritten v) : Parses v := by
  induction written with
  | integer n =>
    obtain ⟨b, more, shape, -⟩ := integerBytes_eq_cons n
    exact ⟨1, by simp [print, shape]; omega,
      fun fuel rest stack follows => run_integer n fuel rest stack follows⟩
  | text plain =>
    exact ⟨1, by simp [print, quotedBytes]; omega,
      fun fuel rest stack _ => run_text _ plain fuel rest stack⟩
  | @object members keys values ih =>
    have visible : isBlank openObject = false := by decide
    have start (fuel : Nat) (rest : Bytes) (stack : List Frame) :
        run (fuel + 1) .value (openObject :: rest) stack = run fuel (.key [] true) rest stack := by
      rw [run.eq_def]
      simp only [skipBlanks_cons visible]
      rfl
    by_cases none : members = []
    · subst none
      refine ⟨2, by simp [print, printMembers], fun fuel rest stack _ => ?_⟩
      have visible' : isBlank closeObject = false := by decide
      rw [print, printMembers, List.append_assoc, List.singleton_append,
        List.singleton_append, start, run.eq_def]
      simp only [skipBlanks_cons visible']
      rfl
    · obtain ⟨steps, bound, reads⟩ := run_members members none keys ih
      refine ⟨steps + 1, ?_, fun fuel rest stack _ => ?_⟩
      · simp only [print, List.length_cons, List.length_append, List.length_nil]
        omega
      · rw [print, List.append_assoc, List.cons_append, List.singleton_append,
          ← Nat.add_assoc, start]
        exact reads fuel rest stack [] true

/-- **Printing and parsing.** A printed value is parsed into itself. -/
theorem parse?_print {v : Json} (written : IsWritten v) : parse? (print v) = some v := by
  obtain ⟨steps, bound, reads⟩ := parses_of_isWritten written
  have follows : Follows [] := by simp [Follows]
  -- One step more closes the parse, and one is left.
  have enough : 2 * (print v).length + 2 = (2 * (print v).length - steps + 1) + 1 + steps := by
    omega
  have read := reads (2 * (print v).length - steps + 1 + 1) [] [] follows
  rw [List.append_nil] at read
  rw [parse?, enough, read]
  rfl

end Json

end SealedTokens
