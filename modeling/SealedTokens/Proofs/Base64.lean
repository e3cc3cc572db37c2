import Mathlib.Data.Nat.Basic
import SealedTokens.Base64
/-!
# Base64

Each byte string has exactly one text in a form of the encoding: reading gives back what was
written, and whatever can be read is what writing its content gives.

## Main results

- `decode_eq_ok_iff`: a text is read as a byte string exactly if it is written for it
- `visible_of_mem_encode`: it is written in visible characters other than those that have a meaning
  around it

## Proof strategy

Both directions come down to a last group of at most four characters. What reading such a group
collects, the values of its symbols and the number of its pads, spells the group
(`Tail.Spells`, an invariant of the scan), and the checks on the collected values leave only what
writing one, two or three bytes gives. The groups before it are an induction of four characters,
or three bytes, at a step.
-/
namespace SealedTokens.Base64

/-! ### Symbols and groups -/

theorem value?_symbol (alphabet : Alphabet) {v : Nat} (small : v < 64) :
    alphabet.value? (alphabet.symbol v) = some v := by
  revert v
  cases alphabet <;> decide

theorem symbol_of_value? {alphabet : Alphabet} {s : UInt8} {v : Nat}
    (read : alphabet.value? s = some v) : s = alphabet.symbol v ∧ v < 64 := by
  -- No lemma on the chain of ranges that is `value?`: there are only 256 bytes to try.
  have all : ∀ n < 256, ∀ v, alphabet.value? (UInt8.ofNat n) = some v →
      UInt8.ofNat n = alphabet.symbol v ∧ v < 64 := by
    cases alphabet <;> decide +kernel
  simpa using all s.toNat s.toNat_lt v (by simpa using read)

theorem symbol_ne_pad (alphabet : Alphabet) {v : Nat} (small : v < 64) :
    alphabet.symbol v ≠ pad := by
  revert v
  cases alphabet <;> decide

/-- The padding after a last group of `bytes` bytes. -/
def padding (form : Form) (bytes : Nat) : Bytes :=
  if form.padded then List.replicate (3 - bytes) pad else []

/-- The symbols of a group of three bytes. -/
def quad (form : Form) (a b c : UInt8) : Bytes :=
  let n := a.toNat * 65536 + b.toNat * 256 + c.toNat
  [form.alphabet.symbol (n / 262144), form.alphabet.symbol (n / 4096 % 64),
    form.alphabet.symbol (n / 64 % 64), form.alphabet.symbol (n % 64)]

theorem encodeFrom_eq (form : Form) : (bytes written : Bytes) →
    encodeFrom form bytes written = written.reverse ++ encode form bytes
  | a :: b :: c :: rest, written => by
    simp only [encode, encodeFrom]
    rw [encodeFrom_eq form rest (_ :: _ :: _ :: _ :: written), encodeFrom_eq form rest [_, _, _, _]]
    simp
  | [_, _], _ => by simp [encode, encodeFrom]
  | [_], _ => by simp [encode, encodeFrom]
  | [], _ => by simp [encode, encodeFrom]

@[simp] theorem encode_nil (form : Form) : encode form [] = [] := rfl

theorem encode_one (form : Form) (a : UInt8) :
    encode form [a] = form.alphabet.symbol (a.toNat / 4) ::
      form.alphabet.symbol (a.toNat * 16 % 64) :: padding form 1 := by
  cases h : form.padded <;> simp [encode, encodeFrom, padding, h, List.replicate]

theorem encode_two (form : Form) (a b : UInt8) :
    encode form [a, b] = form.alphabet.symbol ((a.toNat * 256 + b.toNat) / 1024) ::
      form.alphabet.symbol ((a.toNat * 256 + b.toNat) / 16 % 64) ::
      form.alphabet.symbol ((a.toNat * 256 + b.toNat) * 4 % 64) :: padding form 2 := by
  cases h : form.padded <;> simp [encode, encodeFrom, padding, h]

theorem encode_group (form : Form) (a b c : UInt8) (rest : Bytes) :
    encode form (a :: b :: c :: rest) = quad form a b c ++ encode form rest := by
  rw [encode, encodeFrom, encodeFrom_eq]
  simp [quad]

theorem length_encode (form : Form) : (bytes : Bytes) →
    (encode form bytes).length = if form.padded then (bytes.length + 2) / 3 * 4
      else (bytes.length * 4 + 2) / 3
  | a :: b :: c :: rest => by
    rw [encode_group, List.length_append, length_encode form rest]
    simp only [quad, List.length_cons, List.length_nil]
    split <;> omega
  | [a, b] => by
    rw [encode_two]
    cases h : form.padded <;> simp [padding, h]
  | [a] => by
    rw [encode_one]
    cases h : form.padded <;> simp [padding, h]
  | [] => by simp

/-- Bytes that lack one to groups of three are padded with one symbol. -/
theorem exists_encode_pad {form : Form} (padded : form.padded = true) : (bytes : Bytes) →
    bytes.length % 3 = 2 → ∃ front, encode form bytes = front ++ [pad]
  | a :: b :: c :: rest, short => by
    have shorter : rest.length % 3 = 2 := by
      simp only [List.length_cons] at short
      omega
    obtain ⟨front, written⟩ := exists_encode_pad padded rest shorter
    exact ⟨quad form a b c ++ front, by rw [encode_group, written, List.append_assoc]⟩
  | [a, b], _ => by
    rw [encode_two, padding, if_pos padded]
    exact ⟨[_, _, _], rfl⟩

theorem strayLast?_encode (form : Form) (bytes : Bytes) :
    strayLast? form (encode form bytes) = none := by
  have length := length_encode form bytes
  rw [strayLast?, if_neg]
  rw [length]
  split <;> omega

/-! ### The scan of a last group -/

/-- The symbols of values, which have six bits each. -/
def symbols (form : Form) (values : List Nat) : Bytes := values.map form.alphabet.symbol

theorem readTail_pads (form : Form) (start : Nat) (pads index : Nat) (tail : Tail)
    (late : 2 ≤ index) :
    ∃ firstPad, readTail form start (List.replicate pads pad) index tail =
      .ok { tail with padding := tail.padding + pads, firstPad := firstPad } := by
  induction pads generalizing index tail with
  | zero => exact ⟨tail.firstPad, rfl⟩
  | succ pads ih =>
    obtain ⟨firstPad, read⟩ := ih (index + 1)
      { tail with padding := tail.padding + 1
                  firstPad := if tail.padding = 0 then index else tail.firstPad } (by omega)
    refine ⟨firstPad, ?_⟩
    have notEarly : ¬ index < 2 := by omega
    simp only [List.replicate_succ, readTail, ite_true, notEarly, ite_false, read]
    rw [Nat.add_assoc, Nat.add_comm 1 pads]

theorem readTail_symbols (form : Form) (start : Nat) (values : List Nat) (rest : Bytes)
    (small : ∀ v ∈ values, v < 64) (index : Nat) (tail : Tail) (open' : tail.padding = 0) :
    ∃ last, readTail form start (symbols form values ++ rest) index tail =
      readTail form start rest (index + values.length)
        { tail with values := tail.values ++ values, last := last } := by
  induction values generalizing index tail with
  | nil => exact ⟨tail.last, by simp [symbols]⟩
  | cons v values ih =>
    have first := small v (by simp)
    obtain ⟨last, read⟩ := ih (fun w member => small w (by simp [member])) (index + 1)
      { tail with values := tail.values ++ [v], last := form.alphabet.symbol v } open'
    refine ⟨last, ?_⟩
    simp only [symbols, List.map_cons, List.cons_append, readTail, symbol_ne_pad _ first, open',
      value?_symbol _ first, ite_false, Nat.lt_irrefl, gt_iff_lt] at read ⊢
    rw [read]
    simp [Nat.add_assoc, Nat.add_comm 1]

theorem readTail_group (form : Form) (start : Nat) (values : List Nat) (pads : Nat)
    (small : ∀ v ∈ values, v < 64) (late : 2 ≤ values.length) :
    ∃ last firstPad, readTail form start (symbols form values ++ List.replicate pads pad) 0 {} =
      .ok ⟨values, last, pads, firstPad⟩ := by
  obtain ⟨last, read⟩ :=
    readTail_symbols form start values (List.replicate pads pad) small 0 {} rfl
  obtain ⟨firstPad, read'⟩ := readTail_pads form start pads values.length
    { values := values, last := last } late
  refine ⟨last, firstPad, ?_⟩
  simpa using read.trans (by simpa using read')

theorem padding_eq (form : Form) (bytes : Nat) :
    padding form bytes = List.replicate (if form.padded then 3 - bytes else 0) pad := by
  cases h : form.padded <;> simp [padding, h]

theorem decodeTail_pair (form : Form) (start : Nat) {x y : Nat} (hx : x < 64) (hy : y < 64)
    (spare : y % 16 = 0) :
    decodeTail form start (symbols form [x, y] ++ padding form 1) =
      .ok [UInt8.ofNat (x * 4 + y / 16)] := by
  obtain ⟨last, firstPad, read⟩ := readTail_group form start [x, y] (if form.padded then 2 else 0)
    (by simp [hx, hy]) (by simp)
  rw [padding_eq, decodeTail, read]
  cases h : form.padded <;> simp [symbols, spare, bind, Except.bind, pure, Except.pure]

theorem decodeTail_triple (form : Form) (start : Nat) {x y z : Nat} (hx : x < 64) (hy : y < 64)
    (hz : z < 64) (spare : z % 4 = 0) :
    decodeTail form start (symbols form [x, y, z] ++ padding form 2) =
      .ok [UInt8.ofNat (x * 4 + y / 16), UInt8.ofNat (y % 16 * 16 + z / 4)] := by
  obtain ⟨last, firstPad, read⟩ := readTail_group form start [x, y, z]
    (if form.padded then 1 else 0) (by simp [hx, hy, hz]) (by simp)
  rw [padding_eq, decodeTail, read]
  cases h : form.padded <;> simp [symbols, spare, bind, Except.bind, pure, Except.pure]

theorem decodeTail_quad (form : Form) (start : Nat) {x y z w : Nat} (hx : x < 64) (hy : y < 64)
    (hz : z < 64) (hw : w < 64) :
    decodeTail form start (symbols form [x, y, z, w]) =
      .ok [UInt8.ofNat (x * 4 + y / 16), UInt8.ofNat (y % 16 * 16 + z / 4),
        UInt8.ofNat (z % 4 * 64 + w)] := by
  obtain ⟨last, firstPad, read⟩ := readTail_group form start [x, y, z, w] 0
    (by simp [hx, hy, hz, hw]) (by simp)
  rw [List.replicate_zero, List.append_nil] at read
  rw [decodeTail, read]
  cases h : form.padded <;> simp [symbols, bind, Except.bind, pure, Except.pure]

/-! ### Reading what was written -/

/-- Six bits at a time and eight bits at a time are the same number. -/
theorem quad_values (a b c : UInt8) :
    let n := a.toNat * 65536 + b.toNat * 256 + c.toNat
    n / 262144 < 64 ∧ UInt8.ofNat (n / 262144 * 4 + n / 4096 % 64 / 16) = a ∧
      UInt8.ofNat (n / 4096 % 64 % 16 * 16 + n / 64 % 64 / 4) = b ∧
      UInt8.ofNat (n / 64 % 64 % 4 * 64 + n % 64) = c := by
  have boundA := a.toNat_lt
  have boundB := b.toNat_lt
  have boundC := c.toNat_lt
  intro n
  have byteA : n / 262144 * 4 + n / 4096 % 64 / 16 = a.toNat := by omega
  have byteB : n / 4096 % 64 % 16 * 16 + n / 64 % 64 / 4 = b.toNat := by omega
  have byteC : n / 64 % 64 % 4 * 64 + n % 64 = c.toNat := by omega
  rw [byteA, byteB, byteC]
  simp only [UInt8.ofNat_toNat, and_true]
  omega

theorem decodeTail_encode (form : Form) (start : Nat) (bytes : Bytes) (filled : bytes ≠ [])
    (short : bytes.length ≤ 3) : decodeTail form start (encode form bytes) = .ok bytes := by
  match bytes, filled, short with
  | [a], _, _ =>
    have bound := a.toNat_lt
    have read := decodeTail_pair form start (x := a.toNat / 4) (y := a.toNat * 16 % 64) (by omega)
      (by omega) (by omega)
    have byte : a.toNat / 4 * 4 + a.toNat * 16 % 64 / 16 = a.toNat := by omega
    rw [byte, UInt8.ofNat_toNat] at read
    rw [encode_one]
    exact read
  | [a, b], _, _ =>
    have boundA := a.toNat_lt
    have boundB := b.toNat_lt
    let n := a.toNat * 256 + b.toNat
    have read := decodeTail_triple form start (x := n / 1024) (y := n / 16 % 64)
      (z := n * 4 % 64) (by omega) (by omega) (by omega) (by omega)
    have byteA : n / 1024 * 4 + n / 16 % 64 / 16 = a.toNat := by omega
    have byteB : n / 16 % 64 % 16 * 16 + n * 4 % 64 / 4 = b.toNat := by omega
    rw [byteA, byteB, UInt8.ofNat_toNat, UInt8.ofNat_toNat] at read
    rw [encode_two]
    exact read
  | [a, b, c], _, _ =>
    obtain ⟨first, byteA, byteB, byteC⟩ := quad_values a b c
    let n := a.toNat * 65536 + b.toNat * 256 + c.toNat
    have read := decodeTail_quad form start (x := n / 262144) (y := n / 4096 % 64)
      (z := n / 64 % 64) (w := n % 64) first (by omega) (by omega) (by omega)
    rw [byteA, byteB, byteC] at read
    rw [encode_group, encode_nil, List.append_nil]
    exact read

theorem decodeFrom_short (form : Form) {text : Bytes} (start : Nat) (done : Bytes)
    (short : text.length ≤ 4) : decodeFrom form text start done =
      (decodeTail form start text).map fun last => (last.reverse ++ done).reverse := by
  match text, short with
  | [], _ | [_], _ | [_, _], _ | [_, _, _], _ | [_, _, _, _], _ => rfl

theorem decodeFrom_encode (form : Form) : (bytes : Bytes) → (start : Nat) → (done : Bytes) →
    bytes ≠ [] → decodeFrom form (encode form bytes) start done = .ok (done.reverse ++ bytes)
  | a :: b :: c :: d :: rest, start, done, _ => by
    obtain ⟨first, byteA, byteB, byteC⟩ := quad_values a b c
    have more : encode form (d :: rest) ≠ [] := by
      rw [← List.length_pos_iff, length_encode]
      split
      · simp
      · simp only [List.length_cons]
        omega
    obtain ⟨e, others, shape⟩ := List.exists_cons_of_ne_nil more
    have read := decodeFrom_encode form (d :: rest) (start + 4) (c :: b :: a :: done) (by simp)
    rw [shape] at read
    rw [encode_group, shape]
    simp only [quad, List.cons_append, List.nil_append, decodeFrom,
      value?_symbol form.alphabet first, value?_symbol form.alphabet (Nat.mod_lt _ (by decide)),
      byteA, byteB, byteC, read]
    simp
  -- One, two or three bytes are a last group, as long as it may be for that.
  | [a, b, c], start, done, _ | [a, b], start, done, _ | [a], start, done, _ => by
    rw [decodeFrom_short, decodeTail_encode _ _ _ (by simp) (by simp)]
    · simp [Except.map]
    · rw [length_encode]
      split <;> simp

theorem decode_encode (form : Form) (bytes : Bytes) :
    decode form (encode form bytes) = .ok bytes := by
  rw [decode, strayLast?_encode]
  by_cases empty : bytes = []
  · subst empty
    rfl
  · simpa using decodeFrom_encode form bytes 0 [] empty

/-! ### What can be read -/

/-- Symbols and padding, in this order and of values that have six bits. -/
def Tail.Spells (form : Form) (tail : Tail) (text : Bytes) : Prop :=
  text = symbols form tail.values ++ List.replicate tail.padding pad ∧ ∀ v ∈ tail.values, v < 64

theorem Tail.Spells.symbol {form : Form} {tail : Tail} {text : Bytes}
    (spells : tail.Spells form text) (open' : tail.padding = 0) {s : UInt8} {v : Nat}
    (read : form.alphabet.value? s = some v) :
    Tail.Spells form { tail with values := tail.values ++ [v], last := s } (text ++ [s]) := by
  obtain ⟨same, small⟩ := symbol_of_value? read
  constructor
  · rw [spells.1]
    simp [symbols, open', same]
  · intro w member
    rcases List.mem_append.mp member with member | member
    · exact spells.2 w member
    · rw [List.mem_singleton.mp member]
      exact small

/-- Reading a last group symbol by symbol keeps account of all of it. -/
theorem readTail_spells (form : Form) (start : Nat) (group : Bytes) (index : Nat) (tail read : Tail)
    (text : Bytes) (spells : tail.Spells form text)
    (returned : readTail form start group index tail = .ok read) :
    read.Spells form (text ++ group) := by
  induction group generalizing index tail text with
  | nil =>
    cases returned
    simpa using spells
  | cons s rest ih =>
    rw [show text ++ s :: rest = (text ++ [s]) ++ rest by simp]
    simp only [readTail] at returned
    split at returned
    next padded =>
      split at returned
      · cases returned
      · refine ih _ _ _ ?_ returned
        refine ⟨?_, spells.2⟩
        rw [spells.1, padded, List.append_assoc, List.replicate_succ']
    · split at returned
      · cases returned
      next notPadded =>
        split at returned
        · cases returned
        next v value => exact ih _ _ _ (spells.symbol (by omega) value) returned

theorem toNat_high {x y : Nat} (hx : x < 64) (hy : y < 64) :
    (UInt8.ofNat (x * 4 + y / 16)).toNat = x * 4 + y / 16 := Bytes.toNat_byte (by omega)

theorem toNat_middle (y : Nat) {z : Nat} (hz : z < 64) :
    (UInt8.ofNat (y % 16 * 16 + z / 4)).toNat = y % 16 * 16 + z / 4 :=
  Bytes.toNat_byte (by omega)

theorem toNat_low (z : Nat) {w : Nat} (hw : w < 64) :
    (UInt8.ofNat (z % 4 * 64 + w)).toNat = z % 4 * 64 + w := Bytes.toNat_byte (by omega)

theorem encode_pair (form : Form) {x y : Nat} (hx : x < 64) (hy : y < 64) (spare : y % 16 = 0) :
    encode form [UInt8.ofNat (x * 4 + y / 16)] = symbols form [x, y] ++ padding form 1 := by
  rw [encode_one, toNat_high hx hy]
  have first : (x * 4 + y / 16) / 4 = x := by omega
  have second : (x * 4 + y / 16) * 16 % 64 = y := by omega
  rw [first, second]
  rfl

theorem encode_triple (form : Form) {x y z : Nat} (hx : x < 64) (hy : y < 64) (hz : z < 64)
    (spare : z % 4 = 0) :
    encode form [UInt8.ofNat (x * 4 + y / 16), UInt8.ofNat (y % 16 * 16 + z / 4)] =
      symbols form [x, y, z] ++ padding form 2 := by
  rw [encode_two, toNat_high hx hy, toNat_middle y hz]
  have first : ((x * 4 + y / 16) * 256 + (y % 16 * 16 + z / 4)) / 1024 = x := by omega
  have second : ((x * 4 + y / 16) * 256 + (y % 16 * 16 + z / 4)) / 16 % 64 = y := by omega
  have third : ((x * 4 + y / 16) * 256 + (y % 16 * 16 + z / 4)) * 4 % 64 = z := by omega
  rw [first, second, third]
  rfl

theorem quad_of_values (form : Form) {x y z w : Nat} (hx : x < 64) (hy : y < 64) (hz : z < 64)
    (hw : w < 64) :
    quad form (UInt8.ofNat (x * 4 + y / 16)) (UInt8.ofNat (y % 16 * 16 + z / 4))
      (UInt8.ofNat (z % 4 * 64 + w)) = symbols form [x, y, z, w] := by
  simp only [quad, toNat_high hx hy, toNat_middle y hz, toNat_low z hw]
  have number : (x * 4 + y / 16) * 65536 + (y % 16 * 16 + z / 4) * 256 + (z % 4 * 64 + w) =
      x * 262144 + y * 4096 + z * 64 + w := by omega
  have first : (x * 262144 + y * 4096 + z * 64 + w) / 262144 = x := by omega
  have second : (x * 262144 + y * 4096 + z * 64 + w) / 4096 % 64 = y := by omega
  have third : (x * 262144 + y * 4096 + z * 64 + w) / 64 % 64 = z := by omega
  have fourth : (x * 262144 + y * 4096 + z * 64 + w) % 64 = w := by omega
  rw [number, first, second, third, fourth]
  rfl

/-- A last group that can be read is what writing its bytes gives. -/
theorem eq_encode_of_decodeTail (form : Form) (start : Nat) (group bytes : Bytes)
    (short : group.length ≤ 4) (returned : decodeTail form start group = .ok bytes) :
    group = encode form bytes := by
  cases scan : readTail form start group 0 {} with
  | error fault => simp [decodeTail, scan, bind, Except.bind] at returned
  | ok tail =>
    obtain ⟨spelled, small⟩ := readTail_spells form start group 0 {} tail []
      ⟨by simp [symbols], by simp⟩ scan
    obtain ⟨values, last, pads, firstPad⟩ := tail
    rw [List.nil_append] at spelled
    have length : group.length = values.length + pads := by simp [spelled, symbols]
    simp only at spelled small
    simp only [decodeTail, scan, bind, Except.bind, pure, Except.pure] at returned
    -- The checks in order: nothing at all, the length, the padding.
    by_cases empty : start + group.length = 0
    · have : group = [] := List.eq_nil_of_length_eq_zero (by omega)
      subst this
      simp_all
    rw [if_neg empty] at returned
    split at returned
    · cases returned
    split at returned
    · cases returned
    next fits =>
    split at returned
    · cases returned
    next bare =>
    -- What is left are two to four symbols with the padding that belongs to them.
    have pads_eq : ∀ n, values.length = n → 2 ≤ n → n ≤ 4 →
        List.replicate pads pad = padding form (n - 1) := by
      intro n count low high
      rw [padding_eq]
      cases h : form.padded
      · simp [h] at bare ⊢
        exact bare
      · simp [h] at fits ⊢
        omega
    match values with
    | [x, y] =>
      -- Spare bits that are not zero would make a second spelling: they are refused.
      simp only [List.mem_cons, forall_eq_or_imp, List.not_mem_nil, false_implies, implies_true,
        and_true] at small
      simp only at returned
      split at returned
      · cases returned
      next spare =>
        cases returned
        rw [encode_pair form small.1 small.2 (by simpa using spare), spelled,
          pads_eq 2 rfl (by decide) (by decide)]
    | [x, y, z] =>
      simp only [List.mem_cons, forall_eq_or_imp, List.not_mem_nil, false_implies, implies_true,
        and_true] at small
      simp only at returned
      split at returned
      · cases returned
      next spare =>
        cases returned
        rw [encode_triple form small.1 small.2.1 small.2.2 (by simpa using spare), spelled,
          pads_eq 3 rfl (by decide) (by decide)]
    | [x, y, z, w] =>
      simp only [List.mem_cons, forall_eq_or_imp, List.not_mem_nil, false_implies, implies_true,
        and_true] at small
      cases returned
      have none : pads = 0 := by
        simp only [List.length_cons, List.length_nil] at length
        omega
      rw [encode_group, encode_nil, quad_of_values form small.1 small.2.1 small.2.2.1 small.2.2.2,
        spelled]
      simp [none]
    | [] => simp_all
    | [_] => simp_all
    | _ :: _ :: _ :: _ :: _ :: more =>
      simp only [List.length_cons] at length
      omega

theorem eq_encode_of_decodeFrom (form : Form) (text : Bytes) (start : Nat) (done bytes : Bytes)
    (returned : decodeFrom form text start done = .ok bytes) :
    ∃ content, bytes = done.reverse ++ content ∧ text = encode form content := by
  -- The cases are those of the function: a group of four with more behind it, each of its symbols
  -- failing in turn, and a last group.
  fun_induction decodeFrom form text start done with
  | case1 a b c d e rest start done va vb vc vd hd hc hb ha ih =>
    obtain ⟨content, rfl, more⟩ := ih returned
    obtain ⟨rfl, smallA⟩ := symbol_of_value? ha
    obtain ⟨rfl, smallB⟩ := symbol_of_value? hb
    obtain ⟨rfl, smallC⟩ := symbol_of_value? hc
    obtain ⟨rfl, smallD⟩ := symbol_of_value? hd
    refine ⟨UInt8.ofNat (va * 4 + vb / 16) :: UInt8.ofNat (vb % 16 * 16 + vc / 4) ::
      UInt8.ofNat (vc % 4 * 64 + vd) :: content, by simp, ?_⟩
    rw [encode_group, quad_of_values form smallA smallB smallC smallD, ← more]
    rfl
  | case2 | case3 | case4 | case5 => cases returned
  | case6 group start done long =>
    cases last : decodeTail form start group with
    | error fault => simp [last, Except.map] at returned
    | ok content =>
      refine ⟨content, ?_, eq_encode_of_decodeTail form start group content ?_ last⟩
      · simpa [last, Except.map, eq_comm] using returned
      · match group, long with
        | [], _ | [_], _ | [_, _], _ | [_, _, _], _ | [_, _, _, _], _ => simp
        | a :: b :: c :: d :: e :: rest, long => exact (long a b c d e rest rfl).elim

theorem eq_encode_of_decode {form : Form} {text bytes : Bytes}
    (returned : decode form text = .ok bytes) : text = encode form bytes := by
  rw [decode] at returned
  split at returned
  · cases returned
  · obtain ⟨content, rfl, same⟩ := eq_encode_of_decodeFrom form text 0 [] bytes returned
    exact same

/-- **One spelling.** Reading gives back what was written, and only that can be read. -/
theorem decode_eq_ok_iff {form : Form} {text bytes : Bytes} :
    decode form text = .ok bytes ↔ text = encode form bytes :=
  ⟨eq_encode_of_decode, fun same => same ▸ decode_encode form bytes⟩

/-! ### Characters -/

/-- A text consists of symbols and, in a padded form, of padding at its end. -/
theorem encode_eq_symbols (form : Form) : (bytes : Bytes) → ∃ values n,
    encode form bytes = symbols form values ++ List.replicate n pad ∧ (∀ v ∈ values, v < 64) ∧
      (form.padded = false → n = 0)
  | a :: b :: c :: rest => by
    obtain ⟨values, n, same, small, bare⟩ := encode_eq_symbols form rest
    let n' := a.toNat * 65536 + b.toNat * 256 + c.toNat
    have first : n' / 262144 < 64 := (quad_values a b c).1
    refine ⟨n' / 262144 :: n' / 4096 % 64 :: n' / 64 % 64 :: n' % 64 :: values, n, ?_, ?_, bare⟩
    · rw [encode_group, same]
      rfl
    · simp only [List.forall_mem_cons]
      exact ⟨first, Nat.mod_lt _ (by decide), Nat.mod_lt _ (by decide), Nat.mod_lt _ (by decide),
        small⟩
  | [a, b] => by
    have boundA := a.toNat_lt
    have boundB := b.toNat_lt
    rw [encode_two, padding_eq]
    refine ⟨[_, _, _], _, rfl, ?_, fun bare => by simp [bare]⟩
    simp only [List.forall_mem_cons]
    exact ⟨by omega, Nat.mod_lt _ (by decide), Nat.mod_lt _ (by decide), by simp⟩
  | [a] => by
    have boundA := a.toNat_lt
    rw [encode_one, padding_eq]
    refine ⟨[_, _], _, rfl, ?_, fun bare => by simp [bare]⟩
    simp only [List.forall_mem_cons]
    exact ⟨by omega, Nat.mod_lt _ (by decide), by simp⟩
  | [] => ⟨[], 0, rfl, by simp, fun _ => rfl⟩

theorem mem_encode {form : Form} {bytes : Bytes} {s : UInt8} (member : s ∈ encode form bytes) :
    (∃ v < 64, s = form.alphabet.symbol v) ∨ s = pad := by
  obtain ⟨values, n, same, small, -⟩ := encode_eq_symbols form bytes
  rw [same] at member
  rcases List.mem_append.mp member with member | member
  · obtain ⟨v, inside, rfl⟩ := List.mem_map.mp member
    exact .inl ⟨v, small v inside, rfl⟩
  · exact .inr (List.eq_of_mem_replicate member)

/-- Padding comes last, and only in a padded form. -/
theorem encode_padded (form : Form) (bytes : Bytes) : ∃ front n,
    encode form bytes = front ++ List.replicate n pad ∧ pad ∉ front ∧
      (form.padded = false → n = 0) := by
  obtain ⟨values, n, same, small, bare⟩ := encode_eq_symbols form bytes
  refine ⟨_, n, same, fun member => ?_, bare⟩
  obtain ⟨v, inside, isPad⟩ := List.mem_map.mp member
  exact symbol_ne_pad form.alphabet (small v inside) isPad

/-- A text of bytes begins with a symbol. -/
theorem exists_symbol {form : Form} : {bytes : Bytes} → bytes ≠ [] →
    ∃ s ∈ encode form bytes, s ≠ pad
  | a :: b :: c :: rest, _ => by
    rw [encode_group]
    exact ⟨_, List.mem_cons_self, symbol_ne_pad _ (quad_values a b c).1⟩
  | [a, b], _ => by
    have boundA := a.toNat_lt
    have boundB := b.toNat_lt
    rw [encode_two]
    exact ⟨_, List.mem_cons_self, symbol_ne_pad _ (by omega)⟩
  | [a], _ => by
    have boundA := a.toNat_lt
    rw [encode_one]
    exact ⟨_, List.mem_cons_self, symbol_ne_pad _ (by omega)⟩

/-- No symbol is a blank, a control, a quote, a backslash or a point. -/
theorem visible_of_mem_encode {form : Form} {bytes : Bytes} {s : UInt8}
    (member : s ∈ encode form bytes) : 33 ≤ s ∧ s < 127 ∧ s ≠ 34 ∧ s ≠ 92 ∧ s ≠ 46 := by
  have all : ∀ v < 64, 33 ≤ form.alphabet.symbol v ∧ form.alphabet.symbol v < 127 ∧
      form.alphabet.symbol v ≠ 34 ∧ form.alphabet.symbol v ≠ 92 ∧ form.alphabet.symbol v ≠ 46 := by
    cases form.alphabet <;> decide
  rcases mem_encode member with ⟨v, small, rfl⟩ | rfl
  · exact all v small
  · decide

end SealedTokens.Base64
