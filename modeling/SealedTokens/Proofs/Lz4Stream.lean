import SealedTokens.Lz4.Stream
import SealedTokens.Proofs.Lz4Matcher
/-!
# Streams

A stream is read back into the text that it was written for, if the text has no more than a
mebibyte. A longer text is refused when it is read; in no case is another text read.

## Main results

- `Lz4.decompress_compress`: a text of at most a mebibyte is read back
- `Lz4.eq_of_decompress_compress`: what is read back, at whatever length, is the text

## Proof strategy

Reading a block follows its plan. What was read so far is the text up to the position that the plan
has reached, a sequence takes the position to its next one, and the last sequence to the end of the
text (`restores_writeBlock`, by induction on the plan).
-/
namespace SealedTokens

namespace Bytes

theorem ofPacked_push (out : ByteArray) (b : UInt8) :
    ofPacked (out.push b) = ofPacked out ++ [b] := by
  simp [ofPacked]

theorem ofPacked_foldl_push (bytes : Bytes) (out : ByteArray) :
    ofPacked (bytes.foldl ByteArray.push out) = ofPacked out ++ bytes := by
  induction bytes generalizing out with
  | nil => simp
  | cons b bytes ih =>
    rw [List.foldl_cons, ih, ofPacked_push, List.append_assoc, List.singleton_append]

theorem length_ofPacked (out : ByteArray) : (ofPacked out).length = out.size := rfl

theorem size_foldl_push (bytes : Bytes) (out : ByteArray) :
    (bytes.foldl ByteArray.push out).size = out.size + bytes.length := by
  rw [← length_ofPacked, ofPacked_foldl_push, List.length_append, length_ofPacked]

theorem getElem?_ofPacked (out : ByteArray) (i : Nat) : (ofPacked out)[i]? = out[i]? := by
  by_cases inside : i < out.size
  · rw [List.getElem?_eq_getElem (show i < (ofPacked out).length from inside),
      getElem?_pos out i inside]
    rfl
  · rw [List.getElem?_eq_none (show (ofPacked out).length ≤ i from Nat.not_lt.mp inside),
      getElem?_neg out i inside]

theorem toNatLE_cons (b : UInt8) (bytes : Bytes) :
    toNatLE (b :: bytes) = toNatLE bytes * 256 + b.toNat := by
  rw [toNatLE, toNatBE, List.reverse_cons, List.foldl_append]
  rfl

theorem ofNatLE_succ (length n : Nat) :
    ofNatLE (length + 1) n = UInt8.ofNat (n % 256) :: ofNatLE length (n / 256) := by
  rw [ofNatLE, List.range_succ_eq_map, List.map_cons, List.map_map, ofNatLE]
  congr 1
  · rw [show Nat.pow 256 0 = 1 from rfl, Nat.div_one]
  · refine List.map_congr_left fun i _ => ?_
    show UInt8.ofNat (n / 256 ^ (i + 1) % 256) = UInt8.ofNat (n / 256 / 256 ^ i % 256)
    rw [Nat.div_div_eq_div_mul, Nat.pow_succ, Nat.mul_comm]

/-- The low bytes of a number are the number up to what they have room for. -/
theorem toNatLE_ofNatLE (length n : Nat) : toNatLE (ofNatLE length n) = n % 256 ^ length := by
  induction length generalizing n with
  | zero =>
    rw [Nat.pow_zero, Nat.mod_one]
    rfl
  | succ length ih =>
    have byte : (UInt8.ofNat (n % 256)).toNat = n % 256 := toNat_byte (by omega)
    rw [ofNatLE_succ, toNatLE_cons, ih, byte, Nat.pow_succ, Nat.mul_comm (256 ^ length),
      Nat.mod_mul, Nat.mul_comm, Nat.add_comm]

end Bytes

namespace Lz4

/-! ### Tokens and lengths -/

theorem token_toNat (literals extra : Nat) :
    (token literals extra).toNat = min literals 15 * 16 + min extra 15 := by
  rw [token, Bytes.toNat_byte (by omega)]

theorem token_literals (literals extra : Nat) :
    (token literals extra).toNat / 16 = min literals 15 := by
  rw [token_toNat]
  omega

theorem token_extra (literals extra : Nat) : (token literals extra).toNat % 16 = min extra 15 := by
  rw [token_toNat]
  omega

theorem readLength_bytes (count last sum : Nat) (rest : Bytes) (small : last < 255) :
    readLength (List.replicate count 255 ++ [UInt8.ofNat last] ++ rest) sum =
      .ok (sum + 255 * count + last, rest) := by
  induction count generalizing sum with
  | zero =>
    have byte : (UInt8.ofNat last).toNat = last := Bytes.toNat_byte (by omega)
    have other : UInt8.ofNat last ≠ 255 := by
      intro same
      have value := byte.symm.trans (congrArg UInt8.toNat same)
      exact absurd value (Nat.ne_of_lt small)
    simp only [List.replicate_zero, List.nil_append, List.singleton_append, readLength, other,
      ite_false, byte, Nat.mul_zero, Nat.add_zero]
  | succ count ih =>
    rw [List.replicate_succ, List.cons_append, List.cons_append, readLength, if_pos rfl, ih]
    congr 2
    omega

theorem lengthOf_lengthBytes (n : Nat) (rest : Bytes) :
    lengthOf (min n 15) (lengthBytes n ++ rest) = .ok (n, rest) := by
  unfold lengthOf lengthBytes
  by_cases short : n < 15
  · rw [if_neg (by omega), if_pos short, List.nil_append, Nat.min_eq_left (by omega)]
  · rw [if_pos (by omega), if_neg short, readLength_bytes _ _ _ _ (Nat.mod_lt _ (by decide))]
    congr 2
    omega

/-! ### Sequences -/

theorem sequences_done (text : Bytes) (plan : Plan) (done : List Bytes) :
    sequences text plan done = done.reverse ++ sequences text plan [] := by
  induction plan generalizing text done with
  | nil => simp [sequences]
  | cons step plan ih =>
    rw [sequences, ih, sequences, ih _ [_]]
    simp

theorem writeBlock_nil (text : Bytes) : writeBlock text [] = lastSequence text := by
  simp [writeBlock, sequences]

theorem writeBlock_cons (text : Bytes) (step : Step) (plan : Plan) :
    writeBlock text (step :: plan) =
      sequence (text.take step.literals) step.offset step.length ++
        writeBlock (text.drop (step.literals + step.length)) plan := by
  rw [writeBlock, sequences, sequences_done]
  simp [writeBlock]

/-- Every sequence takes at least one byte. -/
theorem length_plan_lt (text : Bytes) (plan : Plan) :
    plan.length < (writeBlock text plan).length := by
  induction plan generalizing text with
  | nil => simp [writeBlock_nil, lastSequence]
  | cons step plan ih =>
    have shorter := ih (text.drop (step.literals + step.length))
    rw [writeBlock_cons, List.length_append, List.length_cons]
    simp only [sequence, List.length_append, List.length_cons]
    omega

/-- A copy of what stands `offset` bytes back goes on with a text that repeats itself there. -/
theorem ofPacked_appendCopy {text : Bytes} {offset length pos : Nat} {out : ByteArray}
    (positive : 1 ≤ offset) (back : offset ≤ pos)
    (agree : ∀ i < length, text[pos + i]? = text[pos + i - offset]?)
    (room : pos + length ≤ text.length) (held : Bytes.ofPacked out = text.take pos) :
    Bytes.ofPacked (appendCopy offset length out) = text.take (pos + length) := by
  induction length generalizing pos out with
  | zero => exact held
  | succ length ih =>
    have size : out.size = pos := by
      rw [← Bytes.length_ofPacked, held, List.length_take, Nat.min_eq_left (by omega)]
    have source : out[out.size - offset]? = text[pos]? := by
      rw [size, ← Bytes.getElem?_ofPacked, held, List.getElem?_take_of_lt (by omega)]
      exact (agree 0 (by omega)).symm
    -- The byte may be one that this very copy appended: where the text repeats itself, it is right.
    have next :
        Bytes.ofPacked (out.push (out[out.size - offset]?.getD 0)) = text.take (pos + 1) := by
      rw [Bytes.ofPacked_push, held, source, List.take_add_one,
        List.getElem?_eq_getElem (show pos < text.length by omega)]
      rfl
    rw [appendCopy, ih (by omega) (fun i inside => ?_) (by omega) next]
    · rw [show pos + 1 + length = pos + (length + 1) by omega]
    · have same := agree (i + 1) (by omega)
      rwa [show pos + (i + 1) = pos + 1 + i by omega] at same

theorem Plan.Fits.le_length {text : Bytes} {pos : Nat} {plan : Plan}
    (fits : Plan.Fits text pos plan) : pos ≤ text.length := by
  induction plan generalizing pos with
  | nil => exact fits
  | cons step plan ih =>
    obtain ⟨-, -, -, -, -, rest⟩ := fits
    have later := ih rest
    omega

/-! ### Blocks -/

/-- Reading a block for a text gives the text, if there is room for it, and a fault otherwise. -/
def Restores (capacity : Nat) (text : Bytes) (result : Except BlockFault ByteArray) : Prop :=
  if text.length ≤ capacity then result.map Bytes.ofPacked = .ok text
  else ∃ fault, result = .error fault

section Sequence

variable (capacity fuel : Nat) (run : Bytes) (out : ByteArray)

/-- The literals of the last sequence are the end of the text. -/
theorem readSequences_last :
    readSequences capacity (fuel + 1) (lastSequence run) out =
      if run.length > capacity - out.size then
        .error (.outputTooSmall capacity (out.size + run.length))
      else .ok (run.foldl ByteArray.push out) := by
  have length := lengthOf_lengthBytes run.length run
  rw [lastSequence, List.cons_append, readSequences, token_literals, length]
  simp only [bind, Except.bind, List.take_length, Nat.lt_irrefl, ite_false, List.drop_length]

/-- A sequence in front of others appends its literals and its copy, if there is room for both. -/
theorem readSequences_sequence (offset length : Nat) (rest : Bytes) (small : offset ≤ 65535)
    (positive : 1 ≤ offset) (long : minMatch ≤ length) (back : offset ≤ out.size + run.length) :
    readSequences capacity (fuel + 1) (sequence run offset length ++ rest) out =
      if run.length > capacity - out.size then
        .error (.outputTooSmall capacity (out.size + run.length))
      else if out.size + run.length + length > capacity then
        .error (.outputTooSmall capacity (out.size + run.length + length))
      else readSequences capacity fuel rest
        (appendCopy offset length (run.foldl ByteArray.push out)) := by
  have first := lengthOf_lengthBytes run.length
    (run ++ (Bytes.ofNatLE 2 offset ++ (lengthBytes (length - minMatch) ++ rest)))
  have second := lengthOf_lengthBytes (length - minMatch) rest
  have size := Bytes.size_foldl_push run out
  have low : (UInt8.ofNat (offset / Nat.pow 256 0 % 256)).toNat = offset % 256 := by
    rw [UInt8.toNat_ofNat', show Nat.pow 256 0 = 1 from rfl]
    omega
  have high : (UInt8.ofNat (offset / Nat.pow 256 1 % 256)).toNat = offset / 256 := by
    rw [UInt8.toNat_ofNat', show Nat.pow 256 1 = 256 from rfl]
    omega
  have whole : offset % 256 + 256 * (offset / 256) = offset := Nat.mod_add_div offset 256
  have notZero : ¬ offset = 0 := by omega
  have inside : ¬ offset > out.size + run.length := by omega
  have length' : minMatch + (length - minMatch) = length := by omega
  rw [sequence]
  simp only [List.cons_append, List.append_assoc]
  rw [readSequences, token_literals, first]
  simp only [bind, Except.bind, List.take_left, List.drop_left, Nat.lt_irrefl, ite_false,
    Bytes.ofNatLE, List.range_succ, List.range_zero, List.map_cons, List.map_nil,
    List.nil_append, List.cons_append, low, high, whole, notZero, token_extra, second, size, inside,
    length']

end Sequence

/-- A block is read back from any position on, if what stands before it was restored. -/
theorem restores_writeBlock {text : Bytes} {plan : Plan} (capacity fuel pos : Nat) (out : ByteArray)
    (fits : Plan.Fits text pos plan) (enough : plan.length < fuel) (room : pos ≤ capacity)
    (held : Bytes.ofPacked out = text.take pos) :
    Restores capacity text (readSequences capacity fuel (writeBlock (text.drop pos) plan) out) := by
  induction plan generalizing fuel pos out with
  | nil =>
    obtain ⟨fuel, rfl⟩ := Nat.exists_eq_succ_of_ne_zero (Nat.ne_of_gt enough)
    have inside : pos ≤ text.length := fits
    have size : out.size = pos := by
      rw [← Bytes.length_ofPacked, held, List.length_take, Nat.min_eq_left inside]
    have left : (text.drop pos).length = text.length - pos := List.length_drop
    rw [writeBlock_nil, readSequences_last, size, left]
    unfold Restores
    split
    next small =>
      rw [if_neg (by omega)]
      simp [Except.map, Bytes.ofPacked_foldl_push, held]
    next large =>
      rw [if_pos (by omega)]
      exact ⟨_, rfl⟩
  | cons step plan ih =>
    obtain ⟨fuel, rfl⟩ := Nat.exists_eq_succ_of_ne_zero (Nat.ne_of_gt (Nat.zero_lt_of_lt enough))
    obtain ⟨positive, back, small, long, agree, rest⟩ := fits
    have inside := rest.le_length
    have size : out.size = pos := by
      rw [← Bytes.length_ofPacked, held, List.length_take, Nat.min_eq_left (by omega)]
    have run : ((text.drop pos).take step.literals).length = step.literals := by
      rw [List.length_take, List.length_drop, Nat.min_eq_left (by omega)]
    have pushed : Bytes.ofPacked (((text.drop pos).take step.literals).foldl ByteArray.push out) =
        text.take (pos + step.literals) := by
      rw [Bytes.ofPacked_foldl_push, held, List.take_add]
    -- Wherever the room runs out, the whole text does not fit either.
    have tooLarge (large : ¬ text.length ≤ capacity) (fault : BlockFault) :
        Restores capacity text (.error fault) := by
      rw [Restores, if_neg large]
      exact ⟨fault, rfl⟩
    rw [writeBlock_cons, List.drop_drop, readSequences_sequence _ _ _ _ _ _ _ small positive long
      (by omega), run, size]
    split
    · exact tooLarge (by omega) _
    split
    · exact tooLarge (by omega) _
    next roomy =>
      -- The literals and the copy were appended, so the next position is restored.
      have copied := ofPacked_appendCopy positive back agree inside pushed
      rw [← Nat.add_assoc]
      exact ih _ _ _ rest (by simpa using enough) (Nat.not_lt.mp roomy) copied

/-- The text of a block is restored if there is room for it. -/
theorem readBlock_writeBlock (capacity : Nat) (text : Bytes) :
    if text.length ≤ capacity then
      readBlock capacity (writeBlock text (Matcher.plan text)) = .ok text
    else ∃ fault, readBlock capacity (writeBlock text (Matcher.plan text)) = .error fault := by
  have shorter := length_plan_lt text (Matcher.plan text)
  have restored := restores_writeBlock capacity ((writeBlock text (Matcher.plan text)).length + 1) 0
    ByteArray.empty (Matcher.plan_fits text) (by omega) (Nat.zero_le _) rfl
  rw [List.drop_zero] at restored
  unfold Restores at restored
  unfold readBlock
  split
  next small =>
    rw [if_pos small] at restored
    exact restored
  next large =>
    rw [if_neg large] at restored
    obtain ⟨fault, failed⟩ := restored
    exact ⟨fault, by rw [failed]; rfl⟩

/-! ### Streams -/

/-- A stream is read by the length in front of it. -/
theorem decompress_append (n : Nat) (block : Bytes) :
    decompress (Bytes.ofNatLE 4 n ++ block) =
      if n % 256 ^ 4 > maxLength then .error (.tooLarge (n % 256 ^ 4))
      else match readBlock (n % 256 ^ 4) block with
        | .ok text => .ok text
        | .error fault => .error (.block fault) := by
  have value := Bytes.toNatLE_ofNatLE 4 n
  simp only [Bytes.ofNatLE_succ] at value ⊢
  simp only [Bytes.ofNatLE, List.range_zero, List.map_nil, List.cons_append,
    List.nil_append] at value ⊢
  rewrite [decompress, value]
  rfl

/-- A text of at most a mebibyte survives. -/
theorem decompress_compress {text : Bytes} (small : text.length ≤ maxLength) :
    decompress (compress text) = .ok text := by
  have below : maxLength < 256 ^ 4 := by decide
  have claimed : text.length % 256 ^ 4 = text.length := Nat.mod_eq_of_lt (by omega)
  have read := readBlock_writeBlock text.length text
  rw [if_pos (Nat.le_refl _)] at read
  rw [compress, decompress_append, claimed, if_neg (by omega), read]

/-- A text of more than a mebibyte does not, whatever the length in front says of it. -/
theorem exists_error_of_large {text : Bytes} (large : maxLength < text.length) :
    ∃ fault, decompress (compress text) = .error fault := by
  have block := readBlock_writeBlock (text.length % 256 ^ 4) text
  rw [compress, decompress_append]
  split
  · exact ⟨_, rfl⟩
  -- A length that is admitted is not that of the text, so there is no room for it.
  next admitted =>
    rw [if_neg (by omega)] at block
    obtain ⟨fault, failed⟩ := block
    rw [failed]
    exact ⟨_, rfl⟩

/-- No text is mistaken for another, whatever its length. -/
theorem eq_of_decompress_compress {text read : Bytes}
    (returned : decompress (compress text) = .ok read) : read = text := by
  -- The length in front has 32 bits. A longer text is read into less room than it takes.
  have block := readBlock_writeBlock (text.length % 256 ^ 4) text
  rw [compress, decompress_append] at returned
  split at returned
  · cases returned
  · split at block
    · rw [block] at returned
      cases returned
      rfl
    · obtain ⟨fault, failed⟩ := block
      rw [failed] at returned
      cases returned

end Lz4

end SealedTokens
