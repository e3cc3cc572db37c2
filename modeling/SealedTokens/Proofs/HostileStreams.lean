import SealedTokens.Proofs.Codecs
/-!
# Hostile streams

What is read from streams that nobody need have written. Reading a stream ends, with a text that is
no longer than the stream claims and than a mebibyte, or with an error about the stream's form. No
byte is taken from outside the stream or the text, and none is put where the text has no room.

## Main results

- `Lz4.sequenceAt_agrees`: the step, one sequence read either way
- `Lz4.sequencesAt_reads`, `Lz4.decompressAt_agrees`: reading by position is reading
- `Lz4.length_le_of_decompress`: how long a text can be that is read
- `CompressorKind.lz4_lossless_and_bounded`: what the stage keeps, and what it admits

## Proof strategy

A stream is read from the front, with what is left of it in hand, where no access can miss, and with
fuel. Reading by position says the same in another way: every access to the stream or to the text
can miss, and there is no fuel, since each sequence leaves a later position. One sequence is
followed through both, and it keeps the text within its room. Induction on the fuel gives the whole,
for any fuel beyond what is left of the stream.
-/
namespace SealedTokens

namespace Lz4

/-! ### Reading by position -/

/-- Why there is no text: for a fault of the stream, or for an access to a byte, or to room for one,
that is not there. -/
inductive Stop (Fault : Type) where
  | fault (fault : Fault)
  | outside

/-- A length that is read from `i` on, and the position behind it. -/
structure LengthAt (i : Nat) where
  value : Nat
  next : Nat
  onward : i ≤ next

/-- What a sequence at `i` comes to: the end of the text, or a later position. -/
inductive Progress (i : Nat) where
  | ended (out : ByteArray)
  | goesOn (next : Nat) (onward : i < next) (out : ByteArray)

section Access

variable {Fault : Type}

/-- What an access finds. -/
def found {α : Type} : Option α → Except (Stop Fault) α
  | some a => .ok a
  | none => .error .outside

/-- Puts a byte at the end of a text that has room for `capacity`. -/
def put (capacity : Nat) (out : ByteArray) (b : UInt8) : Except (Stop Fault) ByteArray :=
  if out.size < capacity then .ok (out.push b) else .error .outside

/-- Puts `length` bytes of a stream from `i` on. -/
def putRun (capacity : Nat) (stream : Bytes) : (length i : Nat) → ByteArray →
    Except (Stop Fault) ByteArray
  | 0, _, out => .ok out
  | length + 1, i, out => do
    let b ← found stream[i]?
    putRun capacity stream length (i + 1) (← put capacity out b)

/-- Puts `length` bytes, each a repetition of the byte `offset` back. -/
def putCopy (capacity offset : Nat) : (length : Nat) → ByteArray → Except (Stop Fault) ByteArray
  | 0, out => .ok out
  | length + 1, out => do
    let b ← found (if offset ≤ out.size then out[out.size - offset]? else none)
    putCopy capacity offset length (← put capacity out b)

end Access

/-- Reads what a length of fifteen adds, from `i` on. -/
def readLengthAt (stream : Bytes) (i sum : Nat) : Except (Stop BlockFault) (LengthAt i) :=
  if i < stream.length then do
    let b ← found stream[i]?
    if b = 255 then
      let ⟨value, next, onward⟩ ← readLengthAt stream (i + 1) (sum + 255)
      return ⟨value, next, by omega⟩
    else return ⟨sum + b.toNat, i + 1, by omega⟩
  else .error (.fault .cutOff)
termination_by stream.length - i

/-- The length that half a token and the bytes from `i` on give. -/
def lengthAt (stream : Bytes) (half i : Nat) : Except (Stop BlockFault) (LengthAt i) :=
  if half = 15 then readLengthAt stream i 15 else .ok ⟨half, i, Nat.le_refl i⟩

/-- Reads a sequence at `i` from `j` on, where its literals end: the stream ends there too, or a
copy follows. -/
def copyAt (capacity : Nat) (stream : Bytes) (t : UInt8) {i j : Nat} (onward : i < j)
    (out : ByteArray) : Except (Stop BlockFault) (Progress i) :=
  if stream.length ≤ j then .ok (.ended out)
  else if stream.length ≤ j + 1 then .error (.fault .cutOff)
  else do
    let low ← found stream[j]?
    let high ← found stream[j + 1]?
    let offset := low.toNat + 256 * high.toNat
    if offset = 0 then .error (.fault .zeroOffset)
    else
      let ⟨extra, next, onward'⟩ ← lengthAt stream (t.toNat % 16) (j + 2)
      let length := minMatch + extra
      if out.size + length > capacity then
        .error (.fault (.outputTooSmall capacity (out.size + length)))
      else if offset > out.size then .error (.fault .offsetOutOfBounds)
      else
        let out ← putCopy capacity offset length out
        .ok (.goesOn next (by omega) out)

/-- Reads the sequence at `i`. -/
def sequenceAt (capacity : Nat) (stream : Bytes) (i : Nat) (out : ByteArray) :
    Except (Stop BlockFault) (Progress i) := do
  let t ← found stream[i]?
  let ⟨literals, j, onward⟩ ← lengthAt stream (t.toNat / 16) (i + 1)
  if literals > stream.length - j then .error (.fault .literalsOutOfBounds)
  else if literals > capacity - out.size then
    .error (.fault (.outputTooSmall capacity (out.size + literals)))
  else
    let out ← putRun capacity stream literals j out
    copyAt capacity stream t (show i < j + literals by omega) out

/-- Reads sequences from `i` on until the stream ends after literals. -/
def sequencesAt (capacity : Nat) (stream : Bytes) (i : Nat) (out : ByteArray) :
    Except (Stop BlockFault) ByteArray :=
  if i < stream.length then
    match sequenceAt capacity stream i out with
    | .error stop => .error stop
    | .ok (.ended out) => .ok out
    | .ok (.goesOn next _ out) => sequencesAt capacity stream next out
  else .error (.fault .cutOff)
termination_by stream.length - i

/-- The text of a stream, read by position. -/
def decompressAt (stream : Bytes) : Except (Stop StreamFault) Bytes :=
  if stream.length < 4 then .error (.fault .tooShort)
  else do
    let a ← found stream[0]?
    let b ← found stream[1]?
    let c ← found stream[2]?
    let d ← found stream[3]?
    let claimed := Bytes.toNatLE [a, b, c, d]
    if claimed > maxLength then .error (.fault (.tooLarge claimed))
    else
      match sequencesAt claimed stream 4 ByteArray.empty with
      | .ok out => .ok (Bytes.ofPacked out)
      | .error (.fault fault) => .error (.fault (.block fault))
      | .error .outside => .error .outside

/-! ### Accesses that do not miss -/

theorem size_appendCopy (offset length : Nat) (out : ByteArray) :
    (appendCopy offset length out).size = out.size + length := by
  induction length generalizing out with
  | zero => rfl
  | succ length ih =>
    rw [appendCopy, ih, ByteArray.size_push]
    omega

section Access

variable {Fault : Type} {capacity : Nat} {stream : Bytes}

theorem put_eq {out : ByteArray} (room : out.size < capacity) (b : UInt8) :
    @put Fault capacity out b = .ok (out.push b) := if_pos room

theorem putRun_eq {length i : Nat} {out : ByteArray} (inside : length ≤ stream.length - i)
    (room : out.size + length ≤ capacity) :
    @putRun Fault capacity stream length i out =
      .ok (((stream.drop i).take length).foldl ByteArray.push out) := by
  induction length generalizing i out with
  | zero => rfl
  | succ length ih =>
    have here : i < stream.length := by omega
    have later : (out.push stream[i]).size + length ≤ capacity := by
      rw [ByteArray.size_push]
      omega
    rw [List.drop_eq_getElem_cons here, List.take_succ_cons, List.foldl_cons, ← ih (by omega) later,
      putRun, List.getElem?_eq_getElem here]
    simp only [found, bind, Except.bind, put_eq (show out.size < capacity by omega)]

theorem putCopy_eq {offset length : Nat} {out : ByteArray} (positive : 1 ≤ offset)
    (back : offset ≤ out.size) (room : out.size + length ≤ capacity) :
    @putCopy Fault capacity offset length out = .ok (appendCopy offset length out) := by
  induction length generalizing out with
  | zero => rfl
  | succ length ih =>
    -- The byte may be one that this very copy has put.
    have inside : out.size - offset < out.size := by omega
    rw [putCopy, if_pos back, appendCopy, getElem?_pos out _ inside]
    simp only [found, bind, Except.bind, put_eq (show out.size < capacity by omega),
      Option.getD_some]
    refine ih ?_ ?_ <;> rw [ByteArray.size_push] <;> omega

end Access

/-! ### One sequence -/

/-- A length that is read from what is left of a stream, and the same read by position. -/
inductive LengthAgrees (stream : Bytes) (i : Nat) :
    Except BlockFault (Nat × Bytes) → Except (Stop BlockFault) (LengthAt i) → Prop
  | read (value next : Nat) (onward : i ≤ next) :
    LengthAgrees stream i (.ok (value, stream.drop next)) (.ok ⟨value, next, onward⟩)
  | failed (fault : BlockFault) : LengthAgrees stream i (.error fault) (.error (.fault fault))

theorem readLengthAt_agrees (stream : Bytes) (i sum : Nat) :
    LengthAgrees stream i (readLength (stream.drop i) sum) (readLengthAt stream i sum) := by
  fun_induction readLengthAt stream i sum with
  | case1 i sum here ih =>
    rw [List.drop_eq_getElem_cons here, readLength, List.getElem?_eq_getElem here]
    simp only [found, bind, Except.bind]
    split
    · -- The byte is 255, and the rest is read one position later.
      generalize readLength (stream.drop (i + 1)) (sum + 255) = left at ih ⊢
      generalize readLengthAt stream (i + 1) (sum + 255) = placed at ih ⊢
      cases ih with
      | read value next onward => exact .read value next _
      | failed fault => exact .failed fault
    · exact .read _ (i + 1) _
  | case2 i sum outside =>
    rw [List.drop_eq_nil_of_le (Nat.not_lt.mp outside)]
    exact .failed _

theorem lengthAt_agrees (stream : Bytes) (half i : Nat) :
    LengthAgrees stream i (lengthOf half (stream.drop i)) (lengthAt stream half i) := by
  unfold lengthOf lengthAt
  split
  · exact readLengthAt_agrees stream i 15
  · exact .read half i _

/-- What is behind the literals of a sequence with token `t`: the end, or a copy and further
sequences. -/
def readCopy (capacity fuel : Nat) (t : UInt8) (block : Bytes) (out : ByteArray) :
    Except BlockFault ByteArray :=
  match block with
  | [] => .ok out
  | [_] => .error .cutOff
  | low :: high :: block =>
    let offset := low.toNat + 256 * high.toNat
    if offset = 0 then .error .zeroOffset
    else do
      let (extra, block) ← lengthOf (t.toNat % 16) block
      let length := minMatch + extra
      if out.size + length > capacity then
        .error (.outputTooSmall capacity (out.size + length))
      else if offset > out.size then .error .offsetOutOfBounds
      else readSequences capacity fuel block (appendCopy offset length out)

theorem readSequences_cons (capacity fuel : Nat) (t : UInt8) (block : Bytes) (out : ByteArray) :
    readSequences capacity (fuel + 1) (t :: block) out = (do
      let (literals, block) ← lengthOf (t.toNat / 16) block
      let run := block.take literals
      if run.length < literals then .error .literalsOutOfBounds
      else if literals > capacity - out.size then
        .error (.outputTooSmall capacity (out.size + literals))
      else readCopy capacity fuel t (block.drop literals) (run.foldl ByteArray.push out)) := rfl

/-- What reading from `i` on comes to, with one sequence read by position: the text is what it
ended with, or what the rest of the stream makes of it. The text stays within its room. -/
inductive Agrees (capacity fuel : Nat) (stream : Bytes) (i : Nat) :
    Except BlockFault ByteArray → Except (Stop BlockFault) (Progress i) → Prop
  | ended {out : ByteArray} (room : out.size ≤ capacity) :
    Agrees capacity fuel stream i (.ok out) (.ok (.ended out))
  | goesOn {next : Nat} {out : ByteArray} (onward : i < next) (room : out.size ≤ capacity) :
    Agrees capacity fuel stream i (readSequences capacity fuel (stream.drop next) out)
      (.ok (.goesOn next onward out))
  | failed (fault : BlockFault) :
    Agrees capacity fuel stream i (.error fault) (.error (.fault fault))

section Sequence

variable {capacity i : Nat} {stream : Bytes} {out : ByteArray} (fuel : Nat)

/-- Both ways of reading make the same tests, with the same fault if one of them fails. -/
theorem Agrees.unless {c d : Prop} [Decidable c] [Decidable d] (same : c ↔ d) {fault : BlockFault}
    {result : Except BlockFault ByteArray} {progress : Except (Stop BlockFault) (Progress i)}
    (rest : ¬ d → Agrees capacity fuel stream i result progress) :
    Agrees capacity fuel stream i (if c then .error fault else result)
      (if d then .error (.fault fault) else progress) := by
  by_cases fails : d
  · rw [if_pos (same.mpr fails), if_pos fails]
    exact .failed fault
  · rw [if_neg (mt same.mp fails), if_neg fails]
    exact rest fails

theorem copyAt_agrees (t : UInt8) {j : Nat} (onward : i < j) (room : out.size ≤ capacity) :
    Agrees capacity fuel stream i (readCopy capacity fuel t (stream.drop j) out)
      (copyAt capacity stream t onward out) := by
  unfold copyAt
  by_cases ends : stream.length ≤ j
  · rw [if_pos ends, List.drop_eq_nil_of_le ends]
    exact .ended room
  have low : j < stream.length := Nat.not_le.mp ends
  rw [if_neg ends, List.drop_eq_getElem_cons low]
  by_cases cut : stream.length ≤ j + 1
  · rw [if_pos cut, List.drop_eq_nil_of_le cut]
    exact .failed .cutOff
  have high : j + 1 < stream.length := Nat.not_le.mp cut
  have rest : stream.drop (j + 1) = stream[j + 1] :: stream.drop (j + 2) :=
    List.drop_eq_getElem_cons high
  rw [if_neg cut, rest, List.getElem?_eq_getElem low, List.getElem?_eq_getElem high]
  simp only [readCopy, found, bind, Except.bind]
  generalize stream[j].toNat + 256 * stream[j + 1].toNat = offset
  apply Agrees.unless fuel Iff.rfl
  intro notZero
  have length := lengthAt_agrees stream (t.toNat % 16) (j + 2)
  generalize lengthOf (t.toNat % 16) (stream.drop (j + 2)) = left at length ⊢
  generalize lengthAt stream (t.toNat % 16) (j + 2) = placed at length ⊢
  cases length with
  | failed fault => exact .failed fault
  | read extra next onward' =>
    dsimp only
    -- The two tests that are left are what the accesses of the copy need.
    apply Agrees.unless fuel Iff.rfl
    intro small
    apply Agrees.unless fuel Iff.rfl
    intro near
    rw [putCopy_eq (by omega) (by omega) (by omega)]
    apply Agrees.goesOn
    rw [size_appendCopy]
    omega

theorem sequenceAt_agrees (here : i < stream.length) (room : out.size ≤ capacity) :
    Agrees capacity fuel stream i (readSequences capacity (fuel + 1) (stream.drop i) out)
      (sequenceAt capacity stream i out) := by
  rw [List.drop_eq_getElem_cons here, readSequences_cons, sequenceAt,
    List.getElem?_eq_getElem here]
  simp only [found, bind, Except.bind]
  have length := lengthAt_agrees stream (stream[i].toNat / 16) (i + 1)
  generalize lengthOf (stream[i].toNat / 16) (stream.drop (i + 1)) = left at length ⊢
  generalize lengthAt stream (stream[i].toNat / 16) (i + 1) = placed at length ⊢
  cases length with
  | failed fault => exact .failed fault
  | read literals j onward =>
    have run : ((stream.drop j).take literals).length = min literals (stream.length - j) := by
      rw [List.length_take, List.length_drop]
    have short : ((stream.drop j).take literals).length < literals ↔
        literals > stream.length - j := by omega
    dsimp only
    apply Agrees.unless fuel short
    intro whole
    apply Agrees.unless fuel Iff.rfl
    intro small
    rw [putRun_eq (by omega) (by omega), List.drop_drop]
    apply copyAt_agrees
    rw [Bytes.size_foldl_push, run]
    omega

end Sequence

/-! ### Whole streams -/

/-- A text within its room that is read either way, or a fault that is found either way. -/
inductive Reads (capacity : Nat) :
    Except BlockFault ByteArray → Except (Stop BlockFault) ByteArray → Prop
  | text {out : ByteArray} (room : out.size ≤ capacity) : Reads capacity (.ok out) (.ok out)
  | failed (fault : BlockFault) : Reads capacity (.error fault) (.error (.fault fault))

/-- However much fuel there is beyond what is left of the stream, reading by position is reading. -/
theorem sequencesAt_reads {capacity fuel i : Nat} {stream : Bytes} {out : ByteArray}
    (enough : stream.length - i < fuel) (room : out.size ≤ capacity) :
    Reads capacity (readSequences capacity fuel (stream.drop i) out)
      (sequencesAt capacity stream i out) := by
  induction fuel generalizing i out with
  | zero => exact absurd enough (Nat.not_lt_zero _)
  | succ fuel ih =>
    rw [sequencesAt]
    by_cases here : i < stream.length
    · rw [if_pos here]
      have step := sequenceAt_agrees fuel here room
      generalize readSequences capacity (fuel + 1) (stream.drop i) out = result at step ⊢
      generalize sequenceAt capacity stream i out = progress at step ⊢
      cases step with
      | failed fault => exact .failed fault
      | ended room' => exact .text room'
      -- At a later position less is left of the stream, so the fuel that is left is enough.
      | goesOn onward room' => exact ih (by omega) room'
    · rw [if_neg here, List.drop_eq_nil_of_le (Nat.not_lt.mp here)]
      exact .failed .cutOff

/-- What a whole stream comes to, read either way: a text within the two bounds, or a fault. -/
inductive StreamAgrees (stream : Bytes) :
    Except StreamFault Bytes → Except (Stop StreamFault) Bytes → Prop
  | text {text : Bytes} (claimed : text.length ≤ Bytes.toNatLE (stream.take 4))
    (admitted : text.length ≤ maxLength) : StreamAgrees stream (.ok text) (.ok text)
  | failed (fault : StreamFault) : StreamAgrees stream (.error fault) (.error (.fault fault))

theorem decompressAt_agrees (stream : Bytes) :
    StreamAgrees stream (decompress stream) (decompressAt stream) := by
  match stream with
  | [] | [_] | [_, _] | [_, _, _] => exact .failed .tooShort
  | a :: b :: c :: d :: rest =>
    have long : ¬ (a :: b :: c :: d :: rest).length < 4 := Nat.not_lt.mpr (Nat.le_add_left 4 _)
    rw [decompressAt, if_neg long, decompress]
    simp only [found, bind, Except.bind, List.getElem?_cons_zero, List.getElem?_cons_succ]
    by_cases large : Bytes.toNatLE [a, b, c, d] > maxLength
    · rw [if_pos large, if_pos large]
      exact .failed (.tooLarge _)
    rw [if_neg large, if_neg large, readBlock]
    -- The block stands behind four bytes, and an empty text is within any room.
    have enough : (a :: b :: c :: d :: rest).length - 4 < rest.length + 1 := Nat.lt_succ_self _
    have empty : ByteArray.empty.size ≤ Bytes.toNatLE [a, b, c, d] := Nat.zero_le _
    have reads := sequencesAt_reads enough empty
    rw [show (a :: b :: c :: d :: rest).drop 4 = rest from rfl] at reads
    generalize readSequences _ (rest.length + 1) rest ByteArray.empty = result at reads ⊢
    generalize sequencesAt _ _ 4 ByteArray.empty = result' at reads ⊢
    cases reads with
    | text room => exact .text room (Nat.le_trans room (Nat.not_lt.mp large))
    | failed fault => exact .failed (.block fault)

/-- Reading a stream by position is reading the stream, so no access misses. -/
theorem decompressAt_eq (stream : Bytes) :
    decompressAt stream = (decompress stream).mapError .fault := by
  have agrees := decompressAt_agrees stream
  generalize decompress stream = result at agrees ⊢
  generalize decompressAt stream = result' at agrees ⊢
  cases agrees with
  | text claimed admitted => rfl
  | failed fault => rfl

/-- A text is no longer than its stream claims, and no stream may claim more than a mebibyte. -/
theorem length_le_of_decompress {stream text : Bytes} (read : decompress stream = .ok text) :
    text.length ≤ Bytes.toNatLE (stream.take 4) ∧ text.length ≤ maxLength := by
  have agrees := decompressAt_agrees stream
  rw [read] at agrees
  generalize decompressAt stream = result at agrees
  cases agrees with
  | text claimed admitted => exact ⟨claimed, admitted⟩

/-- A text of more than a mebibyte is refused by its length, if that can be written. -/
theorem decompress_compress_of_large {text : Bytes} (large : maxLength < text.length)
    (writable : text.length < 2 ^ 32) :
    decompress (compress text) = .error (.tooLarge text.length) := by
  have claimed : text.length % 256 ^ 4 = text.length := Nat.mod_eq_of_lt writable
  rw [compress, decompress_append, claimed, if_pos large]

end Lz4

/-! ### The stage -/

namespace CompressorKind

/-- **The compressing stage.** A text of at most a mebibyte is read back as it was. A longer one, as
far as its length can be written in front of it, is refused for this length. Of any bytes at all,
either a text is read that is no longer than the first four of them claim and than a mebibyte, or
there is an error about their form; and they are read as by position, so no access misses. -/
theorem lz4_lossless_and_bounded :
    (∀ text : Bytes, text.length ≤ 2 ^ 20 → lz4.decompress (lz4.compress text) = .ok text) ∧
    (∀ text : Bytes, 2 ^ 20 < text.length → text.length < 2 ^ 32 →
      lz4.decompress (lz4.compress text) =
        .error ⟨.format "LZ4 block too large", some s!"claimed={text.length}"⟩) ∧
    ∀ stream : Bytes,
      ((∃ text, lz4.decompress stream = .ok text ∧
          text.length ≤ Bytes.toNatLE (stream.take 4) ∧ text.length ≤ 2 ^ 20) ∨
        ∃ e, lz4.decompress stream = .error e ∧ e.IsFormat) ∧
      Lz4.decompressAt stream = (Lz4.decompress stream).mapError .fault := by
  refine ⟨fun text small => decompress_compress fun _ => small, fun text large writable => ?_,
    fun stream => ⟨?_, Lz4.decompressAt_eq stream⟩⟩
  · simp only [decompress, compress, Lz4.decompress_compress_of_large large writable]
    rfl
  · cases read : Lz4.decompress stream with
    | ok text =>
      obtain ⟨claimed, admitted⟩ := Lz4.length_le_of_decompress read
      exact .inl ⟨text, by simp only [decompress, read], claimed, admitted⟩
    | error fault =>
      exact .inr ⟨⟨.format fault.message, fault.context⟩, by simp only [decompress, read],
        fault.message, rfl⟩

/-- A copy from in front of the text. -/
example : lz4.decompress [5, 0, 0, 0, 16, 97, 2, 0] =
    .error ⟨.format "the offset to copy is not contained in the decompressed buffer",
      some "LZ4 stream invalid"⟩ := by decide

end CompressorKind

end SealedTokens
