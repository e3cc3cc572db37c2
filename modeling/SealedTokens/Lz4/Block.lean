import SealedTokens.Lz4.Plan
/-!
Blocks: sequences of a token byte, literals and a copy. The upper half of the token is the number
of literals and the lower half the length of the copy less four, with 15 for "more follows".
-/
namespace SealedTokens.Lz4

/-- What a length above fourteen adds after the token: bytes of 255 and a last one below. -/
def lengthBytes (n : Nat) : Bytes :=
  if n < 15 then []
  else List.replicate ((n - 15) / 255) 255 ++ [UInt8.ofNat ((n - 15) % 255)]

/-- The token of a number of literals and a copy of four more than `extra` bytes. -/
def token (literals extra : Nat) : UInt8 := UInt8.ofNat (min literals 15 * 16 + min extra 15)

/-- A sequence of literals and a copy. -/
def sequence (literals : Bytes) (offset length : Nat) : Bytes :=
  let extra := length - minMatch
  token literals.length extra :: lengthBytes literals.length ++ literals ++
    Bytes.ofNatLE 2 offset ++ lengthBytes extra

/-- The last sequence, which has no copy. -/
def lastSequence (literals : Bytes) : Bytes :=
  token literals.length 0 :: lengthBytes literals.length ++ literals

/-- The sequences of the text that is left under the plan that is left; `done` holds those before
in reverse. -/
def sequences : (text : Bytes) → Plan → (done : List Bytes) → List Bytes
  | text, [], done => (lastSequence text :: done).reverse
  | text, step :: rest, done =>
    sequences (text.drop (step.literals + step.length)) rest
      (sequence (text.take step.literals) step.offset step.length :: done)

/-- The block of a text under a plan. -/
def writeBlock (text : Bytes) (plan : Plan) : Bytes := (sequences text plan []).flatten

inductive BlockFault where
  | cutOff
  | literalsOutOfBounds
  | zeroOffset
  | offsetOutOfBounds
  | outputTooSmall (actual expected : Nat)
  deriving DecidableEq, Repr

def BlockFault.message : BlockFault → String
  | cutOff => "expected another byte, found none"
  | literalsOutOfBounds => "literal is out of bounds of the input"
  | zeroOffset => "0 is not a valid match offset"
  | offsetOutOfBounds => "the offset to copy is not contained in the decompressed buffer"
  | outputTooSmall actual expected =>
    s!"provided output is too small for the decompressed data, actual {actual}, expected {expected}"

/-- Reads what a length of fifteen adds: bytes up to and including the first below 255. -/
def readLength : (block : Bytes) → (sum : Nat) → Except BlockFault (Nat × Bytes)
  | [], _ => .error .cutOff
  | b :: rest, sum =>
    if b = 255 then readLength rest (sum + 255) else .ok (sum + b.toNat, rest)

/-- The length that half a token and the bytes after it give. -/
def lengthOf (half : Nat) (block : Bytes) : Except BlockFault (Nat × Bytes) :=
  if half = 15 then readLength block 15 else .ok (half, block)

/-- Appends `length` bytes, each a repetition of the byte `offset` back. -/
def appendCopy (offset : Nat) : (length : Nat) → ByteArray → ByteArray
  | 0, out => out
  | length + 1, out => appendCopy offset length (out.push (out[out.size - offset]?.getD 0))

/-- Reads sequences until the block ends after literals. No sequence takes the output above
`capacity`. -/
def readSequences (capacity : Nat) : (fuel : Nat) → (block : Bytes) → ByteArray →
    Except BlockFault ByteArray
  | 0, _, _ => .error .cutOff
  | _ + 1, [], _ => .error .cutOff
  | fuel + 1, t :: block, out => do
    let (literals, block) ← lengthOf (t.toNat / 16) block
    let run := block.take literals
    if run.length < literals then .error .literalsOutOfBounds
    else if literals > capacity - out.size then
      .error (.outputTooSmall capacity (out.size + literals))
    else
      let out := run.foldl ByteArray.push out
      match block.drop literals with
      -- Only the last sequence ends after its literals.
      | [] => .ok out
      | [_] => .error .cutOff
      | low :: high :: block =>
        let offset := low.toNat + 256 * high.toNat
        if offset = 0 then .error .zeroOffset
        else
          let (extra, block) ← lengthOf (t.toNat % 16) block
          let length := minMatch + extra
          -- The room for the copy comes before the place that it is taken from.
          if out.size + length > capacity then
            .error (.outputTooSmall capacity (out.size + length))
          else if offset > out.size then .error .offsetOutOfBounds
          else readSequences capacity fuel block (appendCopy offset length out)

/-- The text of a block, of at most `capacity` bytes. -/
def readBlock (capacity : Nat) (block : Bytes) : Except BlockFault Bytes :=
  (readSequences capacity (block.length + 1) block ByteArray.empty).map Bytes.ofPacked

end SealedTokens.Lz4
