import SealedTokens.Bytes
/-!
Variable-length numbers: seven bits a byte, low bits first, the high bit set on all but the last.
A reader is given the width of the number's type, which bounds how many bytes it may take.
-/
namespace SealedTokens.Varint

/-- The shortest form of a number. -/
def encode (n : Nat) : Bytes :=
  if n < 128 then [UInt8.ofNat n] else UInt8.ofNat (n % 128 + 128) :: encode (n / 128)
termination_by n

inductive Fault where
  /-- The bytes end inside the number. -/
  | endOfInput
  /-- The number has more bytes, or is larger, than its type allows. -/
  | unterminated
  deriving DecidableEq, Repr

/-- The most bytes a number of `bits` bits takes. -/
def maxLength (bits : Nat) : Nat := (bits + 6) / 7

/-- Reads a number of at most `room` bytes, given the value and the weight of those before. -/
def decodeFrom (bits : Nat) : (room value weight : Nat) → Bytes → Except Fault (Nat × Bytes)
  | 0, _, _, _ => .error .unterminated
  | _ + 1, _, _, [] => .error .endOfInput
  | room + 1, value, weight, b :: rest =>
    let value := value + b.toNat % 128 * weight
    -- The last byte may hold more bits than the type has left.
    if b.toNat < 128 then
      if value < Nat.pow 2 bits then .ok (value, rest) else .error .unterminated
    else decodeFrom bits room value (weight * 128) rest

/-- Reads a number of `bits` bits; zeros beyond the shortest form are accepted within its room. -/
def decode (bits : Nat) (input : Bytes) : Except Fault (Nat × Bytes) :=
  decodeFrom bits (maxLength bits) 0 1 input

end SealedTokens.Varint
