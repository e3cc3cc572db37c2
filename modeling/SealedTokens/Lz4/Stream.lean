import SealedTokens.Lz4.Block
import SealedTokens.Lz4.Matcher
/-!
Streams: a block behind its text's length, in four bytes. A stream that claims more than a
mebibyte is refused before it is read.
-/
namespace SealedTokens.Lz4

/-- The longest text a stream may claim. -/
def maxLength : Nat := Nat.pow 2 20

inductive StreamFault where
  | tooShort
  | tooLarge (claimed : Nat)
  | block (fault : BlockFault)
  deriving DecidableEq, Repr

def StreamFault.message : StreamFault → String
  | tooShort => "LZ4 stream too short"
  | tooLarge _ => "LZ4 block too large"
  | block fault => fault.message

/-- What a fault says about where it arose. -/
def StreamFault.context : StreamFault → Option String
  | tooShort => none
  | tooLarge claimed => some s!"claimed={claimed}"
  | block _ => some "LZ4 stream invalid"

/-- The stream of a text. -/
def compress (text : Bytes) : Bytes :=
  Bytes.ofNatLE 4 text.length ++ writeBlock text (Matcher.plan text)

/-- The text of a stream. -/
def decompress : Bytes → Except StreamFault Bytes
  | a :: b :: c :: d :: rest =>
    let claimed := Bytes.toNatLE [a, b, c, d]
    if claimed > maxLength then .error (.tooLarge claimed)
    else
      match readBlock claimed rest with
      | .ok text => .ok text
      | .error fault => .error (.block fault)
  | _ => .error .tooShort

end SealedTokens.Lz4
