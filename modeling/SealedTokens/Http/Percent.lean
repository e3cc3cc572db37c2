import SealedTokens.Bytes
/-!
Percent encoding: a byte as a percent sign and two hexadecimal digits. A sign that no two digits
follow stands for itself.
-/
namespace SealedTokens.Http

def hexDigit? (b : UInt8) : Option UInt8 :=
  if 48 ≤ b && b ≤ 57 then some (b - 48)
  else if 65 ≤ b && b ≤ 70 then some (b - 55)
  else if 97 ≤ b && b ≤ 102 then some (b - 87)
  else none

/-- The bytes of a percent-encoded text, added to those before in reverse. -/
def percentDecodeFrom : (text done : Bytes) → Bytes
  | [], done => done.reverse
  | 37 :: a :: b :: rest, done =>
    match hexDigit? a, hexDigit? b with
    | some x, some y => percentDecodeFrom rest ((x * 16 + y) :: done)
    | _, _ => percentDecodeFrom (a :: b :: rest) (37 :: done)
  | b :: rest, done => percentDecodeFrom rest (b :: done)

def percentDecode (text : Bytes) : Bytes := percentDecodeFrom text []

end SealedTokens.Http
