import SealedTokens.Bytes
/-!
The Poly1305 authenticator: the message as the coefficients of a polynomial, evaluated modulo
2^130 − 5 at a secret point, plus a secret number.
-/
namespace SealedTokens.Crypto.Poly1305

/-- The prime 2^130 − 5. -/
def prime : Nat := Nat.pow 2 130 - 5

/-- The bits of the point that may be set. -/
def clamp : Nat := 0x0ffffffc0ffffffc0ffffffc0fffffff

/-- Adds the blocks of sixteen bytes, each with a one above it, by Horner's rule. -/
def evaluate (point : Nat) (message : ByteArray) : Nat :=
  (List.range ((message.size + 15) / 16)).foldl (fun sum i =>
    let length := min 16 (message.size - 16 * i)
    let coefficient := (List.range length).foldr
      (fun j n => n * 256 + (message[16 * i + j]?.getD 0).toNat) 1
    (sum + coefficient) * point % prime) 0

/-- The tag of a message under a key of 32 bytes, used once. -/
def tag (key message : Bytes) : Bytes :=
  let point := Bytes.toNatLE (key.take 16) &&& clamp
  Bytes.ofNatLE 16 (evaluate point message.packed + Bytes.toNatLE (key.drop 16))

end SealedTokens.Crypto.Poly1305
