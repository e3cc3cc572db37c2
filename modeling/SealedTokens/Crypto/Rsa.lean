import SealedTokens.Crypto.Hmac
import SealedTokens.Crypto.Modular
/-!
RSA signatures in two forms: PKCS #1 v1.5, which is a function of the message, and PSS, which mixes
in a salt.
-/
namespace SealedTokens.Crypto.Rsa

/-- A private key: the modulus and the two exponents. -/
structure Key where
  modulus : Nat
  publicExponent : Nat
  privateExponent : Nat
  deriving DecidableEq, Repr

/-- Whether a modulus of at most 4096 bits is the product of two numbers, modulo whose predecessors
the exponents are inverse, and the public exponent is odd and small. -/
def Key.isConsistent (key : Key) (p q : Nat) : Bool :=
  let inverse (prime : Nat) : Bool :=
    key.publicExponent * key.privateExponent % (prime - 1) == 1
  key.modulus < Nat.pow 2 4096 && key.modulus % 2 == 1 && key.modulus == p * q &&
    key.publicExponent % 2 == 1 && 1 < key.publicExponent && key.publicExponent < Nat.pow 2 33 &&
    key.publicExponent < key.modulus && inverse p && inverse q

/-- The length of the modulus in bits. -/
def Key.bits (key : Key) : Nat := if key.modulus = 0 then 0 else key.modulus.log2 + 1

def Key.size (key : Key) : Nat := (key.bits + 7) / 8

/-- The signature of an encoded message, unless the two exponents do not belong together. -/
def Key.raise? (key : Key) (encoded : Bytes) : Option Bytes :=
  let m := Bytes.toNatBE encoded
  let s := powMod key.modulus m key.privateExponent
  if powMod key.modulus s key.publicExponent = m then some (Bytes.ofNatBE key.size s) else none

/-- The encoded message of a signature, in as many bytes as `length`. -/
def Key.recover? (key : Key) (length : Nat) (signature : Bytes) : Option Bytes :=
  let s := Bytes.toNatBE signature
  if signature.length ≠ key.size || s ≥ key.modulus then none
  else
    let m := powMod key.modulus s key.publicExponent
    if m < Nat.pow 256 length then some (Bytes.ofNatBE length m) else none

/-- A digest with the number that names it in a PKCS #1 signature. -/
structure Scheme where
  hash : Hash
  digestInfo : Bytes

/-- What stands before a digest in a PKCS #1 signature: the name of the digest with the last part
of its object identifier, and its size. -/
def digestInfo (name size : UInt8) : Bytes :=
  [0x30, 0x11 + size, 0x30, 0x0d, 0x06, 0x09, 0x60, 0x86, 0x48, 0x01, 0x65, 0x03, 0x04, 0x02, name,
    0x05, 0x00, 0x04, size]

/-- The encoded message of PKCS #1 v1.5: the digest behind a padding of at least eight bytes. -/
def pkcs1Encode? (scheme : Scheme) (length : Nat) (message : Bytes) : Option Bytes :=
  let tail := scheme.digestInfo ++ scheme.hash.digest message
  if length < tail.length + 11 then none
  else some ([0, 1] ++ List.replicate (length - tail.length - 3) 0xff ++ 0 :: tail)

/-- A PKCS #1 v1.5 signature. -/
def pkcs1Sign? (key : Key) (scheme : Scheme) (message : Bytes) : Option Bytes :=
  (pkcs1Encode? scheme key.size message).bind key.raise?

/-- Whether a PKCS #1 v1.5 signature belongs to a message. -/
def pkcs1Verify (key : Key) (scheme : Scheme) (message signature : Bytes) : Bool :=
  match pkcs1Encode? scheme key.size message, key.recover? key.size signature with
  | some expected, some found => expected == found
  | _, _ => false

/-- The first `length` bytes of the digests of a seed with counters 0, 1, 2, …. -/
def mask (hash : Hash) (seed : Bytes) (length : Nat) : Bytes :=
  let blocks := (List.range ((length + hash.size - 1) / hash.size)).map fun i =>
    hash.digest (seed ++ Bytes.ofNatBE 4 i)
  blocks.flatten.take length

/-- A byte string with its topmost `extra` bits cleared, at most eight. -/
def clearTop (extra : Nat) : Bytes → Bytes
  | [] => []
  | b :: rest => (b &&& UInt8.ofNat (255 / Nat.pow 2 extra)) :: rest

/-- The digest that ties a salt to a message. -/
def saltedDigest (hash : Hash) (message salt : Bytes) : Bytes :=
  hash.digest (List.replicate 8 0 ++ hash.digest message ++ salt)

/-- The encoded message of PSS for a modulus of `bits + 1` bits. -/
def pssEncode? (hash : Hash) (bits : Nat) (message salt : Bytes) : Option Bytes :=
  let length := (bits + 7) / 8
  if length < hash.size + salt.length + 2 then none
  else
    let digest := saltedDigest hash message salt
    let block := List.replicate (length - salt.length - hash.size - 2) 0 ++ 1 :: salt
    let masked := List.zipWith (· ^^^ ·) block (mask hash digest block.length)
    some (clearTop (8 * length - bits) masked ++ digest ++ [0xbc])

/-- A PSS signature with the salt given. -/
def pssSign? (key : Key) (hash : Hash) (salt message : Bytes) : Option Bytes :=
  (pssEncode? hash (key.bits - 1) message salt).bind key.raise?

/-- Whether a PSS signature with a salt of the digest's size belongs to a message. -/
def pssVerify (key : Key) (hash : Hash) (message signature : Bytes) : Bool :=
  let bits := key.bits - 1
  let length := (bits + 7) / 8
  match key.recover? length signature with
  | none => false
  | some encoded =>
    let masked := encoded.take (length - hash.size - 1)
    let digest := (encoded.drop masked.length).take hash.size
    let block := clearTop (8 * length - bits)
      (List.zipWith (· ^^^ ·) masked (mask hash digest masked.length))
    let salt := block.drop (block.length - hash.size)
    pssEncode? hash bits message salt == some encoded

end SealedTokens.Crypto.Rsa
