import SealedTokens.Bytes
import SealedTokens.Crypto.PrimeRoots
/-!
SHA-512 and SHA-384: messages padded to blocks of 128 bytes, each mixed into eight words of 64
bits.
-/
namespace SealedTokens.Crypto.Sha512

structure Words where
  a : UInt64
  b : UInt64
  c : UInt64
  d : UInt64
  e : UInt64
  f : UInt64
  g : UInt64
  h : UInt64

/-- The words before the first block, from the square roots of eight primes. -/
def initialFrom (primes : List Nat) : Words :=
  match primes.map fun p => rootFraction 2 p with
  | [a, b, c, d, e, f, g, h] => ⟨a, b, c, d, e, f, g, h⟩
  | _ => ⟨0, 0, 0, 0, 0, 0, 0, 0⟩

/-- The words before the first block of SHA-512. -/
def initial : Words := initialFrom (firstPrimes.take 8)

/-- The words before the first block of SHA-384. -/
def initial384 : Words := initialFrom ((firstPrimes.drop 8).take 8)

def roundConstants : Array UInt64 :=
  (firstPrimes.take 80 |>.map fun p => rootFraction 3 p).toArray

/-- A word turned right by `n` bits. -/
def rotate (x n : UInt64) : UInt64 := (x >>> n) ||| (x <<< (64 - n))

/-- The word at a byte position, most significant byte first. -/
def wordAt (message : ByteArray) (i : Nat) : UInt64 :=
  let byte (j : Nat) : UInt64 := (message[i + j]?.getD 0).toUInt64
  (byte 0 <<< 56) ||| (byte 1 <<< 48) ||| (byte 2 <<< 40) ||| (byte 3 <<< 32) |||
    (byte 4 <<< 24) ||| (byte 5 <<< 16) ||| (byte 6 <<< 8) ||| byte 7

/-- The sixteen words of the block at a byte position, extended to eighty. -/
def schedule (message : ByteArray) (i : Nat) : Array UInt64 :=
  let first := (List.range 16).foldl (fun w j => w.push (wordAt message (i + 8 * j))) (Array.mkEmpty 80)
  (List.range 64).foldl (fun w j =>
    let word (k : Nat) : UInt64 := w[j + k]?.getD 0
    let s0 := rotate (word 1) 1 ^^^ rotate (word 1) 8 ^^^ (word 1 >>> 7)
    let s1 := rotate (word 14) 19 ^^^ rotate (word 14) 61 ^^^ (word 14 >>> 6)
    w.push (word 0 + s0 + word 9 + s1)) first

/-- One round with its constant and message word added up. -/
def round (v : Words) (k : UInt64) : Words :=
  let s1 := rotate v.e 14 ^^^ rotate v.e 18 ^^^ rotate v.e 41
  let choice := (v.e &&& v.f) ^^^ (~~~v.e &&& v.g)
  let t1 := v.h + s1 + choice + k
  let s0 := rotate v.a 28 ^^^ rotate v.a 34 ^^^ rotate v.a 39
  let majority := (v.a &&& v.b) ^^^ (v.a &&& v.c) ^^^ (v.b &&& v.c)
  ⟨t1 + s0 + majority, v.a, v.b, v.c, v.d + t1, v.e, v.f, v.g⟩

/-- Mixes the block at a byte position into the words. -/
def mix (message : ByteArray) (v : Words) (i : Nat) : Words :=
  let w := schedule message i
  let u := (List.range 80).foldl
    (fun u j => round u (roundConstants[j]?.getD 0 + w[j]?.getD 0)) v
  ⟨v.a + u.a, v.b + u.b, v.c + u.c, v.d + u.d, v.e + u.e, v.f + u.f, v.g + u.g, v.h + u.h⟩

/-- The message, a one bit, zeros up to sixteen bytes before a whole block, and the length in bits. -/
def padded (message : Bytes) : Bytes :=
  let length := message.length
  message ++ 0x80 :: List.replicate ((239 - length % 128) % 128) 0 ++ Bytes.ofNatBE 16 (length * 8)

def Words.bytes (v : Words) : Bytes :=
  [v.a, v.b, v.c, v.d, v.e, v.f, v.g, v.h].flatMap fun w => Bytes.ofNatBE 8 w.toNat

/-- The words after all blocks of a message. -/
def absorb (start : Words) (message : Bytes) : Words :=
  let packed := (padded message).packed
  (List.range (packed.size / 128)).foldl (fun v i => mix packed v (128 * i)) start

/-- The SHA-512 digest of a message, 64 bytes. -/
def digest (message : Bytes) : Bytes := (absorb initial message).bytes

/-- The SHA-384 digest of a message, 48 bytes. -/
def digest384 (message : Bytes) : Bytes := (absorb initial384 message).bytes.take 48

end SealedTokens.Crypto.Sha512
