import SealedTokens.Bytes
import SealedTokens.Crypto.PrimeRoots
/-!
SHA-256: messages padded to blocks of 64 bytes, each mixed into eight words of 32 bits.
-/
namespace SealedTokens.Crypto.Sha256

structure Words where
  a : UInt32
  b : UInt32
  c : UInt32
  d : UInt32
  e : UInt32
  f : UInt32
  g : UInt32
  h : UInt32

def initial : Words :=
  match firstPrimes.take 8 |>.map fun p => (rootFraction 2 p >>> 32).toUInt32 with
  | [a, b, c, d, e, f, g, h] => ⟨a, b, c, d, e, f, g, h⟩
  | _ => ⟨0, 0, 0, 0, 0, 0, 0, 0⟩

def roundConstants : Array UInt32 :=
  (firstPrimes.take 64 |>.map fun p => (rootFraction 3 p >>> 32).toUInt32).toArray

/-- A word turned right by `n` bits. -/
def rotate (x n : UInt32) : UInt32 := (x >>> n) ||| (x <<< (32 - n))

/-- The word at a byte position, most significant byte first. -/
def wordAt (message : ByteArray) (i : Nat) : UInt32 :=
  let byte (j : Nat) : UInt32 := (message[i + j]?.getD 0).toUInt32
  (byte 0 <<< 24) ||| (byte 1 <<< 16) ||| (byte 2 <<< 8) ||| byte 3

/-- The sixteen words of the block at a byte position, extended to sixty-four. -/
def schedule (message : ByteArray) (i : Nat) : Array UInt32 :=
  let first := (List.range 16).foldl (fun w j => w.push (wordAt message (i + 4 * j))) (Array.mkEmpty 64)
  (List.range 48).foldl (fun w j =>
    let word (k : Nat) : UInt32 := w[j + k]?.getD 0
    let s0 := rotate (word 1) 7 ^^^ rotate (word 1) 18 ^^^ (word 1 >>> 3)
    let s1 := rotate (word 14) 17 ^^^ rotate (word 14) 19 ^^^ (word 14 >>> 10)
    w.push (word 0 + s0 + word 9 + s1)) first

/-- One round with its constant and message word added up. -/
def round (v : Words) (k : UInt32) : Words :=
  let s1 := rotate v.e 6 ^^^ rotate v.e 11 ^^^ rotate v.e 25
  let choice := (v.e &&& v.f) ^^^ (~~~v.e &&& v.g)
  let t1 := v.h + s1 + choice + k
  let s0 := rotate v.a 2 ^^^ rotate v.a 13 ^^^ rotate v.a 22
  let majority := (v.a &&& v.b) ^^^ (v.a &&& v.c) ^^^ (v.b &&& v.c)
  ⟨t1 + s0 + majority, v.a, v.b, v.c, v.d + t1, v.e, v.f, v.g⟩

/-- Mixes the block at a byte position into the words. -/
def mix (message : ByteArray) (v : Words) (i : Nat) : Words :=
  let w := schedule message i
  let u := (List.range 64).foldl
    (fun u j => round u (roundConstants[j]?.getD 0 + w[j]?.getD 0)) v
  ⟨v.a + u.a, v.b + u.b, v.c + u.c, v.d + u.d, v.e + u.e, v.f + u.f, v.g + u.g, v.h + u.h⟩

/-- The message, a one bit, zeros up to eight bytes before a whole block, and the length in bits. -/
def padded (message : Bytes) : Bytes :=
  let length := message.length
  message ++ 0x80 :: List.replicate ((119 - length % 64) % 64) 0 ++ Bytes.ofNatBE 8 (length * 8)

def Words.bytes (v : Words) : Bytes :=
  [v.a, v.b, v.c, v.d, v.e, v.f, v.g, v.h].flatMap fun w => Bytes.ofNatBE 4 w.toNat

/-- The digest of a message, 32 bytes. -/
def digest (message : Bytes) : Bytes :=
  let packed := (padded message).packed
  ((List.range (packed.size / 64)).foldl (fun v i => mix packed v (64 * i)) initial).bytes

end SealedTokens.Crypto.Sha256
