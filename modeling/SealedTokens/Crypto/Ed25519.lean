import SealedTokens.Crypto.Modular
import SealedTokens.Crypto.Sha512
/-!
Ed25519 signatures: the twisted Edwards curve over the prime `2 ^ 255 - 19`, with extended
coordinates `(x / z, y / z)` and `t = x y / z`.
-/
namespace SealedTokens.Crypto.Ed25519

def prime : Nat := Nat.pow 2 255 - 19

def order : Nat := Nat.pow 2 252 + 27742317777372353535851937790883648493

def constant : Nat := subMod prime 0 (121665 * inverseMod prime 121666 % prime)

/-- A point by extended coordinates. -/
structure Point where
  x : Nat
  y : Nat
  z : Nat
  t : Nat

def zero : Point := ⟨0, 1, 1, 0⟩

def base : Point :=
  let x := 15112221349535400772501151409588531511454012693041857206046113283949847762202
  let y := 46316835694926478169428394003475163141307993866256225615783033603165251855960
  ⟨x, y, 1, x * y % prime⟩

/-- Twice the constant of the curve, computed once. -/
def twiceConstant : Nat := 2 * constant % prime

/-- The sum of two points; the formula holds for all of them. -/
def add (p q : Point) : Point :=
  let a := subMod prime p.y p.x * subMod prime q.y q.x % prime
  let b := (p.y + p.x) * (q.y + q.x) % prime
  let c := p.t * twiceConstant % prime * q.t % prime
  let d := 2 * p.z * q.z % prime
  let e := subMod prime b a
  let f := subMod prime d c
  let g := d + c
  let h := b + a
  ⟨e * f % prime, g * h % prime, f * g % prime, e * h % prime⟩

/-- `k` times a point added to another; each step halves `k`. -/
def addMultiple (k : Nat) (p sum : Point) : Point :=
  if k = 0 then sum
  else addMultiple (k / 2) (add p p) (if k % 2 = 1 then add sum p else sum)
termination_by k

def multiple (k : Nat) (p : Point) : Point := addMultiple k p zero

/-- The 32 bytes of a point: `y`, and the lowest bit of `x` on top. -/
def Point.bytes (p : Point) : Bytes :=
  let inverse := inverseMod prime p.z
  let x := p.x * inverse % prime
  let y := p.y * inverse % prime
  Bytes.ofNatLE 32 (y + x % 2 * Nat.pow 2 255)

def negate (p : Point) : Point := ⟨subMod prime 0 p.x, p.y, p.z, subMod prime 0 p.t⟩

/-- A private key as it is used: the scalar and the part that makes signatures unpredictable. -/
structure Key where
  scalar : Nat
  nonceSeed : Bytes

/-- The key of a seed of 32 bytes. -/
def Key.ofSeed (seed : Bytes) : Key :=
  let digest := Sha512.digest seed
  let low := Bytes.toNatLE (digest.take 32)
  ⟨low % Nat.pow 2 254 / 8 * 8 + Nat.pow 2 254, digest.drop 32⟩

def Key.point (key : Key) : Point := multiple key.scalar base

/-- The signature of a message, with the public point given. -/
def sign (key : Key) (point : Point) (message : Bytes) : Bytes :=
  let r := Bytes.toNatLE (Sha512.digest (key.nonceSeed ++ message)) % order
  let commitment := (multiple r base).bytes
  let k := Bytes.toNatLE (Sha512.digest (commitment ++ point.bytes ++ message)) % order
  commitment ++ Bytes.ofNatLE 32 ((r + k * key.scalar) % order)

/-- Whether a signature belongs to a message, for the public point given. -/
def verify (point : Point) (message signature : Bytes) : Bool :=
  let commitment := signature.take 32
  let s := Bytes.toNatLE (signature.drop 32)
  if signature.length ≠ 64 || s ≥ order then false
  else
    let k := Bytes.toNatLE (Sha512.digest (commitment ++ point.bytes ++ message)) % order
    (add (multiple s base) (multiple k (negate point))).bytes == commitment

end SealedTokens.Crypto.Ed25519
