import SealedTokens.Crypto.Modular
import SealedTokens.Bytes
/-!
Elliptic curves `y² = x³ - 3x + b` over a prime field: the group of points, with projective
coordinates `(x / z², y / z³)` inside, and the three curves of signatures.
-/
namespace SealedTokens.Crypto

/-- A curve with a base point of prime order. -/
structure Curve where
  prime : Nat
  b : Nat
  order : Nat
  baseX : Nat
  baseY : Nat
  deriving DecidableEq, Repr

namespace Curve

/-- A point by projective coordinates; the neutral point has `z = 0`. -/
structure Point where
  x : Nat
  y : Nat
  z : Nat
  deriving DecidableEq, Repr

def zero : Point := ⟨1, 1, 0⟩

/-- The length of a coordinate in bytes. -/
def size (c : Curve) : Nat := (c.prime.log2 + 8) / 8

/-- The length of a scalar in bits. -/
def orderBits (c : Curve) : Nat := c.order.log2 + 1

def base (c : Curve) : Point := ⟨c.baseX, c.baseY, 1⟩

def double (c : Curve) (p : Point) : Point :=
  let m := c.prime
  if p.z = 0 then p
  else
    let delta := p.z * p.z % m
    let gamma := p.y * p.y % m
    let beta := p.x * gamma % m
    let alpha := 3 * (subMod m p.x delta * (p.x + delta) % m) % m
    let x := subMod m (alpha * alpha) (8 * beta % m)
    let yz := (p.y + p.z) * (p.y + p.z)
    let z := subMod m (subMod m yz gamma) delta
    let y := subMod m (alpha * subMod m (4 * beta) x) (8 * (gamma * gamma) % m)
    ⟨x, y, z⟩

def add (c : Curve) (p q : Point) : Point :=
  let m := c.prime
  if p.z = 0 then q
  else if q.z = 0 then p
  else
    let pz2 := p.z * p.z % m
    let qz2 := q.z * q.z % m
    let u1 := p.x * qz2 % m
    let u2 := q.x * pz2 % m
    let s1 := p.y * (q.z * qz2 % m) % m
    let s2 := q.y * (p.z * pz2 % m) % m
    let h := subMod m u2 u1
    let r := subMod m s2 s1
    if h = 0 then if r = 0 then c.double p else zero
    else
      let h2 := h * h % m
      let h3 := h * h2 % m
      let v := u1 * h2 % m
      let x := subMod m (subMod m (r * r) h3) (2 * v % m)
      let y := subMod m (r * subMod m v x) (s1 * h3 % m)
      ⟨x, y, h * (p.z * q.z % m) % m⟩

/-- `k` times a point added to another; each step halves `k`. -/
def addMultiple (c : Curve) (k : Nat) (p sum : Point) : Point :=
  if k = 0 then sum
  else addMultiple c (k / 2) (c.double p) (if k % 2 = 1 then c.add sum p else sum)
termination_by k

def multiple (c : Curve) (k : Nat) (p : Point) : Point := c.addMultiple k p zero

/-- The plane coordinates of a point, of which the neutral point has none. -/
def plane? (c : Curve) (p : Point) : Option (Nat × Nat) :=
  if p.z = 0 then none
  else
    let inverse := inverseMod c.prime p.z
    let square := inverse * inverse % c.prime
    some (p.x * square % c.prime, p.y * (square * inverse % c.prime) % c.prime)

/-- The uncompressed form of a point. -/
def pointBytes (c : Curve) (x y : Nat) : Bytes :=
  4 :: Bytes.ofNatBE c.size x ++ Bytes.ofNatBE c.size y

def p256 : Curve where
  prime := Nat.pow 2 256 - Nat.pow 2 224 + Nat.pow 2 192 + Nat.pow 2 96 - 1
  b := 0x5ac635d8aa3a93e7b3ebbd55769886bc651d06b0cc53b0f63bce3c3e27d2604b
  order := 0xffffffff00000000ffffffffffffffffbce6faada7179e84f3b9cac2fc632551
  baseX := 0x6b17d1f2e12c4247f8bce6e563a440f277037d812deb33a0f4a13945d898c296
  baseY := 0x4fe342e2fe1a7f9b8ee7eb4a7c0f9e162bce33576b315ececbb6406837bf51f5

def p384 : Curve where
  prime := Nat.pow 2 384 - Nat.pow 2 128 - Nat.pow 2 96 + Nat.pow 2 32 - 1
  b := 0xb3312fa7e23ee7e4988e056be3f82d19181d9c6efe8141120314088f5013875ac656398d8a2ed19d2a85c8edd3ec2aef
  order := 0xffffffffffffffffffffffffffffffffffffffffffffffffc7634d81f4372ddf581a0db248b0a77aecec196accc52973
  baseX := 0xaa87ca22be8b05378eb1c71ef320ad746e1d3b628ba79b9859f741e082542a385502f25dbf55296c3a545e3872760ab7
  baseY := 0x3617de4a96262c6f5d9e98bf9292dc29f8f41dbd289a147ce9da3113b5f0b8c00a60b1ce1d7e819d7a431d7c90ea0e5f

def p521 : Curve where
  prime := Nat.pow 2 521 - 1
  b := 0x51953eb9618e1c9a1f929a21a0b68540eea2da725b99b315f3b8b489918ef109e156193951ec7e937b1652c0bd3bb1bf073573df883d2c34f1ef451fd46b503f00
  order := 0x1fffffffffffffffffffffffffffffffffffffffffffffffffffffffffffffffffa51868783bf2f966b7fcc0148f709a5d03bb5c9b8899c47aebb6fb71e91386409
  baseX := 0xc6858e06b70404e9cd9e3ecb662395b4429c648139053fb521f828af606b4d3dbaa14b5e77efe75928fe1dc127a2ffa8de3348b3c1856a429bf97e7e31c2e5bd66
  baseY := 0x11839296a789a3bc0045c8a5fb42c7d1bd998f54449579b446817afbd17273e662c97ee72995ef42640c550b9013fad0761353c7086a272c24088be94769fd16650

end Curve

end SealedTokens.Crypto
