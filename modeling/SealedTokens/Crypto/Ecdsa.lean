import SealedTokens.Crypto.Hmac
import SealedTokens.Crypto.Weierstrass
/-!
ECDSA signatures as the two numbers one after the other. The secret number of a signature is
derived from the key and the digest, so that signing is a function.
-/
namespace SealedTokens.Crypto.Ecdsa

/-- A curve with the digest that goes with it. -/
structure Scheme where
  curve : Curve
  hash : Hash

/-- The topmost bits of a byte string as a number, as many as the order has. -/
def topBits (s : Scheme) (bytes : Bytes) : Nat :=
  let bits := 8 * bytes.length
  if bits > s.curve.orderBits then Bytes.toNatBE bytes / Nat.pow 2 (bits - s.curve.orderBits)
  else Bytes.toNatBE bytes

/-- A generator of candidates: a key and a value, mixed anew by keyed digests. -/
structure Generator where
  key : Bytes
  value : Bytes

/-- Mixes `more` into a generator. -/
def Generator.mix (s : Scheme) (g : Generator) (more : Bytes) : Generator :=
  let key := Hmac.code s.hash g.key (g.value ++ more)
  ⟨key, Hmac.code s.hash key g.value⟩

/-- A candidate of the order's length, and the generator after it. -/
def Generator.next (s : Scheme) (g : Generator) : Nat × Generator :=
  let length := (s.curve.orderBits + 7) / 8
  let rec grow : (fuel : Nat) → Bytes → Bytes → Bytes × Bytes
    | 0, value, done => (done, value)
    | fuel + 1, value, done =>
      if done.length ≥ length then (done, value)
      else
        let value := Hmac.code s.hash g.key value
        grow fuel value (done ++ value)
  let (bytes, value) := grow (length + 1) g.value []
  (topBits s (bytes.take length), ⟨g.key, value⟩)

/-- The first candidate between zero and the order. Rejected candidates are so rare that the fuel
is not used up. -/
def Generator.scalar (s : Scheme) : (fuel : Nat) → Generator → Nat
  | 0, _ => 1
  | fuel + 1, g =>
    let (k, g) := g.next s
    if 0 < k && k < s.curve.order then k else scalar s fuel (g.mix s [0])

/-- The secret number for a key and a digest. -/
def secretScalar (s : Scheme) (key : Nat) (digest : Nat) : Nat :=
  let length := (s.curve.orderBits + 7) / 8
  let seed := Bytes.ofNatBE length key ++ Bytes.ofNatBE length (digest % s.curve.order)
  let start : Generator := ⟨List.replicate s.hash.size 0, List.replicate s.hash.size 1⟩
  ((start.mix s (0 :: seed)).mix s (1 :: seed)).scalar s 64

def sign? (s : Scheme) (key : Nat) (message : Bytes) : Option Bytes := do
  let n := s.curve.order
  let digest := topBits s (s.hash.digest message)
  let k := secretScalar s key digest
  let (x, _) ← s.curve.plane? (s.curve.multiple k s.curve.base)
  let r := x % n
  let v := inverseMod n k * ((digest + r * key) % n) % n
  if r = 0 || v = 0 then none
  else return Bytes.ofNatBE s.curve.size r ++ Bytes.ofNatBE s.curve.size v

/-- Whether a signature belongs to a message, for the public point given. -/
def verify (s : Scheme) (point : Curve.Point) (message signature : Bytes) : Bool :=
  let n := s.curve.order
  let r := Bytes.toNatBE (signature.take s.curve.size)
  let v := Bytes.toNatBE (signature.drop s.curve.size)
  if signature.length ≠ 2 * s.curve.size || r = 0 || r ≥ n || v = 0 || v ≥ n then false
  else
    let digest := topBits s (s.hash.digest message)
    let w := inverseMod n v
    let left := s.curve.multiple (digest * w % n) s.curve.base
    let right := s.curve.multiple (r * w % n) point
    match s.curve.plane? (s.curve.add left right) with
    | some (x, _) => x % n == r
    | none => false

end SealedTokens.Crypto.Ecdsa
