/-!
The constants of the SHA-2 functions: the leading bits of the fractions of square and cube roots
of the first primes.
-/
namespace SealedTokens.Crypto

/-- Whether no number from 2 to its predecessor divides `n`. -/
def isPrime (n : Nat) : Bool := 2 ≤ n && (List.range n).all fun d => d < 2 || n % d ≠ 0

/-- The primes below 410, of which there are eighty. -/
def firstPrimes : List Nat := (List.range 410).filter isPrime

/-- The largest number of at most `bits` bits whose `k`-th power is at most `n`. -/
def rootFloor (k n : Nat) : (bits : Nat) → Nat
  | 0 => 0
  | bits + 1 =>
    let root := 2 * rootFloor k (n / Nat.pow 2 k) bits
    if Nat.pow (root + 1) k ≤ n then root + 1 else root

/-- The first 64 bits of the fraction of the `k`-th root of `n`. -/
def rootFraction (k n : Nat) : UInt64 := UInt64.ofNat (rootFloor k (n * Nat.pow 2 (64 * k)) 80)

end SealedTokens.Crypto
