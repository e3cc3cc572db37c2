/-!
Arithmetic modulo a number.
-/
namespace SealedTokens.Crypto

/-- `base ^ exponent * done` modulo `m`; each step halves the exponent. -/
def powModFrom (m : Nat) (base exponent done : Nat) : Nat :=
  if exponent = 0 then done
  else
    powModFrom m (base * base % m) (exponent / 2)
      (if exponent % 2 = 1 then done * base % m else done)
termination_by exponent

/-- `base ^ exponent` modulo `m`. -/
def powMod (m base exponent : Nat) : Nat := powModFrom m (base % m) exponent (1 % m)

/-- `a - b` modulo `m`, for `b` below `m`. -/
def subMod (m a b : Nat) : Nat := (a + (m - b)) % m

/-- The inverse of a number that is no multiple of a prime. -/
def inverseMod (prime a : Nat) : Nat := powMod prime a (prime - 2)

end SealedTokens.Crypto
