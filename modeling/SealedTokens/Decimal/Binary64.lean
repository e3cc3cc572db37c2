/-!
Binary floating-point numbers of 64 bits as exact values, the nearest one to a decimal, and the
decimal with the fewest digits that reads back as the same number.
-/
namespace SealedTokens

/-- A finite number `± significand * 2 ^ exponent`, or an infinity or no number at all. -/
inductive Binary64 where
  | finite (negative : Bool) (significand : Nat) (exponent : Int)
  | infinite (negative : Bool)
  | nan
  deriving DecidableEq, Repr

namespace Binary64

def isNonzero : Binary64 → Bool
  | finite _ significand _ => significand != 0
  | _ => true

/-- A quotient rounded to the nearest whole number, a half to the even neighbour. -/
def roundDiv (num den : Nat) : Nat :=
  let q := num / den
  let r := num % den
  if 2 * r > den || (2 * r = den && q % 2 = 1) then q + 1 else q

/-- A nonnegative value `num / den` scaled by `2 ^ (-e)`, rounded. -/
def scaled (num den : Nat) (e : Int) : Nat :=
  if e ≥ 0 then roundDiv num (den * Nat.pow 2 e.toNat) else roundDiv (num * Nat.pow 2 (-e).toNat) den

/-- The number nearest to `num / den`: its significand has 53 bits, fewer only at the least
exponent −1074; above the greatest exponent it is infinite. -/
def nearest (negative : Bool) (num den : Nat) : Binary64 :=
  if num = 0 then finite negative 0 (-1074)
  else
    let guess : Int := (num.log2 : Int) - (den.log2 : Int) - 53
    let fits (e : Int) : Bool :=
      if e ≥ 0 then num < den * Nat.pow 2 (53 + e.toNat) else num * Nat.pow 2 (-e).toNat < den * Nat.pow 2 53
    let e := if fits guess then guess else if fits (guess + 1) then guess + 1 else guess + 2
    let e := max e (-1074)
    let m := scaled num den e
    let (m, e) := if m = Nat.pow 2 53 then (Nat.pow 2 52, e + 1) else (m, e)
    if e > 971 then infinite negative else finite negative m e

/-- The number nearest to `digits * 10 ^ exponent`. -/
def ofDecimal (negative : Bool) (digits : Nat) (exponent : Int) : Binary64 :=
  if digits = 0 then finite negative 0 (-1074)
  else if exponent > 400 then infinite negative
  else if exponent < -400 - (digits.log2 : Int) then finite negative 0 (-1074)
  else if exponent ≥ 0 then nearest negative (digits * Nat.pow 10 exponent.toNat) 1
  else nearest negative digits (Nat.pow 10 (-exponent).toNat)

/-- A decimal `digits * 10 ^ exponent` with at most `17` digits that rounds to the number. The
search goes from one digit up; on each grid only the two neighbours of the number are tried, the
nearer first. -/
def shortest (significand : Nat) (exponent : Int) : Nat × Int :=
  let (num, den) : Nat × Nat :=
    if exponent ≥ 0 then (significand * Nat.pow 2 exponent.toNat, 1)
    else (significand, Nat.pow 2 (-exponent).toNat)
  let target := finite false significand exponent
  let magnitude : Int := (num.log2 : Int) - (den.log2 : Int)
  let start : Int := magnitude * 30103 / 100000 + 1
  search num den target start 40
where
  /-- Tries the grids `10 ^ grid`, `10 ^ (grid - 1)`, … in turn. -/
  search (num den : Nat) (target : Binary64) (grid : Int) : (fuel : Nat) → Nat × Int
    | 0 => (0, 0)
    | fuel + 1 =>
      let (n, d) : Nat × Nat :=
        if grid ≥ 0 then (num, den * Nat.pow 10 grid.toNat) else (num * Nat.pow 10 (-grid).toNat, den)
      let low := n / d
      let near := roundDiv n d
      let far := if near = low then low + 1 else low
      if near ≠ 0 && ofDecimal false near grid = target then (near, grid)
      else if far ≠ 0 && ofDecimal false far grid = target then (far, grid)
      else search num den target (grid - 1) fuel

/-- The digits with a point where the exponent puts it, and zeros to fill up. -/
def positional (digits : List Char) (exponent : Int) : List Char :=
  if exponent ≥ 0 then digits ++ List.replicate exponent.toNat '0'
  else
    let places := (-exponent).toNat
    if places < digits.length then
      digits.take (digits.length - places) ++ '.' :: digits.drop (digits.length - places)
    else '0' :: '.' :: List.replicate (places - digits.length) '0' ++ digits

/-- The number as text: never with an exponent, and without a point when it is whole. -/
def text : Binary64 → String
  | nan => "NaN"
  | infinite negative => if negative then "-inf" else "inf"
  | finite negative significand exponent =>
    let sign := if negative then "-" else ""
    if significand = 0 then sign ++ "0"
    else
      let (digits, place) := shortest significand exponent
      sign ++ String.ofList (positional (Nat.toDigits 10 digits) place)

end Binary64

end SealedTokens
