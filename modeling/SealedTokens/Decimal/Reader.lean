import SealedTokens.Decimal.Binary64
import SealedTokens.Text.Blank
/-!
Reading numbers from text: whole numbers of 64 bits with a sign, and floating-point numbers with a
fraction, an exponent, or a word for the values that have no digits.
-/
namespace SealedTokens.Decimal

/-- A sign in front of a number, and the rest. -/
def splitSign : List Char → Bool × List Char
  | '-' :: rest => (true, rest)
  | '+' :: rest => (false, rest)
  | rest => (false, rest)

/-- The value of a run of digits in a base up to sixteen. -/
def digitsValue (base : Nat) (digits : List Char) : Nat :=
  digits.foldl (fun n c =>
    n * base + (if c.isDigit then c.toNat - 48 else c.toLower.toNat - 87)) 0

/-- A whole number, if it fits 64 bits. -/
def int64? (n : Int) : Option Int := if -9223372036854775808 ≤ n ∧ n < 9223372036854775808 then some n else none

/-- The whole number that a text stands for. -/
def integer? (text : String) : Option Int :=
  let (negative, digits) := splitSign text.toList
  if digits.isEmpty || !digits.all Char.isDigit then none
  else
    let n := digitsValue 10 digits
    int64? (if negative then -(n : Int) else n)

/-- The exponent of a number in scientific notation; nothing stands for zero. -/
def exponent? : List Char → Option Int
  | [] => some 0
  | e :: rest =>
    if e ≠ 'e' ∧ e ≠ 'E' then none
    else
      let (negative, digits) := splitSign rest
      if digits.isEmpty || !digits.all Char.isDigit then none
      else
        let n : Int := digitsValue 10 digits
        some (if negative then -n else n)

/-- The floating-point number that a text stands for. -/
def real? (text : String) : Option Binary64 :=
  let (negative, unsigned) := splitSign text.toList
  let word := (String.ofList unsigned).toList.map Char.toLower
  if word = "inf".toList ∨ word = "infinity".toList then some (.infinite negative)
  else if word = "nan".toList then some .nan
  else
    let whole := unsigned.takeWhile Char.isDigit
    let rest := unsigned.dropWhile Char.isDigit
    let (fraction, rest) := match rest with
      | '.' :: rest => (rest.takeWhile Char.isDigit, rest.dropWhile Char.isDigit)
      | rest => ([], rest)
    if whole.isEmpty && fraction.isEmpty then none
    else (exponent? rest).map fun e =>
      Binary64.ofDecimal negative (digitsValue 10 (whole ++ fraction)) (e - fraction.length)

end SealedTokens.Decimal
