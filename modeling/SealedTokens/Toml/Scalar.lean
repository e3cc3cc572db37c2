import SealedTokens.Config.Value
import SealedTokens.Decimal.Reader
import SealedTokens.Time.Calendar
/-!
The scalars of TOML: strings in their four forms, whole numbers in four bases, floating-point
numbers, truths, and dates and times, which stand for their text.
-/
namespace SealedTokens.Toml

/-- Reads from the front of a text and leaves the rest. -/
abbrev Reader (α : Type) := List Char → Option (α × List Char)

/-- Whether a character may stand in a string or a comment as it is. -/
def isPlain (c : Char) : Bool := c = '\t' || (32 ≤ c.toNat && c.toNat ≠ 127)

/-- Blanks inside a line. -/
def isBlank (c : Char) : Bool := c = ' ' || c = '\t'

/-- The character of a number in hexadecimal digits, if there is one. -/
def charOfHex? (digits : List Char) : Option Char :=
  if digits.all fun c => c.isDigit || ('a' ≤ c.toLower ∧ c.toLower ≤ 'f') then
    let n := Decimal.digitsValue 16 digits
    if n < 0xD800 ∨ (0xDFFF < n ∧ n < 0x110000) then some (Char.ofNat n) else none
  else none

/-- The character that an escape stands for; the backslash has been read. -/
def readEscape : Reader Char
  | 'b' :: rest => some ('\x08', rest)
  | 't' :: rest => some ('\t', rest)
  | 'n' :: rest => some ('\n', rest)
  | 'f' :: rest => some ('\x0c', rest)
  | 'r' :: rest => some ('\r', rest)
  | 'e' :: rest => some ('\x1b', rest)
  | '"' :: rest => some ('"', rest)
  | '\\' :: rest => some ('\\', rest)
  | 'x' :: rest => hex 2 rest
  | 'u' :: rest => hex 4 rest
  | 'U' :: rest => hex 8 rest
  | _ => none
where
  hex (width : Nat) (rest : List Char) : Option (Char × List Char) :=
    if rest.length < width then none
    else (charOfHex? (rest.take width)).map (·, rest.drop width)

/-- A string on one line; its opening quote has been read. -/
def readLine (mark : Char) (escapes : Bool) : (fuel : Nat) → List Char → (done : List Char) →
    Option (String × List Char)
  | 0, _, _ => none
  | fuel + 1, text, done =>
    match text with
    | [] => none
    | c :: rest =>
      if c = mark then some (String.ofList done.reverse, rest)
      else if c = '\\' && escapes then
        match readEscape rest with
        | some (c, rest) => readLine mark escapes fuel rest (c :: done)
        | none => none
      else if isPlain c then readLine mark escapes fuel rest (c :: done)
      else none

/-- What follows a backslash at the end of a line: blanks, the line's end, and all blanks and line
ends after it. -/
def skipLineEnd? (text : List Char) : Option (List Char) :=
  let rest := text.dropWhile isBlank
  let rest := match rest with
    | '\r' :: '\n' :: rest => '\n' :: rest
    | rest => rest
  match rest with
  | '\n' :: rest => some (rest.dropWhile fun c => isBlank c || c = '\n' || c = '\r')
  | _ => none

/-- A string over several lines; its opening quotes have been read. Up to two quotes may stand
before the closing three. -/
def readLines (mark : Char) (escapes : Bool) : (fuel : Nat) → List Char → (done : List Char) →
    Option (String × List Char)
  | 0, _, _ => none
  | fuel + 1, text, done =>
    match text with
    | [] => none
    | c :: rest =>
      if c = mark then
        let marks := text.takeWhile (· = mark)
        if marks.length < 3 then readLines mark escapes fuel rest (c :: done)
        else if marks.length ≤ 5 then
          some (String.ofList (done.reverse ++ marks.drop 3), text.drop marks.length)
        else none
      else if c = '\\' && escapes then
        match skipLineEnd? rest with
        | some rest => readLines mark escapes fuel rest done
        | none =>
          match readEscape rest with
          | some (c, rest) => readLines mark escapes fuel rest (c :: done)
          | none => none
      else if isPlain c || c = '\n' then readLines mark escapes fuel rest (c :: done)
      else if c = '\r' && rest.head? == some '\n' then readLines mark escapes fuel rest done
      else none

/-- A string that begins with a quote. -/
def readString : Reader String
  | '"' :: '"' :: '"' :: rest => lines '"' true rest
  | '\'' :: '\'' :: '\'' :: rest => lines '\'' false rest
  | '"' :: rest => readLine '"' true (rest.length + 1) rest []
  | '\'' :: rest => readLine '\'' false (rest.length + 1) rest []
  | _ => none
where
  /-- A line's end just after the opening quotes is not part of the string. -/
  lines (mark : Char) (escapes : Bool) (rest : List Char) : Option (String × List Char) :=
    let rest := match rest with
      | '\n' :: rest => rest
      | '\r' :: '\n' :: rest => rest
      | rest => rest
    readLines mark escapes (rest.length + 1) rest []

/-- Digits of a base without the single underscores between them. -/
def digits? (isDigit : Char → Bool) (text : List Char) : Option (List Char) :=
  let groups := text.splitOn '_'
  if groups.all fun g => !g.isEmpty && g.all isDigit then some groups.flatten else none

/-- Decimal digits without a leading zero. -/
def wholeDigits? (text : List Char) : Option (List Char) := do
  let digits ← digits? Char.isDigit text
  if digits.length > 1 && digits.head? == some '0' then none else some digits

def integer? (token : List Char) : Option Int :=
  let based (base : Nat) (isDigit : Char → Bool) (text : List Char) : Option Int := do
    Decimal.int64? (Decimal.digitsValue base (← digits? isDigit text))
  match token with
  | '0' :: 'x' :: rest => based 16 (fun c => c.isDigit || ('a' ≤ c.toLower ∧ c.toLower ≤ 'f')) rest
  | '0' :: 'o' :: rest => based 8 (fun c => '0' ≤ c ∧ c ≤ '7') rest
  | '0' :: 'b' :: rest => based 2 (fun c => c = '0' ∨ c = '1') rest
  | _ => do
    let (negative, rest) := Decimal.splitSign token
    let n : Int := Decimal.digitsValue 10 (← wholeDigits? rest)
    Decimal.int64? (if negative then -n else n)

def real? (token : List Char) : Option Binary64 := do
  let (negative, unsigned) := Decimal.splitSign token
  if unsigned = "inf".toList then return .infinite negative
  if unsigned = "nan".toList then return .nan
  let mantissa := unsigned.takeWhile fun c => c ≠ 'e' && c ≠ 'E'
  let exponent := unsigned.drop (mantissa.length + 1)
  let whole := mantissa.takeWhile (· ≠ '.')
  let fraction := mantissa.drop (whole.length + 1)
  let scaled := mantissa.length < unsigned.length
  let pointed := whole.length < mantissa.length
  if !scaled && !pointed then none
  let digits ← wholeDigits? whole
  let places ← if pointed then digits? Char.isDigit fraction else some []
  let (down, size) := Decimal.splitSign exponent
  let power ← if scaled then digits? Char.isDigit size else some []
  let n : Int := Decimal.digitsValue 10 power
  match Binary64.ofDecimal negative (Decimal.digitsValue 10 (digits ++ places))
      ((if down then -n else n) - places.length) with
  | .infinite _ => none
  | x => return x

/-- A number of exactly `width` digits up to a limit. -/
def field? (width limit : Nat) (text : List Char) : Option Nat :=
  if text.length = width && text.all Char.isDigit && Decimal.digitsValue 10 text ≤ limit then
    some (Decimal.digitsValue 10 text)
  else none

/-- Whether a text is a date. -/
def isDate (text : List Char) : Bool :=
  match text.splitOn '-' with
  | [y, m, d] =>
    match field? 4 9999 y, field? 2 12 m, field? 2 31 d with
    | some year, some month, some day => (Calendar.Date.mk year month day).exists?
    | _, _, _ => false
  | _ => false

/-- A time of the day as it is shown. -/
def time? (text : List Char) : Option (List Char) :=
  let clock := text.takeWhile (· ≠ '.')
  let fraction := text.drop (clock.length + 1)
  let shown :=
    let kept := ((fraction.take 9).reverse.dropWhile (· = '0')).reverse
    if kept.isEmpty then clock else clock ++ '.' :: kept
  match clock.splitOn ':' with
  | [h, m] =>
    if (field? 2 23 h).isSome && (field? 2 59 m).isSome && clock.length = text.length then some clock
    else none
  | [h, m, s] =>
    if (field? 2 23 h).isSome && (field? 2 59 m).isSome && (field? 2 60 s).isSome &&
        (clock.length = text.length || (!fraction.isEmpty && fraction.all Char.isDigit)) then
      some shown
    else none
  | _ => none

/-- A time of the day with the offset that may follow it, as they are shown. -/
def offsetTime? (text : List Char) : Option (List Char) :=
  let clock := text.takeWhile fun c => c.isDigit || c = ':' || c = '.'
  match text.drop clock.length with
  | [] => time? clock
  | ['Z'] | ['z'] => (time? clock).map (· ++ ['Z'])
  | sign :: offset =>
    if sign = '+' || sign = '-' then
      match offset.splitOn ':' with
      | [h, m] =>
        if (field? 2 23 h).isSome && (field? 2 59 m).isSome then
          (time? clock).map (· ++ sign :: offset)
        else none
      | _ => none
    else none

/-- A date, a time, or both, as they are shown. -/
def moment? (token : List Char) : Option String :=
  if isDate (token.take 10) then
    match token.drop 10 with
    | [] => some (String.ofList token)
    | mark :: rest =>
      if mark = 'T' || mark = 't' || mark = ' ' then
        (offsetTime? rest).map fun time => String.ofList (token.take 10 ++ 'T' :: time)
      else none
  else (time? token).map String.ofList

/-- Whether a character ends a token. -/
def endsToken (c : Char) : Bool := isBlank c || c = '\n' || c = '\r' || [',', ']', '\x7d', '#'].contains c

/-- The characters of a token; a date may be followed by a blank and a time. -/
def token (text : List Char) : List Char :=
  let first := text.takeWhile fun c => !endsToken c
  match text.drop first.length with
  | ' ' :: d :: rest =>
    if isDate first && d.isDigit then
      first ++ ' ' :: (d :: rest).takeWhile fun c => !endsToken c
    else first
  | _ => first

/-- The value of a scalar that is no string. -/
def readToken : Reader ConfigValue := fun text =>
  let token := token text
  let value : Option ConfigValue := match token with
    | ['t', 'r', 'u', 'e'] => some (.bool true)
    | ['f', 'a', 'l', 's', 'e'] => some (.bool false)
    | _ => ((integer? token).map ConfigValue.integer).or <|
      ((real? token).map ConfigValue.real).or ((moment? token).map ConfigValue.text)
  value.map (·, text.drop token.length)

end SealedTokens.Toml
