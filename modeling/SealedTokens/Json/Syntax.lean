import SealedTokens.Bytes
/-!
JSON texts as trees. Strings keep their written form, so that a reader which skips a value need
not decode it; whole numbers are told apart from those with a point or an exponent.
-/
namespace SealedTokens

inductive Json where
  | null
  | bool (value : Bool)
  | integer (value : Int)
  | real (written : Bytes)
  | text (written : Bytes)
  | list (items : List Json)
  | object (members : List (Bytes × Json))

namespace Json

/-- The bytes `"`, `\`, `,`, `:`, `[`, `]`, and the curly brackets. -/
def quote : UInt8 := 34
def backslash : UInt8 := 92
def comma : UInt8 := 44
def colon : UInt8 := 58
def openList : UInt8 := 91
def closeList : UInt8 := 93
def openObject : UInt8 := 123
def closeObject : UInt8 := 125

/-- Whether a byte may stand between the parts of a text. -/
def isBlank (b : UInt8) : Bool := b = 32 || b = 9 || b = 10 || b = 13

/-- What is left after the blanks at the front. -/
def skipBlanks (input : Bytes) : Bytes := input.dropWhile isBlank

def isHexDigit (b : UInt8) : Bool :=
  (48 ≤ b && b ≤ 57) || (65 ≤ b && b ≤ 70) || (97 ≤ b && b ≤ 102)

/-- Whether a byte may follow a backslash on its own. -/
def isShortEscape (b : UInt8) : Bool :=
  b = 34 || b = 92 || b = 47 || b = 98 || b = 102 || b = 110 || b = 114 || b = 116

/-- The written form of a string up to the closing quote, and the rest; `done` is in reverse. -/
def scanText : Bytes → (done : Bytes) → Option (Bytes × Bytes)
  | [], _ => none
  | b :: rest, done =>
    if b = quote then some (done.reverse, rest)
    else if b < 32 then none
    else if b = backslash then
      match rest with
      | 117 :: h1 :: h2 :: h3 :: h4 :: rest =>
        if isHexDigit h1 && isHexDigit h2 && isHexDigit h3 && isHexDigit h4 then
          scanText rest (h4 :: h3 :: h2 :: h1 :: 117 :: b :: done)
        else none
      | e :: rest => if isShortEscape e then scanText rest (e :: b :: done) else none
      | [] => none
    else scanText rest (b :: done)

def isDigit (b : UInt8) : Bool := 48 ≤ b && b ≤ 57

def digitsValue (digits : Bytes) : Nat := digits.foldl (fun n b => n * 10 + (b.toNat - 48)) 0

/-- The digits of a fraction after its point, if there is a point; a point needs a digit. -/
def scanFraction (input : Bytes) : Option (Bytes × Bytes) :=
  match input with
  | 46 :: rest =>
    let digits := rest.takeWhile isDigit
    if digits.isEmpty then none else some (46 :: digits, rest.dropWhile isDigit)
  | _ => some ([], input)

/-- An exponent, if there is one; it needs a digit. -/
def scanExponent (input : Bytes) : Option (Bytes × Bytes) :=
  match input with
  | e :: rest =>
    if e = 101 || e = 69 then
      let (sign, rest) := match rest with
        | s :: rest' => if s = 43 || s = 45 then ([s], rest') else ([], rest)
        | [] => ([], [])
      let digits := rest.takeWhile isDigit
      if digits.isEmpty then none else some (e :: sign ++ digits, rest.dropWhile isDigit)
    else some ([], input)
  | [] => some ([], [])

/-- Whether a number has a minus sign, and what follows it. -/
def scanSign : Bytes → Bool × Bytes
  | 45 :: rest => (true, rest)
  | input => (false, input)

/-- A number: digits without a leading zero, a fraction and an exponent. A negative zero counts as
a number with a fraction. -/
def scanNumber (input : Bytes) : Option (Json × Bytes) := do
  let (negative, unsigned) := scanSign input
  let digits := unsigned.takeWhile isDigit
  let rest := unsigned.dropWhile isDigit
  if digits.isEmpty || (digits.head? = some 48 && digits.length > 1) then none
  else
    let (fraction, rest) ← scanFraction rest
    let (exponent, rest) ← scanExponent rest
    let value := digitsValue digits
    if fraction.isEmpty && exponent.isEmpty && !(negative && value = 0) then
      return (.integer (if negative then -(value : Int) else value), rest)
    else
      return (.real ((if negative then [45] else []) ++ digits ++ fraction ++ exponent), rest)

/-- A container whose end has not been reached: what it holds so far, in reverse. -/
inductive Frame where
  | list (done : List Json)
  | object (done : List (Bytes × Json)) (key : Bytes)

/-- What a reader expects next. -/
inductive Expect where
  /-- A value. -/
  | value
  /-- A value, or the end of the list that just began. -/
  | item
  /-- A key of the object with these members, and maybe its end if it just began. -/
  | key (done : List (Bytes × Json)) (mayClose : Bool)
  /-- What may follow a value. -/
  | after (value : Json)

/-- The rest after a word. -/
def word? (word : String) (input : Bytes) : Option Bytes :=
  let bytes := Bytes.ofAscii word
  if bytes.isPrefixOf input then some (input.drop bytes.length) else none

/-- Reads until the value at the bottom of the stack is complete. Each step consumes a byte or
completes a value, so twice the length of the text is fuel enough. -/
def run : (fuel : Nat) → Expect → Bytes → List Frame → Option (Json × Bytes)
  | 0, _, _, _ => none
  | fuel + 1, expect, input, stack =>
    match expect with
    | .after v =>
      match stack with
      | [] => some (v, input)
      | .list done :: stack =>
        match skipBlanks input with
        | b :: rest =>
          if b = comma then run fuel .value rest (.list (v :: done) :: stack)
          else if b = closeList then run fuel (.after (.list (v :: done).reverse)) rest stack
          else none
        | [] => none
      | .object done key :: stack =>
        match skipBlanks input with
        | b :: rest =>
          if b = comma then run fuel (.key ((key, v) :: done) false) rest stack
          else if b = closeObject then
            run fuel (.after (.object ((key, v) :: done).reverse)) rest stack
          else none
        | [] => none
    | .key done mayClose =>
      match skipBlanks input with
      | b :: rest =>
        if b = quote then
          match scanText rest [] with
          | some (key, rest) =>
            match skipBlanks rest with
            | c :: rest => if c = colon then run fuel .value rest (.object done key :: stack) else none
            | [] => none
          | none => none
        else if b = closeObject && mayClose then run fuel (.after (.object [])) rest stack
        else none
      | [] => none
    | expect =>
      match skipBlanks input with
      | b :: rest =>
        if b = quote then
          match scanText rest [] with
          | some (written, rest) => run fuel (.after (.text written)) rest stack
          | none => none
        else if b = openList then run fuel .item rest (.list [] :: stack)
        else if b = openObject then run fuel (.key [] true) rest stack
        else if b = closeList then
          -- A list may end where its first item could stand, and not after a comma.
          match expect, stack with
          | .item, .list _ :: stack => run fuel (.after (.list [])) rest stack
          | _, _ => none
        else if b = 110 then (word? "null" (b :: rest)).bind fun r => run fuel (.after .null) r stack
        else if b = 116 then
          (word? "true" (b :: rest)).bind fun r => run fuel (.after (.bool true)) r stack
        else if b = 102 then
          (word? "false" (b :: rest)).bind fun r => run fuel (.after (.bool false)) r stack
        else
          match scanNumber (b :: rest) with
          | some (n, rest) => run fuel (.after n) rest stack
          | none => none
      | [] => none

/-- The value of a text, with nothing but blanks around it. -/
def parse? (input : Bytes) : Option Json :=
  match run (2 * input.length + 2) .value input [] with
  | some (v, rest) => if (skipBlanks rest).isEmpty then some v else none
  | none => none

/-- The text of a string from its written form. -/
def quotedBytes (written : Bytes) : Bytes := quote :: written ++ [quote]

def integerBytes (n : Int) : Bytes :=
  (if n < 0 then [45] else []) ++ Bytes.ofDecimal n.natAbs

mutual

/-- The text of a value, without blanks. -/
def print : Json → Bytes
  | null => Bytes.ofAscii "null"
  | bool b => Bytes.ofAscii (if b then "true" else "false")
  | integer n => integerBytes n
  | real w => w
  | text w => quotedBytes w
  | list items => openList :: printItems items ++ [closeList]
  | object members => openObject :: printMembers members ++ [closeObject]

/-- The items of a list with commas between them. -/
def printItems : List Json → Bytes
  | [] => []
  | [v] => print v
  | v :: rest => print v ++ comma :: printItems rest

/-- The members of an object with commas between them. -/
def printMembers : List (Bytes × Json) → Bytes
  | [] => []
  | [(key, v)] => quotedBytes key ++ colon :: print v
  | (key, v) :: rest => quotedBytes key ++ colon :: print v ++ comma :: printMembers rest

end

end Json

end SealedTokens
