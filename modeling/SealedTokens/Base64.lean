import SealedTokens.Bytes
/-!
Base64: three bytes as four symbols. Reading is strict: the padding is the one writing produces,
and no bit is left over in the last symbol, so each byte string has one text.
-/
namespace SealedTokens.Base64

/-- The two alphabets, which differ in the last two symbols. -/
inductive Alphabet where
  | standard
  | urlSafe
  deriving DecidableEq, Repr

/-- How a form of the encoding spells its symbols and whether it pads to four. -/
structure Form where
  alphabet : Alphabet
  padded : Bool
  deriving DecidableEq, Repr

/-- The form inside text formats: the standard alphabet, padded. -/
def standard : Form := ⟨.standard, true⟩

/-- The form of sealed tokens: safe in URLs, padded. -/
def urlSafe : Form := ⟨.urlSafe, true⟩

/-- The form of signed tokens: safe in URLs, without padding. -/
def urlSafeBare : Form := ⟨.urlSafe, false⟩

inductive Fault where
  | invalidSymbol (symbol : UInt8) (offset : Nat)
  | invalidLength (length : Nat)
  | invalidLastSymbol (symbol : UInt8) (offset : Nat)
  | invalidPadding
  deriving DecidableEq, Repr

def Fault.message : Fault → String
  | invalidSymbol symbol offset => s!"Invalid symbol {symbol.toNat}, offset {offset}."
  | invalidLength length => s!"Invalid input length: {length}"
  | invalidLastSymbol symbol offset => s!"Invalid last symbol {symbol.toNat}, offset {offset}."
  | invalidPadding => "Invalid padding"

/-- The padding symbol `=`. -/
def pad : UInt8 := 61

def Alphabet.symbol (alphabet : Alphabet) (value : Nat) : UInt8 :=
  if value < 26 then UInt8.ofNat (65 + value)
  else if value < 52 then UInt8.ofNat (97 + (value - 26))
  else if value < 62 then UInt8.ofNat (48 + (value - 52))
  else match alphabet with
    | .standard => if value = 62 then 43 else 47
    | .urlSafe => if value = 62 then 45 else 95

def Alphabet.value? (alphabet : Alphabet) (symbol : UInt8) : Option Nat :=
  if 65 ≤ symbol && symbol ≤ 90 then some (symbol.toNat - 65)
  else if 97 ≤ symbol && symbol ≤ 122 then some (symbol.toNat - 97 + 26)
  else if 48 ≤ symbol && symbol ≤ 57 then some (symbol.toNat - 48 + 52)
  else match alphabet with
    | .standard => if symbol = 43 then some 62 else if symbol = 47 then some 63 else none
    | .urlSafe => if symbol = 45 then some 62 else if symbol = 95 then some 63 else none

/-- Writes the bytes that follow, with the text so far in reverse. -/
def encodeFrom (form : Form) : Bytes → (written : Bytes) → Bytes
  | a :: b :: c :: rest, written =>
    let n := a.toNat * 65536 + b.toNat * 256 + c.toNat
    let symbol := form.alphabet.symbol
    encodeFrom form rest
      (symbol (n % 64) :: symbol (n / 64 % 64) :: symbol (n / 4096 % 64) :: symbol (n / 262144) ::
        written)
  | [a, b], written =>
    let n := a.toNat * 256 + b.toNat
    let symbol := form.alphabet.symbol
    let last := if form.padded then [pad] else []
    (symbol (n / 1024) :: symbol (n / 16 % 64) :: symbol (n * 4 % 64) :: last).foldl
      (fun done s => s :: done) written |>.reverse
  | [a], written =>
    let symbol := form.alphabet.symbol
    let last := if form.padded then [pad, pad] else []
    (symbol (a.toNat / 4) :: symbol (a.toNat * 16 % 64) :: last).foldl
      (fun done s => s :: done) written |>.reverse
  | [], written => written.reverse

def encode (form : Form) (bytes : Bytes) : Bytes := encodeFrom form bytes []

/-- The symbols of the last group, from the offset `start` on: their values, the last symbol, and
how many padding symbols follow. -/
structure Tail where
  values : List Nat := []
  last : UInt8 := 0
  padding : Nat := 0
  firstPad : Nat := 0

/-- Reads the symbols of the last group one by one. -/
def readTail (form : Form) (start : Nat) : Bytes → (index : Nat) → Tail → Except Fault Tail
  | [], _, tail => .ok tail
  | s :: rest, index, tail =>
    if s = pad then
      if index < 2 then .error (.invalidSymbol s (start + index))
      else
        let firstPad := if tail.padding = 0 then index else tail.firstPad
        readTail form start rest (index + 1)
          { tail with padding := tail.padding + 1, firstPad := firstPad }
    else if tail.padding > 0 then .error (.invalidSymbol pad (start + tail.firstPad))
    else
      match form.alphabet.value? s with
      | none => .error (.invalidSymbol s (start + index))
      | some v =>
        readTail form start rest (index + 1) { tail with values := tail.values ++ [v], last := s }

/-- The bytes of the last group of at most four symbols. -/
def decodeTail (form : Form) (start : Nat) (group : Bytes) : Except Fault Bytes := do
  let tail ← readTail form start group 0 {}
  -- An empty group stands for an empty text, and nowhere else.
  if start + group.length = 0 then return []
  if tail.values.length < 2 then .error (.invalidLength (start + tail.values.length))
  else if form.padded && (tail.padding + tail.values.length) % 4 ≠ 0 then .error .invalidPadding
  else if !form.padded && tail.padding > 0 then .error .invalidPadding
  else
    let leftOver := Fault.invalidLastSymbol tail.last (start + tail.values.length - 1)
    -- Bits that are left over have to be zero, or a byte string would have several spellings.
    match tail.values with
    | [a, b] =>
      if b % 16 ≠ 0 then .error leftOver else return [UInt8.ofNat (a * 4 + b / 16)]
    | [a, b, c] =>
      if c % 4 ≠ 0 then .error leftOver
      else return [UInt8.ofNat (a * 4 + b / 16), UInt8.ofNat (b % 16 * 16 + c / 4)]
    | [a, b, c, d] =>
      return [UInt8.ofNat (a * 4 + b / 16), UInt8.ofNat (b % 16 * 16 + c / 4),
        UInt8.ofNat (c % 4 * 64 + d)]
    | _ => return []

/-- Reads whole groups as long as symbols follow them; `done` holds their bytes in reverse. -/
def decodeFrom (form : Form) : Bytes → (start : Nat) → (done : Bytes) → Except Fault Bytes
  | a :: b :: c :: d :: e :: rest, start, done =>
    match form.alphabet.value? a, form.alphabet.value? b, form.alphabet.value? c,
        form.alphabet.value? d with
    | some va, some vb, some vc, some vd =>
      decodeFrom form (e :: rest) (start + 4)
        (UInt8.ofNat (vc % 4 * 64 + vd) :: UInt8.ofNat (vb % 16 * 16 + vc / 4) ::
          UInt8.ofNat (va * 4 + vb / 16) :: done)
    | none, _, _, _ => .error (.invalidSymbol a start)
    | _, none, _, _ => .error (.invalidSymbol b (start + 1))
    | _, _, none, _ => .error (.invalidSymbol c (start + 2))
    | _, _, _, none => .error (.invalidSymbol d (start + 3))
  | group, start, done =>
    (decodeTail form start group).map fun last => (last.reverse ++ done).reverse

/-- Whether a text ends one symbol after a whole group, in something that is neither a symbol nor
padding: this is reported before all else. -/
def strayLast? (form : Form) (text : Bytes) : Option Fault :=
  if text.length % 4 = 1 then
    match text.getLast? with
    | some s =>
      if s ≠ pad && (form.alphabet.value? s).isNone then
        some (.invalidSymbol s (text.length - 1))
      else none
    | none => none
  else none

def decode (form : Form) (text : Bytes) : Except Fault Bytes :=
  match strayLast? form text with
  | some fault => .error fault
  | none => decodeFrom form text 0 []

end SealedTokens.Base64
