import SealedTokens.Wire.Varint
/-!
The compact binary encoding: numbers as varints, byte strings and texts behind their length, maps
behind their number of entries. Whatever follows a value is left to the caller.
-/
namespace SealedTokens.Compact

inductive Fault where
  | endOfInput
  | badVarint
  | badText
  | badValue
  deriving DecidableEq, Repr

def Fault.message : Fault → String
  | endOfInput => "Hit the end of buffer, expected more data"
  | badVarint => "Found a varint that didn't terminate. Is the usize too big for this platform?"
  | badText => "Tried to parse invalid utf-8"
  | badValue => "Serde Deserialization Error"

def bytes (value : Bytes) : Bytes := Varint.encode value.length ++ value

def text (value : String) : Bytes := bytes (Bytes.ofText value)

/-- A reader takes a value off the front of a byte string. -/
abbrev Reader (α : Type) := StateT Bytes (Except Fault) α

def readNat (bits : Nat) : Reader Nat := fun input =>
  match Varint.decode bits input with
  | .ok result => .ok result
  | .error .endOfInput => .error .endOfInput
  | .error .unterminated => .error .badVarint

/-- Splits `length` bytes off the front, if there are so many; `taken` is in reverse. -/
def split? : (length : Nat) → (input taken : Bytes) → Option (Bytes × Bytes)
  | 0, rest, taken => some (taken.reverse, rest)
  | _ + 1, [], _ => none
  | length + 1, b :: rest, taken => split? length rest (b :: taken)

def readBytes : Reader Bytes := do
  let length ← readNat 64
  fun input =>
    match split? length input [] with
    | some result => .ok result
    | none => .error .endOfInput

def readText : Reader String := do
  let content ← readBytes
  match Bytes.toText? content with
  | some text => return text
  | none => throw .badText

end SealedTokens.Compact
