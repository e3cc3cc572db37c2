import SealedTokens.Bytes
/-!
DER: values as a tag, a length in its shortest form and that many bytes.
-/
namespace SealedTokens.Crypto.Der

/-- A value: its tag and its content. -/
structure Element where
  tag : UInt8
  content : Bytes
  deriving DecidableEq, Repr

/-- The tags in use. -/
def integerTag : UInt8 := 0x02
def bitsTag : UInt8 := 0x03
def octetsTag : UInt8 := 0x04
def nullTag : UInt8 := 0x05
def objectTag : UInt8 := 0x06
def sequenceTag : UInt8 := 0x30

/-- A length and what follows it; below 128 it is one byte, else the fewest bytes there are. -/
def length? : Bytes → Option (Nat × Bytes)
  | [] => none
  | b :: rest =>
    if b < 128 then some (b.toNat, rest)
    else
      let count := b.toNat - 128
      let digits := rest.take count
      let n := Bytes.toNatBE digits
      if count = 0 || count > 4 || digits.length < count || digits.head? = some 0 || n < 128 then none
      else some (n, rest.drop count)

/-- The first value of a byte string and what follows it. -/
def next? : Bytes → Option (Element × Bytes)
  | [] => none
  | tag :: rest => do
    let (n, rest) ← length? rest
    if rest.length < n then none else some (⟨tag, rest.take n⟩, rest.drop n)

/-- All values of a byte string. -/
def all? : (fuel : Nat) → Bytes → Option (List Element)
  | _, [] => some []
  | 0, _ => none
  | fuel + 1, bytes => do
    let (e, rest) ← next? bytes
    return e :: (← all? fuel rest)

/-- The values inside a value with a tag. -/
def Element.items? (e : Element) (tag : UInt8) : Option (List Element) :=
  if e.tag = tag then all? e.content.length e.content else none

/-- The one value of a byte string, if nothing follows it. -/
def whole? (bytes : Bytes) : Option Element :=
  match next? bytes with
  | some (e, []) => some e
  | _ => none

/-- The content of a value with a tag. -/
def Element.content? (e : Element) (tag : UInt8) : Option Bytes :=
  if e.tag = tag then some e.content else none

/-- A nonnegative whole number in its shortest form. -/
def Element.nat? (e : Element) : Option Nat := do
  match ← e.content? integerTag with
  | [] => none
  | [b] => if b < 128 then some b.toNat else none
  | b :: c :: rest =>
    if b ≥ 128 || (b = 0 && c < 128) then none else some (Bytes.toNatBE (b :: c :: rest))

/-- The bytes of a bit string of whole bytes. -/
def Element.bits? (e : Element) : Option Bytes := do
  match ← e.content? bitsTag with
  | 0 :: content => some content
  | _ => none

end SealedTokens.Crypto.Der
