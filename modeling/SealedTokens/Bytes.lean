/-!
Byte strings: the representation every stage of the library reads and writes, with the numbers
and texts that are laid out in them.
-/
namespace SealedTokens

abbrev Bytes := List UInt8

namespace Bytes

/-- The number written in base 256 with the most significant byte first. -/
def toNatBE (bytes : Bytes) : Nat := bytes.foldl (fun n b => n * 256 + b.toNat) 0

/-- The number written in base 256 with the least significant byte first. -/
def toNatLE (bytes : Bytes) : Nat := toNatBE bytes.reverse

/-- The `length` low bytes of `n`, least significant first. -/
def ofNatLE (length n : Nat) : Bytes :=
  (List.range length).map fun i => UInt8.ofNat (n / Nat.pow 256 i % 256)

/-- The `length` low bytes of `n`, most significant first. -/
def ofNatBE (length n : Nat) : Bytes := (ofNatLE length n).reverse

/-- The bytes of a text, in UTF-8. -/
def ofText (text : String) : Bytes := text.toUTF8.data.toList

/-- The text a byte string holds, if it is valid UTF-8. -/
def toText? (bytes : Bytes) : Option String := String.fromUTF8? ⟨bytes.toArray⟩

/-- The bytes of a text of ASCII characters. -/
def ofAscii (text : String) : Bytes := text.toList.map fun c => UInt8.ofNat c.toNat

/-- The decimal digits of a number. -/
def ofDecimal (n : Nat) : Bytes := (Nat.toDigits 10 n).map fun c => UInt8.ofNat c.toNat

/-- The digit of a value below sixteen. -/
def hexDigit (n : Nat) : Char := Nat.digitChar n

/-- Two lower-case hexadecimal digits for each byte. -/
def hex (bytes : Bytes) : String :=
  String.ofList (bytes.flatMap fun b => [hexDigit (b.toNat / 16), hexDigit (b.toNat % 16)])

def ofPacked (bytes : ByteArray) : Bytes := bytes.data.toList

def packed (bytes : Bytes) : ByteArray := ⟨bytes.toArray⟩

theorem length_ofNatLE (length n : Nat) : (ofNatLE length n).length = length := by
  simp [ofNatLE]

theorem length_ofNatBE (length n : Nat) : (ofNatBE length n).length = length := by
  simp [ofNatBE, length_ofNatLE]

theorem toNat_byte {n : Nat} (small : n < 256) : (UInt8.ofNat n).toNat = n :=
  UInt8.toNat_ofNat_of_lt' small

end Bytes

def UInt8.isDigit (b : UInt8) : Bool := 48 ≤ b && b ≤ 57

end SealedTokens
