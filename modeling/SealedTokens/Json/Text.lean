import SealedTokens.Json.Syntax
/-!
The strings of JSON texts: escapes resolved, surrogates paired, and the whole valid UTF-8.
-/
namespace SealedTokens.Json

def hexValue (b : UInt8) : Nat :=
  if b ≤ 57 then b.toNat - 48 else if b ≤ 70 then b.toNat - 55 else b.toNat - 87

def hexWord (a b c d : UInt8) : Nat :=
  ((hexValue a * 16 + hexValue b) * 16 + hexValue c) * 16 + hexValue d

/-- The byte that a short escape stands for. -/
def shortEscape (e : UInt8) : UInt8 :=
  if e = 98 then 8 else if e = 102 then 12 else if e = 110 then 10 else if e = 114 then 13
  else if e = 116 then 9 else e

/-- The bytes of a character from its number. -/
def charBytes (n : Nat) : Bytes := String.utf8EncodeChar (Char.ofNat n)

/-- Resolves the escapes of a written string; a surrogate must be half of a pair. -/
def unescape : (written done : Bytes) → Option Bytes
  | [], done => some done.reverse
  | 92 :: 117 :: a :: b :: c :: d :: rest, done =>
    let n := hexWord a b c d
    if 0xD800 ≤ n && n < 0xDC00 then
      match rest with
      | 92 :: 117 :: e :: f :: g :: h :: rest =>
        let m := hexWord e f g h
        if 0xDC00 ≤ m && m < 0xE000 then
          let value := 0x10000 + (n - 0xD800) * 0x400 + (m - 0xDC00)
          unescape rest ((charBytes value).reverse ++ done)
        else none
      | _ => none
    else if 0xDC00 ≤ n && n < 0xE000 then none
    else unescape rest ((charBytes n).reverse ++ done)
  | 92 :: e :: rest, done => unescape rest (shortEscape e :: done)
  | b :: rest, done => unescape rest (b :: done)

/-- The bytes of a string, if they are valid UTF-8. -/
def textBytes? (written : Bytes) : Option Bytes :=
  match unescape written [] with
  | some bytes => if (Bytes.toText? bytes).isSome then some bytes else none
  | none => none

def text? (written : Bytes) : Option String := (unescape written []).bind Bytes.toText?

end SealedTokens.Json
