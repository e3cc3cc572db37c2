import SealedTokens.Bytes
import SealedTokens.Text.Blank
/-!
Header names and the headers of a message. A name is a token in lower case; the values under one
name keep their order, and only a value of visible characters counts as text.
-/
namespace SealedTokens.Http

/-- Whether a byte may stand in a token: a letter, a digit, or one of fifteen marks. -/
def isTokenByte (b : UInt8) : Bool :=
  (48 ≤ b && b ≤ 57) || (65 ≤ b && b ≤ 90) || (97 ≤ b && b ≤ 122) ||
    [33, 35, 36, 37, 38, 39, 42, 43, 45, 46, 94, 95, 96, 124, 126].contains b

def isToken (text : String) : Bool :=
  let bytes := Bytes.ofText text
  !bytes.isEmpty && bytes.all isTokenByte

def invalidHeaderName : String := "invalid HTTP header name"

/-- The header name that a text stands for. -/
def headerName? (text : String) : Option String :=
  if isToken text && text.utf8ByteSize < 65536 then some (Text.lower text) else none

abbrev Headers := List (String × Bytes)

/-- Whether a byte may stand in a value that counts as text. -/
def isVisible (b : UInt8) : Bool := b = 9 || (32 ≤ b && b < 127)

/-- Whether a byte may stand in a value at all. -/
def isValueByte (b : UInt8) : Bool := b = 9 || (32 ≤ b && b != 127)

/-- A value as text, if it is of visible characters. -/
def visibleText? (value : Bytes) : Option String :=
  if value.all isVisible then some (String.ofList (value.map fun b => Char.ofNat b.toNat)) else none

namespace Headers

def all (headers : Headers) (name : String) : List Bytes :=
  (headers.filter fun h => h.1 == name).map (·.2)

/-- The first value under a name, if it counts as text. -/
def text? (headers : Headers) (name : String) : Option String :=
  (headers.lookup name).bind visibleText?

end Headers

end SealedTokens.Http
