import SealedTokens.Http.Percent
import SealedTokens.Text.Utf8
/-!
Form encoding of queries: pairs joined by ampersands, name and value by an equals sign, a space
written as a plus and most marks percent-encoded.
-/
namespace SealedTokens.Http

abbrev FormPair := String × String

namespace Form

/-- Whether a byte stands for itself. -/
def isPlain (b : UInt8) : Bool :=
  (48 ≤ b && b ≤ 57) || (65 ≤ b && b ≤ 90) || (97 ≤ b && b ≤ 122) || [42, 45, 46, 95].contains b

/-- The digits of a byte in upper case. -/
def upperHex (b : UInt8) : List Char :=
  let digit (n : Nat) : Char := (Bytes.hexDigit n).toUpper
  [digit (b.toNat / 16), digit (b.toNat % 16)]

/-- One byte in a name or value. -/
def encodeByte (b : UInt8) : List Char :=
  if isPlain b then [Char.ofNat b.toNat]
  else if b = 32 then ['+']
  else '%' :: upperHex b

def encode (text : String) : List Char := (Bytes.ofText text).flatMap encodeByte

/-- The text that a written name or value stands for. -/
def decode (written : Bytes) : String :=
  Text.lossy (percentDecode (written.map fun b => if b = 43 then 32 else b))

def encodePair (pair : FormPair) : List Char := encode pair.1 ++ '=' :: encode pair.2

def encodePairs (pairs : List FormPair) : List Char := ['&'].intercalate (pairs.map encodePair)

/-- The pair that a written piece stands for. -/
def decodePair (piece : Bytes) : FormPair :=
  (decode (piece.takeWhile (· ≠ 61)), decode ((piece.dropWhile (· ≠ 61)).drop 1))

/-- The pairs that a query stands for; empty pieces count for nothing. -/
def decodePairs (query : Bytes) : List FormPair :=
  ((query.splitOn 38).filter (!·.isEmpty)).map decodePair

end Form

end SealedTokens.Http
