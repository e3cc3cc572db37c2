import SealedTokens.Bytes
/-!
Reading UTF-8 that may be damaged: each longest run of bytes that could start a character, but
does not complete one, becomes one replacement character.
-/
namespace SealedTokens.Text

/-- How many bytes follow a lead byte, and the range its first follower must lie in. -/
def followers (lead : UInt8) : Option (Nat × UInt8 × UInt8) :=
  if lead < 0x80 then some (0, 0, 0)
  else if lead < 0xC2 then none
  else if lead < 0xE0 then some (1, 0x80, 0xBF)
  else if lead == 0xE0 then some (2, 0xA0, 0xBF)
  else if lead == 0xED then some (2, 0x80, 0x9F)
  else if lead < 0xF0 then some (2, 0x80, 0xBF)
  else if lead == 0xF0 then some (3, 0x90, 0xBF)
  else if lead < 0xF4 then some (3, 0x80, 0xBF)
  else if lead == 0xF4 then some (3, 0x80, 0x8F)
  else none

/-- The part of a lead byte that belongs to the character's number. -/
def leadBits (lead : UInt8) : Nat → Nat
  | 0 => lead.toNat
  | 1 => lead.toNat % 32
  | 2 => lead.toNat % 16
  | _ => lead.toNat % 8

/-- The mark that stands for bytes that are no character. -/
def replacement : Char := '\uFFFD'

/-- Where a reader of damaged text stands: the number collected so far, the followers still owed
and the range of the next one; nothing is owed between characters. -/
structure Partial where
  value : Nat
  owed : Nat
  low : UInt8
  high : UInt8

/-- Starts a character at `lead`: what is written at once, and what is still owed. -/
def startChar (lead : UInt8) : Option Char × Option Partial :=
  match followers lead with
  | none => (some replacement, none)
  | some (0, _, _) => (some (Char.ofNat lead.toNat), none)
  | some (n, low, high) => (none, some ⟨leadBits lead n, n, low, high⟩)

/-- Reads on with the characters found so far in reverse. -/
def lossyFrom : Bytes → Option Partial → List Char → List Char
  | [], none, found => found.reverse
  | [], some _, found => (replacement :: found).reverse
  | b :: rest, none, found =>
    match startChar b with
    | (some c, next) => lossyFrom rest next (c :: found)
    | (none, next) => lossyFrom rest next found
  | b :: rest, some p, found =>
    if p.low ≤ b && b ≤ p.high then
      let value := p.value * 64 + b.toNat % 64
      if p.owed ≤ 1 then lossyFrom rest none (Char.ofNat value :: found)
      else lossyFrom rest (some ⟨value, p.owed - 1, 0x80, 0xBF⟩) found
    else
      match startChar b with
      | (some c, next) => lossyFrom rest next (c :: replacement :: found)
      | (none, next) => lossyFrom rest next (replacement :: found)

/-- The characters of a byte string, with damaged parts replaced. -/
def lossyChars (bytes : Bytes) : List Char := lossyFrom bytes none []

/-- The text of a byte string, with damaged parts replaced. -/
def lossy (bytes : Bytes) : String := String.ofList (lossyChars bytes)

end SealedTokens.Text
