import SealedTokens.Report.Basic
/-!
Reading reported values back. Numbers may be given as decimal text; byte strings as text, in
hexadecimal, as repetitions, or in pieces; parts that have a usual value may be left out.
-/
namespace SealedTokens

/-- Values that can be read from a report. -/
class Readable (α : Type) where
  ofReport? : Json → Option α

export Readable (ofReport?)

namespace Report

/-- The last member of a name; null counts as left out. -/
def lookup? (json : Json) (name : String) : Option Json :=
  match json with
  | .object members =>
    match members.reverse.lookup (Json.ofText.escape name) with
    | some .null | none => none
    | some value => some value
  | _ => none

/-- A member, read. -/
def member? {α : Type} [Readable α] (json : Json) (name : String) : Option α :=
  (lookup? json name).bind ofReport?

/-- The items of a list; none of anything else. -/
def items : Json → List Json
  | .list items => items
  | _ => []

def integer? : Json → Option Int
  | .integer n => some n
  | .text written => (Json.text? written).bind String.toInt?
  | _ => none

/-- The bytes of hexadecimal digits. -/
def unhex : List Char → Bytes
  | a :: b :: rest =>
    let value (c : Char) : Nat := if c.isDigit then c.toNat - 48 else c.toLower.toNat - 87
    UInt8.ofNat (value a * 16 + value b) :: unhex rest
  | _ => []

mutual

/-- A byte string: text, pieces, or an object that says how it is made. -/
def bytes : Json → Bytes
  | .text written => Bytes.ofText ((Json.text? written).getD "")
  | .list pieces => bytesOfPieces pieces
  | .object members => bytesOfMembers members
  | _ => []

/-- The bytes of all pieces, one after the other. -/
def bytesOfPieces : List Json → Bytes
  | [] => []
  | piece :: rest => bytes piece ++ bytesOfPieces rest

/-- The bytes that the members of an object describe. -/
def bytesOfMembers : List (Bytes × Json) → Bytes
  | [] => []
  | (name, value) :: rest =>
    let here := match value with
      | .text written =>
        if name = Bytes.ofAscii "hex" then unhex ((Json.text? written).getD "").toList else []
      | .list [unit, .integer n] =>
        if name = Bytes.ofAscii "repeat" then (List.replicate n.toNat (bytes unit)).flatten else []
      | _ => []
    here ++ bytesOfMembers rest

end

end Report

open Report

instance : Readable Json := ⟨some⟩
instance : Readable Int := ⟨integer?⟩
instance : Readable Nat := ⟨fun j => (integer? j).bind fun n => if 0 ≤ n then some n.toNat else none⟩
instance : Readable UInt32 := ⟨fun j => (ofReport? j : Option Nat).map UInt32.ofNat⟩
instance : Readable UInt64 := ⟨fun j => (ofReport? j : Option Nat).map UInt64.ofNat⟩
instance : Readable String := ⟨Json.string?⟩
instance : Readable Bytes := ⟨fun j => some (bytes j)⟩

instance : Readable Instant where
  ofReport?
    | .list [secs, nanos] => do Instant.at? (← integer? secs) (← (ofReport? nanos : Option Nat))
    | j => do Instant.at? (← integer? j)

instance : Readable Span where
  ofReport?
    | .list [secs, nanos] => do
      let secs : Nat ← ofReport? secs
      let nanos : Nat ← ofReport? nanos
      if h : nanos < 1000000000 then some ⟨secs, nanos, h⟩ else none
    | j => (ofReport? j : Option Nat).map Span.ofSecs

instance : Readable Payload where
  ofReport? j := some <| .ofList <| (items j).filterMap fun entry =>
    match entry with
    | .list [key, value] => (ofReport? key).map (·, bytes value)
    | _ => none

instance : Readable Header where
  ofReport? j := do
    return ⟨(member? j "version").getD Header.currentVersion, (member? j "nonce").getD 0,
      ← member? j "after", ← member? j "before"⟩

instance : Readable Data where
  ofReport? j := do return ⟨← member? j "header", (member? j "payload").getD .empty⟩

end SealedTokens
