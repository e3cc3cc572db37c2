import SealedTokens.Container.Data
import SealedTokens.Container.Registry
import SealedTokens.Crypto.Sha256
import SealedTokens.Json.Shape
/-!
Reports: the values of the library in JSON, for people and tools that look at them. Bytes are in
hexadecimal, instants and spans are pairs of seconds and nanoseconds, and what is very long is given
by its length and digest.
-/
namespace SealedTokens

class Reported (α : Type) where
  report : α → Json

export Reported (report)

namespace Report

/-- An object with named members. -/
def record (members : List (String × Json)) : Json :=
  .object (members.map fun (name, value) => (Json.ofText.escape name, value))

def number (n : Int) : Json := .integer n

/-- The length and the digest of something long. -/
def digest (bytes : Bytes) : Json :=
  record [("len", number bytes.length), ("sha256", Json.ofText (Crypto.Sha256.digest bytes).hex)]

/-- A pair of seconds and nanoseconds. -/
def time (secs : Int) (nanos : Nat) : Json := .list [number secs, number nanos]

end Report

open Report

instance : Reported Json := ⟨id⟩
instance : Reported Unit := ⟨fun _ => Json.ofText "ok"⟩
instance : Reported Bool := ⟨Json.bool⟩
instance : Reported Nat := ⟨fun n => number n⟩
instance : Reported UInt64 := ⟨fun n => Json.ofText (toString n.toNat)⟩

instance : Reported String where
  report text := if text.utf8ByteSize > 4096 then digest (Bytes.ofText text) else Json.ofText text

instance : Reported Bytes where
  report bytes := if bytes.length > 2048 then digest bytes else .text (Bytes.ofAscii bytes.hex)

instance {α : Type} [Reported α] : Reported (Option α) where
  report
    | some a => report a
    | none => .null

instance {ε α : Type} [Reported ε] [Reported α] : Reported (Except ε α) where
  report
    | .ok a => report a
    | .error e => report e

def Report.list {α : Type} [Reported α] (values : List α) : Json := .list (values.map report)

def Report.name {α : Type} [Registry α] (member : α) : Json := Json.ofText (Registry.name member)

instance : Reported Instant := ⟨fun t => time t.secs t.nanos⟩
instance : Reported Span := ⟨fun s => time s.secs s.nanos⟩

instance : Reported Header where
  report h := record [("version", number h.version.toNat), ("nonce", report h.nonce),
    ("after", report h.validAfter), ("before", report h.validBefore)]

instance : Reported Payload where
  report p := .list (p.toList.map fun (key, value) => .list [number key.toNat, report value])

instance : Reported Data where
  report d := record [("header", report d.header), ("payload", report d.payload)]

end SealedTokens
