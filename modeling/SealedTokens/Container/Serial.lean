import SealedTokens.Base64
import SealedTokens.Container.Data
import SealedTokens.Json.Shape
import SealedTokens.Time.Rfc3339
import SealedTokens.Wire.Compact
/-!
The two encodings of headers and payloads. Instants are timestamps in both; byte strings are raw in
the compact form and padded base64 in JSON.
-/
namespace SealedTokens

/-- Values with a compact form and a JSON form. -/
class Serial (α : Type) where
  write : α → Bytes
  read : Compact.Reader α
  toJson : α → Json
  ofJson? : Json → Option α

instance : Serial Instant where
  write t := Compact.text (Rfc3339.text t)
  read := do
    match Rfc3339.read? (← Compact.readText).toList with
    | some t => return t
    | none => throw .badValue
  toJson t := .text (Bytes.ofAscii (Rfc3339.text t))
  ofJson? json := json.string?.bind fun text => Rfc3339.read? text.toList

namespace Header

def memberNames : List String := ["version", "nonce", "valid_after", "valid_before"]

/-- A header is its four members in order. -/
instance : Serial Header where
  write h :=
    Varint.encode h.version.toNat ++ Varint.encode h.nonce.toNat ++ Serial.write h.validAfter ++
      Serial.write h.validBefore
  read := do
    let version ← Compact.readNat 32
    let nonce ← Compact.readNat 64
    let validAfter ← Serial.read
    let validBefore ← Serial.read
    return ⟨UInt32.ofNat version, UInt64.ofNat nonce, validAfter, validBefore⟩
  toJson h := .object (List.zip (memberNames.map Bytes.ofAscii)
    [.integer h.version.toNat, .integer h.nonce.toNat, Serial.toJson h.validAfter,
      Serial.toJson h.validBefore])
  ofJson? json := do
    match ← json.fullRecord? memberNames with
    | [version, nonce, validAfter, validBefore] =>
      return ⟨UInt32.ofNat (← version.nat? 32), UInt64.ofNat (← nonce.nat? 64),
        ← Serial.ofJson? validAfter, ← Serial.ofJson? validBefore⟩
    | _ => none

end Header

namespace Payload

/-- Reads `count` entries into a payload; a later entry replaces an earlier one of its key. -/
def readEntries : (count : Nat) → Payload → Compact.Reader Payload
  | 0, p => pure p
  | count + 1, p => do
    let key ← Compact.readNat 32
    let value ← Compact.readBytes
    readEntries count (p.insert (UInt32.ofNat key) value)

/-- The number that a key of a JSON object stands for: digits without a leading zero. -/
def keyOfJson? (written : Bytes) : Option UInt32 :=
  let value := Json.digitsValue written
  if !written.isEmpty && written.all Json.isDigit && (written.head? != some 48 || written.length == 1)
      && value < Nat.pow 2 32 then
    some (UInt32.ofNat value)
  else none

def bytesOfJson? (json : Json) : Option Bytes :=
  match json with
  | .text written => do
    match Base64.decode Base64.standard (← Json.textBytes? written) with
    | .ok value => some value
    | .error _ => none
  | _ => none

def entriesOfJson? : (members : List (Bytes × Json)) → (done : List (UInt32 × Bytes)) →
    Option (List (UInt32 × Bytes))
  | [], done => some done.reverse
  | (key, value) :: rest, done => do
    entriesOfJson? rest ((← keyOfJson? key, ← bytesOfJson? value) :: done)

/-- A payload is the map of its entries. -/
instance : Serial Payload where
  write p := Varint.encode p.size ++ p.entries.flatMap fun (key, value) =>
    Varint.encode key.toNat ++ Compact.bytes value
  read := do readEntries (← Compact.readNat 64) empty
  toJson p := .object <| p.entries.map fun (key, value) =>
    (Bytes.ofDecimal key.toNat, .text (Base64.encode Base64.standard value))
  ofJson?
    | .object members => (entriesOfJson? members []).map ofList
    | _ => none

end Payload

namespace Data

def memberNames : List String := ["header", "payload"]

instance : Serial Data where
  write d := Serial.write d.header ++ Serial.write d.payload
  read := do return ⟨← Serial.read, ← Serial.read⟩
  toJson d := .object (List.zip (memberNames.map Bytes.ofAscii)
    [Serial.toJson d.header, Serial.toJson d.payload])
  ofJson? json := do
    match ← json.fullRecord? memberNames with
    | [header, payload] => return ⟨← Serial.ofJson? header, ← Serial.ofJson? payload⟩
    | _ => none

end Data

end SealedTokens
