import SealedTokens.Container.Serial
import SealedTokens.Text.Quoted
/-!
Claims: a state as the registered claims of a signed token. The start of the window is both
`nbf` and `iat`, its end is `exp`, in whole seconds. Only `iat` and `exp` are read back.
-/
namespace SealedTokens

structure Claims where
  nbf : Int
  iat : Int
  exp : Int
  version : UInt32
  nonce : UInt64
  payload : Payload
  deriving DecidableEq

namespace Claims

def ofData (d : Data) : Claims :=
  ⟨d.header.validAfter.secs, d.header.validAfter.secs, d.header.validBefore.secs,
    d.header.version, d.header.nonce, d.payload⟩

/-- The instant of a claim, if the calendar has it. -/
def instant (claim : String) (secs : Int) : Except ContainerError Instant :=
  match Instant.at? secs with
  | some t => .ok t
  | none => .error ⟨.format s!"claim {Text.quoted claim} is out of range", some "JWT"⟩

def toData (c : Claims) : Except ContainerError Data := do
  -- The window starts when the token was issued; `nbf` is read and not used.
  let validAfter ← instant "iat" c.iat
  let validBefore ← instant "exp" c.exp
  return ⟨⟨c.version, c.nonce, validAfter, validBefore⟩, c.payload⟩

def memberNames : List String := ["nbf", "iat", "exp", "version", "nonce", "payload"]

/-- The JSON of claims, without a payload that is empty. -/
def toJson (c : Claims) : Json :=
  let values := [.integer c.nbf, .integer c.iat, .integer c.exp, .integer c.version.toNat,
    .integer c.nonce.toNat] ++ if c.payload.isEmpty then [] else [Serial.toJson c.payload]
  .object (List.zip (memberNames.map Bytes.ofAscii) values)

/-- Reads claims; a payload left out is empty. -/
def ofJson? (json : Json) : Option Claims := do
  match ← json.record? memberNames with
  | [some nbf, some iat, some exp, some version, some nonce, payload] =>
    let payload ← match payload with
      | some p => Serial.ofJson? p
      | none => some Payload.empty
    return ⟨← nbf.int64?, ← iat.int64?, ← exp.int64?, UInt32.ofNat (← version.nat? 32),
      UInt64.ofNat (← nonce.nat? 64), payload⟩
  | _ => none

/-- The registered claims that are looked at beside the claims themselves, `exp`, `nbf`, `sub`,
`iss` and `aud`: none may be there twice, and a subject is no list and no object. A list of claims
may not go beyond these five. -/
def registeredClaimsFit (json : Json) : Bool :=
  match json.record? ["exp", "nbf", "sub", "iss", "aud"] with
  | some [_, _, subject, _, _] =>
    match subject with
    | some (.list _) | some (.object _) => false
    | _ => true
  | _ => false

end Claims

end SealedTokens
