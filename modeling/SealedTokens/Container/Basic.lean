import SealedTokens.Container.Codec
import SealedTokens.Jwt.Token
/-!
Containers: a state and the backend that turns it into a token and back. The sealed backend runs
the state through a codec; the signed one keeps whole seconds and issues signed claims.
-/
namespace SealedTokens

/-- How states become tokens. -/
inductive Backend where
  | sealed (codec : Codec)
  | signed (signer : Signer)

namespace Backend

def kind : Backend → ContainerKind
  | .sealed _ => .secretBox
  | signed _ => .jwt

/-- An instant as precisely as tokens carry it. -/
def carried (backend : Backend) (t : Instant) : Instant :=
  match backend with
  | .sealed _ => t
  | signed _ => t.wholeSeconds

def save (backend : Backend) (data : Data) : Drawing ContainerError Bytes :=
  match backend with
  | .sealed codec => codec.encode data
  | signed signer => ExceptT.mk (pure (Jwt.issue signer (Claims.ofData data)))

/-- The state of a token; around a signed token there may be blanks. -/
def load (backend : Backend) (token : Bytes) : Except ContainerError Data :=
  match backend with
  | .sealed codec => codec.decode token
  | signed signer =>
    match Bytes.toText? token with
    | none => .error (.format "JWT is not valid UTF-8")
    | some text => do (← Jwt.read signer (Bytes.ofText (Text.trim text))).toData

end Backend

/-- A state with its backend. -/
structure Container where
  backend : Backend
  data : Data

namespace Container

def header (c : Container) : Header := c.data.header

def payload (c : Container) : Payload := c.data.payload

def kind (c : Container) : ContainerKind := c.backend.kind

/-- A container of nonce zero whose window starts at `start` and lasts for `ttl`. -/
def create (backend : Backend) (start : Instant) (ttl : Span) (payload : Payload) :
    Except ContainerError Container := do
  -- The end is counted from the start as it was given, and only then are both cut.
  let h ← Header.create start ttl
  let header := { h with validAfter := backend.carried h.validAfter
                         validBefore := backend.carried h.validBefore }
  return ⟨backend, ⟨header, payload⟩⟩

def mapHeader (c : Container) (f : Header → Header) : Container :=
  { c with data := { c.data with header := f c.data.header } }

def mapPayload (c : Container) (f : Payload → Payload) : Container :=
  { c with data := { c.data with payload := f c.data.payload } }

def get? (c : Container) (key : UInt32) : Option Bytes := c.payload.get? key

def set (c : Container) (key : UInt32) (value : Bytes) : Container :=
  c.mapPayload fun p => p.insert key value

/-- Whether a key was there, and the container without it. -/
def del (c : Container) (key : UInt32) : Bool × Container :=
  (c.payload.contains key, c.mapPayload fun p => p.erase key)

def clean (c : Container) : Container := c.mapPayload fun _ => .empty

/-- Sets the nonce, or adds one to it when `nonce` is zero. -/
def touch (c : Container) (nonce : UInt64) : Container := c.mapHeader fun h => h.touch nonce

/-- Adds one to the nonce and replaces the window. -/
def refresh (c : Container) (validAfter validBefore : Instant) : Container :=
  c.mapHeader fun h => h.refresh (c.backend.carried validAfter) (c.backend.carried validBefore)

def validate (c : Container) (now : Instant) : Except ContainerError Unit := c.header.validate now

def save (c : Container) : Drawing ContainerError Bytes := c.backend.save c.data

def load (c : Container) (token : Bytes) : Except ContainerError Container := do
  return { c with data := ← c.backend.load token }

end Container

end SealedTokens
