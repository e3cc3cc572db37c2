import SealedTokens.Container.Factory
import SealedTokens.Csrf.Config
import SealedTokens.Csrf.Target
import SealedTokens.Http.IpAddress
/-!
Anti-forgery tokens: a sealed container with two checksums, one over the caller and one over the
target, both keyed by the random nonce of its header.
-/
namespace SealedTokens

/-- Issues and checks anti-forgery tokens. -/
structure Csrf where
  factory : Factory
  ttl : Span
  parameter : String
  methods : List String

namespace Csrf

def sourceKey : UInt32 := 0x10

def subjectKey : UInt32 := 0x20

/-- The checksum of a text under a nonce of eight bytes. -/
def checksum (nonce : Bytes) (text : String) : Bytes :=
  Crypto.Sha256.digest (nonce ++ Bytes.ofText text)

def nonceBytes (nonce : UInt64) : Bytes := Bytes.ofNatBE 8 nonce.toNat

def ofConfig (c : CsrfConfig) (files : Files) : Except CsrfError Csrf := do
  c.validate
  let factory ← CsrfError.lift (Factory.ofSettings (← c.settings files))
  return ⟨factory, c.ttl, Text.trim c.parameterName, ← c.requiredMethods⟩

/-- Whether requests of a method need a token. -/
def protects (csrf : Csrf) (method : String) : Bool := csrf.methods.contains method

/-- A container in an anti-forgery operation. -/
def liftDrawing {α : Type} (action : Drawing ContainerError α) : Drawing CsrfError α :=
  action.adapt CsrfError.ofContainer

/-- A fresh nonce; never zero, which a container would take for a request to count up. -/
def freshNonce : Drawing ContainerError UInt64 := do
  let n := Bytes.toNatBE (← Entropy.fill 8)
  return UInt64.ofNat (max n 1)

/-- The payload that binds a token to a caller and a target. -/
def binding (nonce : UInt64) (source subject : String) : Payload :=
  .ofList [(sourceKey, checksum (nonceBytes nonce) source),
    (subjectKey, checksum (nonceBytes nonce) subject)]

/-- A token for a caller and a target whose window starts at `now`. -/
def signAt (csrf : Csrf) (source subject : String) (now : Instant) : Drawing CsrfError String := do
  -- Drawn here and not by the container, since the checksums need it before there is one.
  let nonce ← liftDrawing freshNonce
  match csrf.factory.create now csrf.ttl (binding nonce source subject) with
  | .error e => throw (.ofContainer e)
  | .ok container =>
    let token ← liftDrawing (container.touch nonce).save
    match Bytes.toText? token with
    | some text => return text
    | none => throw ⟨.internal "sealed token is not text", none⟩

/-- The container of a token, its window and checksums unchecked. -/
def unpack (csrf : Csrf) (clock : Instant) (token : String) : Except CsrfError Container := do
  -- There only to have the token loaded into it, and yet its window has to be in the calendar.
  let container ← CsrfError.lift (csrf.factory.create clock csrf.ttl .empty)
  (container.load (Bytes.ofText (Text.trim token))).mapError fun e =>
    ⟨.container e, some "unpack"⟩

/-- The wording for a checksum that is not the expected one. -/
def mismatch (stored expected : Bytes) (text : String) : String :=
  s!"token checksum {stored.hex} does not match {expected.hex} for {Text.quoted text}"

/-- Checks that a container was issued for a caller and a target. -/
def checkBinding (container : Container) (source subject : String) : Except CsrfError Unit := do
  let nonce := nonceBytes container.header.nonce
  let check (key : UInt32) (text : String) (cause : String → CsrfError.Cause) :
      Except CsrfError Unit :=
    -- A checksum that is missing is one that does not agree.
    let stored := (container.get? key).getD []
    let expected := checksum nonce text
    if stored = expected then .ok () else .error ⟨cause (mismatch stored expected text), none⟩
  check sourceKey source .sourceMismatch
  check subjectKey subject .subjectMismatch

/-- Checks that a token is intact, inside its window, and issued for a caller and a target. -/
def validateAt (csrf : Csrf) (clock : Instant) (source subject token : String) (now : Instant) :
    Except CsrfError Unit := do
  let container ← csrf.unpack clock token
  CsrfError.lift (container.validate now)
  checkBinding container source subject

/-- A target with a token for it. -/
def signUrlAt (csrf : Csrf) (source : String) (uri : Http.Uri) (now : Instant) :
    Drawing CsrfError Http.Uri := do
  let token ← csrf.signAt source (CsrfTarget.subject uri csrf.parameter) now
  match CsrfTarget.attach uri csrf.parameter token with
  | .ok signed => return signed
  | .error fault => throw (.url fault.message)

/-- Reads a target, and gives it a token. -/
def signUrlText (csrf : Csrf) (source text : String) (now : Instant) : Drawing CsrfError String :=
  match Http.Uri.ofText text with
  | .ok uri => do return (← csrf.signUrlAt source uri now).text
  | .error fault => throw (.url fault.message)

/-- Checks the token that a target carries against the rest of it. -/
def validateUrlAt (csrf : Csrf) (clock : Instant) (source : String) (uri : Http.Uri)
    (now : Instant) : Except CsrfError Unit :=
  match CsrfTarget.token? uri csrf.parameter with
  | none => .error <| .ofContainer <| .format s!"missing {Text.quoted csrf.parameter} parameter"
  | some token =>
    csrf.validateAt clock source (CsrfTarget.subject uri csrf.parameter) token now

/-- The caller's address: the first hop that a proxy names, or the one that it calls real, or the
peer. -/
def realAddress (headers : Http.Headers) (peer : Option Http.IpAddress) : Option Http.IpAddress :=
  let read (chars : List Char) : Option Http.IpAddress :=
    Http.IpAddress.ofText? (String.ofList (Text.trimChars chars))
  let forwarded := (headers.text? "x-forwarded-for").bind fun hops =>
    read (hops.toList.takeWhile (· ≠ ','))
  (forwarded.or ((headers.text? "x-real-ip").bind fun text => read text.toList)).or peer

/-- Checks a request: its caller is the real address. -/
def validateRequest (csrf : Csrf) (clock : Instant) (headers : Http.Headers) (uri : Http.Uri)
    (peer : Option Http.IpAddress) : Except CsrfError Unit :=
  match realAddress headers peer with
  | none => .error ⟨.missingSource "no forwarding header and no peer address", none⟩
  | some source => csrf.validateUrlAt clock source.text uri clock

end Csrf

end SealedTokens
