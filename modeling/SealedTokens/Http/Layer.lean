import SealedTokens.Csrf.Basic
import SealedTokens.Http.Error
import SealedTokens.Http.Mount
import SealedTokens.Session.Transport
/-!
Layers around a service: one gives each request its session and writes it back, one refuses
requests without an anti-forgery token, one mounts a service under a prefix.
-/
namespace SealedTokens.Http

structure Request where
  method : String
  uri : Uri
  received : Uri := uri
  headers : Headers := []
  peer : Option IpAddress := none

/-- What a response carries: content of the service, or a plain text. -/
inductive Body (α : Type) where
  | content (value : α)
  | text (value : String)

/-- A response; `headers` are those that set no cookies. -/
structure Response (α : Type) where
  status : Nat
  body : Body α
  cookies : List SetCookie := []
  headers : Headers := []

/-- The session that a service sees; a discarded one is forgotten with the response. -/
structure CurrentSession where
  session : Session
  discarded : Bool := false

/-- What the services of one request share: randomness, the clock, and what the layers provide. -/
structure Serving where
  entropy : Entropy
  clock : Instant
  clock_shown : clock.OnClock
  current : Option CurrentSession := none
  csrf : Option Csrf := none

abbrev Service (α : Type) := Request → StateM Serving (Response α)

/-- The headers of a response that is a plain text. -/
def textHeaders : Headers := [("content-type", Bytes.ofAscii "text/plain; charset=utf-8")]

/-- What a client is told of an error. -/
def LayerError.response {α : Type} (e : LayerError) : Response α :=
  ⟨e.status, .text e.body, [], textHeaders⟩

/-- The response for a target that leads nowhere. -/
def notFound {α : Type} : Response α := ⟨404, .text "", [], []⟩

/-- Sessions with the configuration of their transport. -/
structure SessionState where
  sessions : Sessions
  config : SessionConfig

/-- A request's session, where it travels, and whether it replaces one that was given up. -/
structure Established where
  transport : Transport
  session : Session
  replaced : Bool

namespace SessionState

/-- Finds the session of a request. An unreadable token leaves a fresh session; one that is
readable but not valid is replaced. -/
def establish (state : SessionState) (exchange : Exchange) (clock : Instant) :
    Except SessionError Established := do
  let fresh ← state.sessions.createAt clock clock
  let transport ← Transport.select state.config exchange
  match transport.load exchange fresh with
  | .error e => if e.isFormatOrDecrypt then return ⟨transport, fresh, false⟩ else throw e
  | .ok none => return ⟨transport, fresh, false⟩
  | .ok (some session) =>
    match session.validateAt clock with
    | .ok () => return ⟨transport, session, false⟩
    | .error e =>
      if e.isInvalid then
        return ⟨← Transport.select state.config exchange, ← session.renew clock, true⟩
      else throw e

/-- The session of a request, its window moved if it is due. -/
def prepare (state : SessionState) (exchange : Exchange) (clock : Instant) :
    Except SessionError (Established × UInt64) := do
  let found ← state.establish exchange clock
  let loaded := found.session.header.nonce
  if found.session.refreshRequiredAt clock then
    return ({ found with session := ← found.session.refreshAt clock }, loaded)
  return (found, loaded)

/-- Writes a session back after the service: a discarded one is forgotten, a replaced one is always
written, any other only when its nonce has advanced. -/
def complete (found : Established) (loaded : UInt64) (current : CurrentSession)
    (exchange : Exchange) : Drawing SessionError Exchange :=
  if current.discarded then return found.transport.discard exchange
  else if found.replaced || current.session.header.nonce != loaded then
    found.transport.save exchange current.session
  else return exchange

end SessionState

/-- Whether a status only announces a response. -/
def isInformational (status : Nat) : Bool := 100 ≤ status && status < 200

/-- Cookies as header values, if they can be that. -/
def checkCookies (cookies : List SetCookie) : Except SessionError Unit :=
  if cookies.all fun c => (Bytes.ofText c.line).all isValueByte then .ok ()
  else .error ⟨.internal "failed to parse header value", some "set-cookie"⟩

/-- Runs a drawing action on what the services share. -/
def drawing {ε α : Type} (action : Drawing ε α) : StateM Serving (Except ε α) :=
  modifyGet fun s =>
    let (result, entropy) := action.run.run s.entropy
    (result, { s with entropy })

/-- The layer that provides the session. -/
def sessionLayer {α : Type} (state : SessionState) (next : Service α) : Service α :=
  fun request => do
    let exchange := Exchange.ofRequest request.headers request.uri.authority?
    match state.prepare exchange (← get).clock with
    | .error e => return (LayerError.ofSession e).response
    | .ok (found, loaded) =>
      modify fun s => { s with current := some ⟨found.session, false⟩ }
      let response ← next request
      if isInformational response.status then return response
      let current := (← get).current.getD ⟨found.session, false⟩
      match ← drawing (SessionState.complete found loaded current exchange) with
      | .error e => return (LayerError.ofSession e).response
      | .ok exchange =>
        match checkCookies exchange.cookies with
        | .error e => return (LayerError.ofSession e).response
        | .ok () => return { response with cookies := response.cookies ++ exchange.cookies }

/-- The layer that refuses requests without a token, and provides what signs tokens. -/
def csrfLayer {α : Type} (csrf : Csrf) (next : Service α) : Service α := fun request => do
  let clock := (← get).clock
  let checked := if csrf.protects request.method then
      csrf.validateRequest clock request.headers request.received request.peer
    else .ok ()
  match checked with
  | .error e => return (LayerError.ofCsrf e).response
  | .ok () =>
    modify fun s => { s with csrf := some csrf }
    next request

/-- The layer that routes to a service: it gets the requests whose path the router leads to it, with
the path that the router leaves of it. -/
def mounted {α : Type} (route : List Char → Option (List Char)) (next : Service α) : Service α :=
  fun request =>
    match route request.uri.path with
    | some path =>
      let target := { request.uri.target with path }
      next { request with uri := { request.uri with target } }
    | none => return notFound

end SealedTokens.Http
