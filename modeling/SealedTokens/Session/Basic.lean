import SealedTokens.Container.Factory
import SealedTokens.Session.Config
import SealedTokens.Text.Utf8
/-!
Sessions: a container with a lifetime policy and validators. Writing to a session also moves its
window to the present; an operation that fails may have written already, so operations that write
give the session back beside their result.
-/
namespace SealedTokens

/-- A check of a session's state beyond its version and window. -/
abbrev Validator := Data → Except SessionError Unit

/-- What is done to every new session: an entry is written, or a validator is added. -/
inductive SessionOption where
  | payload (key : UInt32) (value : Bytes)
  | validator (check : Validator)

/-- What sessions share: the factory, the lifetime policy and the options. -/
structure Sessions where
  factory : Factory
  maxAge : Span
  refresh : Span
  options : List SessionOption := []

/-- A container under a lifetime policy. -/
structure Session where
  sessions : Sessions
  container : Container
  validators : List Validator := []

namespace Session

def data (s : Session) : Data := s.container.data

def header (s : Session) : Header := s.container.header

def payload (s : Session) : Payload := s.container.payload

def clean (s : Session) : Session := { s with container := s.container.clean }

/-- Adds one to the nonce. -/
def touch (s : Session) : Session := { s with container := s.container.touch 0 }

/-- Checks the version and the window, then asks every validator in turn. -/
def validateAt (s : Session) (now : Instant) : Except SessionError Unit := do
  SessionError.lift (s.container.validate now)
  s.validators.forM fun check => check s.data

/-- Whether the window is older than the policy wants. -/
def refreshRequiredAt (s : Session) (now : Instant) : Bool :=
  match windowEnd s.header.validAfter s.sessions.refresh with
  | .ok due => due < now
  | .error _ => false

/-- The session with its window moved to `now`. -/
def refreshAt (s : Session) (now : Instant) : Except SessionError Session := do
  let validBefore ← SessionError.lift (windowEnd now s.sessions.maxAge)
  return { s with container := s.container.refresh now validBefore }

/-- A refresh as the last step of an operation: when it fails, the session stays as it is. -/
def refreshed {α : Type} (s : Session) (clock : Instant) (result : α) :
    Except SessionError α × Session :=
  match s.refreshAt clock with
  | .ok s => (.ok result, s)
  | .error e => (.error e, s)

def get? (s : Session) (key : UInt32) : Option Bytes := s.container.get? key

/-- The value under a key as text, with damaged parts replaced. -/
def getText? (s : Session) (key : UInt32) : Option String := (s.get? key).map Text.lossy

/-- Puts a value under a key, and refreshes. -/
def set (s : Session) (clock : Instant) (key : UInt32) (value : Bytes) :
    Except SessionError Unit × Session :=
  refreshed { s with container := s.container.set key value } clock ()

/-- Puts a text under a key, and refreshes. -/
def setText (s : Session) (clock : Instant) (key : UInt32) (value : String) :
    Except SessionError Unit × Session :=
  s.set clock key (Bytes.ofText value)

/-- Removes a key, and refreshes if it was there. -/
def del (s : Session) (clock : Instant) (key : UInt32) : Except SessionError Bool × Session :=
  let (found, container) := s.container.del key
  let s := { s with container }
  if found then s.refreshed clock true else (.ok false, s)

def save (s : Session) : Drawing SessionError Bytes := s.container.save.adapt SessionError.ofContainer

def load (s : Session) (token : Bytes) : Except SessionError Session := do
  return { s with container := ← SessionError.lift (s.container.load token) }

/-- The session after an option has been applied. -/
def apply (s : Session) (clock : Instant) : SessionOption → Except SessionError Session
  | .payload key value =>
    match s.set clock key value with
    | (.ok (), s) => .ok s
    | (.error e, _) => .error e
  | .validator check => .ok { s with validators := s.validators ++ [check] }

/-- The session as it appears in logs. -/
def debugText (s : Session) : String :=
  let h := s.header
  s!"Session \x7b header: Header \x7b version: {h.version.toNat}, nonce: {h.nonce.toNat}, " ++
    s!"valid_after: {Rfc3339.text h.validAfter}, valid_before: {Rfc3339.text h.validBefore} \x7d, " ++
    s!"validators: {s.validators.length}, .. \x7d"

end Session

namespace Sessions

/-- Sessions of a factory under a policy of two spans, neither of them zero. -/
def create (factory : Factory) (maxAge refresh : Span) : Except SessionError Sessions :=
  if maxAge.isZero || refresh.isZero then
    .error (.configuration "max-age and refresh must be greater than zero")
  else .ok { factory, maxAge, refresh }

/-- Sessions of a configuration. -/
def ofConfig (c : SessionConfig) (files : Files) : Except SessionError Sessions := do
  c.validate
  create (← SessionError.lift (Factory.ofConfig c.container files)) c.maxAge c.refresh

/-- The same with more options. -/
def withOptions (s : Sessions) (options : List SessionOption) : Sessions :=
  { s with options := s.options ++ options }

/-- A fresh session whose window starts at `now`; what its options write is dated by `clock`. -/
def createAt (s : Sessions) (clock now : Instant) : Except SessionError Session := do
  let container ← SessionError.lift (s.factory.create now s.maxAge .empty)
  s.options.foldlM (fun session option => session.apply clock option) { sessions := s, container }

end Sessions

/-- A fresh session with the same policy and options. -/
def Session.renew (s : Session) (clock : Instant) : Except SessionError Session :=
  s.sessions.createAt clock clock

end SealedTokens
