import SealedTokens.Container.Error
/-!
The errors of sessions: those of the container inside, a rejection by a validator, and the two of
configuration and of anything else.
-/
namespace SealedTokens

inductive SessionError.Cause where
  | container (source : ContainerError)
  | validator (message : String)
  | configuration (message : String)
  | internal (message : String)
  deriving DecidableEq

structure SessionError where
  cause : SessionError.Cause
  context : Option String := none
  deriving DecidableEq

namespace SessionError

/-- The error of a container, in a session. -/
def ofContainer (source : ContainerError) : SessionError := ⟨.container source, none⟩

def configuration (message : String) : SessionError := ⟨.configuration message, none⟩
def internal (message : String) : SessionError := ⟨.internal message, none⟩

/-- A rejection by a validator. -/
def rejected (message : String) : SessionError := ⟨.validator message, none⟩

def message (e : SessionError) : String :=
  let place := contextText e.context
  match e.cause with
  | .container source => s!"Session container error{place}: {source.message}"
  | .validator m => s!"Session rejected{place}: {m}"
  | .configuration m => s!"Invalid session configuration{place}: {m}"
  | .internal m => s!"Internal session error{place}: {m}"

def withContext (e : SessionError) (context : String) : SessionError :=
  { e with context := some context }

/-- The token is unreadable or forged. -/
def isFormatOrDecrypt (e : SessionError) : Bool :=
  match e.cause with
  | .container source => source.isFormatOrDecrypt
  | _ => false

/-- The session is readable, but has to be given up. -/
def isInvalid (e : SessionError) : Bool :=
  match e.cause with
  | .container source => source.isInvalid
  | .validator _ => true
  | _ => false

/-- A request survives the error with a fresh session. -/
def isRecoverable (e : SessionError) : Bool := e.isFormatOrDecrypt || e.isInvalid

/-- The result of a container operation, in a session. -/
def lift {α : Type} (result : Except ContainerError α) : Except SessionError α :=
  result.mapError ofContainer

end SessionError

end SealedTokens
