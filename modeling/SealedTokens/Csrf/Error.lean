import SealedTokens.Container.Error
/-!
The errors of anti-forgery tokens. Those that a request brings about are rejections; the others
are faults of the setup.
-/
namespace SealedTokens

inductive CsrfError.Cause where
  | container (source : ContainerError)
  /-- The token was issued to another caller. -/
  | sourceMismatch (message : String)
  /-- The caller's address is unknown. -/
  | missingSource (message : String)
  /-- The token was issued for another target. -/
  | subjectMismatch (message : String)
  | url (message : String)
  | configuration (message : String)
  | internal (message : String)
  deriving DecidableEq

structure CsrfError where
  cause : CsrfError.Cause
  context : Option String := none
  deriving DecidableEq

namespace CsrfError

/-- The error of a container, in a token. -/
def ofContainer (source : ContainerError) : CsrfError := ⟨.container source, none⟩

def configuration (message : String) : CsrfError := ⟨.configuration message, none⟩
def url (message : String) : CsrfError := ⟨.url message, none⟩

def message (e : CsrfError) : String :=
  let place := contextText e.context
  match e.cause with
  | .container source => s!"CSRF token error{place}: {source.message}"
  | .sourceMismatch m => s!"CSRF source mismatch{place}: {m}"
  | .missingSource m => s!"CSRF source unknown{place}: {m}"
  | .subjectMismatch m => s!"CSRF subject mismatch{place}: {m}"
  | .url m => s!"Invalid URL{place}: {m}"
  | .configuration m => s!"Invalid CSRF configuration{place}: {m}"
  | .internal m => s!"Internal CSRF error{place}: {m}"

def withContext (e : CsrfError) (context : String) : CsrfError :=
  { e with context := some context }

/-- The request is at fault, not the setup. -/
def isRejection (e : CsrfError) : Bool :=
  match e.cause with
  | .container source => source.isRecoverable
  | .sourceMismatch _ | .missingSource _ | .subjectMismatch _ | .url _ => true
  | .configuration _ | .internal _ => false

/-- The result of a container operation, in a token. -/
def lift {α : Type} (result : Except ContainerError α) : Except CsrfError α :=
  result.mapError ofContainer

end CsrfError

end SealedTokens
