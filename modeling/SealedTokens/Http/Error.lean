import SealedTokens.Csrf.Error
import SealedTokens.Session.Error
/-!
The errors of the layers around a service, and what a client is told of them: that the request was
rejected, or nothing but that the server failed.
-/
namespace SealedTokens.Http

inductive LayerError.Cause where
  | session (source : SessionError)
  | csrf (source : CsrfError)
  /-- A service asked for what no layer provides. -/
  | missingExtension (message : String)
  deriving DecidableEq

structure LayerError where
  cause : LayerError.Cause
  context : Option String := none
  deriving DecidableEq

namespace LayerError

def ofSession (source : SessionError) : LayerError := ⟨.session source, none⟩
def ofCsrf (source : CsrfError) : LayerError := ⟨.csrf source, none⟩

def message (e : LayerError) : String :=
  let place := contextText e.context
  match e.cause with
  | .session source => s!"Session middleware error{place}: {source.message}"
  | .csrf source => s!"CSRF middleware error{place}: {source.message}"
  | .missingExtension m => s!"Missing request extension{place}: {m}"

/-- Whether the client is told that its request was rejected. -/
def isRejection (e : LayerError) : Bool :=
  match e.cause with
  | .csrf source => source.isRejection
  | _ => false

def status (e : LayerError) : Nat := if e.isRejection then 400 else 500

def body (e : LayerError) : String :=
  if e.isRejection then "CSRF token validation failed" else "Internal Server Error"

end LayerError

end SealedTokens.Http
