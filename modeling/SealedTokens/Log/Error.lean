import SealedTokens.Container.Error
/-!
The errors of logging.
-/
namespace SealedTokens

inductive LogError.Cause where
  /-- The rolling file cannot be opened. -/
  | appender (message : String)
  /-- Another subscriber is in place. -/
  | subscriber (message : String)
  /-- The directory cannot be made. -/
  | io (message : String)
  | invalidConfiguration (message : String)
  deriving DecidableEq

structure LogError where
  cause : LogError.Cause
  context : Option String := none
  deriving DecidableEq

namespace LogError

def invalid (message : String) : LogError := ⟨.invalidConfiguration message, none⟩

def message (e : LogError) : String :=
  let place := contextText e.context
  match e.cause with
  | .appender m => s!"Rolling file appender error{place}: {m}"
  | .subscriber m => s!"Tracing subscriber error{place}: {m}"
  | .io m => s!"Log directory error{place}: {m}"
  | .invalidConfiguration m => s!"Invalid logger configuration{place}: {m}"

def withContext (e : LogError) (context : String) : LogError := { e with context := some context }

end LogError

end SealedTokens
