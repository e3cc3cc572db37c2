import SealedTokens.Csrf.Error
import SealedTokens.Log.Error
import SealedTokens.Session.Error
/-!
The errors of a service's configuration: it cannot be put together, or one of its sections does
not hold.
-/
namespace SealedTokens

inductive ConfigError where
  /-- The file is missing or unreadable. -/
  | build
  /-- The values are not those of a configuration. -/
  | deserialize
  | log (source : LogError)
  | session (source : SessionError)
  | csrf (source : CsrfError)
  deriving DecidableEq

namespace ConfigError

/-- The step that failed, where no section is at fault. -/
def context? : ConfigError → Option String
  | build => some "Failed to build config"
  | deserialize => some "Failed to deserialize config"
  | _ => none

def message? : ConfigError → Option String
  | log source => some s!"Invalid log section: {source.message}"
  | session source => some s!"Invalid session section: {source.message}"
  | csrf source => some s!"Invalid csrf section: {source.message}"
  | _ => none

end ConfigError

end SealedTokens
