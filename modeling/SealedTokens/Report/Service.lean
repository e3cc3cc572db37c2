import SealedTokens.Config.Service
import SealedTokens.Report.Config
import SealedTokens.Report.Log
import SealedTokens.Report.Read
/-!
Reports of a service's configuration and of its errors.
-/
namespace SealedTokens

open Report

/-- The kind of a configuration's error. -/
def ConfigError.kind : ConfigError → String
  | build | deserialize => "Config"
  | log _ => "Config.Log"
  | session _ => "Config.Session"
  | csrf _ => "Config.Csrf"

/-- The report of the error in a section. -/
def ConfigError.source? : ConfigError → Option Json
  | build | deserialize => none
  | log source => some (report source)
  | session source => some (report source)
  | csrf source => some (report source)

instance : Reported ConfigError where
  report e :=
    let source := e.source?
    let worded := source.any fun s => (lookup? s "message").isSome
    Report.error e.kind (if worded then e.message? else none) e.context? source

end SealedTokens
