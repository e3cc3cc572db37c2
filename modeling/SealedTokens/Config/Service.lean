import SealedTokens.Config.Environment
import SealedTokens.Config.Error
import SealedTokens.Config.Format
import SealedTokens.Config.Path
import SealedTokens.Csrf.Config
import SealedTokens.Log.Config
import SealedTokens.Session.Config
/-!
The configuration of a service: a section each for logging, sessions and anti-forgery tokens. It
comes from a file with environment variables laid over it.
-/
namespace SealedTokens

structure ServiceConfig where
  log : LogConfig := {}
  session : SessionConfig := {}
  csrf : CsrfConfig := {}
  deriving DecidableEq

namespace ServiceConfig

/-- Reads a configuration; a section left out has its defaults. -/
def ofValue? (dialect : Dialect) (value : ConfigValue) : Option ServiceConfig := do
  match ← value.record? dialect [["log"], ["session"], ["csrf"]] with
  | [log, session, csrf] =>
    return { log := ← ConfigField.read (LogConfig.ofValue? dialect) {} log
             session := ← ConfigField.read (SessionConfig.ofValue? dialect) {} session
             csrf := ← ConfigField.read (CsrfConfig.ofValue? dialect) {} csrf }
  | _ => none

/-- Checks the sections, and answers with the first that does not hold. -/
def validate (c : ServiceConfig) : Except ConfigError Unit := do
  c.log.validate.mapError .log
  c.session.validate.mapError .session
  c.csrf.validate.mapError .csrf

/-- The values of a file, if it is there and has a known format, under those of environment
variables. -/
def layers (extension : String) (file : Option String) (environment : List (String × String)) :
    Except ConfigError ConfigValue :=
  match (ConfigFormat.ofExtension? extension).bind fun format => file.bind format.members? with
  | some members =>
    .ok (((ConfigValue.table []).overlay members).overlay (Environment.members environment))
  | none => .error .build

def read (extension : String) (file : Option String) (environment : List (String × String)) :
    Except ConfigError ServiceConfig := do
  match ofValue? .lenient (← layers extension file environment) with
  | some config => return config
  | none => throw .deserialize

/-- The configuration of a file and of environment variables, checked. -/
def load (extension : String) (file : Option String) (environment : List (String × String)) :
    Except ConfigError ServiceConfig := do
  let config ← read extension file environment
  config.validate
  return config

end ServiceConfig

end SealedTokens
