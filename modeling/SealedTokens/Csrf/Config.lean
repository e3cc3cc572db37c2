import SealedTokens.Container.Config
import SealedTokens.Csrf.Error
import SealedTokens.Http.Header
/-!
Anti-forgery configuration: the key of the default sealed stack, how long tokens hold, where they
travel, and which methods need one.
-/
namespace SealedTokens

structure CsrfConfig where
  key : Option String := none
  keyFile : Option String := none
  ttl : Span := .ofSecs 21600
  parameterName : String := "csrf"
  methods : List String := ["POST", "PUT"]
  deriving DecidableEq

namespace CsrfConfig

def ofValue? (dialect : Dialect) (value : ConfigValue) : Option CsrfConfig := do
  let defaults : CsrfConfig := {}
  let optional := ConfigField.readOptional (ConfigValue.text? dialect)
  match ← value.record? dialect [["key"], ["key-file"], ["ttl"], ["parameter-name"], ["methods"]] with
  | [key, keyFile, ttl, parameterName, methods] =>
    return { key := ← optional key
             keyFile := ← optional keyFile
             ttl := ← ConfigField.read (ConfigValue.span? dialect) defaults.ttl ttl
             parameterName :=
               ← ConfigField.read (ConfigValue.text? dialect) defaults.parameterName parameterName
             methods := ← ConfigField.read (ConfigValue.texts? dialect) defaults.methods methods }
  | _ => none

/-- The settings of the sealed stack, with the key loaded. -/
def settings (c : CsrfConfig) (files : Files) : Except CsrfError Settings :=
  CsrfError.lift (ContainerConfig.expand { key := c.key, keyFile := c.keyFile } files)

/-- The method that a name stands for, whatever its case and the blanks around it. -/
def methodOf (name : String) : Except CsrfError String :=
  let method := Text.upper (Text.trim name)
  if Http.isToken method then .ok method
  else .error ⟨.configuration "invalid HTTP method", some s!"method {Text.quoted name}"⟩

/-- The methods whose requests need a token. -/
def requiredMethods (c : CsrfConfig) : Except CsrfError (List String) := c.methods.mapM methodOf

/-- Checks the span, the parameter's name and the methods. -/
def validate (c : CsrfConfig) : Except CsrfError Unit := do
  if c.ttl.isZero then throw (.configuration "ttl must be greater than zero")
  if Text.isBlankText c.parameterName then
    throw (.configuration "parameter-name cannot be empty")
  discard c.requiredMethods

end CsrfConfig

end SealedTokens
