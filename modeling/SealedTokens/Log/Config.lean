import SealedTokens.Config.Value
import SealedTokens.Log.Error
import SealedTokens.Log.Filter
import SealedTokens.Text.Quoted
/-!
Log configuration: the level, the format, the directory of the rolling file, and a filter that
takes the place of the level and of the environment's filter.
-/
namespace SealedTokens

structure LogConfig where
  level : String := "info"
  json : Bool := false
  directory : Option String := none
  filter : Option String := none
  deriving DecidableEq, Repr

namespace LogConfig

def ofValue? (dialect : Dialect) (value : ConfigValue) : Option LogConfig := do
  let optional := ConfigField.readOptional (ConfigValue.text? dialect)
  match ← value.record? dialect [["level"], ["json"], ["directory"], ["filter"]] with
  | [level, json, directory, filter] =>
    return { level := ← ConfigField.read (ConfigValue.text? dialect) "info" level
             json := ← ConfigField.read (ConfigValue.flag? dialect) false json
             directory := ← optional directory
             filter := ← optional filter }
  | _ => none

/-- The level that the configuration names. -/
def levelNamed (c : LogConfig) : Except LogError Log.Level :=
  match Log.Level.ofName? (Text.trim c.level) with
  | some level => .ok level
  | none => .error <| .invalid <|
      s!"unexpected log level {Text.quoted c.level}, expected one of: " ++
        ", ".intercalate (Log.Level.all.map Log.Level.name)

/-- The filter of the configuration, or the one that the environment gives. -/
def resolveFilter (c : LogConfig) (environment : String) : Except LogError Log.Filter := do
  let level ← c.levelNamed
  match (c.filter.map Text.trim).filter (· ≠ "") with
  | none => return .ofTextLossy level environment
  | some text =>
    match Log.Filter.ofText? level text with
    | some filter => return filter
    | none => throw ⟨.invalidConfiguration "invalid filter directive",
        some s!"log filter {Text.quoted text}"⟩

/-- Checks the level and the filter. -/
def validate (c : LogConfig) : Except LogError Unit := (c.resolveFilter "").map fun _ => ()

end LogConfig

end SealedTokens
