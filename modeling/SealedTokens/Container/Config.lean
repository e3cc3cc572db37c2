import SealedTokens.Config.Value
import SealedTokens.Container.Settings
/-!
Container configuration: names of the type, the stages and the algorithm, and where the key comes
from. A name left blank takes the default of the type; the key is given in the configuration or in
a file, but not in both.
-/
namespace SealedTokens

/-- What reading the file at a path gives: its content, or why there is none. -/
abbrev Files := String → Except String Bytes

structure ContainerConfig where
  kind : String := ""
  serializer : String := ""
  compressor : String := ""
  sealer : String := ""
  representer : String := ""
  key : Option String := none
  keyFile : Option String := none
  algorithm : String := "HS256"
  deriving DecidableEq, Repr

namespace ContainerConfig

/-- The name of the signature algorithm, in a record of its own. -/
def algorithmOf? (dialect : Dialect) (value : ConfigValue) : Option String := do
  match ← value.record? dialect [["algorithm", "algo"]] with
  | [algorithm] => ConfigField.read (ConfigValue.text? dialect) "HS256" algorithm
  | _ => none

def ofValue? (dialect : Dialect) (value : ConfigValue) : Option ContainerConfig := do
  let name := ConfigField.read (ConfigValue.text? dialect) ""
  let optional := ConfigField.readOptional (ConfigValue.text? dialect)
  match ← value.record? dialect [["type"], ["serializer"], ["compressor"], ["sealer"],
      ["representer"], ["key"], ["key-file"], ["jwt"]] with
  | [kind, serializer, compressor, sealer, representer, key, keyFile, jwt] =>
    return { kind := ← name kind, serializer := ← name serializer, compressor := ← name compressor,
             sealer := ← name sealer, representer := ← name representer, key := ← optional key,
             keyFile := ← optional keyFile,
             algorithm := ← ConfigField.read (algorithmOf? dialect) "HS256" jwt }
  | _ => none

/-- The member that a name selects, or the default if it is blank. -/
def choose {α : Type} [Registry α] (entity name : String) (default : α) :
    Except ContainerError α :=
  if Text.isBlankText name then .ok default else Registry.resolve entity name

def stages (c : ContainerConfig) : Except ContainerError Settings := do
  -- The type comes first, as it decides what the other names stand for when they are blank.
  let kind ← choose "type" c.kind .secretBox
  let defaults := Settings.ofKind kind []
  let serializer ← choose "serializer" c.serializer defaults.serializer
  let compressor ← choose "compressor" c.compressor defaults.compressor
  let sealer ← choose "sealer" c.sealer defaults.sealer
  let representer ← choose "representer" c.representer defaults.representer
  let algorithm ← choose "algorithm" c.algorithm defaults.algorithm
  return { defaults with serializer, compressor, sealer, representer, algorithm }

/-- The key, from the one place that gives it. -/
def loadKey (c : ContainerConfig) (files : Files) : Except ContainerError Bytes :=
  match c.key.filter (· ≠ ""), c.keyFile.filter (· ≠ "") with
  | some _, some _ => .error (.configuration "either key or key-file must be defined, not both")
  | none, none => .error (.configuration "either key or key-file must be defined")
  | some key, none => .ok (Bytes.ofText key)
  | none, some path =>
    match files path with
    | .ok key => .ok key
    | .error why => .error ⟨.io why, some s!"failed to load key-file: {path}"⟩

/-- Resolves the names, loads the key and checks that all of it goes together. -/
def expand (c : ContainerConfig) (files : Files) : Except ContainerError Settings := do
  let settings := { ← c.stages with key := ← c.loadKey files }
  settings.validate
  return settings

end ContainerConfig

end SealedTokens
