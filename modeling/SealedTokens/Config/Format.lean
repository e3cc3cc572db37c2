import SealedTokens.Config.Json
import SealedTokens.Toml.Document
import SealedTokens.Yaml.Document
/-!
The formats of configuration files: which one the end of a file's name stands for, and the members
that a file gives.
-/
namespace SealedTokens

inductive ConfigFormat where
  | json
  | toml
  | yaml
  deriving DecidableEq, Repr

namespace ConfigFormat

/-- The format that the end of a file's name, after the last point, stands for. -/
def ofExtension? : String → Option ConfigFormat
  | "json" => some json
  | "toml" => some toml
  | "yaml" | "yml" => some yaml
  | _ => none

def value? : ConfigFormat → String → Option ConfigValue
  | json => ConfigValue.ofJsonText?
  | toml => Toml.parse?
  | yaml => Yaml.parse?

/-- The members of a text, whose root has to be a table. -/
def members? (format : ConfigFormat) (text : String) : Option (List (String × ConfigValue)) :=
  match format.value? text with
  | some (.table members) => some members
  | _ => none

end ConfigFormat

end SealedTokens
