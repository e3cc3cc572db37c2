import SealedTokens.Decimal.Binary64
import SealedTokens.Text.Blank
import SealedTokens.Time.Span.Text
/-!
Configuration values as they are written, and how fields of a type are read from them. Values that
were written as they are meant are read strictly; values put together from files and environment
variables are converted to the type of the field.
-/
namespace SealedTokens

inductive ConfigValue where
  | null
  | bool (value : Bool)
  | integer (value : Int)
  | real (value : Binary64)
  | text (value : String)
  | list (items : List ConfigValue)
  | table (members : List (String × ConfigValue))

/-- How freely values are converted. -/
inductive Dialect where
  | strict
  | lenient
  deriving DecidableEq, Repr

namespace ConfigValue

/-- The truth that a word stands for. -/
def flagWord? (word : String) : Option Bool :=
  let word := Text.lower word
  if ["1", "true", "on", "yes"].contains word then some true
  else if ["0", "false", "off", "no"].contains word then some false
  else none

def text? (dialect : Dialect) (value : ConfigValue) : Option String :=
  match value, dialect with
  | .text s, _ => some s
  | .bool b, .lenient => some (if b then "true" else "false")
  | .integer n, .lenient => some (toString n)
  | .real x, .lenient => some x.text
  | _, _ => none

def flag? (dialect : Dialect) (value : ConfigValue) : Option Bool :=
  match value, dialect with
  | .bool b, _ => some b
  | .integer n, .lenient => some (n != 0)
  | .real x, .lenient => some x.isNonzero
  | .text s, .lenient => flagWord? s
  | _, _ => none

/-- A field with a span in words. -/
def span? (dialect : Dialect) (value : ConfigValue) : Option Span :=
  match (value.text? dialect).map Span.ofText with
  | some (.ok span) => some span
  | _ => none

def texts? (dialect : Dialect) : ConfigValue → Option (List String)
  | .list items => items.mapM (text? dialect)
  | _ => none

/-- The member under one of the spellings of a field; no answer if there are several. -/
def member? (spellings : List String) (members : List (String × ConfigValue)) :
    Option (Option ConfigValue) :=
  match members.filter fun m => spellings.contains m.1 with
  | [] => some none
  | [m] => some (some m.2)
  | _ => none

/-- The values of a record's fields, each given by its spellings; a field left out is absent. A
list gives the first fields, and more than those only in the lenient dialect. -/
def record? (dialect : Dialect) (fields : List (List String)) :
    ConfigValue → Option (List (Option ConfigValue))
  | .table members => fields.mapM fun spellings => member? spellings members
  | .list items =>
    if items.length ≤ fields.length || dialect == .lenient then
      some ((items.map some ++ List.replicate fields.length none).take fields.length)
    else none
  | _ => none

end ConfigValue

/-- Reads a field, or takes its default when it is left out. -/
def ConfigField.read {α : Type} (reader : ConfigValue → Option α) (default : α) :
    Option ConfigValue → Option α
  | none => some default
  | some value => reader value

/-- Reads a field that may be left out or null. -/
def ConfigField.readOptional {α : Type} (reader : ConfigValue → Option α) :
    Option ConfigValue → Option (Option α)
  | none | some .null => some none
  | some value => (reader value).map some

end SealedTokens
