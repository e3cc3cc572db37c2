import SealedTokens.Config.Path
import SealedTokens.Decimal.Reader
/-!
Configuration from environment variables: a name after the prefix is a path with two underscores
between its steps, each in kebab case, and a value is the truth, number or text that it looks like.
-/
namespace SealedTokens.Environment

/-- What the name of a variable starts with, in lower case. -/
def start : List Char := "cachet__".toList

/-- A character in lower case. Of the letters beyond ASCII only the Kelvin sign stands for one that
a name of the configuration can have. -/
def lower (c : Char) : Char := if c = '\u212A' then 'k' else c.toLower

/-- A text with each pair of underscores as a point. -/
def splitSteps : List Char → List Char
  | '_' :: '_' :: rest => '.' :: splitSteps rest
  | c :: rest => c :: splitSteps rest
  | [] => []

/-- The words of a step, with the current word in reverse: they end at marks, and where a letter and
a digit meet. -/
def words : List Char → (current : List Char) → List (List Char)
  | [], current => [current.reverse]
  | c :: rest, current =>
    if c = '_' || c = '-' || c = ' ' then current.reverse :: words rest []
    else match current with
      | p :: _ =>
        if (p.isLower && c.isDigit) || (p.isDigit && c.isLower) then
          current.reverse :: words rest [c]
        else words rest (c :: current)
      | [] => words rest [c]

/-- A step in kebab case. -/
def kebab (step : List Char) : List Char :=
  ['-'].intercalate ((words step []).filter (!·.isEmpty))

/-- The key that the name of a variable stands for. -/
def key? (name : String) : Option String :=
  let chars := name.toList.map lower
  if start.isPrefixOf chars then
    some (String.ofList <|
      ['.'].intercalate (((splitSteps (chars.drop start.length)).splitOn '.').map kebab))
  else none

/-- The value that the text of a variable stands for. -/
def value (text : String) : ConfigValue :=
  let word := Text.lower text
  if word = "true" then .bool true
  else if word = "false" then .bool false
  else match Decimal.integer? text, Decimal.real? text with
    | some n, _ => .integer n
    | none, some x => .real x
    | none, none => .text text

def members (settings : List (String × String)) : List (String × ConfigValue) :=
  settings.filterMap fun (name, text) => (key? name).map (·, value text)

end SealedTokens.Environment
