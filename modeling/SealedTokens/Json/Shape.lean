import SealedTokens.Json.Text
/-!
Reading typed values out of JSON: numbers in a range, texts, and records. A record is an object
with known members or the list of their values; members of other names are skipped.
-/
namespace SealedTokens.Json

def refusal : String := "the text is not the JSON of such a value"

/-- A whole number below `2 ^ bits`. -/
def nat? (bits : Nat) : Json → Option Nat
  | .integer n => if 0 ≤ n ∧ n < Nat.pow 2 bits then some n.toNat else none
  | _ => none

/-- A whole number of 64 bits with a sign. -/
def int64? : Json → Option Int
  | .integer n => if -9223372036854775808 ≤ n ∧ n < 9223372036854775808 then some n else none
  | _ => none

def string? : Json → Option String
  | .text written => text? written
  | _ => none

/-- Whether a value can be taken over whole: every string in it is a text, and its lists and objects
nest at most `depth` deep. -/
def isReadable : (depth : Nat) → Json → Bool
  | _, .text written => (text? written).isSome
  | depth + 1, .list items => items.all (isReadable depth)
  | depth + 1, .object members =>
    members.all fun (key, value) => (text? key).isSome && isReadable depth value
  | 0, .list _ => false
  | 0, .object _ => false
  | _, _ => true

/-- The members of an object, their keys as text. -/
def members? : Json → Option (List (String × Json))
  | .object members => members.mapM fun (key, value) => (text? key).map (·, value)
  | _ => none

/-- The one value under `name`, `none` inside if there is none; no answer if there are several. -/
def member? (name : String) (members : List (String × Json)) : Option (Option Json) :=
  match members.filter fun m => m.1 == name with
  | [] => some none
  | [m] => some (some m.2)
  | _ => none

/-- The values of a record's members in the order of `names`; those left out are absent. A list
gives the first of them and may not be longer. -/
def record? (names : List String) : Json → Option (List (Option Json))
  | .list items =>
    if items.length ≤ names.length then
      some (items.map some ++ List.replicate (names.length - items.length) none)
    else none
  | json => do
    let members ← json.members?
    names.mapM fun name => member? name members

/-- A record all of whose members are there. -/
def fullRecord? (names : List String) (json : Json) : Option (List Json) := do
  (← json.record? names).mapM id

/-- A string of a text. -/
def ofText (value : String) : Json := .text (escape value)
where
  escape (value : String) : Bytes := value.toList.flatMap fun c =>
    let n := c.toNat
    if c = '"' then [92, 34]
    else if c = '\\' then [92, 92]
    else if n = 8 then [92, 98]
    else if n = 12 then [92, 102]
    else if n = 10 then [92, 110]
    else if n = 13 then [92, 114]
    else if n = 9 then [92, 116]
    else if n < 32 then
      Bytes.ofAscii ("\\u00" ++ String.ofList [Nat.digitChar (n / 16), Nat.digitChar (n % 16)])
    else String.utf8EncodeChar c

end SealedTokens.Json
