import SealedTokens.Config.Value
import SealedTokens.Decimal.Reader
import SealedTokens.Json.Text
/-!
Configurations written in JSON. Of members with one name the last counts; whole numbers beyond 64
bits are floating-point numbers.
-/
namespace SealedTokens.ConfigValue

def ofInteger (n : Int) : ConfigValue :=
  match Decimal.int64? n with
  | some n => .integer n
  | none => .real (Binary64.ofDecimal (n < 0) n.natAbs 0)

/-- A member put into a table, in the place of one with its name. -/
def putMember (name : String) (value : ConfigValue) (members : List (String × ConfigValue)) :
    List (String × ConfigValue) :=
  if members.any fun m => m.1 == name then
    members.map fun m => if m.1 == name then (name, value) else m
  else members ++ [(name, value)]

mutual

/-- The value that a JSON value stands for, if all its strings are text and all its numbers
finite. -/
def ofJson? : Json → Option ConfigValue
  | .null => some .null
  | .bool b => some (.bool b)
  | .integer n => some (ofInteger n)
  | .real written =>
    match Decimal.real? (String.ofList (written.map fun b => Char.ofNat b.toNat)) with
    | some (.finite negative significand exponent) =>
      some (.real (.finite negative significand exponent))
    | _ => none
  | .text written => (Json.text? written).map .text
  | .list items => (ofJsonItems? items).map .list
  | .object members => (ofJsonMembers? members []).map .table

def ofJsonItems? : List Json → Option (List ConfigValue)
  | [] => some []
  | item :: rest => do return (← ofJson? item) :: (← ofJsonItems? rest)

/-- The members of an object after those before. -/
def ofJsonMembers? : List (Bytes × Json) → (done : List (String × ConfigValue)) →
    Option (List (String × ConfigValue))
  | [], done => some done
  | (name, value) :: rest, done => do
    ofJsonMembers? rest (putMember (← Json.text? name) (← ofJson? value) done)

end

def ofJsonText? (text : String) : Option ConfigValue :=
  (Json.parse? (Bytes.ofText text)).bind ofJson?

end SealedTokens.ConfigValue
