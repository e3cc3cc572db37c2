import SealedTokens.Config.Value
/-!
Paths into configuration values: names and positions in lists. Setting a value at a path makes the
tables and lists on the way, and lays a table over the one that is there.
-/
namespace SealedTokens

inductive ConfigStep where
  | name (key : String)
  | position (index : Int)
  deriving DecidableEq, Repr

/-- A way from the root of a configuration to one of its values. -/
abbrev ConfigPath := List ConfigStep

namespace ConfigPath

def isNameChar (c : Char) : Bool := c.isAlphanum || c = '_' || c = '-'

/-- What remains of a path's text after the steps so far, given in reverse. A step is a point and a
name, or a number in square brackets. -/
def readSteps : (fuel : Nat) → List Char → (done : ConfigPath) → Option ConfigPath
  | 0, _, _ => none
  | fuel + 1, text, done =>
    match text with
    | [] => some done.reverse
    | '.' :: rest =>
      let name := rest.takeWhile isNameChar
      if name.isEmpty then none
      else readSteps fuel (rest.drop name.length) (.name (String.ofList name) :: done)
    | '[' :: rest =>
      let inside := rest.takeWhile (· ≠ ']')
      match rest.drop inside.length, (String.ofList inside).toInt? with
      | ']' :: rest, some index => readSteps fuel rest (.position index :: done)
      | _, _ => none
    | _ => none

/-- The path that a text stands for: a name and further steps. -/
def ofText? (text : String) : Option ConfigPath :=
  let chars := text.toList
  let name := chars.takeWhile isNameChar
  if name.isEmpty then none
  else readSteps (chars.length + 1) (chars.drop name.length) [.name (String.ofList name)]

/-- The path that a key stands for; a key that is no path is a name. -/
def ofKey (key : String) : ConfigPath := (ofText? key).getD [.name key]

end ConfigPath

namespace ConfigValue

/-- The members of a table; anything else has none. -/
def members : ConfigValue → List (String × ConfigValue)
  | table members => members
  | _ => []

/-- The items of a list; anything else has none. -/
def items : ConfigValue → List ConfigValue
  | list items => items
  | _ => []

/-- The member of a name changed, or made from nothing. -/
def modifyMember (name : String) (f : ConfigValue → ConfigValue) :
    List (String × ConfigValue) → List (String × ConfigValue)
  | [] => [(name, f .null)]
  | (k, v) :: rest => if k == name then (k, f v) :: rest else (k, v) :: modifyMember name f rest

/-- The item at a position changed. A negative position counts from the end; nulls fill up a list
that is too short, at the end or in front. -/
def modifyItem (index : Int) (f : ConfigValue → ConfigValue) (items : List ConfigValue) :
    List ConfigValue :=
  let at' := if index < 0 then index + items.length else index
  let items :=
    if at' < 0 then List.replicate (-at').toNat .null ++ items
    else items ++ List.replicate (at'.toNat + 1 - items.length) .null
  items.modify at'.toNat f

/-- The value at a path changed; what is in the way is replaced. -/
def modifyAt : ConfigPath → (ConfigValue → ConfigValue) → ConfigValue → ConfigValue
  | [], f, v => f v
  | .name key :: rest, f, v => .table (modifyMember key (modifyAt rest f) v.members)
  | .position index :: rest, f, v => .list (modifyItem index (modifyAt rest f) v.items)

mutual

/-- A value laid over another: a table over a table member by member, anything else in its
place. -/
def layOver : (upper : ConfigValue) → (lower : ConfigValue) → ConfigValue
  | .table members, lower => .table (layAllOver members lower.members)
  | upper, _ => upper

/-- Members laid over others, one after the other. -/
def layAllOver : (upper : List (String × ConfigValue)) → (lower : List (String × ConfigValue)) →
    List (String × ConfigValue)
  | [], lower => lower
  | (name, value) :: rest, lower => layAllOver rest (modifyMember name (layOver value) lower)

end

/-- The root with the members of a source, whose names are paths. -/
def overlay (root : ConfigValue) (source : List (String × ConfigValue)) : ConfigValue :=
  source.foldl (fun root (key, value) => modifyAt (.ofKey key) (layOver value) root) root

end ConfigValue

end SealedTokens
