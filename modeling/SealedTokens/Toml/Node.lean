import SealedTokens.Config.Value
/-!
The tree that a TOML document builds, with how each table came to be: a table is opened by one
header at most, and what was written as a value is closed.
-/
namespace SealedTokens.Toml

/-- How a table came to be. -/
inductive Origin where
  /-- On the way to a table further inside. -/
  | implied
  /-- On the way of a key with several parts. -/
  | dotted
  /-- By a header of its own. -/
  | header
  deriving DecidableEq, Repr

/-- A part of a document: a closed value, a table, or the tables of a list that grows. -/
inductive Node where
  | value (v : ConfigValue)
  | table (origin : Origin) (members : List (String × Node))
  | tables (items : List Node)

/-- Named parts. -/
abbrev Members := List (String × Node)

namespace Members

/-- The members with a part replaced. -/
def replace (members : Members) (key : String) (node : Node) : Members :=
  members.map fun m => if m.1 == key then (key, node) else m

/-- The members with another at the end; none if the key is taken. -/
def add? (members : Members) (key : String) (node : Node) : Option Members :=
  if members.any fun m => m.1 == key then none else some (members ++ [(key, node)])

/-- Changes the members of the table at a path, which is made where it is missing. A key with several
parts may not lead into a table with a header. -/
def modifyAt? (dotted : Bool) : (path : List String) → (Members → Option Members) → Members →
    Option Members
  | [], f, members => f members
  | key :: path, f, members =>
    match members.lookup key with
    | none => do
      add? members key (.table (if dotted then .dotted else .implied) (← modifyAt? dotted path f []))
    | some (.table origin inner) =>
      if dotted && origin = .header then none
      else (modifyAt? dotted path f inner).map fun inner =>
        members.replace key (.table origin inner)
    | some (.tables items) =>
      match items.getLast? with
      | some (.table origin inner) =>
        (modifyAt? dotted path f inner).map fun inner =>
          members.replace key (.tables (items.dropLast ++ [.table origin inner]))
      | _ => none
    | some (.value _) => none

/-- Opens a table by its header. -/
def openTable? (path : List String) (key : String) : Members → Option Members :=
  modifyAt? false path fun members =>
    match members.lookup key with
    | none => add? members key (.table .header [])
    | some (.table .implied inner) => some (members.replace key (.table .header inner))
    | _ => none

/-- Opens a further table of a list by its header. -/
def openItem? (path : List String) (key : String) : Members → Option Members :=
  modifyAt? false path fun members =>
    match members.lookup key with
    | none => add? members key (.tables [.table .header []])
    | some (.tables items) => some (members.replace key (.tables (items ++ [.table .header []])))
    | _ => none

/-- Puts a value under a key of one or more parts. -/
def put? (path : List String) (key : String) (v : ConfigValue) : Members → Option Members :=
  modifyAt? true path fun members => add? members key (.value v)

end Members

mutual

/-- The value of a part. -/
def Node.toValue : Node → ConfigValue
  | .value v => v
  | .table _ members => .table (Members.toValues members)
  | .tables items => .list (Node.toValues items)

/-- The values of parts. -/
def Node.toValues : List Node → List ConfigValue
  | [] => []
  | node :: rest => node.toValue :: Node.toValues rest

/-- The values of named parts. -/
def Members.toValues : List (String × Node) → List (String × ConfigValue)
  | [] => []
  | (key, node) :: rest => (key, node.toValue) :: Members.toValues rest

end

end SealedTokens.Toml
