import SealedTokens.Toml.Node
import SealedTokens.Toml.Scalar
/-!
TOML documents: lines that open tables and lines that give values, and the values that nest.
-/
namespace SealedTokens.Toml

/-- Whether a character may stand in a key without quotes. -/
def isKeyChar (c : Char) : Bool := c.isAlphanum || c = '_' || c = '-'

/-- The rest after the blanks at the front. -/
def skipBlanks (text : List Char) : List Char := text.dropWhile isBlank

/-- One part of a key. -/
def readKeyPart : Reader String := fun text =>
  match text.head? with
  | some '"' => readLine '"' true text.length (text.drop 1) []
  | some '\'' => readLine '\'' false text.length (text.drop 1) []
  | _ =>
    let part := text.takeWhile isKeyChar
    if part.isEmpty then none else some (String.ofList part, text.drop part.length)

/-- A key of parts with points between them. -/
def readKey : (fuel : Nat) → Reader (List String)
  | 0, _ => none
  | fuel + 1, text => do
    let (part, rest) ← readKeyPart (skipBlanks text)
    match skipBlanks rest with
    | '.' :: rest =>
      let (parts, rest) ← readKey fuel rest
      return (part :: parts, rest)
    | rest => return ([part], rest)

/-- The rest after a comment at the front. -/
def skipComment? (text : List Char) : Option (List Char) :=
  match text with
  | '#' :: rest =>
    let after := rest.dropWhile isPlain
    match after with
    | [] | '\n' :: _ | '\r' :: '\n' :: _ => some after
    | _ => none
  | _ => some text

/-- The rest after blanks, comments and line ends. -/
def skipLines? : (fuel : Nat) → List Char → Option (List Char)
  | 0, _ => none
  | fuel + 1, text => do
    match ← skipComment? (skipBlanks text) with
    | '\n' :: rest => skipLines? fuel rest
    | '\r' :: '\n' :: rest => skipLines? fuel rest
    | rest => return rest

/-- All parts of a key but the last, and the last. -/
def splitKey (parts : List String) : List String × String := (parts.dropLast, parts.getLastD "")

mutual

def readValue : (fuel : Nat) → Reader ConfigValue
  | 0, _ => none
  | fuel + 1, text =>
    match text.head? with
    | some '"' | some '\'' => (readString text).map fun (s, rest) => (.text s, rest)
    | some '[' => readItems fuel (text.drop 1) []
    | some '\x7b' => readMembers fuel (text.drop 1) []
    | _ => readToken text

/-- The items of a list up to its end, after those before in reverse. -/
def readItems : (fuel : Nat) → List Char → (done : List ConfigValue) →
    Option (ConfigValue × List Char)
  | 0, _, _ => none
  | fuel + 1, text, done => do
    let text ← skipLines? (text.length + 1) text
    match text with
    | ']' :: rest => return (.list done.reverse, rest)
    | text =>
      let (item, rest) ← readValue fuel text
      match ← skipLines? (rest.length + 1) rest with
      | ',' :: rest => readItems fuel rest (item :: done)
      | ']' :: rest => return (.list (item :: done).reverse, rest)
      | _ => none

/-- The members of a table between brackets up to its end, after those before. -/
def readMembers : (fuel : Nat) → List Char → (done : Members) → Option (ConfigValue × List Char)
  | 0, _, _ => none
  | fuel + 1, text, done => do
    let text ← skipLines? (text.length + 1) text
    match text with
    | '\x7d' :: rest => return (.table (Members.toValues done), rest)
    | text =>
      let (parts, rest) ← readKey (text.length + 1) text
      match rest with
      | '=' :: rest =>
        let (v, rest) ← readValue fuel (skipBlanks rest)
        let (path, key) := splitKey parts
        let done ← Members.put? path key v done
        match ← skipLines? (rest.length + 1) rest with
        | ',' :: rest => readMembers fuel rest done
        | '\x7d' :: rest => return (.table (Members.toValues done), rest)
        | _ => none
      | _ => none

end

/-- A document that is being read: its root, and the path of the table that is open. -/
structure State where
  root : Members := []
  current : List String := []

/-- Reads one line that is not blank. -/
def readEntry (s : State) (text : List Char) : Option (State × List Char) := do
  match text with
  | '[' :: '[' :: rest =>
    let (parts, rest) ← readKey (rest.length + 1) rest
    match rest with
    | ']' :: ']' :: rest =>
      let (path, key) := splitKey parts
      return (⟨← Members.openItem? path key s.root, parts⟩, rest)
    | _ => none
  | '[' :: rest =>
    let (parts, rest) ← readKey (rest.length + 1) rest
    match rest with
    | ']' :: rest =>
      let (path, key) := splitKey parts
      return (⟨← Members.openTable? path key s.root, parts⟩, rest)
    | _ => none
  | text =>
    let (parts, rest) ← readKey (text.length + 1) text
    match rest with
    | '=' :: rest =>
      let text := skipBlanks rest
      let (v, rest) ← readValue (2 * text.length + 2) text
      let (path, key) := splitKey parts
      let root ← Members.modifyAt? false s.current (Members.put? path key v) s.root
      return ({ s with root }, rest)
    | _ => none

/-- Reads the lines of a document. -/
def readEntries : (fuel : Nat) → State → List Char → Option Members
  | 0, _, _ => none
  | fuel + 1, s, text => do
    match ← skipLines? (text.length + 1) text with
    | [] => return s.root
    | text =>
      let (s, rest) ← readEntry s text
      match ← skipComment? (skipBlanks rest) with
      | [] => return s.root
      | '\n' :: rest => readEntries fuel s rest
      | '\r' :: '\n' :: rest => readEntries fuel s rest
      | _ => none

def parse? (text : String) : Option ConfigValue :=
  let chars := match text.toList with
    | '\uFEFF' :: rest => rest
    | chars => chars
  (readEntries (chars.length + 1) {} chars).map fun members => .table (Members.toValues members)

end SealedTokens.Toml
