import SealedTokens.Yaml.Scalar
/-!
YAML documents: mappings and sequences by indentation or between brackets, and scalars. A document
is one; anchors, tags and keys that are collections are refused.
-/
namespace SealedTokens.Yaml

/-- Reads a value at a place. -/
abbrev Reading := Option (ConfigValue × Cursor)

/-- The key that a scalar stands for. -/
def keyText? : ConfigValue → Option String
  | .text s => some s
  | .integer n => some (toString n)
  | _ => none

/-- A scalar on one line that is a key: a colon follows it. -/
def readKey? (flow : Bool) (c : Cursor) : Option (String × Cursor) :=
  match c.rest with
  | '"' :: rest => quoted '"' rest
  | '\'' :: rest => quoted '\'' rest
  | text =>
    if mayStartPlain flow text then
      let (line, rest) := plainLine flow text []
      if endsKey flow rest then do
        let value ← ofPlain? (String.ofList (line.dropWhile isBlank).reverse)
        return (← keyText? value, (c.after rest).advance 1)
      else none
    else none
where
  quoted (mark : Char) (rest : List Char) : Option (String × Cursor) := do
    let (key, after) ← readQuoted mark (rest.length + 1) rest [] 0
    let here := (c.after after).skipBlanks
    match here.rest with
    | ':' :: next => if flow || isSpaced next then some (key, here.advance 1) else none
    | _ => none

/-- A member put at the end; none if its name is taken. -/
def addMember? (name : String) (value : ConfigValue) (members : List (String × ConfigValue)) :
    Option (List (String × ConfigValue)) :=
  if members.any fun m => m.1 == name then none else some (members ++ [(name, value)])

mutual

/-- A value between brackets or a scalar inside them. -/
def readFlow : (fuel : Nat) → Cursor → Reading
  | 0, _ => none
  | fuel + 1, c =>
    match c.rest with
    | '[' :: _ => readFlowItems fuel (c.advance 1) []
    | '\x7b' :: _ => readFlowMembers fuel (c.advance 1) []
    | '"' :: rest => do
      let (s, after) ← readQuoted '"' (rest.length + 1) rest [] 0
      return (.text s, c.after after)
    | '\'' :: rest => do
      let (s, after) ← readQuoted '\'' (rest.length + 1) rest [] 0
      return (.text s, c.after after)
    | text =>
      if mayStartPlain true text then do
        let (chars, next) := readPlain true (-1) (text.length + 1) c []
        return (← ofPlain? (String.ofList chars), next)
      else none

/-- The items of a sequence between brackets, after those before in reverse. -/
def readFlowItems : (fuel : Nat) → Cursor → (done : List ConfigValue) → Reading
  | 0, _, _ => none
  | fuel + 1, c, done => do
    let c := c.token
    match c.rest with
    | ']' :: _ => return (.list done.reverse, c.advance 1)
    | _ =>
      let (item, c) ← match readKey? true c with
        | some (key, after) => do
          let (value, c) ← readFlow fuel after.token
          pure (ConfigValue.table [(key, value)], c)
        | none => readFlow fuel c
      let c := c.token
      match c.rest with
      | ',' :: _ => readFlowItems fuel (c.advance 1) (item :: done)
      | ']' :: _ => return (.list (item :: done).reverse, c.advance 1)
      | _ => none

/-- The members of a mapping between brackets, after those before. -/
def readFlowMembers : (fuel : Nat) → Cursor → (done : List (String × ConfigValue)) → Reading
  | 0, _, _ => none
  | fuel + 1, c, done => do
    let c := c.token
    match c.rest with
    | '\x7d' :: _ => return (.table done, c.advance 1)
    | _ =>
      let (key, value, c) ← match readKey? true c with
        | some (key, after) => do
          let next := after.token
          match next.rest with
          | ',' :: _ | '\x7d' :: _ => pure (key, ConfigValue.null, next)
          | _ =>
            let (value, c) ← readFlow fuel next
            pure (key, value, c)
        | none => do
          let (value, c) ← readFlow fuel c
          pure (← keyText? value, ConfigValue.null, c)
      let done ← addMember? key value done
      let c := c.token
      match c.rest with
      | ',' :: _ => readFlowMembers fuel (c.advance 1) done
      | '\x7d' :: _ => return (.table done, c.advance 1)
      | _ => none

end

/-- Whether an item of a sequence starts here. -/
def isItem (text : List Char) : Bool :=
  match text with
  | '-' :: rest => isSpaced rest
  | _ => false

/-- A scalar or a value between brackets, further in than `indent`. -/
def readInline (indent : Int) (c : Cursor) : Reading := do
  let (value, next) ← match c.rest with
    | '|' :: _ => (readBlockText false indent (c.advance 1)).map fun (s, c) => (ConfigValue.text s, c)
    | '>' :: _ => (readBlockText true indent (c.advance 1)).map fun (s, c) => (ConfigValue.text s, c)
    | '[' :: _ | '\x7b' :: _ | '"' :: _ | '\'' :: _ => readFlow (2 * c.rest.length + 2) c
    | text =>
      if mayStartPlain false text then do
        let (chars, next) := readPlain false indent (text.length + 1) c []
        pure (← ofPlain? (String.ofList chars), next)
      else none
  if next.column = 0 || next.skipBlanks.isDone then return (value, next) else none

mutual

/-- A value at a token that is further in than `indent`. -/
def readNode : (fuel : Nat) → (indent : Int) → Cursor → Reading
  | 0, _, _ => none
  | fuel + 1, indent, c =>
    if isItem c.rest then readSequence fuel c []
    else match readKey? false c with
      | some _ => readMapping fuel c []
      | none => readInline indent c

/-- The value after a mark: in the same line, or in the lines below if they are further in than the
column of the mark. -/
def readBelow : (fuel : Nat) → (column : Nat) → (inKey : Bool) → Cursor → Reading
  | 0, _, _, _ => none
  | fuel + 1, column, inKey, c =>
    let here := c.skipBlanks
    if here.isDone then
      let next := here.token
      if !next.rest.isEmpty && (next.column > column ||
          (inKey && next.column = column && isItem next.rest)) then
        readNode fuel column next
      else some (.null, here)
    else if inKey then readInline column here
    else readNode fuel column here

/-- The items of a sequence, after those before in reverse. -/
def readSequence : (fuel : Nat) → Cursor → (done : List ConfigValue) → Reading
  | 0, _, _ => none
  | fuel + 1, c, done => do
    let (item, after) ← readBelow fuel c.column false (c.advance 1)
    let next := after.token
    if !next.rest.isEmpty && next.column = c.column && isItem next.rest then
      readSequence fuel next (item :: done)
    else return (.list (item :: done).reverse, after)

/-- The members of a mapping, after those before. -/
def readMapping : (fuel : Nat) → Cursor → (done : List (String × ConfigValue)) → Reading
  | 0, _, _ => none
  | fuel + 1, c, done => do
    let (key, afterKey) ← readKey? false c
    let (value, after) ← readBelow fuel c.column true afterKey
    let done ← addMember? key value done
    let next := after.token
    if !next.rest.isEmpty && next.column = c.column && !isItem next.rest then
      readMapping fuel next done
    else return (.table done, after)

end

/-- The text of the one document: directives and the first marker taken off, up to the end marker.
No answer if there are several. -/
def documentText? (text : List Char) : Option (Bool × List Char) :=
  let lines := text.splitOn '\n'
  let isFiller (l : List Char) : Bool :=
    l.all (fun c => isBlank c || c = '\r') || l.head? == some '#' || l.head? == some '%'
  let lines := lines.dropWhile isFiller
  let (marked, lines) := match lines with
    | ('-' :: '-' :: '-' :: rest) :: more =>
      if isSpaced rest then (true, ("   ".toList ++ rest) :: more) else (false, lines)
    | lines => (false, lines)
  let kept := lines.takeWhile fun l => !isMarker l
  let rest := (lines.drop kept.length).drop 1
  let ended := match lines.drop kept.length with
    | [] => true
    | ('.' :: _) :: _ => rest.all fun l => (l.dropWhile isBlank).isEmpty
    | _ => false
  if ended then some (marked, ['\n'].intercalate kept) else none

/-- The value of a text's document; a text without one is an empty table. -/
def parse? (text : String) : Option ConfigValue := do
  let (marked, chars) ← documentText? text.toList
  let start := skipToToken chars 0 false
  if start.rest.isEmpty then return if marked then .null else .table []
  let (value, after) ← readNode (2 * chars.length + 4) (-1) start
  if after.token.rest.isEmpty then return value else none

end SealedTokens.Yaml
