import SealedTokens.Config.Value
import SealedTokens.Decimal.Reader
/-!
The scalars of YAML: plain and quoted text folded over lines, blocks of lines, and the values that
plain text stands for.
-/
namespace SealedTokens.Yaml

/-- A place in a text: what follows it, and its column. -/
structure Cursor where
  rest : List Char
  column : Nat

namespace Cursor

/-- The place some characters further on in the line. -/
def advance (c : Cursor) (n : Nat) : Cursor := ⟨c.rest.drop n, c.column + n⟩

/-- The place after a part of the line that has been read. -/
def after (c : Cursor) (rest : List Char) : Cursor := ⟨rest, c.column + (c.rest.length - rest.length)⟩

end Cursor

def isBlank (c : Char) : Bool := c = ' ' || c = '\t'

/-- Whether a text is at the end of a line or of everything. -/
def isLineEnd (text : List Char) : Bool :=
  match text with
  | [] | '\n' :: _ | '\r' :: _ => true
  | _ => false

/-- Whether a text starts with a blank or is at the end of a line. -/
def isSpaced (text : List Char) : Bool := isLineEnd text || (text.head?.any isBlank)

/-- The place of the next token: after blanks, comments and line ends. -/
def skipToToken : List Char → (column : Nat) → (comment : Bool) → Cursor
  | [], column, _ => ⟨[], column⟩
  | c :: rest, column, comment =>
    if c = '\n' then skipToToken rest 0 false
    else if comment || isBlank c || c = '\r' then skipToToken rest (column + 1) comment
    else if c = '#' then skipToToken rest (column + 1) true
    else ⟨c :: rest, column⟩

/-- The place of the next token. -/
def Cursor.token (c : Cursor) : Cursor := skipToToken c.rest c.column false

/-- The place after the blanks of the line. -/
def Cursor.skipBlanks (c : Cursor) : Cursor := c.after (c.rest.dropWhile isBlank)

/-- Whether nothing but a comment follows in the line. -/
def Cursor.isDone (c : Cursor) : Bool := isLineEnd c.rest || c.rest.head? == some '#'

/-- Whether a line is a marker between documents. -/
def isMarker (text : List Char) : Bool :=
  match text with
  | '-' :: '-' :: '-' :: rest | '.' :: '.' :: '.' :: rest => isSpaced rest
  | _ => false

/-- The marks that structure flow collections. -/
def isFlowMark (c : Char) : Bool := [',', '[', ']', '\x7b', '\x7d'].contains c

/-- Whether a colon ends a key here: a blank follows it, or a mark of a flow collection. -/
def endsKey (flow : Bool) (text : List Char) : Bool :=
  match text with
  | ':' :: rest => isSpaced rest || (flow && rest.head?.any isFlowMark)
  | _ => false

/-- Whether plain text may start here. -/
def mayStartPlain (flow : Bool) (text : List Char) : Bool :=
  match text with
  | [] => false
  | c :: rest =>
    if c = '-' || c = '?' || c = ':' then
      !isSpaced rest && !(flow && rest.head?.any isFlowMark)
    else !isSpaced text && !isFlowMark c &&
      ! ['#', '&', '*', '!', '|', '>', '\'', '"', '%', '@'].contains c && c.toNat ≠ 96

/-- The plain text of one line, in reverse, and what follows it. -/
def plainLine (flow : Bool) : List Char → (done : List Char) → List Char × List Char
  | [], done => (done, [])
  | c :: rest, done =>
    if isLineEnd (c :: rest) || endsKey flow (c :: rest) || (flow && isFlowMark c) ||
        (c = '#' && done.head?.any isBlank) then
      (done, c :: rest)
    else plainLine flow rest (c :: done)

/-- What stands for the line ends between two parts of folded text. -/
def fold (lineEnds : Nat) : List Char :=
  if lineEnds ≤ 1 then [' '] else List.replicate (lineEnds - 1) '\n'

/-- The number of line ends among the characters between two places. -/
def lineEnds (between : List Char) : Nat := between.count '\n'

/-- Plain text that may go on in further lines, each of them further in than `indent`. -/
def readPlain (flow : Bool) (indent : Int) : (fuel : Nat) → Cursor → (done : List Char) →
    List Char × Cursor
  | 0, c, done => (done, c)
  | fuel + 1, c, done =>
    let (line, rest) := plainLine flow c.rest []
    let done := done ++ (line.dropWhile isBlank).reverse
    let here := c.after rest
    if !isLineEnd rest then (done, here)
    else
      let gap := rest.takeWhile fun c => isBlank c || c = '\n' || c = '\r'
      let next := skipToToken gap here.column false
      let text := rest.drop gap.length
      if text.isEmpty || text.head? == some '#' || endsKey flow text ||
          (flow && text.head?.any isFlowMark) || (!flow && (next.column : Int) ≤ indent) ||
          (next.column = 0 && isMarker text) then
        (done, here)
      else readPlain flow indent fuel ⟨text, next.column⟩ (done ++ fold (lineEnds gap))

/-- The character that an escape stands for, and how many characters of it follow the first. -/
def escape? : List Char → Option (Char × Nat)
  | [] => none
  | c :: rest =>
    let hex (width : Nat) : Option (Char × Nat) :=
      let digits := rest.take width
      if digits.length = width &&
          digits.all fun d => d.isDigit || ('a' ≤ d.toLower && d.toLower ≤ 'f') then
        let n := Decimal.digitsValue 16 digits
        if n < 0xD800 ∨ (0xDFFF < n ∧ n < 0x110000) then some (Char.ofNat n, width) else none
      else none
    match c with
    | '0' => some ('\x00', 0)
    | 'a' => some ('\x07', 0)
    | 'b' => some ('\x08', 0)
    | 't' | '\t' => some ('\t', 0)
    | 'n' => some ('\n', 0)
    | 'v' => some ('\x0b', 0)
    | 'f' => some ('\x0c', 0)
    | 'r' => some ('\r', 0)
    | 'e' => some ('\x1b', 0)
    | ' ' | '"' | '/' | '\\' => some (c, 0)
    | 'N' => some ('\u0085', 0)
    | '_' => some ('\u00a0', 0)
    | 'L' => some ('\u2028', 0)
    | 'P' => some ('\u2029', 0)
    | 'x' => hex 2
    | 'u' => hex 4
    | 'U' => hex 8
    | _ => none

/-- Quoted text with line ends folded; the opening quote has been read, and `done` is in reverse.
Blanks around a line end are no part of the text, unless they are escaped; `kept` counts the
characters of `done` that stay. -/
def readQuoted (mark : Char) : (fuel : Nat) → List Char → (done : List Char) → (kept : Nat) →
    Option (String × List Char)
  | 0, _, _, _ => none
  | fuel + 1, text, done, kept =>
    match text with
    | [] => none
    | c :: rest =>
      if c = mark then
        if mark = '\'' && rest.head? == some '\'' then
          readQuoted mark fuel (rest.drop 1) ('\'' :: done) (done.length + 1)
        else some (String.ofList done.reverse, rest)
      else if c = '\\' && mark = '"' then
        if isLineEnd rest then
          let gap := rest.takeWhile fun c => isBlank c || c = '\n' || c = '\r'
          let breaks := List.replicate (lineEnds gap - 1) '\n'
          readQuoted mark fuel (rest.drop gap.length) (breaks ++ done) (done.length + breaks.length)
        else match escape? rest with
          | some (e, width) =>
            readQuoted mark fuel (rest.drop (width + 1)) (e :: done) (done.length + 1)
          | none => none
      else if isLineEnd text then
        let gap := text.takeWhile fun c => isBlank c || c = '\n' || c = '\r'
        let loose := (done.take (done.length - kept)).dropWhile isBlank
        let trimmed := loose ++ done.drop (done.length - kept)
        let done := fold (lineEnds gap) ++ trimmed
        readQuoted mark fuel (text.drop gap.length) done done.length
      else readQuoted mark fuel rest (c :: done) kept

/-- The value that plain text stands for; no answer for the words of numbers without digits. -/
def ofPlain? (text : String) : Option ConfigValue :=
  let based (base : Nat) (digits : List Char) (isDigit : Char → Bool) : Option Int :=
    let (negative, digits) := Decimal.splitSign digits
    if digits.isEmpty || !digits.all isDigit then none
    else
      let n : Int := Decimal.digitsValue base digits
      Decimal.int64? (if negative then -n else n)
  let prefixed : Option Int := match text.toList with
    | '0' :: 'x' :: rest => based 16 rest fun c => c.isDigit || ('a' ≤ c.toLower && c.toLower ≤ 'f')
    | '0' :: 'o' :: rest => based 8 rest fun c => '0' ≤ c && c ≤ '7'
    | '+' :: rest => Decimal.integer? (String.ofList rest)
    | _ => none
  match prefixed.or (Decimal.integer? text) with
  | some n => some (.integer n)
  | none =>
    if ["", "~", "null"].contains text then some .null
    else if text = "true" then some (.bool true)
    else if text = "false" then some (.bool false)
    else if [".inf", ".Inf", ".INF", "+.inf", "+.Inf", "+.INF", "-.inf", "-.Inf", "-.INF", ".nan",
        ".NaN", ".NAN"].contains text then none
    else if text.toList.any Char.isDigit then
      match Decimal.real? text with
      | some x => some (.real x)
      | none => some (.text text)
    else some (.text text)

/-- What a block of lines keeps of the line ends after it. -/
inductive Chomp where
  | strip
  | clip
  | keep

/-- The lines of a block from here on, each with its indentation; a line that is not further in than
`indent` and not blank ends it. -/
def blockLines (indent : Int) : (fuel : Nat) → List Char → List (List Char) × List Char
  | 0, text => ([], text)
  | _, [] => ([], [])
  | fuel + 1, text =>
    let line := text.takeWhile fun c => c ≠ '\n'
    let blanks := (line.takeWhile (· = ' ')).length
    let isEmpty := (line.drop blanks).all (· = '\r')
    if !isEmpty && (blanks : Int) ≤ indent then ([], text)
    else
      let (lines, rest) := blockLines indent fuel (text.drop (line.length + 1))
      (line.filter (· ≠ '\r') :: lines, rest)

/-- Lines joined by folding: between two lines that are not further in a line end is a blank. -/
def foldLines : List (List Char) → (previous : Option (List Char)) → (gaps : Nat) → List Char
  | [], _, _ => []
  | line :: rest, previous, gaps =>
    if line.isEmpty then foldLines rest previous (gaps + 1)
    else
      let between := match previous with
        | none => List.replicate gaps '\n'
        | some p =>
          if p.head?.any isBlank || line.head?.any isBlank then List.replicate (gaps + 1) '\n'
          else if gaps = 0 then [' '] else List.replicate gaps '\n'
      between ++ line ++ foldLines rest (some line) 0

/-- A block of lines; its mark has been read. The header may tell the indentation and what is kept
of the line ends at the end. -/
def readBlockText (folded : Bool) (indent : Int) (c : Cursor) : Option (String × Cursor) :=
  let header := c.rest.takeWhile fun c => c.isDigit || c = '+' || c = '-'
  let after := (c.rest.drop header.length).dropWhile isBlank
  let comment := after.takeWhile fun c => c ≠ '\n'
  if !isLineEnd after && after.head? != some '#' then none
  else
    let chomp : Chomp :=
      if header.contains '+' then .keep else if header.contains '-' then .strip else .clip
    let body := after.drop (comment.length + 1)
    let (lines, rest) := blockLines indent (body.length + 1) body
    let depth (line : List Char) : Nat := (line.takeWhile (· = ' ')).length
    let inner := match (header.filter Char.isDigit).head? with
      | some d => indent.toNat + (d.toNat - 48)
      | none => ((lines.filter fun l => depth l < l.length).head?.map depth).getD 0
    let lines := lines.map fun l => l.drop inner
    let content := ((lines.reverse.dropWhile List.isEmpty).reverse)
    let trailing := lines.length - content.length
    let text := if folded then foldLines content none 0 else ['\n'].intercalate content
    let ending := match chomp with
      | .strip => []
      | .clip => if content.isEmpty then [] else ['\n']
      | .keep => List.replicate (trailing + if content.isEmpty then 0 else 1) '\n'
    some (String.ofList (text ++ ending), ⟨rest, 0⟩)

end SealedTokens.Yaml
