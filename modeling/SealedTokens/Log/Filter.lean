import SealedTokens.Log.Level
/-!
Log filters: directives joined by commas, each a level, a target, or both, and maybe a span with
fields. The most specific directive that fits an event decides whether it is logged.
-/
namespace SealedTokens.Log

/-- What is logged: how important it is, where it comes from, the names of its fields, and its
text. -/
structure Event where
  level : Level
  target : String
  fields : List String
  message : String
  deriving DecidableEq, Repr

/-- A condition on a field: its name, and whether a value is asked for. -/
structure FieldMatch where
  name : String
  valued : Bool
  deriving DecidableEq, Repr

structure Directive where
  level : Level := .trace
  target : Option String := none
  span : Option String := none
  fields : List FieldMatch := []
  deriving DecidableEq, Repr

namespace Directive

/-- Where a reader of a directive stands; a part is given by the position it starts at. -/
inductive Reading where
  | start
  | levelOrTarget (begun : Nat)
  | span (begun : Nat)
  | field (begun : Nat)
  | fields
  | target
  | level (begun : Nat)

/-- The condition that a part stands for. -/
def fieldOf (part : String) : FieldMatch :=
  let chars := part.toList
  ⟨String.ofList (chars.takeWhile (· ≠ '=')), chars.contains '='⟩

/-- Whether a character may begin a directive that names a level or a target. -/
def mayStart (c : Char) : Bool := c.isAlphanum || ['-', ':', '_'].contains c || c.toNat ≥ 128

/-- The part of a text from one position up to another. -/
def part (text : List Char) (begun stop : Nat) : String :=
  String.ofList ((text.take stop).drop begun)

/-- Reads the character at a position. -/
def step (text : List Char) (d : Directive) (reading : Reading) (i : Nat) (c : Char) :
    Option (Directive × Reading) :=
  match reading with
  | .start =>
    if c = '[' then some (d, .span (i + 1))
    else if mayStart c then some (d, .levelOrTarget i)
    else none
  | .levelOrTarget begun =>
    if c = '=' then some ({ d with target := some (part text begun i) }, .level (i + 1))
    else if c = '[' then some ({ d with target := some (part text begun i) }, .span (i + 1))
    else some (d, .levelOrTarget begun)
  | .target => if c = '=' then some (d, .level (i + 1)) else none
  | .span begun =>
    if c = ']' then some ({ d with span := some (part text begun i) }, .target)
    else if c = '\x7b' then
      let span := part text begun i
      some ({ d with span := if span.isEmpty then none else some span }, .field (i + 1))
    else some (d, .span begun)
  | .field begun =>
    if c = '\x7d' then
      let field := part text begun i
      if field.isEmpty then none
      else some ({ d with fields := d.fields ++ [fieldOf field] }, .fields)
    else some (d, .field begun)
  | .fields => if c = ']' then some (d, .target) else none
  | .level begun => some (d, .level begun)

/-- The directive when its text is over. -/
def finish (text : List Char) (d : Directive) : Reading → Option Directive
  | .levelOrTarget begun =>
    let last := part text begun text.length
    match Level.ofFilter? last with
    | some level => some { d with level, target := none }
    | none => some { d with level := .trace, target := some last }
  | .level begun =>
    let last := part text begun text.length
    if last.isEmpty then some { d with level := .trace }
    else (Level.ofFilter? last).map fun level => { d with level }
  | .target => some d
  | _ => none

/-- Reads the characters from a position on. -/
def readFrom (text : List Char) : Directive → Reading → Nat → List Char → Option Directive
  | d, reading, _, [] => finish text d reading
  | d, reading, i, c :: rest =>
    match step text d reading i c with
    | some (d, reading) => readFrom text d reading (i + 1) rest
    | none => none

/-- Reads a directive. Blanks around it are passed over in finding its parts, but positions count
without those in front and parts are cut from the whole text, so that blanks spoil a name. -/
def ofText? (text : String) : Option Directive :=
  readFrom text.toList {} .start 0 (Text.trimChars text.toList)

/-- Whether a directive waits for a span. -/
def isDynamic (d : Directive) : Bool := d.span.isSome || !d.fields.isEmpty

/-- Whether a directive decides on events by itself. -/
def isStatic (d : Directive) : Bool := d.span.isNone && d.fields.all (!·.valued)

/-- Whether an event is of the target and has the fields. -/
def fits (d : Directive) (event : Event) : Bool :=
  (d.target.all fun t => t.toList.isPrefixOf event.target.toList) &&
    d.fields.all fun f => event.fields.contains f.name

/-- How specific a directive is: with a target or without, the length of the target, and the number
of fields. -/
def specificity (d : Directive) : Nat × Nat :=
  ((d.target.map fun t => t.utf8ByteSize + 1).getD 0, d.fields.length)

/-- Whether a directive comes before another: it is more specific, or written later. -/
def outranks (a b : Directive) : Bool :=
  let (x, m) := a.specificity
  let (y, n) := b.specificity
  y < x || (x == y && n ≤ m)

end Directive

structure Filter where
  directives : List Directive
  deriving DecidableEq, Repr

namespace Filter

/-- The pieces of a filter's text. -/
def pieces (text : String) : List String := (text.splitOn ",").filter (!·.isEmpty)

/-- A filter of directives, or of one level for all events if there are none. -/
def ofDirectives (level : Level) (directives : List Directive) : Filter :=
  ⟨if directives.isEmpty then [{ level }] else directives⟩

/-- Reads a filter; every piece must be a directive. -/
def ofText? (level : Level) (text : String) : Option Filter :=
  ((pieces text).mapM Directive.ofText?).map (ofDirectives level)

/-- Reads a filter; pieces that are no directives are passed over. -/
def ofTextLossy (level : Level) (text : String) : Filter :=
  ofDirectives level ((pieces text).filterMap Directive.ofText?)

/-- The directive that decides on an event. -/
def decisive? (filter : Filter) (event : Event) : Option Directive :=
  ((filter.directives.filter fun d => d.isStatic && d.fits event).foldl (fun best d =>
    match best with
    | some b => if d.outranks b then some d else some b
    | none => some d) none)

/-- Whether an event is logged. -/
def admits (filter : Filter) (event : Event) : Bool :=
  (filter.decisive? event).any fun d => d.level.admits event.level

end Filter

end SealedTokens.Log
