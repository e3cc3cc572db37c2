import SealedTokens.Time.Span
import SealedTokens.Text.Blank
import SealedTokens.Text.Quoted
/-!
Spans in words: numbers with units, such as `1h 30m` or `1.5days`. Reading sums the parts; writing
splits a span into years, months, days, hours, minutes and seconds and their thousandths.
-/
namespace SealedTokens.Span

/-- The units a part may have. -/
inductive TimeUnit where
  | nanosecond | microsecond | millisecond | second | minute | hour | day | week | month | year
  deriving DecidableEq, Repr

namespace TimeUnit

/-- The length of a unit in nanoseconds; a year has 365.25 days and a month a twelfth of that,
rounded to 30.44 days. -/
def nanos : TimeUnit → Nat
  | nanosecond => 1
  | microsecond => 1000
  | millisecond => 1000000
  | second => 1000000000
  | minute => 60 * 1000000000
  | hour => 3600 * 1000000000
  | day => 86400 * 1000000000
  | week => 604800 * 1000000000
  | month => 2630016 * 1000000000
  | year => 31557600 * 1000000000

/-- The finest step of a decimal fraction of the unit, in nanoseconds: whole seconds from the hour
on, and no fraction of a nanosecond at all. -/
def step : TimeUnit → Option Nat
  | nanosecond => none
  | microsecond | millisecond | second | minute => some 1
  | _ => some 1000000000

/-- The names of a unit. -/
def ofName? (name : String) : Option TimeUnit :=
  if ["nanos", "nsec", "ns"].contains name then some nanosecond
  else if ["usec", "us", "µs"].contains name then some microsecond
  else if ["millis", "msec", "ms"].contains name then some millisecond
  else if ["seconds", "second", "secs", "sec", "s"].contains name then some second
  else if ["minutes", "minute", "min", "mins", "m"].contains name then some minute
  else if ["hours", "hour", "hr", "hrs", "h"].contains name then some hour
  else if ["days", "day", "d"].contains name then some day
  else if ["weeks", "week", "wk", "wks", "w"].contains name then some week
  else if ["months", "month", "M"].contains name then some month
  else if ["years", "year", "yr", "yrs", "y"].contains name then some year
  else none

end TimeUnit

inductive TextFault where
  | empty
  | invalidCharacter (offset : Nat)
  | numberExpected (offset : Nat)
  | unitNeeded (value : Nat)
  | unknownUnit (name : String)
  | overflow
  deriving DecidableEq, Repr

def TextFault.message : TextFault → String
  | empty => "value was empty"
  | invalidCharacter offset => s!"invalid character at {offset}"
  | numberExpected offset => s!"expected number at {offset}"
  | unitNeeded value => s!"time unit needed, for example {value}sec or {value}ms"
  | unknownUnit name =>
    s!"unknown time unit {Text.quoted name}, supported units: ns, us/µs, ms, sec, min, hours, days, weeks, months, years (and few variations)"
  | overflow =>
    "number is too large or cannot be represented without a lack of precision (values below 1ns are not supported)"

/-- A decimal fraction: its digits as a number, and the power of ten below them. -/
structure Fraction where
  numerator : Nat
  denominator : Nat
  deriving DecidableEq, Repr

/-- A number that fits 64 bits. -/
def fit (n : Nat) : Except TextFault Nat := if n < Nat.pow 2 64 then .ok n else .error .overflow

/-- Adds seconds and nanoseconds to a span. -/
def grow (span : Span) (secs nanos : Nat) : Except TextFault Span := do
  let nanos ← fit (span.nanos + nanos)
  let secs ← fit (secs + nanos / 1000000000)
  let secs ← fit (span.secs + secs)
  return .ofParts secs nanos

/-- Adds a number of units that are at least a second, or below a second, to a span. -/
def addWhole (span : Span) (n : Nat) (unit : TimeUnit) : Except TextFault Span := do
  if unit.nanos < 1000000000 then
    let nanos ← fit (n * unit.nanos)
    grow span 0 nanos
  else
    let secs ← fit (n * (unit.nanos / 1000000000))
    grow span secs 0

/-- Adds a decimal fraction of a unit, which must be a multiple of the unit's finest step. -/
def addFraction (span : Span) (f : Fraction) (unit : TimeUnit) : Except TextFault Span := do
  let some step := unit.step | .error .overflow
  let scaled ← fit (f.numerator * (unit.nanos / step))
  if scaled % f.denominator = 0 then
    let count := scaled / f.denominator
    if step = 1 then grow span 0 count else grow span count 0
  else .error .overflow

/-- Adds a part to a span once its unit is complete. -/
def addPart (span : Span) (n : Nat) (f : Option Fraction) (name : List Char) :
    Except TextFault Span := do
  let name := String.ofList name.reverse
  if name.isEmpty then .error (.unitNeeded n)
  else
    let some unit := TimeUnit.ofName? name | .error (.unknownUnit name)
    let span ← addWhole span n unit
    match f with
    | none => return span
    | some f => addFraction span f unit

/-- Where a reader of spans stands. -/
inductive Reading where
  /-- Before a part; the offset where its number is awaited, and whether it is the first part. -/
  | before (offset : Nat) (first : Bool)
  /-- In the digits of a number. -/
  | whole (n : Nat)
  /-- In the digits after a point, with the offset to blame. -/
  | fraction (n : Nat) (f : Fraction) (blame : Nat)
  /-- In the letters of a unit, in reverse. -/
  | unit (n : Nat) (f : Option Fraction) (name : List Char)

def isUnitChar (c : Char) : Bool := c.isAlpha || c = 'µ'

def digitValue (c : Char) : Nat := c.toNat - 48

/-- Reads on from `offset`, counted in bytes. -/
def readFrom : List Char → (offset : Nat) → Reading → Span → Except TextFault Span
  | [], _, .before _ first, span => if first then .error .empty else .ok span
  | [], _, .whole n, _ => .error (.unitNeeded n)
  | [], _, .fraction n f blame, _ =>
    if f.denominator = 1 then .error (.invalidCharacter blame) else .error (.unitNeeded n)
  | [], _, .unit n f name, span => addPart span n f name
  | c :: rest, offset, reading, span =>
    let next := offset + c.utf8Size
    match reading with
    | .before start first =>
      if c.isDigit then readFrom rest next (.whole (digitValue c)) span
      else if Text.isBlank c then readFrom rest next (.before start first) span
      else .error (.numberExpected start)
    | .whole n =>
      if c.isDigit then
        match fit (n * 10 + digitValue c) with
        | .ok n => readFrom rest next (.whole n) span
        | .error e => .error e
      else if Text.isBlank c then readFrom rest next (.whole n) span
      else if isUnitChar c then readFrom rest next (.unit n none [c]) span
      else if c = '.' then readFrom rest next (.fraction n ⟨0, 1⟩ offset) span
      else .error (.invalidCharacter offset)
    | .fraction n f blame =>
      if c.isDigit then
        match fit (f.denominator * 10), fit (f.numerator * 10 + digitValue c) with
        | .ok d, .ok m => readFrom rest next (.fraction n ⟨m, d⟩ next) span
        | _, _ => .error .overflow
      else if Text.isBlank c then readFrom rest next (.fraction n f next) span
      else if isUnitChar c then
        if f.denominator = 1 then .error (.invalidCharacter blame)
        else readFrom rest next (.unit n (some f) [c]) span
      else .error (.invalidCharacter blame)
    | .unit n f name =>
      if c.isDigit then
        match addPart span n f name with
        | .ok span => readFrom rest next (.whole (digitValue c)) span
        | .error e => .error e
      else if Text.isBlank c then
        match addPart span n f name with
        | .ok span => readFrom rest next (.before next false) span
        | .error e => .error e
      else if isUnitChar c then readFrom rest next (.unit n f (c :: name)) span
      else .error (.invalidCharacter offset)

/-- Reads a span; a lone `0` needs no unit. -/
def ofWords (text : String) : Except TextFault Span :=
  if text = "0" then .ok (ofSecs 0)
  else readFrom text.toList 0 (.before 0 true) (ofSecs 0)

/-- Reads a span that may have blanks around it. -/
def ofText (text : String) : Except TextFault Span := ofWords (Text.trim text)

/-- The parts of a span with their units, the larger ones in words. -/
def parts (span : Span) : List (Nat × String) :=
  let years := span.secs / 31557600
  let months := span.secs % 31557600 / 2630016
  let rest := span.secs % 31557600 % 2630016
  let plural (n : Nat) (unit : String) := (n, if n = 1 then unit else unit ++ "s")
  [plural years "year", plural months "month", plural (rest / 86400) "day",
   (rest % 86400 / 3600, "h"), (rest % 3600 / 60, "m"), (rest % 60, "s"),
   (span.nanos / 1000000, "ms"), (span.nanos / 1000 % 1000, "us"), (span.nanos % 1000, "ns")]

/-- A span in words, without the parts that are zero. -/
def words (span : Span) : String :=
  match span.parts.filter (·.1 ≠ 0) with
  | [] => "0s"
  | parts => String.intercalate " " (parts.map fun (n, unit) => toString n ++ unit)

end SealedTokens.Span
