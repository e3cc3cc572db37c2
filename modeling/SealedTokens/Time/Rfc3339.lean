import SealedTokens.Time.Instant
import SealedTokens.Text.Blank
/-!
Timestamps in the form of RFC 3339: written in UTC with a `Z`, read with the usual liberties
(blanks between the parts, a lower-case or missing `T`, short numbers, any offset).
-/
namespace SealedTokens.Rfc3339

/-- The written form of an instant. -/
def chars (t : Instant) : List Char := t.dateChars ++ 'T' :: t.timeChars ++ ['Z']

def text (t : Instant) : String := String.ofList (chars t)

def skipBlanks (cs : List Char) : List Char := cs.dropWhile Text.isBlank

def digitsValue (cs : List Char) : Nat := cs.foldl (fun n c => n * 10 + (c.toNat - 48)) 0

/-- A number of one to `most` digits after any blanks, and the rest. -/
def number? (most : Nat) (cs : List Char) : Option (Nat × List Char) :=
  let cs := skipBlanks cs
  let run := (cs.take most).takeWhile Char.isDigit
  if run.isEmpty then none else some (digitsValue run, cs.drop run.length)

/-- A number of any number of digits, and the rest. -/
def anyNumber? (cs : List Char) : Option (Nat × List Char) :=
  let run := cs.takeWhile Char.isDigit
  if run.isEmpty then none else some (digitsValue run, cs.dropWhile Char.isDigit)

/-- A year: up to four digits, or a sign and any number of digits. -/
def year? (cs : List Char) : Option (Int × List Char) :=
  match skipBlanks cs with
  | '-' :: rest => (anyNumber? rest).map fun (n, rest) => (-(n : Int), rest)
  | '+' :: rest => (anyNumber? rest).map fun (n, rest) => ((n : Int), rest)
  | rest => (number? 4 rest).map fun (n, rest) => ((n : Int), rest)

/-- The rest after a mark that may follow blanks. -/
def mark? (mark : Char) (cs : List Char) : Option (List Char) :=
  match skipBlanks cs with
  | c :: rest => if c = mark then some rest else none
  | [] => none

/-- The time after the mark that separates it from the date. -/
def separated? : List Char → Option (List Char)
  | 'T' :: rest => some rest
  | 't' :: rest => some rest
  | ' ' :: rest => some rest
  | _ => none

/-- A fraction of a second after a point, in nanoseconds; digits after the ninth are dropped. -/
def fraction? (cs : List Char) : Option (Nat × List Char) :=
  match cs with
  | '.' :: rest =>
    let run := rest.takeWhile Char.isDigit
    if run.isEmpty then none
    else
      let kept := run.take 9
      some (digitsValue kept * Nat.pow 10 (9 - kept.length), rest.dropWhile Char.isDigit)
  | rest => some (0, rest)

/-- Two digits with the first at most `most`. -/
def pair? (most : Char) (cs : List Char) : Option (Nat × List Char) :=
  match cs with
  | a :: b :: rest =>
    if a.isDigit && a ≤ most && b.isDigit then some (digitsValue [a, b], rest) else none
  | _ => none

/-- An offset from UTC in seconds: `Z`, `UTC`, or a sign, hours and minutes. -/
def offset? (cs : List Char) : Option (Int × List Char) :=
  match cs with
  | a :: b :: c :: rest =>
    if [a, b, c].map Char.toUpper = ['U', 'T', 'C'] then some (0, rest) else signed cs
  | _ => signed cs
where
  signed : List Char → Option (Int × List Char)
    | 'Z' :: rest => some (0, rest)
    | 'z' :: rest => some (0, rest)
    | '+' :: rest => hoursAndMinutes 1 rest
    | '-' :: rest => hoursAndMinutes (-1) rest
    | '\u2212' :: rest => hoursAndMinutes (-1) rest
    | _ => none
  hoursAndMinutes (sign : Int) (cs : List Char) : Option (Int × List Char) := do
    let (hours, cs) ← pair? '9' cs
    let (minutes, cs) ← pair? '5' (cs.dropWhile fun c => c = ':' || Text.isBlank c)
    return (sign * (hours * 3600 + minutes * 60 : Nat), cs)

/-- The instant of a local date and time of the day and an offset, if both exist. -/
def instant? (date : Calendar.Date) (hour minute second nanos : Nat) (offset : Int) :
    Option Instant :=
  if date.exists? && -262143 ≤ date.year && date.year ≤ 262142 && hour ≤ 23 && minute ≤ 59 &&
      second ≤ 60 && offset.natAbs < 86400 then
    -- A leap second is the second before it with a fraction of more than one.
    let leap := if second = 60 then 1 else 0
    Instant.at? (date.days * 86400 + ((hour * 3600 + minute * 60 + (second - leap) : Nat) : Int) - offset)
      (leap * 1000000000 + nanos)
  else none

/-- Reads a timestamp; blanks may follow it. -/
def read? (cs : List Char) : Option Instant := do
  let (year, cs) ← year? cs
  let cs ← mark? '-' cs
  let (month, cs) ← number? 2 cs
  let cs ← mark? '-' cs
  let (day, cs) ← number? 2 cs
  let cs ← separated? cs
  let (hour, cs) ← number? 2 cs
  let cs ← mark? ':' cs
  let (minute, cs) ← number? 2 cs
  let cs ← mark? ':' cs
  let (second, cs) ← number? 2 cs
  let (nanos, cs) ← fraction? cs
  let (offset, cs) ← offset? (skipBlanks cs)
  if (skipBlanks cs).isEmpty then
    instant? ⟨year, month, day⟩ hour minute second nanos offset
  else none

end SealedTokens.Rfc3339
