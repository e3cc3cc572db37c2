import SealedTokens.Time.Calendar
import SealedTokens.Time.Span
/-!
Instants: seconds since 1970-01-01 00:00:00 UTC and a fraction, inside the calendar's range. A
leap second is the second before it with a fraction of one second or more. A clock in UTC shows
one only at the end of a minute, but an instant may carry such a fraction after any second; its
written form then names the second that follows.
-/
namespace SealedTokens

/-- An instant of the calendar, to the nanosecond. -/
structure Instant where
  secs : Int
  nanos : Nat
  in_calendar : -8334601228800 ≤ secs ∧ secs ≤ 8210266876799
  nanos_valid : nanos < 2000000000
  deriving DecidableEq

namespace Instant

/-- The first second of the calendar, the start of the year −262143. -/
def minSecs : Int := -8334601228800

/-- The last second of the calendar, the end of the year 262142. -/
def maxSecs : Int := 8210266876799

/-- The instant of a number of seconds and nanoseconds, if the calendar has it. A leap second is
taken at the end of a minute only. -/
def at? (secs : Int) (nanos : Nat := 0) : Option Instant :=
  if h : (-8334601228800 ≤ secs ∧ secs ≤ 8210266876799) ∧
      (nanos < 1000000000 ∨ (nanos < 2000000000 ∧ secs % 60 = 59)) then
    some ⟨secs, nanos, h.1, by omega⟩
  else none

def epoch : Instant := ⟨0, 0, by decide, by decide⟩

instance : Inhabited Instant := ⟨epoch⟩

/-- A clock in UTC shows the instant: the fraction is below a second, or the instant lies in the
leap second of a minute. -/
def OnClock (t : Instant) : Prop := t.nanos < 1000000000 ∨ t.secs % 60 = 59

instance (t : Instant) : Decidable t.OnClock := inferInstanceAs (Decidable (_ ∨ _))

/-- The instant that the written form of `t` names: `t` itself if a clock shows it, and otherwise
the second that follows with what is left of the fraction. -/
def shown (t : Instant) : Instant :=
  if h : t.OnClock then t
  else
    -- The calendar ends with the second 59 of a minute, so that it has this second.
    ⟨t.secs + 1, t.nanos - 1000000000,
      by have := t.in_calendar; simp only [OnClock] at h; omega,
      by have := t.nanos_valid; omega⟩

/-- Earlier: by the second, then by the fraction. -/
def before (a b : Instant) : Bool := a.secs < b.secs || (a.secs == b.secs && a.nanos < b.nanos)

instance : LT Instant := ⟨fun a b => a.before b = true⟩
instance : LE Instant := ⟨fun a b => b.before a = false⟩

instance (a b : Instant) : Decidable (a < b) := inferInstanceAs (Decidable (_ = _))
instance (a b : Instant) : Decidable (a ≤ b) := inferInstanceAs (Decidable (_ = _))

/-- The instant without its fraction. -/
def wholeSeconds (t : Instant) : Instant :=
  ⟨t.secs, 0, t.in_calendar, by decide⟩

/-- The instant a span later, if the calendar has it. Inside a leap second only the fraction
advances; a span that leads out of it counts from the second that the leap second extends. -/
def add? (t : Instant) (span : Span) : Option Instant :=
  if h : t.nanos ≥ 1000000000 ∧ span.secs = 0 ∧ t.nanos + span.nanos < 2000000000 then
    some ⟨t.secs, t.nanos + span.nanos, t.in_calendar, h.2.2⟩
  else
    let nanos := t.nanos % 1000000000 + span.nanos
    at? (t.secs + span.secs + (nanos / 1000000000 : Nat)) (nanos % 1000000000)

/-- The whole seconds from `a` to `b`, rounded toward zero. A leap second that lies between two
times of the day counts as a second of its own. -/
def secondsBetween (a b : Instant) : Int :=
  let days := b.secs / 86400 - a.secs / 86400
  let from' := a.secs % 86400
  let to' := b.secs % 86400
  let leap : Int :=
    if to' > from' && a.nanos ≥ 1000000000 then 1
    else if to' < from' && b.nanos ≥ 1000000000 then -1
    else 0
  let nanos : Int := (days * 86400 + (to' - from') + leap) * 1000000000 + (b.nanos - a.nanos : Int)
  Int.tdiv nanos 1000000000

def date (t : Instant) : Calendar.Date := Calendar.Date.ofDays (t.secs / 86400)

/-- The second of the day, from 0. -/
def secondOfDay (t : Instant) : Nat := (t.secs % 86400).toNat

/-- Exactly `width` decimal digits of `n`. -/
def digits : (width n : Nat) → List Char
  | 0, _ => []
  | width + 1, n => digits width (n / 10) ++ [Nat.digitChar (n % 10)]

/-- A year: four digits, or a sign and at least four digits outside 0 to 9999. -/
def yearChars (year : Int) : List Char :=
  if 0 ≤ year ∧ year ≤ 9999 then digits 4 year.toNat
  else
    let sign := if year < 0 then '-' else '+'
    let n := year.natAbs
    sign :: (if n < 10000 then digits 4 n else Nat.toDigits 10 n)

/-- The fraction of a second with 3, 6 or 9 digits, or nothing when it is zero. -/
def fractionChars (nanos : Nat) : List Char :=
  if nanos = 0 then []
  else if nanos % 1000000 = 0 then '.' :: digits 3 (nanos / 1000000)
  else if nanos % 1000 = 0 then '.' :: digits 6 (nanos / 1000)
  else '.' :: digits 9 nanos

/-- The date as year, month and day. -/
def dateChars (t : Instant) : List Char :=
  yearChars t.date.year ++ '-' :: digits 2 t.date.month ++ '-' :: digits 2 t.date.day

/-- The time of the day with its fraction; a leap second is second 60. -/
def timeChars (t : Instant) : List Char :=
  let s := t.secondOfDay
  let second := s % 60 + t.nanos / 1000000000
  digits 2 (s / 3600) ++ ':' :: digits 2 (s / 60 % 60) ++ ':' :: digits 2 second ++
    fractionChars (t.nanos % 1000000000)

/-- The instant as it appears in messages. -/
def text (t : Instant) : String :=
  String.ofList (t.dateChars ++ ' ' :: t.timeChars ++ " UTC".toList)

instance : ToString Instant := ⟨text⟩

end Instant

end SealedTokens
