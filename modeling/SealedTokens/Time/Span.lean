/-!
Spans of time: a whole number of seconds and a fraction in nanoseconds, never negative.
-/
namespace SealedTokens

/-- A length of time of `secs` seconds and `nanos` nanoseconds. -/
structure Span where
  secs : Nat
  nanos : Nat := 0
  nanos_lt : nanos < 1000000000 := by decide
  deriving DecidableEq

namespace Span

def maxSecs : Nat := Nat.pow 2 64 - 1

/-- The span of a number of seconds. -/
def ofSecs (n : Nat) : Span := ⟨n, 0, by decide⟩

/-- The span of whole seconds and the part of a number of nanoseconds that is below a second. -/
def ofParts (secs nanos : Nat) : Span := ⟨secs, nanos % 1000000000, Nat.mod_lt _ (by decide)⟩

/-- The span of a number of nanoseconds. -/
def ofNanos (n : Nat) : Span := ofParts (n / 1000000000) n

def toNanos (span : Span) : Nat := span.secs * 1000000000 + span.nanos

/-- Longer: by the seconds, then by the fraction. -/
def exceeds (a b : Span) : Bool := b.secs < a.secs || (b.secs == a.secs && b.nanos < a.nanos)

def isZero (span : Span) : Bool := span.secs == 0 && span.nanos == 0

instance : Inhabited Span := ⟨ofSecs 0⟩

/-- A number with leading zeros up to nine digits, without its last zeros. -/
def fractionDigits (width n : Nat) : List Char :=
  let digits := Nat.toDigits 10 n
  let padded := List.replicate (width - digits.length) '0' ++ digits
  (padded.reverse.dropWhile (· == '0')).reverse

/-- A whole part, a fraction of `width` digits without last zeros, and a unit. -/
def decimalText (whole fraction width : Nat) (unit : String) : String :=
  let tail := fractionDigits width fraction
  let point := if tail.isEmpty then "" else "." ++ String.ofList tail
  toString whole ++ point ++ unit

/-- The span in the largest of the units `s`, `ms`, `µs` and `ns` in which it is not below one,
with as many decimals as it needs. -/
def text (span : Span) : String :=
  if span.secs > 0 then decimalText span.secs span.nanos 9 "s"
  else if span.nanos ≥ 1000000 then
    decimalText (span.nanos / 1000000) (span.nanos % 1000000) 6 "ms"
  else if span.nanos ≥ 1000 then
    decimalText (span.nanos / 1000) (span.nanos % 1000) 3 "µs"
  else toString span.nanos ++ "ns"

theorem exceeds_iff {a b : Span} : a.exceeds b = true ↔ b.toNanos < a.toNanos := by
  have fractionA := a.nanos_lt
  have fractionB := b.nanos_lt
  simp only [exceeds, toNanos, Bool.or_eq_true, Bool.and_eq_true, decide_eq_true_eq, beq_iff_eq]
  omega

theorem toNanos_ofNanos (n : Nat) : (ofNanos n).toNanos = n := by
  simp only [ofNanos, ofParts, toNanos]
  omega

end Span

end SealedTokens
