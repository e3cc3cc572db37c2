import SealedTokens.Bytes
/-!
IP addresses: four bytes in decimal, or eight groups of sixteen bits in hexadecimal, of which one
run of zeros may be left out and the last two may be written as four bytes.
-/
namespace SealedTokens.Http

/-- An address of four bytes or of eight groups. -/
inductive IpAddress where
  | v4 (a b c d : UInt8)
  | v6 (groups : List UInt16)
  deriving DecidableEq, Repr

namespace IpAddress

/-- The value of a digit in a base up to sixteen. -/
def digit? (base : Nat) (c : Char) : Option Nat :=
  let n :=
    if c.isDigit then c.toNat - 48
    else if 'a' ≤ c ∧ c ≤ 'f' then c.toNat - 87
    else if 'A' ≤ c ∧ c ≤ 'F' then c.toNat - 55
    else base
  if n < base then some n else none

/-- A number of one digit up to `width` digits, and the rest. -/
def number? (base width : Nat) (text : List Char) : Option (Nat × List Char) :=
  let digits := text.takeWhile fun c => (digit? base c).isSome
  if digits.isEmpty || digits.length > width then none
  else some (digits.foldl (fun n c => n * base + (digit? base c).getD 0) 0, text.drop digits.length)

/-- A byte in decimal, without leading zeros. -/
def octet? (text : List Char) : Option (UInt8 × List Char) := do
  let (n, rest) ← number? 10 3 text
  if n > 255 || (text.head? == some '0' && text.length - rest.length > 1) then none
  else return (UInt8.ofNat n, rest)

/-- The rest after a mark. -/
def after? (mark : Char) : List Char → Option (List Char)
  | c :: rest => if c = mark then some rest else none
  | [] => none

/-- Four bytes, and the rest. -/
def readV4? (text : List Char) : Option (IpAddress × List Char) := do
  let (a, rest) ← octet? text
  let (b, rest) ← octet? (← after? '.' rest)
  let (c, rest) ← octet? (← after? '.' rest)
  let (d, rest) ← octet? (← after? '.' rest)
  return (.v4 a b c d, rest)

/-- Two bytes as a group. -/
def group (high low : UInt8) : UInt16 := UInt16.ofNat (high.toNat * 256 + low.toNat)

/-- Groups joined by colons, `room` of them at most: the groups, whether the last two came as four
bytes, and the rest. -/
def readGroups : (room : Nat) → (first : Bool) → List Char → List UInt16 × Bool × List Char
  | 0, _, text => ([], false, text)
  | room + 1, first, text =>
    match if first then some text else after? ':' text with
    | none => ([], false, text)
    | some inner =>
      match if room > 0 then readV4? inner else none with
      | some (.v4 a b c d, rest) => ([group a b, group c d], true, rest)
      | _ =>
        match number? 16 4 inner with
        | none => ([], false, text)
        | some (n, rest) =>
          let (groups, mixed, rest) := readGroups room false rest
          (UInt16.ofNat n :: groups, mixed, rest)

/-- Eight groups, and the rest; two colons stand for one run of zeros. -/
def readV6? (text : List Char) : Option (IpAddress × List Char) := do
  let (head, mixed, rest) := readGroups 8 true text
  if head.length = 8 then return (.v6 head, rest)
  if mixed then none
  let rest ← after? ':' (← after? ':' rest)
  let (tail, _, rest) := readGroups (7 - head.length) true rest
  return (.v6 (head ++ List.replicate (8 - head.length - tail.length) 0 ++ tail), rest)

def ofText? (text : String) : Option IpAddress :=
  match (readV4? text.toList).or (readV6? text.toList) with
  | some (address, []) => some address
  | _ => none

/-- A run of zeros: where it starts, and its length. -/
structure ZeroRun where
  start : Nat := 0
  length : Nat := 0

/-- The longest run of zeros, the first of equal ones; `current` ends before `index`. -/
def longestRun : (index : Nat) → (current longest : ZeroRun) → List UInt16 → ZeroRun
  | _, _, longest, [] => longest
  | index, current, longest, g :: rest =>
    if g = 0 then
      let current :=
        if current.length = 0 then ⟨index, 1⟩ else { current with length := current.length + 1 }
      let longest := if current.length > longest.length then current else longest
      longestRun (index + 1) current longest rest
    else longestRun (index + 1) {} longest rest

/-- Groups in hexadecimal with colons between them. -/
def groupsText (groups : List UInt16) : String :=
  ":".intercalate (groups.map fun g => String.ofList (Nat.toDigits 16 g.toNat))

/-- Four bytes in decimal with points between them. -/
def octetsText (a b c d : UInt8) : String := s!"{a.toNat}.{b.toNat}.{c.toNat}.{d.toNat}"

/-- The high and the low byte of a group. -/
def halves (g : UInt16) : UInt8 × UInt8 := (UInt8.ofNat (g.toNat / 256), UInt8.ofNat (g.toNat % 256))

/-- An address as text: a mapped one with its four bytes, the longest run of two or more zeros left
out of any other. -/
def text : IpAddress → String
  | v4 a b c d => octetsText a b c d
  | v6 [0, 0, 0, 0, 0, 0xFFFF, g, h] =>
    s!"::ffff:{octetsText (halves g).1 (halves g).2 (halves h).1 (halves h).2}"
  | v6 groups =>
    let run := longestRun 0 {} {} groups
    if run.length > 1 then
      groupsText (groups.take run.start) ++ "::" ++ groupsText (groups.drop (run.start + run.length))
    else groupsText groups

end IpAddress

end SealedTokens.Http
