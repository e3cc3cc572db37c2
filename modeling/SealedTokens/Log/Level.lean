import SealedTokens.Text.Blank
/-!
Log levels, from nothing at all to everything.
-/
namespace SealedTokens.Log

inductive Level where
  | trace
  | debug
  | info
  | warn
  | error
  | off
  deriving DecidableEq, Repr

namespace Level

/-- All levels, the most talkative first. -/
def all : List Level := [trace, debug, info, warn, error, off]

def name : Level → String
  | trace => "trace"
  | debug => "debug"
  | info => "info"
  | warn => "warn"
  | error => "error"
  | off => "off"

/-- How much a level lets through; nothing at zero. -/
def rank : Level → Nat
  | off => 0
  | error => 1
  | warn => 2
  | info => 3
  | debug => 4
  | trace => 5

/-- Whether what is logged at `event` passes at this level. -/
def admits (level event : Level) : Bool := event.rank ≤ level.rank

/-- The level of a name, whatever its case. -/
def ofName? (name : String) : Option Level :=
  all.find? fun level => Text.sameIgnoringCase level.name name

/-- The number that a run of digits stands for; a plus may stand in front. -/
def digits? (text : String) : Option Nat :=
  let digits := match text.toList with
    | '+' :: rest => rest
    | rest => rest
  if digits.isEmpty || !digits.all Char.isDigit then none
  else some (digits.foldl (fun n c => n * 10 + (c.toNat - 48)) 0)

/-- The level that a filter names, also by its number; nothing at all stands for errors. -/
def ofFilter? (text : String) : Option Level :=
  match digits? text with
  | some n => all.find? fun level => level.rank == n
  | none => if text.isEmpty then some error else ofName? text

end Level

end SealedTokens.Log
