import SealedTokens.Bytes
import SealedTokens.Container.Error
/-!
Randomness: one stream of bytes that every draw continues, and how many draws it answers before it
fails. A draw that fails takes nothing.
-/
namespace SealedTokens

/-- A source of random bytes: the stream, how far it has been read, how many draws were made, and
how many are answered at most. -/
structure Entropy where
  stream : Nat → UInt8
  position : Nat := 0
  draws : Nat := 0
  limit : Option Nat := none

/-- Computations that draw random bytes and may fail with an `ε`; what a failed one has drawn stays
drawn. -/
abbrev Drawing (ε : Type) := ExceptT ε (StateM Entropy)

namespace Entropy

/-- The source that repeats a byte string for ever. -/
def repeating (bytes : Bytes) : Entropy :=
  let packed := bytes.toArray
  { stream := fun i => packed.getD (i % packed.size) 0 }

/-- The next `length` bytes, unless the source has failed. -/
def draw (length : Nat) (source : Entropy) : Option Bytes × Entropy :=
  -- A draw that fails counts, but takes no bytes.
  let next := { source with draws := source.draws + 1 }
  if source.limit.any (· ≤ source.draws) then (none, next)
  else
    ((List.range length).map fun i => source.stream (source.position + i),
      { next with position := source.position + length })

def fill (length : Nat) : Drawing ContainerError Bytes := do
  match ← modifyGet (draw length) with
  | some bytes => return bytes
  | none => throw (.internal "rng unavailable")

end Entropy

end SealedTokens
