import SealedTokens.Bytes
/-!
Plans: how a text splits into literals and copies of what precedes them. A plan says only where the
copies are; that each of them agrees with the text is `Plan.Fits`.
-/
namespace SealedTokens.Lz4

/-- A run of `literals` bytes taken as they are, then `length` bytes that repeat those `offset`
back. -/
structure Step where
  literals : Nat
  offset : Nat
  length : Nat
  deriving DecidableEq, Repr

/-- Steps in order; what follows the last one is literal. -/
abbrev Plan := List Step

/-- The least length of a copy. -/
def minMatch : Nat := 4

/-- Whether the copies of a plan that starts at `pos` agree with the text and lie inside it. -/
def Plan.Fits (text : Bytes) : (pos : Nat) → Plan → Prop
  | pos, [] => pos ≤ text.length
  | pos, step :: rest =>
    let start := pos + step.literals
    1 ≤ step.offset ∧ step.offset ≤ start ∧ step.offset ≤ 65535 ∧ minMatch ≤ step.length ∧
      (∀ i, i < step.length → text[start + i]? = text[start + i - step.offset]?) ∧
      Plan.Fits text (start + step.length) rest

end SealedTokens.Lz4
