import SealedTokens.Base64
/-!
PEM texts: a label and base64 lines between two boundaries. Only lines before the first boundary
may hold anything else, all lines but the last have one width, and at most one line end follows.
-/
namespace SealedTokens.Crypto.Pem

/-- How long the lines of a text may be. -/
inductive LineWidth where
  /-- 64 symbols. -/
  | standard
  /-- As long as the first. -/
  | asFirst
  deriving DecidableEq, Repr

/-- What a first boundary starts with, what a last one starts with, and how both end. -/
def opening : Bytes := Bytes.ofAscii "-----BEGIN "
def closing : Bytes := Bytes.ofAscii "-----END "
def dashes : Bytes := Bytes.ofAscii "-----"

/-- What is left after one line end at the front. -/
def lineEnd? : Bytes → Option Bytes
  | 13 :: 10 :: rest => some rest
  | 13 :: rest => some rest
  | 10 :: rest => some rest
  | _ => none

/-- A byte string without one line end at its end. -/
def dropLineEnd (text : Bytes) : Bytes :=
  match text.reverse with
  | 10 :: 13 :: rest => rest.reverse
  | 10 :: rest => rest.reverse
  | 13 :: rest => rest.reverse
  | _ => text

/-- What is left from the first boundary that starts a line. -/
def fromBoundary? : Bytes → Option Bytes
  | [] => none
  | b :: rest =>
    if b = 0 then none
    else if b = 10 && opening.isPrefixOf rest then some rest
    else fromBoundary? rest

/-- The part before a suffix. -/
def before? (suffix text : Bytes) : Option Bytes :=
  if suffix.isSuffixOf text then some (text.take (text.length - suffix.length)) else none

/-- Joins lines of `width` symbols, the last of which may be shorter. -/
def joinLines (width : Nat) : (fuel : Nat) → Bytes → (done : Bytes) → Option Bytes
  | 0, _, _ => none
  | fuel + 1, text, done =>
    if text.length ≤ width then some (done ++ dropLineEnd text)
    else
      match lineEnd? (text.drop width) with
      | some rest => joinLines width fuel rest (done ++ text.take width)
      | none => none

/-- The symbols of the first line. -/
def firstLine (text : Bytes) : Bytes := text.takeWhile fun b => b != 10 && b != 13

/-- The label and the content of a text. -/
def parse? (width : LineWidth) (text : Bytes) : Option (Bytes × Bytes) := do
  let text ← if opening.isPrefixOf text then some text else fromBoundary? text
  let text := text.drop opening.length
  let label := text.takeWhile (· != 45)
  let body := text.drop label.length
  if !dashes.isPrefixOf body then none
  let body ← lineEnd? (body.drop dashes.length)
  let body ← before? (closing ++ label ++ dashes) (dropLineEnd body)
  let body := dropLineEnd body
  let width := match width with
    | .standard => 64
    | .asFirst => max 1 (firstLine body).length
  match Base64.decode Base64.standard (← joinLines width (body.length + 1) body []) with
  | .ok content => return (label, content)
  | .error _ => none

end SealedTokens.Crypto.Pem
