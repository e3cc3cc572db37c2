import SealedTokens.Container.Error
/-!
Headers: the version, the nonce and the window of a container. A window holds strictly between its
two ends.
-/
namespace SealedTokens

/-- What every container carries beside its payload. -/
structure Header where
  version : UInt32
  nonce : UInt64
  validAfter : Instant
  validBefore : Instant
  deriving DecidableEq

/-- The longest span the calendar can be moved by: the milliseconds of a 64-bit number. -/
def longestShift : Span := ⟨9223372036854775, 807000000, by decide⟩

/-- The end of a window that starts at `start` and lasts for `ttl`. -/
def windowEnd (start : Instant) (ttl : Span) : Except ContainerError Instant :=
  let outOfRange := ContainerError.configuration s!"ttl {ttl.text} is out of range"
  -- A longer span is refused even where the calendar would have room for it.
  if ttl.exceeds longestShift then .error outOfRange
  else match start.add? ttl with
    | some stop => .ok stop
    | none => .error outOfRange

namespace Header

def currentVersion : UInt32 := 2

/-- A header of the current version and nonce zero whose window starts at `start`. -/
def create (start : Instant) (ttl : Span) : Except ContainerError Header := do
  return ⟨currentVersion, 0, start, ← windowEnd start ttl⟩

/-- Checks the version, then that `now` lies strictly inside the window. -/
def validate (h : Header) (now : Instant) : Except ContainerError Unit :=
  if h.version ≠ currentVersion then .error ⟨.incompatible h.version currentVersion, none⟩
  else if now ≤ h.validAfter then .error ⟨.notYetValid h.validAfter, none⟩
  else if h.validBefore ≤ now then .error ⟨.expired h.validBefore, none⟩
  else .ok ()

/-- Sets the nonce, or adds one to it when `nonce` is zero. -/
def touch (h : Header) (nonce : UInt64) : Header :=
  { h with nonce := if nonce = 0 then h.nonce + 1 else nonce }

/-- Adds one to the nonce and replaces the window. -/
def refresh (h : Header) (validAfter validBefore : Instant) : Header :=
  { h with nonce := h.nonce + 1, validAfter, validBefore }

end Header

end SealedTokens
