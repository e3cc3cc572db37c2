import SealedTokens.Http.Uri
/-!
Prefixes under which services are mounted. A prefix and a path are compared segment by segment; a
segment of the prefix in braces is a capture, which stands for any segment that is not empty, and a
prefix may end in a slash.
-/
namespace SealedTokens.Http.Mount

/-- The segments of a path, each after a slash. -/
def segments (path : List Char) : List (List Char) := (path.splitOn '/').tail

/-- A path of segments; the slash in front of the first is left out if the first is empty and
others follow. -/
def pathOf (segments : List (List Char)) : List Char :=
  let rest := ['/'].intercalate segments
  if rest.head? = some '/' then rest else '/' :: rest

def isCapture (segment : List Char) : Bool :=
  segment.head? = some '\x7b' && segment.getLast? = some '\x7d' &&
    !List.isPrefixOf ['\x7b', '\x7b'] segment && !List.isSuffixOf ['\x7d', '\x7d'] segment

/-- Whether the router leads a path to what is mounted: the path is the prefix, or goes on after the
prefix and a slash. A slash at the end of the prefix is this slash. -/
def leads : (mount path : List (List Char)) → Bool
  | [], path => path != [[]]
  | [[]], path => !path.isEmpty
  | _ :: _, [] => false
  | segment :: mount, part :: path =>
    (if isCapture segment then !part.isEmpty else part == segment) && leads mount path

/-- The segments that are left when those of the prefix are taken off, unless the two differ. -/
def strip? : (mount path : List (List Char)) → Option (List (List Char))
  | [], path => some path
  | _ :: _, [] => none
  | segment :: mount, part :: path =>
    if isCapture segment || part = segment then strip? mount path
    -- The slash at the end of a prefix is in front of what is left.
    else if segment.isEmpty then some (part :: path)
    else none

/-- What a service mounted under `mount` sees of a path, if the router leads there. A path from
which the prefix cannot be taken off is passed on whole. -/
def below? (mount path : List Char) : Option (List Char) :=
  if leads (segments mount) (segments path) then
    some (((strip? (segments mount) (segments path)).map pathOf).getD path)
  else none

example : below? "/app".toList "/app/form".toList = some "/form".toList := by decide
example : below? "/\x7btenant\x7d".toList "/acme/form".toList = some "/form".toList := by decide
example : below? "/app/".toList "/app".toList = none := by decide

end SealedTokens.Http.Mount
