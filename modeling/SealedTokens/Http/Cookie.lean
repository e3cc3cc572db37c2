import SealedTokens.Http.Percent
import SealedTokens.Text.Blank
import SealedTokens.Time.Instant
/-!
Cookies: the name and value that a request brings, and the line with attributes that a response
sets.
-/
namespace SealedTokens.Http

structure Cookie where
  name : String
  value : String
  deriving DecidableEq, Repr

namespace Cookie

/-- The text that a percent-encoded one stands for, if it is valid UTF-8. -/
def decoded? (text : List Char) : Option String :=
  Bytes.toText? (percentDecode (Bytes.ofText (String.ofList text)))

/-- The cookie that a piece of a header stands for: a name that is not empty, an equals sign and a
value, both encoded. -/
def ofPiece? (piece : List Char) : Option Cookie :=
  let name := Text.trimChars (piece.takeWhile (· ≠ '='))
  match piece.dropWhile (· ≠ '=') with
  | [] => none
  | _ :: value =>
    if name.isEmpty then none
    else return ⟨← decoded? name, ← decoded? (Text.trimChars value)⟩

/-- The cookies of a header's value; pieces that are none are passed over. -/
def ofHeader (value : String) : List Cookie := (value.toList.splitOn ';').filterMap ofPiece?

end Cookie

structure SetCookie where
  name : String
  value : String
  path : String
  domain : Option String
  /-- In seconds. -/
  maxAge : Int
  expires : Instant
  secure : Bool
  httpOnly : Bool
  sameSite : Option String
  deriving DecidableEq

namespace SetCookie

/-- The three letters of a day of the week, from Sunday. -/
def dayName (weekday : Nat) : String :=
  ["Sun", "Mon", "Tue", "Wed", "Thu", "Fri", "Sat"].getD weekday ""

/-- The three letters of a month. -/
def monthName (month : Nat) : String :=
  ["Jan", "Feb", "Mar", "Apr", "May", "Jun", "Jul", "Aug", "Sep", "Oct", "Nov", "Dec"].getD
    (month - 1) ""

/-- An instant as cookies write it, with the year as short as it is. -/
def dateText (t : Instant) : String :=
  let two (n : Nat) : String := String.ofList (Instant.digits 2 n)
  let s := t.secondOfDay
  s!"{dayName (Calendar.weekday (t.secs / 86400))}, {two t.date.day} {monthName t.date.month} " ++
    s!"{t.date.year} {two (s / 3600)}:{two (s / 60 % 60)}:{two (s % 60)} GMT"

/-- A domain without the dot in front that older rules asked for. -/
def bareDomain (domain : String) : String :=
  match domain.toList with
  | '.' :: rest => String.ofList rest
  | _ => domain

/-- The attributes in their order. -/
def attributes (c : SetCookie) : List String :=
  (if c.httpOnly then ["HttpOnly"] else []) ++
    (c.sameSite.map fun s => s!"SameSite={s}").toList ++
    (if c.secure then ["Secure"] else []) ++
    [s!"Path={c.path}"] ++
    (c.domain.map fun d => s!"Domain={bareDomain d}").toList ++
    [s!"Max-Age={c.maxAge}", s!"Expires={dateText c.expires}"]

/-- The value of the header that sets the cookie. -/
def line (c : SetCookie) : String := "; ".intercalate (s!"{c.name}={c.value}" :: c.attributes)

end SetCookie

end SealedTokens.Http
