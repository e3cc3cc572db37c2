import SealedTokens.Session.Basic
import SealedTokens.Session.Exchange
/-!
Transports: how a session's token travels, in a cookie or in a header. Only the cookie is written
back; a client that sends a header keeps its token itself.
-/
namespace SealedTokens

/-- Where a session's token is found and written. -/
inductive Transport where
  | cookie (config : CookieConfig) (policy : SameSitePolicy)
  | header (name : String) (scheme : Option String)

namespace Transport

/-- The cookie transport of a configuration. -/
def ofCookie (config : CookieConfig) : Except SessionError Transport := do
  return .cookie config (← config.policy)

/-- The header transport; a blank scheme is none. -/
def ofHeader (name : String) (scheme : Option String) : Transport :=
  .header name (scheme.filter (!Text.isBlankText ·))

/-- The header transport if the request has the header, the cookie transport otherwise. -/
def select (config : SessionConfig) (exchange : Exchange) : Except SessionError Transport := do
  let name ← config.headerName
  if (exchange.header? name).any (!Text.isBlankText ·) then
    return ofHeader name config.headerScheme
  ofCookie config.cookie

/-- The token in a header's value: what follows the first space, or all of it. With a scheme, only
what follows that scheme. -/
def headerToken? (scheme : Option String) (value : String) : Option String :=
  let chars := Text.trimChars value.toList
  let given := chars.takeWhile (· ≠ ' ')
  let token := match scheme, chars.dropWhile (· ≠ ' ') with
    | some scheme, _ :: token =>
      if Text.sameIgnoringCase (String.ofList given) (Text.trim scheme) then token else []
    | some _, [] => []
    | none, _ :: token => token
    | none, [] => chars
  match Text.trimChars token with
  | [] => none
  | token => some (String.ofList token)

/-- A host without its port. -/
def withoutPort (host : String) : String :=
  let chars := host.toList
  let name := chars.takeWhile (· ≠ ':')
  match chars with
  | '[' :: rest =>
    if rest.contains ']' then String.ofList ('[' :: rest.takeWhile (· ≠ ']') ++ [']'])
    else String.ofList name
  | _ => String.ofList name

/-- The domain of the session cookie: the configured one, or the host. -/
def domain? (config : CookieConfig) (exchange : Exchange) : Option String :=
  let domain :=
    if config.domain.isEmpty then (exchange.host.map withoutPort).getD ""
    else withoutPort config.domain
  if domain.isEmpty then none else some domain

def sessionCookie (config : CookieConfig) (policy : SameSitePolicy) (exchange : Exchange)
    (value : String) (maxAge : Int) (expires : Instant) : Http.SetCookie :=
  { name := config.name, value, path := config.path, domain := domain? config exchange, maxAge,
    expires, secure := config.secure, httpOnly := config.httpOnly
    sameSite := policy.attribute? }

/-- The last second of the year 9999. -/
def lastCookieSecond : Int := 253402300799

/-- The first second of the year −9999. -/
def firstCookieSecond : Int := -377705116800

/-- An instant as a cookie's expiry; cookies know the years from −9999 to 9999. -/
def expiry (t : Instant) : Except SessionError Instant :=
  if firstCookieSecond ≤ t.secs ∧ t.secs ≤ lastCookieSecond then .ok t
  else .error ⟨.internal "timestamp was not in range", some "cookie expiry"⟩

/-- The session with the state that the request brings; no session if it brings no token. -/
def load (transport : Transport) (exchange : Exchange) (session : Session) :
    Except SessionError (Option Session) :=
  match transport with
  | .cookie config _ =>
    match exchange.cookie? config.name with
    | none => .ok none
    | some c => ((session.load (Bytes.ofText c.value)).map some).mapError (·.withContext "cookie")
  | header name scheme =>
    match (exchange.header? name).bind (headerToken? scheme) with
    | none => .ok none
    | some token =>
      ((session.load (Bytes.ofText token)).map some).mapError (·.withContext s!"{name} header")

/-- The session as a cookie. -/
def cookieOf (config : CookieConfig) (policy : SameSitePolicy) (exchange : Exchange)
    (session : Session) (token : Bytes) : Except SessionError Http.SetCookie :=
  match Bytes.toText? token with
  | none => .error ⟨.internal "session token is not text, configure a text representer",
      some "cookie"⟩
  | some value => do
    let h := session.header
    return sessionCookie config policy exchange value
      (Instant.secondsBetween h.validAfter h.validBefore) (← expiry h.validBefore)

/-- Writes the session to the response. -/
def save (transport : Transport) (exchange : Exchange) (session : Session) :
    Drawing SessionError Exchange :=
  match transport with
  | .cookie config policy => do
    let token ← session.save
    match cookieOf config policy exchange session token with
    | .ok c => return exchange.setCookie c
    | .error e => throw e
  | header _ _ => return exchange

/-- Tells the client to forget the session. -/
def discard (transport : Transport) (exchange : Exchange) : Exchange :=
  match transport with
  | .cookie config policy =>
    exchange.setCookie (sessionCookie config policy exchange "" 0 .epoch)
  | header _ _ => exchange

end Transport

end SealedTokens
