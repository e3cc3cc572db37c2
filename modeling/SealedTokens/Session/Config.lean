import SealedTokens.Container.Config
import SealedTokens.Http.Header
import SealedTokens.Session.Error
/-!
Session configuration: the container, the two spans of the lifetime policy, and the names under
which a token travels.
-/
namespace SealedTokens

/-- What a cookie tells the browser about requests from other sites. -/
inductive SameSitePolicy where
  /-- Nothing. -/
  | default
  | lax
  | strict
  | none
  deriving DecidableEq, Repr

instance : Registry SameSitePolicy where
  members := [.default, .lax, .strict, .none]
  name
    | .default => "default"
    | .lax => "lax"
    | .strict => "strict"
    | .none => "none"

/-- The value of the cookie attribute, if there is to be one. -/
def SameSitePolicy.attribute? : SameSitePolicy → Option String
  | default => Option.none
  | lax => some "Lax"
  | strict => some "Strict"
  | none => some "None"

structure CookieConfig where
  name : String := "_cachet"
  path : String := "/"
  domain : String := ""
  secure : Bool := true
  httpOnly : Bool := true
  sameSite : String := "default"
  deriving DecidableEq, Repr

namespace CookieConfig

def ofValue? (dialect : Dialect) (value : ConfigValue) : Option CookieConfig := do
  let text := ConfigField.read (ConfigValue.text? dialect)
  let flag := ConfigField.read (ConfigValue.flag? dialect) true
  match ← value.record? dialect [["name"], ["path"], ["domain"], ["secure"],
      ["http-only", "httponly"], ["same-site"]] with
  | [name, path, domain, secure, httpOnly, sameSite] =>
    return { name := ← text "_cachet" name, path := ← text "/" path, domain := ← text "" domain,
             secure := ← flag secure, httpOnly := ← flag httpOnly,
             sameSite := ← text "default" sameSite }
  | _ => none

/-- The policy that the configuration names. -/
def policy (c : CookieConfig) : Except SessionError SameSitePolicy :=
  match Registry.find? c.sameSite with
  | some policy => .ok policy
  | none => .error <| .configuration <|
      s!"unexpected same-site value {Text.quoted c.sameSite}, expected one of: " ++
        ", ".intercalate (Registry.legalNames SameSitePolicy)

/-- Checks that there is a name, and the policy. -/
def validate (c : CookieConfig) : Except SessionError Unit :=
  if Text.isBlankText c.name then .error (.configuration "cookie name cannot be empty")
  else c.policy.map fun _ => ()

end CookieConfig

structure SessionConfig where
  container : ContainerConfig := {}
  maxAge : Span := .ofSecs 604800
  refresh : Span := .ofSecs 10800
  cookie : CookieConfig := {}
  header : String := "Authorization"
  headerScheme : Option String := none
  deriving DecidableEq

namespace SessionConfig

def ofValue? (dialect : Dialect) (value : ConfigValue) : Option SessionConfig := do
  let defaults : SessionConfig := {}
  match ← value.record? dialect [["container"], ["max-age"], ["refresh"], ["cookie"], ["header"],
      ["header-scheme"]] with
  | [container, maxAge, refresh, cookie, header, scheme] =>
    return { container := ← ConfigField.read (ContainerConfig.ofValue? dialect) {} container
             maxAge := ← ConfigField.read (ConfigValue.span? dialect) defaults.maxAge maxAge
             refresh := ← ConfigField.read (ConfigValue.span? dialect) defaults.refresh refresh
             cookie := ← ConfigField.read (CookieConfig.ofValue? dialect) {} cookie
             header := ← ConfigField.read (ConfigValue.text? dialect) defaults.header header
             headerScheme := ← ConfigField.readOptional (ConfigValue.text? dialect) scheme }
  | _ => none

/-- The name of the request header that carries a token. -/
def headerName (c : SessionConfig) : Except SessionError String :=
  match Http.headerName? (Text.trim c.header) with
  | some name => .ok name
  | none => .error ⟨.configuration Http.invalidHeaderName,
      some s!"session header {Text.quoted c.header}"⟩

/-- Checks the spans, the header's name, that tokens are text, and the cookie. -/
def validate (c : SessionConfig) : Except SessionError Unit := do
  if c.maxAge.isZero then throw (.configuration "max-age must be greater than zero")
  if c.refresh.isZero then throw (.configuration "refresh must be greater than zero")
  discard c.headerName
  let stages ← SessionError.lift c.container.stages
  if !stages.emitsText then
    throw <| .configuration <|
      "session tokens travel in cookies and headers, the container representer cannot be nop"
  c.cookie.validate

end SessionConfig

end SealedTokens
