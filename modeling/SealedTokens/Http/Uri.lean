/-!
Request targets: scheme, authority, path and query, as RFC 3986 names them. A target is absolute,
or a path, or an authority alone, or the asterisk; its fragment is dropped.
-/
namespace SealedTokens.Http

inductive UriFault where
  | empty
  | tooLong
  | invalidCharacter
  | invalidAuthority
  | invalidFormat
  | schemeTooLong
  | schemeMissing
  | pathWithoutSlash
  deriving DecidableEq, Repr

def UriFault.message : UriFault → String
  | empty => "empty string"
  | tooLong => "uri too long"
  | invalidCharacter => "invalid uri character"
  | invalidAuthority => "invalid authority"
  | invalidFormat => "invalid format"
  | schemeTooLong => "scheme too long"
  | schemeMissing => "scheme missing"
  | pathWithoutSlash => "path does not start with slash"

structure PathAndQuery where
  path : List Char := []
  query : Option (List Char) := none
  deriving DecidableEq, Repr

/-- A target. Without an authority the authority is empty. -/
structure Uri where
  scheme : Option (List Char) := none
  authority : List Char := []
  target : PathAndQuery := {}
  deriving DecidableEq, Repr

namespace Uri

def isSchemeChar (c : Char) : Bool := c.isAlphanum || ['+', '-', '.', '~'].contains c

def isAuthorityChar (c : Char) : Bool :=
  c.isAlphanum || "!$&'()*+,-.:;=@[]_~".toList.contains c

def endsAuthority (c : Char) : Bool := c = '/' || c = '?' || c = '#'

/-- Whether a character may stand in a path. Quotes and braces should be encoded, but are let
through. -/
def isPathChar (c : Char) : Bool :=
  let n := c.toNat
  n = 0x21 || (0x24 ≤ n && n ≤ 0x3B) || n = 0x3D || (0x40 ≤ n && n ≤ 0x5F) ||
    (0x61 ≤ n && n ≤ 0x7A) || n = 0x7C || 0x7E ≤ n || c = '"' || c = '\x7b' || c = '\x7d'

def isQueryChar (c : Char) : Bool :=
  let n := c.toNat
  n = 0x21 || (0x24 ≤ n && n ≤ 0x3B) || n = 0x3D || 0x3F ≤ n

end Uri

namespace PathAndQuery

/-- Reads a path and a query; the part from the number sign on is dropped. -/
def ofChars (text : List Char) : Except UriFault PathAndQuery := do
  let kept := text.takeWhile (· ≠ '#')
  let path := kept.takeWhile (· ≠ '?')
  if !path.all Uri.isPathChar then throw .invalidCharacter
  if kept ≠ ['*'] && path.head?.any (· ≠ '/') then throw .pathWithoutSlash
  match kept.dropWhile (· ≠ '?') with
  | [] => return ⟨path, none⟩
  | _ :: query =>
    if query.all Uri.isQueryChar then return ⟨path, some query⟩ else throw .invalidCharacter

def queryText (t : PathAndQuery) : List Char :=
  match t.query with
  | some query => '?' :: query
  | none => []

end PathAndQuery

namespace Uri

/-- What has been seen of an authority: colons and percent signs since the last at-sign or closing
bracket, and the brackets. -/
structure AuthorityScan where
  colons : Nat := 0
  opened : Bool := false
  closed : Bool := false
  percent : Bool := false

/-- Reads one character of an authority. -/
def AuthorityScan.read (s : AuthorityScan) (c : Char) : Except UriFault AuthorityScan :=
  if c = ':' then
    if s.colons ≥ 8 then .error .invalidAuthority else .ok { s with colons := s.colons + 1 }
  else if c = '[' then
    if s.percent || s.opened then .error .invalidAuthority else .ok { s with opened := true }
  else if c = ']' then
    if !s.opened || s.closed then .error .invalidAuthority
    else .ok { s with closed := true, colons := 0, percent := false }
  else if c = '@' then .ok { s with colons := 0, percent := false }
  else if c = '%' then .ok { s with percent := true }
  else if isAuthorityChar c then .ok s
  else .error .invalidCharacter

/-- Checks an authority: brackets in a pair, one colon at most for the port, something after an
at-sign, and no percent sign in the host. -/
def checkAuthority (authority : List Char) : Except UriFault Unit := do
  let s ← authority.foldlM AuthorityScan.read {}
  if s.opened != s.closed || s.colons > 1 || authority.getLast? == some '@' || s.percent then
    throw .invalidAuthority

/-- The scheme in front of two slashes, and what follows them. -/
def splitScheme (text : List Char) : Except UriFault (Option (List Char) × List Char) :=
  let lower := text.map Char.toLower
  if "http://".toList.isPrefixOf lower then .ok (some "http".toList, text.drop 7)
  else if "https://".toList.isPrefixOf lower then .ok (some "https".toList, text.drop 8)
  else
    let scheme := text.takeWhile isSchemeChar
    match text.dropWhile isSchemeChar with
    | ':' :: '/' :: '/' :: rest =>
      if scheme.isEmpty && rest.isEmpty then .ok (none, text)
      else if scheme.length > 64 then .error .schemeTooLong
      else .ok (some scheme, rest)
    | _ => .ok (none, text)

/-- A target that does not start with a slash: an absolute one, or an authority alone. -/
def ofFullChars (text : List Char) : Except UriFault Uri := do
  let (scheme, rest) ← splitScheme text
  let authority := rest.takeWhile fun c => !endsAuthority c
  let after := rest.dropWhile fun c => !endsAuthority c
  checkAuthority authority
  match scheme with
  | none => if after.isEmpty then return { authority } else throw .invalidFormat
  | some scheme =>
    if authority.isEmpty then throw .invalidFormat
    return { scheme := some scheme, authority, target := ← PathAndQuery.ofChars after }

def ofText (text : String) : Except UriFault Uri :=
  if text.utf8ByteSize > 65534 then .error .tooLong
  else match text.toList with
    | [] => .error .empty
    | ['*'] => .ok { target := ⟨['*'], none⟩ }
    | ['?'] | ['#'] => .error .invalidCharacter
    | '/' :: rest => (PathAndQuery.ofChars ('/' :: rest)).map fun target => { target }
    | text => ofFullChars text

/-- The path: a slash where an absolute target has none, nothing beside an authority alone. -/
def path (uri : Uri) : List Char :=
  if uri.target.path.isEmpty && (uri.scheme.isSome || uri.target.query.isSome) then ['/']
  else uri.target.path

def authority? (uri : Uri) : Option String :=
  if uri.authority.isEmpty then none else some (String.ofList uri.authority)

def text (uri : Uri) : String :=
  let scheme := match uri.scheme with
    | some scheme => scheme ++ "://".toList
    | none => []
  String.ofList (scheme ++ uri.authority ++ uri.path ++ uri.target.queryText)

/-- The target with another path and query; an authority needs a scheme then. -/
def withTarget (uri : Uri) (target : PathAndQuery) : Except UriFault Uri :=
  if uri.scheme.isNone && !uri.authority.isEmpty then .error .schemeMissing
  else .ok { uri with target }

end Uri

end SealedTokens.Http
