import SealedTokens.Http.Form
import SealedTokens.Http.Uri
/-!
Targets of anti-forgery tokens. What a token is bound to is the path with the query's pairs sorted
by name and the token's own parameter left out, so that scheme, host and order do not matter.
-/
namespace SealedTokens.CsrfTarget

open Http

def queryPairs (uri : Uri) : List FormPair :=
  match uri.target.query with
  | some query => Form.decodePairs (Bytes.ofText (String.ofList query))
  | none => []

/-- Pairs sorted by name; equal names keep their order. -/
def sorted (pairs : List FormPair) : List FormPair :=
  pairs.mergeSort fun a b => !decide (b.1 < a.1)

/-- The pairs without those of the token's parameter. -/
def otherPairs (uri : Uri) (parameter : String) : List FormPair :=
  (queryPairs uri).filter fun pair => pair.1 != parameter

/-- The path, a slash where there is none. -/
def path (uri : Uri) : List Char := if uri.path.isEmpty then ['/'] else uri.path

/-- A path with pairs as its query. -/
def withQuery (path : List Char) (pairs : List FormPair) : List Char :=
  if pairs.isEmpty then path else path ++ '?' :: Form.encodePairs pairs

/-- What a token for a target is bound to. -/
def subject (uri : Uri) (parameter : String) : String :=
  String.ofList (withQuery (path uri) (sorted (otherPairs uri parameter)))

/-- The target with a token as its parameter, in place of any it has. -/
def attach (uri : Uri) (parameter token : String) : Except UriFault Uri := do
  let pairs := sorted (otherPairs uri parameter ++ [(parameter, token)])
  uri.withTarget (← PathAndQuery.ofChars (withQuery (path uri) pairs))

def token? (uri : Uri) (parameter : String) : Option String := (queryPairs uri).lookup parameter

end SealedTokens.CsrfTarget
