import SealedTokens.Container.Registry
import SealedTokens.Json.Shape
/-!
JOSE headers: the first part of a signed token, which names the algorithm. Reading the full header
checks the type of every registered member and takes all others for texts; reading the bare header
looks at the algorithm only.
-/
namespace SealedTokens.Jose

/-- The header of the tokens that are issued. -/
def text (algorithm : SignatureAlgorithm) : Bytes :=
  Bytes.ofAscii s!"\x7b\"typ\":\"JWT\",\"alg\":\"{Registry.name algorithm}\"\x7d"

def isText (json : Json) : Bool := json.string?.isSome

/-- Whether a value is null or passes a test. -/
def nullOr (test : Json → Bool) : Json → Bool
  | .null => true
  | json => test json

def isTextList : Json → Bool
  | .list items => items.all isText
  | _ => false

/-- The name that a value chooses: a text, or an object with null under the name. -/
def chosenName? : Json → Option String
  | .object [(name, .null)] => Json.text? name
  | json => json.string?

/-- Whether a value names an algorithm of a key, which may be an unknown one. -/
def isKeyAlgorithm : Json → Bool
  | .object [(_, .object [])] => true
  | json => (chosenName? json).isSome

/-- The members that a key of any type may have, with the test that each has to pass. -/
def keyMembers : List (String × (Json → Bool)) :=
  ["use", "kid", "x5u", "x5t", "x5t#S256"].map (·, isText) ++
    ["key_ops", "x5c"].map (·, isTextList) ++ [("alg", isKeyAlgorithm)]

def curves : List String := ["P-256", "P-384", "P-521", "Ed25519"]

/-- The types of keys: whether the key lies on a curve, and the texts it needs. -/
def keyTypes : List (String × Bool × List String) :=
  [("EC", true, ["x", "y"]), ("RSA", false, ["n", "e"]), ("oct", false, ["k"]),
    ("OKP", true, ["x"])]

/-- The levels of lists and objects that a key in a header may have. -/
def keyDepth : Nat := 126

/-- Whether a value is an embedded key: every member that all keys share is null or of its type,
and the members that one of the key types needs are there. None of these may be there twice. -/
def isKey (json : Json) : Bool :=
  match json.members? with
  | none => false
  | some members =>
    let needs (name : String) (test : Json → Bool) : Bool :=
      ((Json.member? name members).bind id).any test
    let allows (name : String) (test : Json → Bool) : Bool :=
      (Json.member? name members).any fun value => value.all (nullOr test)
    json.isReadable keyDepth && keyMembers.all (fun (name, test) => allows name test) &&
      keyTypes.any fun (type, onCurve, texts) =>
        needs "kty" (fun value => chosenName? value == some type) &&
          (!onCurve || needs "crv" fun value => (chosenName? value).any curves.contains) &&
          texts.all (needs · isText)

/-- The registered members beside the algorithm, with the test that each has to pass. -/
def registered : List (String × (Json → Bool)) :=
  ["typ", "cty", "jku", "kid", "x5u", "x5t", "x5t#S256", "url", "nonce", "enc", "zip"].map
      (·, nullOr isText) ++
    [("jwk", nullOr isKey), ("x5c", nullOr isTextList), ("crit", nullOr isTextList)]

/-- The algorithm of a full header. ES512 is none of its algorithms. -/
def fullAlgorithm? (json : Json) : Option SignatureAlgorithm := do
  let members ← json.members?
  let name ← chosenName? (← (← Json.member? "alg" members))
  let fits := members.all fun (key, value) =>
    key == "alg" ||
      -- A registered member may not be there twice. Any other has to be a text.
      match registered.lookup key with
      | some test => test value && (members.filter fun m => m.1 == key).length == 1
      | none => isText value
  if fits then
    Registry.members.find? fun a => Registry.name a == name && a != SignatureAlgorithm.es512
  else none

/-- The name of the algorithm in a bare header. -/
def bareAlgorithm? (json : Json) : Option String := do
  match ← json.fullRecord? ["alg"] with
  | [algorithm] => algorithm.string?
  | _ => none

end SealedTokens.Jose
