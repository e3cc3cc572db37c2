import SealedTokens.Jwt.Jose
import SealedTokens.Proofs.Records
/-!
# Headers of tokens

Both readings of a JOSE header find one and the same thing in it, the algorithm that it names, and
both find it in the headers that are issued.

## Main results

- `declared?_of_fullAlgorithm?`, `declared?_of_bareAlgorithm?`: what is read is what is named
- `fullAlgorithm?_issued`, `bareAlgorithm?_issued`: an issued header names its algorithm
-/
namespace SealedTokens.Jose

/-- The algorithm that a header names under `alg`, whatever else is in it. -/
def declared? (json : Json) : Option String := do
  match ← json.fullRecord? ["alg"] with
  | [algorithm] => chosenName? algorithm
  | _ => none

theorem fullRecord?_alg {json value : Json} {members : List (String × Json)}
    (read : json.members? = some members) (found : Json.member? "alg" members = some (some value)) :
    json.fullRecord? ["alg"] = some [value] := by
  rw [Json.fullRecord?, Json.record?]
  · simp [read, found]
  · rintro items rfl
    cases read

theorem declared?_of_fullAlgorithm? {json : Json} {algorithm : SignatureAlgorithm}
    (read : fullAlgorithm? json = some algorithm) :
    declared? json = some (Registry.name algorithm) := by
  simp only [fullAlgorithm?, Option.bind_eq_bind, Option.bind_eq_some_iff] at read
  obtain ⟨members, isObject, value, found, value', rfl, name, named, chosen⟩ := read
  split at chosen
  -- The algorithm was found by its name, so the name that was read is its name.
  · have matched := List.find?_some chosen
    rw [Bool.and_eq_true, beq_iff_eq] at matched
    rw [declared?, fullRecord?_alg isObject found, matched.1]
    exact named
  · cases chosen

theorem declared?_of_bareAlgorithm? {json : Json} {name : String}
    (read : bareAlgorithm? json = some name) : declared? json = some name := by
  simp only [bareAlgorithm?, Option.bind_eq_bind, Option.bind_eq_some_iff] at read
  obtain ⟨values, record, named⟩ := read
  split at named
  next value =>
    rw [declared?, record]
    cases value with
    | text written => exact named
    | _ => cases named
  · cases named

section Issued

variable (algorithm : SignatureAlgorithm)

def issuedNames : List String := ["typ", "alg"]

def issuedValues : List Json :=
  [.text (Bytes.ofAscii "JWT"), .text (Bytes.ofAscii (Registry.name algorithm))]

theorem isName_issuedNames : ∀ name ∈ issuedNames, Json.IsName name := by
  simp [issuedNames, Json.IsName]

theorem isName_jwt : Json.IsName "JWT" := by simp [Json.IsName]

theorem isName_algorithm : Json.IsName (Registry.name algorithm) := by
  cases algorithm <;> simp [Json.IsName, Registry.name]

theorem text_eq_print : text algorithm =
    (Json.object (List.zip (issuedNames.map Bytes.ofAscii) (issuedValues algorithm))).print := by
  cases algorithm <;> rfl

theorem parse?_text : Json.parse? (text algorithm) =
    some (.object (List.zip (issuedNames.map Bytes.ofAscii) (issuedValues algorithm))) := by
  rw [text_eq_print]
  refine Json.parse?_print (Json.isWritten_zip isName_issuedNames ?_)
  simp [issuedValues, Json.IsWritten.text isName_jwt.isPlain,
    Json.IsWritten.text (isName_algorithm algorithm).isPlain]

theorem members?_issued :
    (Json.object (List.zip (issuedNames.map Bytes.ofAscii) (issuedValues algorithm))).members? =
      some [("typ", .text (Bytes.ofAscii "JWT")),
        ("alg", .text (Bytes.ofAscii (Registry.name algorithm)))] :=
  Json.members?_zip isName_issuedNames

theorem member?_issued (value other : Json) :
    Json.member? "alg" [("typ", other), ("alg", value)] = some (some value) := by
  simp [Json.member?]

theorem fullAlgorithm?_issued (other : algorithm ≠ .es512) :
    (Json.parse? (text algorithm)).bind fullAlgorithm? = some algorithm := by
  have named := Json.text?_ofAscii (isName_algorithm algorithm)
  have typ := Json.text?_ofAscii isName_jwt
  -- The names differ, so that an algorithm is the first of its name, and no search passes it.
  have chosen : Registry.members.find? (fun a =>
      Registry.name a == Registry.name algorithm && a != SignatureAlgorithm.es512) =
        some algorithm := by
    cases algorithm <;> first | exact absurd rfl other | rfl
  rw [parse?_text, Option.bind_some, fullAlgorithm?, members?_issued]
  simp only [Option.bind_eq_bind, Option.bind_some, member?_issued, chosenName?, Json.string?,
    named]
  rw [if_pos, chosen]
  have typed : registered.lookup "typ" = some (nullOr isText) := by
    simp [registered]
  simp [typed, nullOr, isText, Json.string?, typ]

theorem bareAlgorithm?_issued :
    (Json.parse? (text algorithm)).bind bareAlgorithm? = some (Registry.name algorithm) := by
  have named := Json.text?_ofAscii (isName_algorithm algorithm)
  rw [parse?_text, Option.bind_some, bareAlgorithm?,
    fullRecord?_alg (members?_issued algorithm) (member?_issued _ _)]
  simpa [Json.string?] using named

end Issued

end SealedTokens.Jose
