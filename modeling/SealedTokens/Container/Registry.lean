import SealedTokens.Container.Error
import SealedTokens.Text.Blank
import SealedTokens.Text.Quoted
/-!
Closed registries of names: the container types, the choices of each stage of the sealed stack and
the signature algorithms. A name is found whatever its ASCII case and the blanks around it.
-/
namespace SealedTokens

/-- A closed set of members with a name for each. -/
class Registry (α : Type) where
  members : List α
  name : α → String

/-- What a container is made of: one sealed unit, or signed claims. -/
inductive ContainerKind where
  | secretBox
  | jwt
  deriving DecidableEq, Repr

/-- The format that a state is written in. -/
inductive SerializerKind where
  | compact
  | json
  deriving DecidableEq, Repr

/-- How the written state is shortened. -/
inductive CompressorKind where
  | nop
  | lz4
  deriving DecidableEq, Repr

/-- How the shortened state is protected. -/
inductive SealerKind where
  | nop
  | secretBox
  deriving DecidableEq, Repr

/-- How a token is spelled. -/
inductive RepresenterKind where
  | nop
  | base64
  deriving DecidableEq, Repr

/-- The signature algorithms of signed claims. -/
inductive SignatureAlgorithm where
  | hs256 | hs384 | hs512
  | rs256 | rs384 | rs512
  | ps256 | ps384 | ps512
  | es256 | es384 | es512
  | edDsa
  deriving DecidableEq, Repr

instance : Registry ContainerKind where
  members := [.secretBox, .jwt]
  name
    | .secretBox => "secretbox"
    | .jwt => "jwt"

instance : Registry SerializerKind where
  members := [.compact, .json]
  name
    | .compact => "postcard"
    | .json => "json"

instance : Registry CompressorKind where
  members := [.nop, .lz4]
  name
    | .nop => "nop"
    | .lz4 => "lz4"

instance : Registry SealerKind where
  members := [.nop, .secretBox]
  name
    | .nop => "nop"
    | .secretBox => "secretbox"

instance : Registry RepresenterKind where
  members := [.nop, .base64]
  name
    | .nop => "nop"
    | .base64 => "base64"

instance : Registry SignatureAlgorithm where
  members := [.hs256, .hs384, .hs512, .rs256, .rs384, .rs512, .ps256, .ps384, .ps512, .es256,
    .es384, .es512, .edDsa]
  name
    | .hs256 => "HS256"
    | .hs384 => "HS384"
    | .hs512 => "HS512"
    | .rs256 => "RS256"
    | .rs384 => "RS384"
    | .rs512 => "RS512"
    | .ps256 => "PS256"
    | .ps384 => "PS384"
    | .ps512 => "PS512"
    | .es256 => "ES256"
    | .es384 => "ES384"
    | .es512 => "ES512"
    | .edDsa => "EdDSA"

/-- The algorithms that sign and verify with one and the same key. -/
def SignatureAlgorithm.isSymmetric : SignatureAlgorithm → Bool
  | hs256 | hs384 | hs512 => true
  | _ => false

namespace Registry

variable {α : Type} [Registry α]

def find? (name : String) : Option α :=
  (members (α := α)).find? fun m => Text.sameIgnoringCase (Registry.name m) (Text.trim name)

def legalNames (α : Type) [Registry α] : List String :=
  ((members (α := α)).map Registry.name).mergeSort fun a b => decide (a ≤ b)

/-- The member of a name, or an error that lists the legal names; `entity` says what is named. -/
def resolve (entity name : String) : Except ContainerError α :=
  match find? name with
  | some m => .ok m
  | none => .error <| .configuration <|
      s!"unexpected container {entity} {Text.quoted name}, expected one of: " ++
        ", ".intercalate (legalNames α)

end Registry

end SealedTokens
