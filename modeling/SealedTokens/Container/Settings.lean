import SealedTokens.Bytes
import SealedTokens.Container.Registry
/-!
Settings: the resolved choices a container is built from, and which of them go together. Signed
claims admit one stack only.
-/
namespace SealedTokens

/-- The choices of each stage, the signature algorithm and the key. -/
structure Settings where
  kind : ContainerKind
  serializer : SerializerKind
  compressor : CompressorKind
  sealer : SealerKind
  representer : RepresenterKind
  algorithm : SignatureAlgorithm
  key : Bytes
  deriving DecidableEq, Repr

namespace Settings

/-- The usual stack of a container type. -/
def ofKind (kind : ContainerKind) (key : Bytes) : Settings :=
  match kind with
  | .secretBox => ⟨.secretBox, .compact, .lz4, .secretBox, .base64, .hs256, key⟩
  | .jwt => ⟨.jwt, .json, .nop, .nop, .nop, .hs256, key⟩

/-- Whether tokens are printable text, as cookies and headers need. -/
def emitsText (s : Settings) : Bool := s.kind = .jwt || s.representer ≠ .nop

/-- The error for a stage that signed claims do not admit. -/
def mismatch {α : Type} [Registry α] (stage : String) (found expected : α) (why : String) :
    ContainerError :=
  .configuration <|
    s!"unexpected {stage} \"{Registry.name found}\" for \"{Registry.name ContainerKind.jwt}\", " ++
      s!"expected \"{Registry.name expected}\", {why}"

/-- Checks one stage of signed claims. -/
def requireStage {α : Type} [Registry α] [DecidableEq α] (stage : String) (found expected : α)
    (why : String) : Except ContainerError Unit :=
  if found = expected then .ok () else .error (mismatch stage found expected why)

/-- Checks that there is a key, and that signed claims have their stack. -/
def validate (s : Settings) : Except ContainerError Unit := do
  if s.key.isEmpty then throw (.configuration "key length should be greater than zero")
  match s.kind with
  | .secretBox => return ()
  | .jwt =>
    requireStage "serializer" s.serializer .json "claims are always json"
    requireStage "compressor" s.compressor .nop "there is no compression in jwt"
    requireStage "sealer" s.sealer .nop "sealing is handled by the signature"
    requireStage "representer" s.representer .nop "representation is handled by the token format"

end Settings

end SealedTokens
