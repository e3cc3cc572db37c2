import SealedTokens.Container.Sealer
import SealedTokens.Container.Serial
import SealedTokens.Container.Settings
import SealedTokens.Lz4.Stream
/-!
Codecs: a value is written, shortened, sealed and spelled; reading undoes the four stages in the
reverse order.
-/
namespace SealedTokens

namespace SerializerKind

/-- The error of a value that cannot be read. -/
def decodingError (kind : SerializerKind) (message : String) : ContainerError :=
  ⟨.format message, some s!"{Registry.name kind} decoding failed"⟩

def marshal {α : Type} [Serial α] (kind : SerializerKind) (value : α) : Bytes :=
  match kind with
  | compact => Serial.write value
  | json => (Serial.toJson value).print

def unmarshal {α : Type} [Serial α] (kind : SerializerKind) (bytes : Bytes) :
    Except ContainerError α :=
  match kind with
  | compact =>
    match (Serial.read (α := α)).run bytes with
    -- What follows the value is not looked at.
    | .ok (value, _) => .ok value
    | .error fault => .error (kind.decodingError fault.message)
  | json =>
    match (Json.parse? bytes).bind Serial.ofJson? with
    | some value => .ok value
    | none => .error (kind.decodingError Json.refusal)

end SerializerKind

namespace CompressorKind

def compress : CompressorKind → Bytes → Bytes
  | nop, bytes => bytes
  | lz4, bytes => Lz4.compress bytes

def decompress : CompressorKind → Bytes → Except ContainerError Bytes
  | nop, bytes => .ok bytes
  | lz4, bytes =>
    match Lz4.decompress bytes with
    | .ok text => .ok text
    | .error fault => .error ⟨.format fault.message, fault.context⟩

end CompressorKind

namespace RepresenterKind

def encode : RepresenterKind → Bytes → Bytes
  | nop, bytes => bytes
  | base64, bytes => Base64.encode Base64.urlSafe bytes

def decode : RepresenterKind → Bytes → Except ContainerError Bytes
  | nop, bytes => .ok bytes
  | base64, bytes =>
    match Base64.decode Base64.urlSafe bytes with
    | .ok content => .ok content
    | .error fault => .error ⟨.format fault.message, some "Invalid Base64"⟩

end RepresenterKind

structure Codec where
  serializer : SerializerKind
  compressor : CompressorKind
  sealer : Sealer
  representer : RepresenterKind

namespace Codec

/-- The stages that settings select, if the key suits the sealer. -/
def ofSettings (s : Settings) : Except ContainerError Codec := do
  return ⟨s.serializer, s.compressor, ← Sealer.create s.sealer s.key, s.representer⟩

def encode {α : Type} [Serial α] (codec : Codec) (value : α) : Drawing ContainerError Bytes := do
  let box ← codec.sealer.toBox (codec.compressor.compress (codec.serializer.marshal value))
  return codec.representer.encode box

def decode {α : Type} [Serial α] (codec : Codec) (token : Bytes) : Except ContainerError α := do
  let box ← codec.representer.decode token
  let compressed ← codec.sealer.ofBox box
  codec.serializer.unmarshal (← codec.compressor.decompress compressed)

end Codec

end SealedTokens
