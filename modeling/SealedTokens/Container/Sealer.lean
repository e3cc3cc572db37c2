import SealedTokens.Container.Registry
import SealedTokens.Crypto.Aead
import SealedTokens.Entropy
/-!
Sealing: a nonce of 24 random bytes, the ciphertext and a tag of 16 bytes, one after the other.
Opening gives back what was sealed and refuses all else.
-/
namespace SealedTokens

open Crypto

/-- The protecting stage: none, or a cipher under the key. -/
inductive Sealer where
  | nop
  | secretBox (cipher : Crypto.Cipher)

namespace Sealer

/-- The stage of a kind, if the key suits it. -/
def create (kind : SealerKind) (key : Bytes) : Except ContainerError Sealer :=
  match kind with
  | .nop => .ok .nop
  | .secretBox =>
    if key.length = XChaCha20Poly1305.keyLength then
      .ok (.secretBox (XChaCha20Poly1305.cipher key))
    else .error <| .configuration <|
      s!"invalid encryption key length, want {XChaCha20Poly1305.keyLength}, got {key.length}"

def kind : Sealer → SealerKind
  | nop => .nop
  | secretBox _ => .secretBox

/-- Seals a byte string, under a fresh nonce. -/
def toBox (sealer : Sealer) (content : Bytes) : Drawing ContainerError Bytes :=
  match sealer with
  | nop => return content
  | secretBox cipher => do
    let nonce ← Entropy.fill XChaCha20Poly1305.nonceLength
    let (ciphertext, tag) := cipher.encrypt nonce content
    return nonce ++ ciphertext ++ tag

/-- The fewest bytes of a sealed box. -/
def minLength : Nat := XChaCha20Poly1305.nonceLength + XChaCha20Poly1305.tagLength

/-- Opens a sealed box. -/
def ofBox (sealer : Sealer) (box : Bytes) : Except ContainerError Bytes :=
  match sealer with
  | nop => .ok box
  | secretBox cipher =>
    if box.length < minLength then
      .error <| .decrypt <|
        s!"Sealed box too short ({box.length} bytes). Expected at least {minLength} bytes"
    else
      -- What is left between nonce and tag may be empty.
      let nonce := box.take XChaCha20Poly1305.nonceLength
      let rest := box.drop XChaCha20Poly1305.nonceLength
      let length := rest.length - XChaCha20Poly1305.tagLength
      match cipher.decrypt? nonce (rest.take length) (rest.drop length) with
      | some content => .ok content
      | none => .error ⟨.decrypt "Decryption failed", some "AEAD authentication failed"⟩

end Sealer

end SealedTokens
