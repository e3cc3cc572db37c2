import SealedTokens.Container.Registry
import SealedTokens.Crypto.Hashes
import SealedTokens.Crypto.PrivateKey
/-!
Signers: how messages are signed and signatures verified under one algorithm and one key. With the
exception of PSS, whose salt is free, signing is the function that the algorithm's standard gives;
the salt here is the digest of the message.
-/
namespace SealedTokens

open Crypto

/-- A pair of signing and verifying under one key. -/
structure Signer where
  algorithm : SignatureAlgorithm
  sign? : (message : Bytes) → Option Bytes
  verify : (message signature : Bytes) → Bool

namespace Signer

def keyContext (algorithm : SignatureAlgorithm) : String := s!"{Registry.name algorithm} key"

def notText : String := "PEM key is not valid UTF-8"

def notKey : String := "not a private key of this algorithm"

def hmac (algorithm : SignatureAlgorithm) (hash : Hash) (key : Bytes) : Signer where
  algorithm
  sign? message := some (Hmac.code hash key message)
  verify message signature := Hmac.code hash key message == signature

/-- A signer by PKCS #1 v1.5. -/
def rsaPkcs1 (algorithm : SignatureAlgorithm) (scheme : Rsa.Scheme) (key : Rsa.Key) : Signer where
  algorithm
  sign? := Rsa.pkcs1Sign? key scheme
  verify := Rsa.pkcs1Verify key scheme

def rsaPss (algorithm : SignatureAlgorithm) (hash : Hash) (key : Rsa.Key) : Signer where
  algorithm
  sign? message := Rsa.pssSign? key hash (hash.digest message) message
  verify := Rsa.pssVerify key hash

def ecdsa (algorithm : SignatureAlgorithm) (scheme : Ecdsa.Scheme)
    (key : PrivateKey.CurveKey) : Signer where
  algorithm
  sign? := Ecdsa.sign? scheme key.secret
  verify := Ecdsa.verify scheme key.point

def ed25519 (key : PrivateKey.EdKey) : Signer where
  algorithm := .edDsa
  sign? message := some (Ed25519.sign key.key key.point message)
  verify := Ed25519.verify key.point

/-- The signer of a key, `none` if the key does not suit the algorithm. -/
def ofKey? (algorithm : SignatureAlgorithm) (key : Bytes) : Option Signer :=
  match algorithm with
  | .hs256 => some (hmac algorithm .sha256 key)
  | .hs384 => some (hmac algorithm .sha384 key)
  | .hs512 => some (hmac algorithm .sha512 key)
  | .rs256 => (PrivateKey.rsa? key).map (rsaPkcs1 algorithm ⟨.sha256, Rsa.digestInfo 1 32⟩)
  | .rs384 => (PrivateKey.rsa? key).map (rsaPkcs1 algorithm ⟨.sha384, Rsa.digestInfo 2 48⟩)
  | .rs512 => (PrivateKey.rsa? key).map (rsaPkcs1 algorithm ⟨.sha512, Rsa.digestInfo 3 64⟩)
  | .ps256 => (PrivateKey.rsa? key).map (rsaPss algorithm .sha256)
  | .ps384 => (PrivateKey.rsa? key).map (rsaPss algorithm .sha384)
  | .ps512 => (PrivateKey.rsa? key).map (rsaPss algorithm .sha512)
  | .es256 => (PrivateKey.curve? .p256 PrivateKey.p256Object key).map (ecdsa algorithm ⟨.p256, .sha256⟩)
  | .es384 => (PrivateKey.curve? .p384 PrivateKey.p384Object key).map (ecdsa algorithm ⟨.p384, .sha384⟩)
  | .es512 => (PrivateKey.curve? .p521 PrivateKey.p521Object key).map (ecdsa algorithm ⟨.p521, .sha512⟩)
  | .edDsa => (PrivateKey.ed25519? key).map ed25519

/-- The signer of a key; a key that is read as a text must be one. -/
def create (algorithm : SignatureAlgorithm) (key : Bytes) : Except ContainerError Signer :=
  if !algorithm.isSymmetric && (Bytes.toText? key).isNone then
    .error ⟨.configuration notText, some (keyContext algorithm)⟩
  else
    match ofKey? algorithm key with
    | some signer => .ok signer
    | none => .error ⟨.configuration notKey, some (keyContext algorithm)⟩

/-- The signer as it appears in logs: its algorithm, with one capital letter but for `EdDsa`, and
nothing of its key. -/
def debugText (signer : Signer) : String :=
  let variant := match (Registry.name signer.algorithm).toList with
    | 'E' :: 'd' :: _ => "EdDsa".toList
    | first :: rest => first :: rest.map Char.toLower
    | [] => []
  s!"Signer \x7b algorithm: {String.ofList variant}, .. \x7d"

end Signer

end SealedTokens
