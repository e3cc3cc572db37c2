import SealedTokens.Crypto.ChaCha20
import SealedTokens.Crypto.Poly1305
/-!
Authenticated encryption: a cipher that yields a ciphertext and a tag, and refuses to open what
carries any other tag. XChaCha20-Poly1305 is the cipher in use, without associated data.
-/
namespace SealedTokens.Crypto

/-- Authenticated encryption under one key: encrypting gives a ciphertext and a tag. -/
structure Cipher where
  encrypt : (nonce message : Bytes) → Bytes × Bytes
  decrypt? : (nonce ciphertext tag : Bytes) → Option Bytes

namespace XChaCha20Poly1305

def keyLength : Nat := 32

def nonceLength : Nat := 24

def tagLength : Nat := 16

/-- The key and nonce of the inner cipher: the first sixteen bytes of the nonce go into the key. -/
def inner (key nonce : Bytes) : Bytes × Bytes :=
  (ChaCha20.deriveKey key (nonce.take 16), [0, 0, 0, 0] ++ nonce.drop 16)

/-- The authenticated text: the ciphertext filled up to whole blocks, and the two lengths. -/
def authenticated (ciphertext : Bytes) : Bytes :=
  let fill := (16 - ciphertext.length % 16) % 16
  ciphertext ++ List.replicate fill 0 ++ Bytes.ofNatLE 8 0 ++ Bytes.ofNatLE 8 ciphertext.length

/-- The tag of a ciphertext; its key is the first keystream block. -/
def tag (key nonce ciphertext : Bytes) : Bytes :=
  Poly1305.tag ((ChaCha20.keystream key nonce 0 32).take 32) (authenticated ciphertext)

/-- The cipher under a key of 32 bytes. -/
def cipher (key : Bytes) : Cipher where
  encrypt nonce message :=
    let (key, nonce) := inner key nonce
    let ciphertext := ChaCha20.apply key nonce 1 message
    (ciphertext, tag key nonce ciphertext)
  decrypt? nonce ciphertext given :=
    let (key, nonce) := inner key nonce
    if tag key nonce ciphertext = given then some (ChaCha20.apply key nonce 1 ciphertext) else none

end XChaCha20Poly1305

end SealedTokens.Crypto
