import SealedTokens.Bytes
/-!
Keyed digests: a digest of a key and a digest of the key and the message.
-/
namespace SealedTokens.Crypto

/-- A digest function with the sizes of its blocks and of its result, in bytes. -/
structure Hash where
  digest : Bytes → Bytes
  blockSize : Nat
  size : Nat

namespace Hmac

/-- A key as one block: a longer key is replaced by its digest. -/
def blockKey (hash : Hash) (key : Bytes) : Bytes :=
  let key := if key.length > hash.blockSize then hash.digest key else key
  key ++ List.replicate (hash.blockSize - key.length) 0

/-- The authentication code of a message under a key. -/
def code (hash : Hash) (key message : Bytes) : Bytes :=
  let key := blockKey hash key
  let inner := hash.digest (key.map (· ^^^ 0x36) ++ message)
  hash.digest (key.map (· ^^^ 0x5c) ++ inner)

end Hmac

end SealedTokens.Crypto
