import SealedTokens.Jwt.Signer
/-!
A cache of signers: the same algorithm and the same key always give one and the same signer, built
on first use. Keys are told apart by their digest. Many callers may look signers up at a time, but
only one at a time may build.
-/
namespace SealedTokens

/-- A signer with what it was built from. -/
structure SignerCache.Entry where
  algorithm : SignatureAlgorithm
  keyDigest : Bytes
  signer : Signer

/-- The signers built so far, in the order they were built. -/
structure SignerCache where
  entries : List SignerCache.Entry := []

namespace SignerCache

/-- Whether an entry is for an algorithm and the digest of a key. -/
def Entry.isFor (e : Entry) (algorithm : SignatureAlgorithm) (keyDigest : Bytes) : Bool :=
  e.algorithm = algorithm && e.keyDigest == keyDigest

/-- The signer of an algorithm and a key that was built before, with its place in the cache, which
tells shared signers apart. -/
def find? (cache : SignerCache) (algorithm : SignatureAlgorithm) (key : Bytes) :
    Option (Nat × Signer) := do
  let place ← cache.entries.findIdx? fun e => e.isFor algorithm (Crypto.Sha256.digest key)
  let e ← cache.entries[place]?
  return (place, e.signer)

/-- The turn of a caller that found nothing, and the cache afterwards. It looks again, as another
may have built the signer in the meantime. A key that does not suit leaves the cache as it is. -/
def build (cache : SignerCache) (algorithm : SignatureAlgorithm) (key : Bytes) :
    Except ContainerError (Nat × Signer) × SignerCache :=
  match cache.find? algorithm key with
  | some found => (.ok found, cache)
  | none =>
    match Signer.create algorithm key with
    | .ok signer =>
      (.ok (cache.entries.length, signer),
        ⟨cache.entries ++ [⟨algorithm, Crypto.Sha256.digest key, signer⟩]⟩)
    | .error e => (.error e, cache)

/-- The signer of an algorithm and a key for a caller that first looked when the cache was `seen`,
and the cache afterwards. -/
def signerSince (seen cache : SignerCache) (algorithm : SignatureAlgorithm) (key : Bytes) :
    Except ContainerError (Nat × Signer) × SignerCache :=
  match seen.find? algorithm key with
  | some found => (.ok found, cache)
  | none => cache.build algorithm key

/-- The signer of an algorithm and a key, and the cache afterwards. -/
def signer (cache : SignerCache) (algorithm : SignatureAlgorithm) (key : Bytes) :
    Except ContainerError (Nat × Signer) × SignerCache :=
  cache.signerSince cache algorithm key

end SignerCache

end SealedTokens
