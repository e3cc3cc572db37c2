import SealedTokens.Crypto.Hmac
import SealedTokens.Crypto.Sha256
import SealedTokens.Crypto.Sha512
/-!
The digest functions that signatures choose from.
-/
namespace SealedTokens.Crypto.Hash

def sha256 : Hash := ⟨Sha256.digest, 64, 32⟩

def sha384 : Hash := ⟨Sha512.digest384, 128, 48⟩

def sha512 : Hash := ⟨Sha512.digest, 128, 64⟩

end SealedTokens.Crypto.Hash
