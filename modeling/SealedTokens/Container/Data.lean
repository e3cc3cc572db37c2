import SealedTokens.Container.Header
import SealedTokens.Container.Payload
/-!
The state of a container, which is also what a token carries: a header and a payload.
-/
namespace SealedTokens

structure Data where
  header : Header
  payload : Payload
  deriving DecidableEq

end SealedTokens
