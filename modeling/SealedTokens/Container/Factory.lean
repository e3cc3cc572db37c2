import SealedTokens.Container.Basic
import SealedTokens.Container.Config
/-!
Factories: settings that have proved usable, and the one backend of all containers made from them.
-/
namespace SealedTokens

/-- Settings with the backend built from them. -/
structure Factory where
  settings : Settings
  backend : Backend

namespace Factory

/-- The backend of settings, if the key suits it. -/
def backendOf (s : Settings) : Except ContainerError Backend :=
  match s.kind with
  | .secretBox => (Codec.ofSettings s).map .sealed
  | .jwt => (Signer.create s.algorithm s.key).map .signed

def ofSettings (s : Settings) : Except ContainerError Factory := do
  s.validate
  return ⟨s, ← backendOf s⟩

def ofConfig (c : ContainerConfig) (files : Files) : Except ContainerError Factory := do
  ofSettings (← c.expand files)

def kind (f : Factory) : ContainerKind := f.settings.kind

/-- A container whose window starts at `start` and lasts for `ttl`. -/
def create (f : Factory) (start : Instant) (ttl : Span) (payload : Payload) :
    Except ContainerError Container :=
  Container.create f.backend start ttl payload

end Factory

end SealedTokens
