import SealedTokens.Container.Factory
import SealedTokens.Proofs.Codecs
import SealedTokens.Proofs.SignedTokens
import SealedTokens.Proofs.Windows
/-!
# Operations

What can be done with a container, one operation after the other. No operation changes the backend.
The windows of signed containers stay at whole seconds, which is all that their tokens carry; those
of sealed ones stay at instants that clocks show, if only such instants are given to them.

## Main results

- `Backend.precise_eq_iff`: the states that tokens carry as they are
- `Container.carried_create`, `Container.carried_perform`, `Container.carried_run`: the invariant
  `Carried` of containers, from creation on
- `Factory.backend_of_ofSettings`: what a factory has for a backend
-/
namespace SealedTokens

/-- The operations that change a container. -/
inductive Operation where
  | set (key : UInt32) (value : Bytes)
  | del (key : UInt32)
  | clean
  | touch (nonce : UInt64)
  | refresh (validAfter validBefore : Instant)
  | load (token : Bytes)

/-- Clocks show the instants that are given to an operation. -/
def Operation.OnClock : Operation → Prop
  | .refresh validAfter validBefore => validAfter.OnClock ∧ validBefore.OnClock
  | _ => True

namespace Container

/-- The container after an operation. One that fails changes nothing. -/
def perform (c : Container) : Operation → Container
  | .set key value => c.set key value
  | .del key => (c.del key).2
  | .clean => c.clean
  | .touch nonce => c.touch nonce
  | .refresh validAfter validBefore => c.refresh validAfter validBefore
  | .load token =>
    match c.load token with
    | .ok loaded => loaded
    | .error _ => c

/-- The container after operations in order. -/
def run (c : Container) (operations : List Operation) : Container := operations.foldl perform c

theorem load_eq (c : Container) (token : Bytes) :
    c.load token = (c.backend.load token).map fun data => { c with data } := by
  unfold load
  cases c.backend.load token <;> rfl

theorem perform_load_of_error {c : Container} {token : Bytes} {e : ContainerError}
    (refused : c.load token = .error e) : c.perform (.load token) = c := by
  simp only [perform, refused]

theorem backend_perform (c : Container) (operation : Operation) :
    (c.perform operation).backend = c.backend := by
  cases operation with
  | load token =>
    simp only [perform, load_eq]
    cases c.backend.load token <;> rfl
  | _ => rfl

theorem backend_run (c : Container) (operations : List Operation) :
    (c.run operations).backend = c.backend := by
  induction operations generalizing c with
  | nil => rfl
  | cons operation operations ih =>
    exact (ih (c.perform operation)).trans (c.backend_perform operation)

end Container

/-- What a token tells of an instant: the instant that its written form names, or the second. -/
def Backend.told (backend : Backend) (t : Instant) : Instant :=
  match backend with
  | .sealed _ => t.shown
  | .signed _ => t.wholeSeconds

/-- A state with its window as tokens tell it. -/
def Backend.precise (backend : Backend) (data : Data) : Data :=
  ⟨⟨data.header.version, data.header.nonce, backend.told data.header.validAfter,
    backend.told data.header.validBefore⟩, data.payload⟩

/-- Both ends of a window are as precise as the backend's tokens. -/
def Backend.Carries (backend : Backend) (data : Data) : Prop :=
  match backend with
  | .sealed _ => data.OnClock
  | .signed _ => data.header.validAfter.IsWhole ∧ data.header.validBefore.IsWhole

namespace Backend

theorem told_carried (backend : Backend) (t : Instant) :
    backend.told (backend.carried t) = backend.told t := by
  cases backend <;> rfl

theorem told_told (backend : Backend) (t : Instant) :
    backend.told (backend.told t) = backend.told t := by
  cases backend with
  | sealed codec => exact Instant.shown_shown t
  | signed signer => rfl

/-- The states that tokens carry as they are. -/
theorem precise_eq_iff {backend : Backend} {data : Data} :
    backend.precise data = data ↔ backend.Carries data := by
  cases backend with
  | sealed codec => exact Data.shown_eq_iff
  | signed signer =>
    have whole (t : Instant) : t.wholeSeconds = t ↔ t.IsWhole := by
      obtain ⟨secs, nanos, inCalendar, valid⟩ := t
      simp only [Instant.wholeSeconds, Instant.IsWhole, Instant.mk.injEq, true_and, eq_comm]
    obtain ⟨⟨version, nonce, start, stop⟩, payload⟩ := data
    simp only [precise, told, Carries, Data.mk.injEq, Header.mk.injEq, true_and, and_true, whole]

theorem carries_carried (backend : Backend) (version : UInt32) (nonce : UInt64)
    {start stop : Instant} (clocks : backend.kind = .secretBox → start.OnClock ∧ stop.OnClock)
    (payload : Payload) : backend.Carries
      ⟨⟨version, nonce, backend.carried start, backend.carried stop⟩, payload⟩ := by
  cases backend with
  | sealed codec => exact clocks rfl
  | signed signer => exact ⟨Instant.isWhole_wholeSeconds _, Instant.isWhole_wholeSeconds _⟩

theorem carries_load {backend : Backend} {token : Bytes} {data : Data}
    (returned : backend.load token = .ok data) : backend.Carries data := by
  cases backend with
  | sealed codec => exact Data.shown_eq_iff.mp (Codec.shown_of_decode returned)
  | signed signer =>
    simp only [load] at returned
    split at returned
    · cases returned
    next text isText =>
      -- Claims name the ends of the window in seconds, whatever token they came in.
      obtain ⟨claims, -, toData⟩ := bind_eq_ok.mp returned
      obtain ⟨start, stop, first, second, rfl⟩ := Claims.toData_eq_ok toData
      exact ⟨Instant.isWhole_of_at? first, Instant.isWhole_of_at? second⟩

end Backend

theorem onClock_of_windowEnd {start stop : Instant} {ttl : Span} (clock : start.OnClock)
    (ends : windowEnd start ttl = .ok stop) : stop.OnClock :=
  Instant.onClock_of_add? clock (windowEnd_eq_ok.mp ends).2

namespace Container

/-- The window is as precise as tokens are. -/
def Carried (c : Container) : Prop := c.backend.Carries c.data

/-- A container is created if its window ends inside the calendar. -/
theorem create_eq_ok {backend : Backend} {start : Instant} {ttl : Span} {payload : Payload}
    {c : Container} : create backend start ttl payload = .ok c ↔
      ∃ stop, windowEnd start ttl = .ok stop ∧ c = ⟨backend, ⟨⟨Header.currentVersion, 0,
        backend.carried start, backend.carried stop⟩, payload⟩⟩ := by
  unfold create Header.create
  cases ends : windowEnd start ttl with
  | error e =>
    refine ⟨fun failed => ?_, fun ⟨_, failed, _⟩ => ?_⟩ <;> cases failed
  | ok stop =>
    refine ⟨fun created => ?_, fun ⟨_, same, made⟩ => ?_⟩
    · cases created
      exact ⟨stop, rfl, rfl⟩
    · cases same
      rw [made]
      rfl

theorem carried_create {backend : Backend} {start : Instant} {ttl : Span} {payload : Payload}
    {c : Container} (clock : backend.kind = .secretBox → start.OnClock)
    (created : create backend start ttl payload = .ok c) : c.Carried := by
  obtain ⟨stop, ends, rfl⟩ := create_eq_ok.mp created
  exact backend.carries_carried _ _
    (fun isSealed => ⟨clock isSealed, onClock_of_windowEnd (clock isSealed) ends⟩) _

end Container

namespace Factory

theorem backend_of_ofSettings {s : Settings} {f : Factory} (built : ofSettings s = .ok f) :
    (s.kind = .secretBox ∧ ∃ sealer, Sealer.create s.sealer s.key = .ok sealer ∧
      f.backend = .sealed ⟨s.serializer, s.compressor, sealer, s.representer⟩) ∨
    (s.kind = .jwt ∧ ∃ signer, Signer.create s.algorithm s.key = .ok signer ∧
      f.backend = .signed signer) := by
  obtain ⟨-, -, rest⟩ := bind_eq_ok.mp built
  obtain ⟨backend, found, made⟩ := bind_eq_ok.mp rest
  cases made
  unfold backendOf at found
  split at found
  next kind =>
    refine .inl ⟨kind, ?_⟩
    cases stages : Codec.ofSettings s with
    | error e =>
      rw [stages] at found
      cases found
    | ok codec =>
      rw [stages] at found
      cases found
      obtain ⟨sealer, created, made⟩ := bind_eq_ok.mp stages
      cases made
      exact ⟨sealer, created, rfl⟩
  next kind =>
    refine .inr ⟨kind, ?_⟩
    cases created : Signer.create s.algorithm s.key with
    | error e =>
      rw [created] at found
      cases found
    | ok signer =>
      rw [created] at found
      cases found
      exact ⟨signer, rfl, rfl⟩

end Factory

end SealedTokens
