import SealedTokens.Proofs.SavedTokens
import SealedTokens.Proofs.SessionWrites
/-!
# Sessions under another signature

Some algorithms sign at random, so the signatures of two runs are two functions. What a session is
and what becomes of it hangs on neither: every operation, and finding the session of a request,
gives the same with the one way to sign in place of the other. Only saving asks for a signature, and
what it makes of one state is loaded alike, however it was signed and whatever was drawn.

## Main results

- `Http.SessionState.prepare_withSign`: the session of a request
- `Http.CurrentSession.run_withSign`: what a service does to it
- `Factory.load_of_saves`: tokens of one state are loaded alike
- `Backend.save_cases`: saving succeeds under both signatures or under neither
-/
namespace SealedTokens

/-- A fold goes through a function that every step goes through. -/
theorem foldlM_map {ε α β γ : Type} {f : β → α → Except ε β} {f' : γ → α → Except ε γ} {g : β → γ}
    (step : ∀ b a, f' (g b) a = (f b a).map g) (items : List α) (first : β) :
    items.foldlM f' (g first) = (items.foldlM f first).map g := by
  induction items generalizing first with
  | nil => rfl
  | cons a items ih =>
    rw [List.foldlM_cons, List.foldlM_cons, step]
    cases f first a with
    | error e => rfl
    | ok next => exact ih next

/-! ### Containers -/

theorem Backend.carried_withSign (backend : Backend) (sign? : Bytes → Option Bytes) (t : Instant) :
    (backend.withSign sign?).carried t = backend.carried t := by
  cases backend <;> rfl

namespace Container

variable {c : Container} {sign? : Bytes → Option Bytes}

theorem create_withSign (backend : Backend) (start : Instant) (ttl : Span) (payload : Payload) :
    create (backend.withSign sign?) start ttl payload =
      (create backend start ttl payload).map (·.withSign sign?) := by
  unfold create
  simp only [Backend.carried_withSign]
  cases Header.create start ttl <;> rfl

theorem refresh_withSign (validAfter validBefore : Instant) :
    (c.withSign sign?).refresh validAfter validBefore =
      (c.refresh validAfter validBefore).withSign sign? := by
  unfold refresh withSign mapHeader
  simp only [Backend.carried_withSign]

theorem load_withSign (token : Bytes) :
    (c.withSign sign?).load token = (c.load token).map (·.withSign sign?) := by
  rw [load_eq, load_eq, withSign, Backend.load_withSign]
  cases c.backend.load token <;> rfl

end Container

/-! ### Sessions -/

namespace Session

/-- The session with another way to sign in place of its own. -/
def withSign (s : Session) (sign? : Bytes → Option Bytes) : Session :=
  { s with sessions := s.sessions.withSign sign?, container := s.container.withSign sign? }

variable {s : Session} {sign? : Bytes → Option Bytes} {clock : Instant}

theorem refreshAt_withSign (now : Instant) :
    (s.withSign sign?).refreshAt now = (s.refreshAt now).map (·.withSign sign?) := by
  have policy : (s.withSign sign?).sessions.maxAge = s.sessions.maxAge := rfl
  unfold refreshAt
  rw [policy]
  cases windowEnd now s.sessions.maxAge with
  | error e => rfl
  | ok stop =>
    exact congrArg Except.ok (congrArg (Session.mk _ · _) (Container.refresh_withSign _ _))

theorem refreshed_withSign {α : Type} (result : α) : (s.withSign sign?).refreshed clock result =
    ((s.refreshed clock result).1, (s.refreshed clock result).2.withSign sign?) := by
  unfold refreshed
  rw [refreshAt_withSign]
  cases s.refreshAt clock <;> rfl

theorem set_withSign (key : UInt32) (value : Bytes) : (s.withSign sign?).set clock key value =
    ((s.set clock key value).1, (s.set clock key value).2.withSign sign?) :=
  refreshed_withSign (s := { s with container := s.container.set key value }) ()

theorem del_withSign (key : UInt32) : (s.withSign sign?).del clock key =
    ((s.del clock key).1, (s.del clock key).2.withSign sign?) := by
  cases found : s.payload.contains key with
  | true =>
    have found' : (s.withSign sign?).payload.contains key = true := found
    rw [del_of_contains found, del_of_contains found']
    exact refreshed_withSign (s := s.withData ⟨s.header, s.payload.erase key⟩) true
  | false =>
    have absent : (s.withSign sign?).payload.contains key = false := found
    rw [del_of_not_contains found, del_of_not_contains absent]

theorem perform_withSign (operation : SessionOperation) :
    (s.withSign sign?).perform clock operation = (s.perform clock operation).withSign sign? := by
  cases operation with
  | get key => rfl
  | getText key => rfl
  | set key value => exact congrArg Prod.snd (set_withSign key value)
  | setText key value => exact congrArg Prod.snd (set_withSign key (Bytes.ofText value))
  | del key => exact congrArg Prod.snd (del_withSign key)
  | clean => rfl
  | touch => rfl
  | refresh => exact congrArg Prod.snd (refreshed_withSign ())

theorem apply_withSign (s : Session) (option : SessionOption) :
    (s.withSign sign?).apply clock option = (s.apply clock option).map (·.withSign sign?) := by
  cases option with
  | validator check => rfl
  | payload key value =>
    unfold apply
    simp only [set_withSign]
    rcases s.set clock key value with ⟨_ | _, next⟩ <;> rfl

theorem load_withSign (token : Bytes) :
    (s.withSign sign?).load token = (s.load token).map (·.withSign sign?) := by
  unfold load
  rw [show (s.withSign sign?).container = s.container.withSign sign? from rfl,
    Container.load_withSign]
  cases s.container.load token <;> rfl

/-- No operation replaces the backend. -/
theorem backend_perform (operation : SessionOperation) :
    (s.perform clock operation).container.backend = s.container.backend := by
  have kept {α : Type} (result : α) (s : Session) :
      (s.refreshed clock result).2.container.backend = s.container.backend := by
    cases refreshes : s.refreshAt clock with
    | error e => rw [refreshed_of_error refreshes]
    | ok next =>
      obtain ⟨stop, -, rfl⟩ := refreshAt_eq_ok.mp refreshes
      rw [refreshed_of_ok refreshes]
      rfl
  cases operation with
  | get key => rfl
  | getText key => rfl
  | set key value => exact kept () { s with container := s.container.set key value }
  | setText key value =>
    exact kept () { s with container := s.container.set key (Bytes.ofText value) }
  | del key =>
    cases found : s.payload.contains key with
    | true =>
      rw [perform, del_of_contains found]
      exact kept true (s.withData ⟨s.header, s.payload.erase key⟩)
    | false => rw [perform, del_of_not_contains found]
  | clean => rfl
  | touch => rfl
  | refresh => exact kept () s

end Session

theorem Sessions.createAt_withSign {s : Sessions} {sign? : Bytes → Option Bytes}
    (clock now : Instant) :
    (s.withSign sign?).createAt clock now = (s.createAt clock now).map (·.withSign sign?) := by
  have created : (s.withSign sign?).factory.create now (s.withSign sign?).maxAge .empty =
      (s.factory.create now s.maxAge .empty).map (·.withSign sign?) :=
    Container.create_withSign s.factory.backend now s.maxAge .empty
  unfold createAt
  rw [created]
  cases s.factory.create now s.maxAge .empty with
  | error e => rfl
  | ok container =>
    let step (session : Session) (option : SessionOption) := session.apply clock option
    exact @foldlM_map _ _ _ _ step step _ (fun session => session.apply_withSign) s.options
      ⟨s, container, []⟩

theorem Transport.load_withSign (transport : Transport) (exchange : Exchange) {s : Session}
    {sign? : Bytes → Option Bytes} : transport.load exchange (s.withSign sign?) =
      (transport.load exchange s).map (Option.map (·.withSign sign?)) := by
  rw [load_eq, load_eq]
  cases transport.token? exchange with
  | none => rfl
  | some token =>
    simp only [Session.load_withSign]
    cases s.load token <;> rfl

/-! ### Sessions of requests -/

namespace Http

/-- The same sessions in the same configuration, with another way to sign. -/
def SessionState.withSign (state : SessionState) (sign? : Bytes → Option Bytes) : SessionState :=
  { state with sessions := state.sessions.withSign sign? }

def Established.withSign (found : Established) (sign? : Bytes → Option Bytes) : Established :=
  { found with session := found.session.withSign sign? }

def CurrentSession.withSign (c : CurrentSession) (sign? : Bytes → Option Bytes) : CurrentSession :=
  { c with session := c.session.withSign sign? }

variable {sign? : Bytes → Option Bytes} {clock : Instant}

namespace SessionState

variable {state : SessionState} {exchange : Exchange}

theorem establish_withSign : (state.withSign sign?).establish exchange clock =
    (state.establish exchange clock).map (·.withSign sign?) := by
  unfold establish
  rw [show (state.withSign sign?).sessions = state.sessions.withSign sign? from rfl,
    show (state.withSign sign?).config = state.config from rfl, Sessions.createAt_withSign]
  cases state.sessions.createAt clock clock with
  | error e => rfl
  | ok fresh =>
    simp only [Except.map, bind, Except.bind]
    cases Transport.select state.config exchange with
    | error e => rfl
    | ok transport =>
      simp only [Transport.load_withSign]
      cases transport.load exchange fresh with
      | error e =>
        simp only [Except.map]
        split <;> rfl
      | ok loaded =>
        cases loaded with
        | none => rfl
        | some session =>
          have renewed : (session.withSign sign?).renew clock =
            (session.renew clock).map (·.withSign sign?) := Sessions.createAt_withSign clock clock
          have checked : (session.withSign sign?).validateAt clock = session.validateAt clock := rfl
          simp only [Except.map, Option.map, renewed, checked]
          cases session.validateAt clock with
          | ok _ => rfl
          | error e =>
            simp only
            split
            · cases session.renew clock <;> rfl
            · rfl

theorem prepare_withSign : (state.withSign sign?).prepare exchange clock =
    (state.prepare exchange clock).map fun ready => (ready.1.withSign sign?, ready.2) := by
  unfold prepare
  rw [establish_withSign]
  cases state.establish exchange clock with
  | error e => rfl
  | ok found =>
    have moved : (found.withSign sign?).session.refreshAt clock =
      (found.session.refreshAt clock).map (·.withSign sign?) := Session.refreshAt_withSign clock
    have due : (found.withSign sign?).session.refreshRequiredAt clock =
      found.session.refreshRequiredAt clock := rfl
    simp only [Except.map, bind, Except.bind, moved, due]
    split
    · cases found.session.refreshAt clock <;> rfl
    · rfl

end SessionState

namespace CurrentSession

variable {c : CurrentSession}

theorem perform_withSign (step : ServiceStep) :
    (c.withSign sign?).perform clock step = (c.perform clock step).withSign sign? := by
  cases step with
  | discard => rfl
  | work operation =>
    exact congrArg (CurrentSession.mk · c.discarded) (Session.perform_withSign operation)

theorem run_withSign (steps : List ServiceStep) :
    (c.withSign sign?).run clock steps = (c.run clock steps).withSign sign? := by
  induction steps generalizing c with
  | nil => rfl
  | cons step steps ih =>
    show ((c.withSign sign?).perform clock step).run clock steps = _
    rw [perform_withSign]
    exact ih

theorem backend_run (steps : List ServiceStep) :
    (c.run clock steps).session.container.backend = c.session.container.backend := by
  induction steps generalizing c with
  | nil => rfl
  | cons step steps ih =>
    refine (@ih (c.perform clock step)).trans ?_
    cases step with
    | discard => rfl
    | work operation => exact Session.backend_perform operation

end CurrentSession

end Http

/-! ### Tokens of one state -/

namespace Backend

/-- A way to sign in place of the backend's own, as its algorithm might do another time: signatures
verify, and there is one whenever the backend would have made one. -/
structure Signing (backend : Backend) (sign? : Bytes → Option Bytes) : Prop where
  honest : ∀ signer, backend.withSign sign? = .signed signer → signer.Honest
  made : ∀ signer, backend = .signed signer →
    ∀ message, (sign? message).isSome = (signer.sign? message).isSome

variable {backend : Backend} {sign? sign?' : Bytes → Option Bytes} {data : Data}
  {source source' : Entropy}

theorem steady_save (backend : Backend) (data : Data) : Drawing.Steady (backend.save data) := by
  cases backend with
  | signed signer => exact fun _ => rfl
  | sealed codec =>
    refine Drawing.Steady.bind ?_ fun box => Drawing.steady_pure _
    unfold Sealer.toBox
    cases codec.sealer with
    | nop => exact Drawing.steady_pure _
    | secretBox cipher => exact (Entropy.steady_fill _).bind fun nonce => Drawing.steady_pure _

/-- Whether a state can be saved hangs neither on what is drawn nor on how it is signed. -/
theorem save_cases (signing : backend.Signing sign?) (signing' : backend.Signing sign?')
    (unlimited : source.limit = none) (unlimited' : source'.limit = none) (data : Data) :
    (∃ token token', ((backend.withSign sign?).save data).outcome source = .ok token ∧
      ((backend.withSign sign?').save data).outcome source' = .ok token') ∨
    ∃ e, ((backend.withSign sign?).save data).outcome source = .error e ∧
      ((backend.withSign sign?').save data).outcome source' = .error e := by
  cases backend with
  | sealed codec =>
    have signs : (Backend.sealed codec).Signs := trivial
    obtain ⟨token, _, saved, -⟩ := exists_save signs unlimited data
    obtain ⟨token', _, saved', -⟩ := exists_save signs unlimited' data
    exact .inl ⟨token, token', congrArg Prod.fst saved, congrArg Prod.fst saved'⟩
  | signed signer =>
    let message := Jwt.signedPart signer.algorithm (Claims.ofData data)
    have issued {sign? : Bytes → Option Bytes} (source : Entropy) :
        (((Backend.signed signer).withSign sign?).save data).outcome source =
          Jwt.issue { signer with sign? } (Claims.ofData data) := rfl
    have same := (signing.made signer rfl message).trans (signing'.made signer rfl message).symm
    rw [issued, issued]
    unfold Jwt.issue
    cases first : sign? message with
    | none =>
      rw [first, Option.isSome_none] at same
      have second := Option.not_isSome_iff_eq_none.mp (Bool.eq_false_iff.mp same.symm)
      simp only [message] at first second
      simp only [first, second]
      exact .inr ⟨_, rfl, rfl⟩
    | some signature =>
      rw [first, Option.isSome_some] at same
      obtain ⟨signature', second⟩ := Option.isSome_iff_exists.mp same.symm
      simp only [message] at first second
      simp only [first, second]
      exact .inl ⟨_, _, rfl, rfl⟩

end Backend

/-- Tokens of one state are loaded alike, whatever was drawn for them and however they were signed:
both as the same state, or neither, and then for the same reason. -/
theorem Factory.load_of_saves {s : Settings} {f : Factory} (built : ofSettings s = .ok f)
    {sign? sign?' : Bytes → Option Bytes} (signing : f.backend.Signing sign?)
    (signing' : f.backend.Signing sign?') {data : Data} {source source' : Entropy}
    {token token' : Bytes}
    (saved : ((f.backend.withSign sign?).save data).outcome source = .ok token)
    (saved' : ((f.backend.withSign sign?').save data).outcome source' = .ok token') :
    f.backend.load token = f.backend.load token' := by
  obtain ⟨-, sealer, suits, isSealed⟩ | ⟨-, signer, -, isSigned⟩ := backend_of_ofSettings built
  · rw [isSealed] at saved saved' ⊢
    have opens := Sealer.opens_of_create suits
    obtain ⟨nonce, drawn, rfl⟩ := Codec.outcome_encode_eq_ok.mp saved
    obtain ⟨nonce', drawn', rfl⟩ := Codec.outcome_encode_eq_ok.mp saved'
    -- Decoding gets rid of the nonce, and what is left of both tokens is the same content.
    exact (Codec.decode_token_eq drawn (opens _ _)).trans
      (Codec.decode_token_eq drawn' (opens _ _)).symm
  · have read {sign? : Bytes → Option Bytes} {token : Bytes} {source : Entropy}
        (signing : f.backend.Signing sign?)
        (saved : ((f.backend.withSign sign?).save data).outcome source = .ok token) :
        f.backend.load token = .ok ((Backend.signed signer).precise data) := by
      rw [← Backend.load_withSign _ sign?]
      have honest := signing.honest
      rw [isSigned] at saved honest ⊢
      exact (Backend.honours_signed (honest _ rfl) saved).reads fun oversized => oversized.elim
    exact (read signing saved).trans (read signing' saved').symm

end SealedTokens
