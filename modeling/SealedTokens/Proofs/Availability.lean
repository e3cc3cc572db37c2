import SealedTokens.Proofs.Loading
import SealedTokens.Proofs.Persistence
/-!
# Availability

Sessions of a validated configuration are there for every request. A token that cannot be read, or
whose state is not valid, costs the client its session and never its answer.

## Main results

- `Backend.isFormatOrDecrypt_of_load`: whatever a token is, an error of loading is about the token
- `SessionConfig.validated`: what validation has found out
- `Http.SessionState.exists_establish`: every request has a session
- `Http.sessionLayer_always_serves`: every request reaches the service

## Proof strategy

A request is established in four steps: a fresh session, the transport, the token and its state. The
first two depend on the configuration and the clock only. The other two may fail, and every error
that they have belongs to one of the two classes that are answered with a fresh session.
-/
namespace SealedTokens

/-! ### Errors of tokens -/

theorem Backend.isFormatOrDecrypt_of_load {backend : Backend} {token : Bytes} {e : ContainerError}
    (refused : backend.load token = .error e) : e.isFormatOrDecrypt = true := by
  cases backend with
  | sealed codec => exact Codec.isFormatOrDecrypt_of_decode refused
  | signed signer =>
    obtain ⟨e', failed, isFormat⟩ | ⟨text, -, load_eq⟩ := Backend.load_signed_cases signer token
    · cases refused.symm.trans failed
      exact isFormat.1.isFormatOrDecrypt
    · rw [load_eq] at refused
      -- Either the text was not read, or its claims are outside the calendar.
      obtain reading | ⟨claims, -, outside⟩ := bind_eq_error.mp refused
      · have law := Jwt.lawful_read signer (Bytes.ofText (Text.trim text))
        rw [reading] at law
        obtain ⟨isDecrypt, -⟩ | ⟨isFormat, -⟩ := law
        · exact isDecrypt.isFormatOrDecrypt
        · exact isFormat.isFormatOrDecrypt
      · exact (Claims.isFormat_of_toData outside).isFormatOrDecrypt

theorem Header.isInvalid_of_validate {h : Header} {now : Instant} {e : ContainerError}
    (refused : h.validate now = .error e) : e.isInvalid = true := by
  unfold validate at refused
  split at refused
  · cases refused
    rfl
  · split at refused
    · cases refused
      rfl
    · split at refused <;> cases refused
      rfl

/-- A check that only passes or rejects. -/
def Validator.Decides (check : Validator) : Prop :=
  ∀ data e, check data = .error e → ∃ message context, e = ⟨.validator message, context⟩

theorem Session.isInvalid_of_validateAt {s : Sessions} {session : Session} {clock : Instant}
    {e : SessionError} (owned : s.Owns session) (decides : ∀ check ∈ s.validators, check.Decides)
    (refused : session.validateAt clock = .error e) : e.isInvalid = true := by
  unfold validateAt at refused
  obtain outside | ⟨_, -, rejected⟩ := bind_eq_error.mp refused
  · obtain ⟨source, failed, rfl⟩ := SessionError.lift_eq_error.mp outside
    have failed : session.header.validate clock = .error source := failed
    exact Header.isInvalid_of_validate failed
  · rw [owned.validators] at rejected
    obtain ⟨check, member, rejected⟩ := forM_eq_error rejected
    obtain ⟨message, context, rfl⟩ := decides check member _ _ rejected
    rfl

/-! ### Validated configurations -/

/-- What validation of a configuration has found out. -/
structure SessionConfig.Validated (config : SessionConfig) : Prop where
  refresh : config.refresh.isZero = false
  header : ∃ name, config.headerName = .ok name
  emits : ∃ stages, config.container.stages = .ok stages ∧ stages.emitsText = true
  policy : ∃ policy, config.cookie.policy = .ok policy

theorem CookieConfig.exists_policy {c : CookieConfig} (valid : c.validate = .ok ()) :
    ∃ policy, c.policy = .ok policy := by
  unfold validate at valid
  split at valid
  · cases valid
  · cases chosen : c.policy with
    | ok policy => exact ⟨policy, rfl⟩
    | error e =>
      rw [chosen] at valid
      cases valid

theorem SessionConfig.validated {config : SessionConfig} (valid : config.validate = .ok ()) :
    config.Validated := by
  unfold validate at valid
  -- The checks in their order; each that fails ends the validation.
  cases maxAge : config.maxAge.isZero with
  | true =>
    simp only [maxAge, ite_true] at valid
    cases valid
  | false =>
    cases refresh : config.refresh.isZero with
    | true =>
      simp only [maxAge, refresh, Bool.false_eq_true, ite_false, ite_true] at valid
      cases valid
    | false =>
      simp only [maxAge, refresh, Bool.false_eq_true, ite_false] at valid
      obtain ⟨_, named, valid⟩ := bind_eq_ok.mp valid
      obtain ⟨stages, staged, valid⟩ := bind_eq_ok.mp valid
      have header : ∃ name, config.headerName = .ok name := by
        cases read : config.headerName with
        | ok name => exact ⟨name, rfl⟩
        | error e =>
          rw [read] at named
          cases named
      cases emits : stages.emitsText with
      | true =>
        simp only [emits, Bool.not_true, Bool.false_eq_true, ite_false] at valid
        exact ⟨refresh, header, ⟨stages, SessionError.lift_eq_ok.mp staged, emits⟩,
          CookieConfig.exists_policy valid⟩
      | false =>
        simp only [emits, Bool.not_false, ite_true] at valid
        cases valid

/-- What sessions of a configuration are: its two spans, no options, and a factory of settings whose
tokens are text. -/
theorem Sessions.ofConfig_eq_ok {config : SessionConfig} {files : Files} {sessions : Sessions}
    (made : ofConfig config files = .ok sessions) : config.Validated ∧
    ∃ f : Factory, Factory.ofSettings f.settings = .ok f ∧ f.settings.emitsText = true ∧
      sessions = ⟨f, config.maxAge, config.refresh, []⟩ := by
  obtain ⟨_, valid, made⟩ := bind_eq_ok.mp made
  have validated := SessionConfig.validated valid
  obtain ⟨stages, staged, emits⟩ := validated.emits
  obtain ⟨f, built, made⟩ := bind_eq_ok.mp made
  obtain ⟨s, expanded, built⟩ := bind_eq_ok.mp (SessionError.lift_eq_ok.mp built)
  obtain ⟨stages', staged', expanded⟩ := bind_eq_ok.mp expanded
  obtain ⟨key, -, expanded⟩ := bind_eq_ok.mp expanded
  obtain ⟨_, -, expanded⟩ := bind_eq_ok.mp expanded
  have same : f.settings = s := by
    obtain ⟨_, -, made⟩ := bind_eq_ok.mp built
    obtain ⟨backend, -, made⟩ := bind_eq_ok.mp made
    cases made
    rfl
  cases staged.symm.trans staged'
  cases expanded
  refine ⟨validated, f, same ▸ built, ?_, ?_⟩
  · rw [same]
    exact emits
  · unfold create at made
    split at made
    · cases made
    · cases made
      rfl

theorem Backend.emitsText_of_ofSettings {s : Settings} {f : Factory}
    (built : Factory.ofSettings s = .ok f) (emits : s.emitsText = true) : f.backend.EmitsText := by
  obtain ⟨kind, sealer, -, isSealed⟩ | ⟨-, signer, -, isSigned⟩ :=
    Factory.backend_of_ofSettings built
  · rw [isSealed]
    show s.representer = .base64
    unfold Settings.emitsText at emits
    cases chosen : s.representer with
    | base64 => rfl
    | nop =>
      rw [kind, chosen] at emits
      cases emits
  · rw [isSigned]
    trivial

/-- Whatever headers a request has, one of the two transports is selected. -/
theorem Transport.exists_select {config : SessionConfig} (validated : config.Validated)
    (exchange : Exchange) : ∃ transport, select config exchange = .ok transport := by
  obtain ⟨name, named⟩ := validated.header
  obtain ⟨policy, chosen⟩ := validated.policy
  unfold select
  simp only [named, bind, Except.bind]
  split
  · exact ⟨_, rfl⟩
  · exact ⟨.cookie config.cookie policy, bind_eq_ok.mpr ⟨policy, chosen, rfl⟩⟩

/-! ### Sessions for every request -/

/-- The session as a service is given it: with its window moved, if that is due. -/
def Session.given (s : Session) (clock stop : Instant) : Session :=
  if s.refreshRequiredAt clock then s.moved clock stop else s

theorem Session.exists_apply {s : Session} {clock stop : Instant}
    (ends : windowEnd clock s.sessions.maxAge = .ok stop) (option : SessionOption) :
    ∃ next, s.apply clock option = .ok next := by
  cases option with
  | validator check => exact ⟨_, rfl⟩
  | payload key value =>
    let written := s.withData ⟨s.header, s.payload.insert key value⟩
    have set : s.set clock key value = (.ok (), written.moved clock stop) :=
      refreshed_of_ok (refreshAt_eq_ok.mpr ⟨stop, ends, rfl⟩)
    refine ⟨written.moved clock stop, ?_⟩
    rw [apply, set]

theorem Sessions.exists_createAt {s : Sessions} {clock stop : Instant}
    (ends : windowEnd clock s.maxAge = .ok stop) :
    ∃ fresh, s.createAt clock clock = .ok fresh := by
  have created : s.factory.create clock s.maxAge .empty = .ok _ :=
    Container.create_eq_ok.mpr ⟨stop, ends, rfl⟩
  -- No option changes the policy, so each of them can move the window.
  obtain ⟨fresh, applied⟩ := exists_foldlM (P := fun session : Session => session.sessions = s)
    (f := fun session option => session.apply clock option) (fun session option same => by
      obtain ⟨next, applied⟩ := Session.exists_apply (same ▸ ends) option
      exact ⟨next, applied, (Session.apply_eq_ok applied).1.trans same⟩) s.options
    (show (⟨s, _, []⟩ : Session).sessions = s from rfl)
  exact ⟨fresh, bind_eq_ok.mpr ⟨_, SessionError.lift_eq_ok.mpr created, applied⟩⟩

namespace Http

namespace SessionState

variable {state : SessionState} {exchange : Exchange} {clock stop : Instant}

/-- A state that was read and is not valid is replaced by a fresh session. -/
theorem establish_of_refused {fresh : Session} {transport : Transport} {token : Bytes}
    {data : Data} {e : SessionError} (created : state.sessions.createAt clock clock = .ok fresh)
    (selected : Transport.select state.config exchange = .ok transport)
    (carried : transport.token? exchange = some token)
    (read : state.sessions.factory.backend.load token = .ok data)
    (refused : (state.sessions.holding data).validateAt clock = .error e)
    (invalid : e.isInvalid = true) :
    state.establish exchange clock = .ok ⟨transport, fresh, true⟩ := by
  have renewed : (state.sessions.holding data).renew clock = .ok fresh := created
  refine bind_eq_ok.mpr ⟨fresh, created, bind_eq_ok.mpr ⟨transport, selected, ?_⟩⟩
  simp only [load_of_read (Sessions.createAt_eq_ok created) carried read, refused, invalid,
    ite_true]
  exact bind_eq_ok.mpr ⟨transport, selected, bind_eq_ok.mpr ⟨fresh, renewed, rfl⟩⟩

theorem establish_of_unreadable {fresh : Session} {transport : Transport} {token : Bytes}
    {e : ContainerError} (created : state.sessions.createAt clock clock = .ok fresh)
    (selected : Transport.select state.config exchange = .ok transport)
    (carried : transport.token? exchange = some token)
    (unread : state.sessions.factory.backend.load token = .error e) :
    state.establish exchange clock = .ok ⟨transport, fresh, false⟩ := by
  obtain ⟨e', failed, same⟩ := load_of_unread (Sessions.createAt_eq_ok created) carried unread
  rw [Backend.isFormatOrDecrypt_of_load unread] at same
  refine bind_eq_ok.mpr ⟨fresh, created, bind_eq_ok.mpr ⟨transport, selected, ?_⟩⟩
  simp only [failed, same, ite_true]
  rfl

theorem exists_establish (validated : state.config.Validated)
    (decides : ∀ check ∈ state.sessions.validators, check.Decides)
    (ends : windowEnd clock state.sessions.maxAge = .ok stop) (exchange : Exchange) :
    ∃ found, state.establish exchange clock = .ok found := by
  obtain ⟨fresh, created⟩ := Sessions.exists_createAt ends
  obtain ⟨transport, selected⟩ := Transport.exists_select validated exchange
  cases carried : transport.token? exchange with
  | none => exact ⟨_, establish_of_absent created selected carried⟩
  | some token =>
    cases read : state.sessions.factory.backend.load token with
    | error e => exact ⟨_, establish_of_unreadable created selected carried read⟩
    | ok data =>
      have owned := state.sessions.owns_holding data
      cases checked : (state.sessions.holding data).validateAt clock with
      | ok _ =>
        exact ⟨_, establish_of_admitted created selected carried read
          ((Session.validateAt_eq_ok owned).mp checked)⟩
      | error e =>
        exact ⟨_, establish_of_refused created selected carried read checked
          (Session.isInvalid_of_validateAt owned decides checked)⟩

/-- An established session can be refreshed at once. -/
theorem refreshAt_of_establish {found : Established}
    (established : state.establish exchange clock = .ok found)
    (ends : windowEnd clock state.sessions.maxAge = .ok stop) :
    found.session.refreshAt clock = .ok (found.session.moved clock stop) := by
  rw [← (establish_eq_ok established).2.owned.sessions] at ends
  exact Session.refreshAt_eq_ok.mpr ⟨stop, ends, rfl⟩

theorem prepare_of_established {first : Established}
    (established : state.establish exchange clock = .ok first)
    (ends : windowEnd clock state.sessions.maxAge = .ok stop) :
    state.prepare exchange clock = .ok
      ({ first with session := first.session.given clock stop }, first.session.header.nonce) := by
  unfold Session.given
  cases due : first.session.refreshRequiredAt clock with
  | false => exact prepare_of_recent established due
  | true =>
    rw [← (establish_eq_ok established).2.owned.sessions] at ends
    exact prepare_of_due established due ends

end SessionState

theorem decides_withOptions {config : SessionConfig} {files : Files} {sessions : Sessions}
    (made : Sessions.ofConfig config files = .ok sessions) {options : List SessionOption}
    (decides : ∀ check, .validator check ∈ options → check.Decides) :
    ∀ check ∈ (sessions.withOptions options).validators, check.Decides := by
  intro check member
  obtain ⟨-, f, -, -, rfl⟩ := Sessions.ofConfig_eq_ok made
  -- Sessions of a configuration have no options of their own.
  obtain ⟨option, member, same⟩ := List.mem_filterMap.mp member
  cases option with
  | payload key value => cases same
  | validator check' =>
    cases same
    exact decides check member

/-- **Availability.** Sessions of a validated configuration, with any options whose validators only
pass or reject, and a clock from which a window ends inside the calendar. No request can make the
layer fail, whatever its headers are:

- a transport is selected;
- an error of loading a token, whatever its bytes, is one of form or of decryption;
- an error of validating a state is one that gives the state up, and a token of such a state is
  answered with a fresh session that is marked as a replacement;
- the session of the request is established, and a refresh of it succeeds;
- the layer runs the service, whatever service it is, on that session. -/
theorem sessionLayer_always_serves {α : Type} {config : SessionConfig} {files : Files}
    {sessions : Sessions} (made : Sessions.ofConfig config files = .ok sessions)
    {options : List SessionOption} (decides : ∀ check, .validator check ∈ options → check.Decides)
    (request : Request) (serving : Serving) {stop : Instant}
    (ends : serving.clock.add? config.maxAge = some stop) :
    let state : SessionState := ⟨sessions.withOptions options, config⟩
    let exchange := Exchange.ofRequest request.headers request.uri.authority?
    (∃ transport, Transport.select config exchange = .ok transport) ∧
    (∀ token e, sessions.factory.backend.load token = .error e → e.isFormatOrDecrypt = true) ∧
    (∀ data e, (state.sessions.holding data).validateAt serving.clock = .error e →
      e.isInvalid = true ∧ ∀ transport token, Transport.select config exchange = .ok transport →
        transport.token? exchange = some token → sessions.factory.backend.load token = .ok data →
        ∃ fresh, state.sessions.createAt serving.clock serving.clock = .ok fresh ∧
          state.establish exchange serving.clock = .ok ⟨transport, fresh, true⟩) ∧
    (∃ found, state.establish exchange serving.clock = .ok found ∧
      found.session.refreshAt serving.clock = .ok (found.session.moved serving.clock stop)) ∧
    ∃ found loaded, state.prepare exchange serving.clock = .ok (found, loaded) ∧
      ∀ next : Service α, (sessionLayer state next request).run serving =
        let answered := (next request).run { serving with current := some ⟨found.session, false⟩ }
        (conclude found loaded exchange answered.1).run answered.2 := by
  intro state exchange
  obtain ⟨validated, f, -, -, rfl⟩ := Sessions.ofConfig_eq_ok made
  have ends' : windowEnd serving.clock state.sessions.maxAge = .ok stop := windowEnd_of_add? ends
  have decide := decides_withOptions made decides
  refine ⟨Transport.exists_select validated exchange, fun _ _ => Backend.isFormatOrDecrypt_of_load,
    fun data e refused => ?_, ?_, ?_⟩
  · have invalid := Session.isInvalid_of_validateAt (Sessions.owns_holding _ data) decide refused
    refine ⟨invalid, fun transport token selected carried read => ?_⟩
    obtain ⟨fresh, created⟩ := Sessions.exists_createAt ends'
    exact ⟨fresh, created,
      SessionState.establish_of_refused created selected carried read refused invalid⟩
  · obtain ⟨found, established⟩ := SessionState.exists_establish validated decide ends' exchange
    exact ⟨found, established, SessionState.refreshAt_of_establish established ends'⟩
  · obtain ⟨found, established⟩ := SessionState.exists_establish validated decide ends' exchange
    have ready := SessionState.prepare_of_established established ends'
    refine ⟨_, _, ready, fun next => ?_⟩
    rw [run_sessionLayer, ready]

/-- A configuration with any path for the cookie. -/
def minuteConfig (path : String) : SessionConfig :=
  { container := { kind := "jwt", key := some "k" }, maxAge := .ofSecs 60, refresh := .ofSecs 10,
    cookie := { path } }

/-- Two cookies that are no tokens, bytes that are no text, and a validator that rejects whatever it
is given: the service is run. -/
theorem sessionLayer_always_serves_damaged :
    let options : List SessionOption :=
      [.payload 1 [2], .validator fun _ => .error (.rejected "never")]
    let state : SessionState := ⟨(minuteSessions []).withOptions options, minuteConfig "/"⟩
    let request := { plainRequest with headers := [("cookie", Bytes.ofText "_cachet=%ff; _cachet"),
      ("cookie", [0xff]), ("authorization", [0x80])] }
    let exchange := Exchange.ofRequest request.headers request.uri.authority?
    ∃ found loaded, state.prepare exchange plainServing.clock = .ok (found, loaded) ∧
      ∀ next : Service Nat, (sessionLayer state next request).run plainServing =
        let answered :=
          (next request).run { plainServing with current := some ⟨found.session, false⟩ }
        (conclude found loaded exchange answered.1).run answered.2 := by
  intro options state request exchange
  have made : Sessions.ofConfig (minuteConfig "/") (fun _ => .error "") = .ok (minuteSessions []) :=
    by rfl
  have decides : ∀ check, .validator check ∈ options → check.Decides := by
    intro check member
    obtain same | member := List.mem_cons.mp member
    · cases same
    · cases List.mem_singleton.mp member
      intro data e rejected
      cases rejected
      exact ⟨"never", none, rfl⟩
  have ends : plainServing.clock.add? (minuteConfig "/").maxAge =
      some ⟨60, 0, by decide, by decide⟩ := by decide
  exact (sessionLayer_always_serves made decides request plainServing ends).2.2.2.2

end Http

end SealedTokens
