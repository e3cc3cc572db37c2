import SealedTokens.Proofs.ConfigurationErrors
import SealedTokens.Proofs.SessionWindows
import SealedTokens.Proofs.SessionWrites
/-!
# Limits of the calendar

Configurations are accepted whatever their spans are, as long as these are not zero. Whether a
window of a span fits into the calendar is found out when the window is placed, which is while a
request is served; then the error names the configuration. Cookies have a calendar of their own,
which ends with the year 9999.

## Main results

- `Sessions.hangsOnCalendar`, `Csrf.hangsOnCalendar_of_ofConfig`: which operations hang on the
  calendar, and on nothing else
- `exists_expressible_of_moderate`: spans for which every window of our time fits both calendars
- `configurations_serve_within_calendar`: what accepted configurations can count on
- `accepted_span_is_not_served`: an accepted configuration without a session

## Proof strategy

Every operation that moves a window does so in its last step, and the end of the window is the one
thing that can fail. So each is one step that hangs on the calendar before one that always succeeds
(`HangsOn.bind`).
-/
namespace SealedTokens

/-! ### Windows that fit -/

/-- A window that starts at an instant ends inside the calendar. -/
def Fits (start : Instant) (ttl : Span) : Prop := ∃ stop, start.add? ttl = some stop

section Fits

variable {clock start : Instant} {ttl : Span}

theorem hangsOn_windowEnd (start : Instant) (ttl : Span) :
    HangsOn (Fits start ttl) ContainerError.IsConfiguration (windowEnd start ttl) where
  returns := fun ⟨stop, ends⟩ => ⟨stop, windowEnd_of_add? ends⟩
  fails lacks := by
    cases ends : windowEnd start ttl with
    | ok stop => exact absurd ⟨stop, (windowEnd_eq_ok.mp ends).2⟩ lacks
    | error e =>
      refine ⟨e, rfl, ?_⟩
      unfold windowEnd at ends
      simp only at ends
      -- The span is too long by itself, or from this instant on.
      split at ends
      · cases ends
        exact ⟨_, rfl⟩
      · split at ends <;> cases ends
        exact ⟨_, rfl⟩

theorem hangsOn_create (f : Factory) (start : Instant) (ttl : Span) (payload : Payload) :
    HangsOn (Fits start ttl) ContainerError.IsConfiguration (f.create start ttl payload) :=
  -- First the header, which is the window's end with constants around it.
  ((hangsOn_windowEnd start ttl).bind fun _ _ _ => ⟨_, rfl⟩).bind fun _ _ _ => ⟨_, rfl⟩

end Fits

/-! ### Operations on sessions -/

theorem Sessions.hangsOn_createAt (s : Sessions) (clock : Instant) :
    HangsOn (Fits clock s.maxAge) SessionError.IsConfiguration (s.createAt clock clock) where
  returns := fun ⟨_, ends⟩ => exists_createAt (windowEnd_of_add? ends)
  fails lacks := by
    obtain ⟨e, failed, isConfiguration⟩ :=
      (hangsOn_create s.factory clock s.maxAge .empty).fails lacks
    have lifted := SessionError.lift_eq_error.mpr ⟨e, failed, rfl⟩
    exact ⟨.ofContainer e, bind_eq_error.mpr (.inl lifted), e, rfl, isConfiguration⟩

namespace Session

variable {s : Session} {clock : Instant}

/-- What an operation answers, without what it has read. -/
def answer (clock : Instant) (s : Session) : SessionOperation → Except SessionError Unit
  | .set key value => (s.set clock key value).1
  | .setText key value => (s.setText clock key value).1
  | .del key => (s.del clock key).1.map fun _ => ()
  | .refresh => (s.refreshAt clock).map fun _ => ()
  | .get _ | .getText _ | .clean | .touch => .ok ()

/-- Whether an operation moves the window: it writes, refreshes, or removes a key that is there. -/
def moves (s : Session) : SessionOperation → Bool
  | .set .. | .setText .. | .refresh => true
  | .del key => s.payload.contains key
  | .get _ | .getText _ | .clean | .touch => false

theorem hangsOn_refreshAt (s : Session) (clock : Instant) :
    HangsOn (Fits clock s.sessions.maxAge) SessionError.IsConfiguration (s.refreshAt clock) :=
  (SessionError.hangsOn_lift (hangsOn_windowEnd clock s.sessions.maxAge)).bind fun _ _ _ => ⟨_, rfl⟩

/-- An operation that refreshes last hangs on the calendar as refreshing does. -/
theorem hangsOn_refreshed {α : Type} (s : Session) (clock : Instant) (result : α) :
    HangsOn (Fits clock s.sessions.maxAge) SessionError.IsConfiguration
      (s.refreshed clock result).1 where
  returns fits := by
    obtain ⟨next, refreshes⟩ := (s.hangsOn_refreshAt clock).returns fits
    exact ⟨result, by rw [refreshed_of_ok refreshes]⟩
  fails lacks := by
    obtain ⟨e, failed, isConfiguration⟩ := (s.hangsOn_refreshAt clock).fails lacks
    exact ⟨e, by rw [refreshed_of_error failed], isConfiguration⟩

/-- Operations hang on the calendar if they move the window, and on nothing otherwise. -/
theorem hangsOn_answer (s : Session) (clock : Instant) (operation : SessionOperation) :
    HangsOn (s.moves operation = true → Fits clock s.sessions.maxAge) SessionError.IsConfiguration
      (s.answer clock operation) := by
  -- What is written before the refresh does not matter to it.
  have writes {α : Type} (payload : Payload) (result : α) :=
    (s.withData ⟨s.header, payload⟩).hangsOn_refreshed clock result
  cases operation with
  | set key value => exact (writes (s.payload.insert key value) ()).when rfl
  | setText key value => exact (writes (s.payload.insert key (Bytes.ofText value)) ()).when rfl
  | refresh => exact ((s.hangsOn_refreshAt clock).map _).when rfl
  | del key =>
    cases found : s.payload.contains key with
    | true =>
      rw [answer, del_of_contains found]
      exact ((writes (s.payload.erase key) true).map _).when found
    | false =>
      rw [answer, del_of_not_contains found]
      exact .of_ok fun moves => absurd moves (Bool.eq_false_iff.mp found)
  | get key => exact .of_ok fun moves => by cases moves
  | getText key => exact .of_ok fun moves => by cases moves
  | clean => exact .of_ok fun moves => by cases moves
  | touch => exact .of_ok fun moves => by cases moves

end Session

/-! ### Saving -/

/-- Whatever keeps a state from being saved, it is not the configuration. -/
theorem Backend.not_isConfiguration_of_save {backend : Backend} {data : Data} {source : Entropy}
    {e : ContainerError} (failed : (backend.save data).outcome source = .error e) :
    ¬ e.IsConfiguration := by
  -- For want of randomness or of a signature, which are internal errors both.
  have internal : ∃ message, e.cause = .internal message := by
    cases backend with
    | sealed codec =>
      have encoded : (codec.encode data).outcome source = .error e := failed
      rw [Codec.outcome_encode] at encoded
      split at encoded <;> cases encoded
      exact ⟨_, rfl⟩
    | signed signer =>
      have issued : Jwt.issue signer (Claims.ofData data) = .error e := failed
      unfold Jwt.issue at issued
      simp only at issued
      split at issued <;> cases issued
      exact ⟨_, rfl⟩
  rintro ⟨other, isConfiguration⟩
  obtain ⟨message, isInternal⟩ := internal
  cases isInternal.symm.trans isConfiguration

namespace Transport

variable {config : CookieConfig} {policy : SameSitePolicy} {exchange : Exchange} {session : Session}
  {source : Entropy} {e : SessionError}

/-- A cookie is not written for want of randomness or of a signature, or since no cookie can tell
when it expires. -/
theorem error_of_save_cookie (emits : session.container.backend.EmitsText)
    (failed : ((Transport.cookie config policy).save exchange session).outcome source = .error e) :
    ¬ e.IsConfiguration ∧ (e = outsideYears → ¬ Expressible session.header.validBefore) := by
  obtain ⟨cause, saving, rfl⟩ | ⟨rfl, years⟩ := error_of_save emits failed
  · refine ⟨?_, fun same => by cases same⟩
    rintro ⟨other, same, isConfiguration⟩
    cases same
    exact Backend.not_isConfiguration_of_save saving isConfiguration
  · refine ⟨?_, fun _ => years⟩
    rintro ⟨other, same, -⟩
    cases same

end Transport

/-! ### Handles -/

/-- What operations on sessions hang on. Creating one, and whatever moves its window, hangs on the
calendar alone. Saving one in a cookie hangs on the calendar of cookies, and whatever else may fail,
it is not for the configuration.

- `sign?`: stands for signing under the factory's key, which some algorithms do at random -/
structure Sessions.HangsOnCalendar (s : Sessions) : Prop where
  creates : ∀ clock, HangsOn (Fits clock s.maxAge) SessionError.IsConfiguration
    (s.createAt clock clock)
  operates : ∀ clock (session : Session) operation, session.sessions = s →
    HangsOn (session.moves operation = true → Fits clock s.maxAge) SessionError.IsConfiguration
      (session.answer clock operation)
  saves : ∀ (session : Session) sign? config policy exchange source e,
    session.container.backend = s.factory.backend.withSign sign? →
    ((Transport.cookie config policy).save exchange session).outcome source = .error e →
    ¬ e.IsConfiguration ∧
      (e = Transport.outsideYears → ¬ Transport.Expressible session.header.validBefore)
  expires : ∀ (session : Session) sign? config policy exchange source,
    session.container.backend = s.factory.backend.withSign sign? →
    session.container.backend.Signs → source.limit = none →
    ¬ Transport.Expressible session.header.validBefore →
    ((Transport.cookie config policy).save exchange session).outcome source =
      .error Transport.outsideYears

theorem Sessions.hangsOnCalendar {s : Sessions} (emits : s.factory.backend.EmitsText) :
    s.HangsOnCalendar where
  creates := s.hangsOn_createAt
  operates clock session operation own := own ▸ session.hangsOn_answer clock operation
  saves session sign? config policy exchange source e own failed := by
    refine Transport.error_of_save_cookie ?_ failed
    rw [own]
    exact Backend.emitsText_withSign emits
  expires session sign? config policy exchange source own signs unlimited outside := by
    have text : session.container.backend.EmitsText := by
      rw [own]
      exact Backend.emitsText_withSign emits
    obtain ⟨next, ran⟩ := Transport.save_cookie_of_outside text signs unlimited outside
    exact congrArg Prod.fst ran

namespace Csrf

variable {issuer : Csrf} {clock : Instant}

/-- What issuing and reading anti-forgery tokens hang on. Where the calendar has room, issuing
succeeds, and reading fails for the token's sake only. -/
structure HangsOnCalendar (issuer : Csrf) : Prop where
  signs : ∀ clock source subject entropy, entropy.limit = none →
    HangsOn (Fits clock issuer.ttl) CsrfError.IsConfiguration
      ((issuer.signAt source subject clock).outcome entropy)
  reads : ∀ clock token e, Fits clock issuer.ttl → issuer.unpack clock token = .error e →
    ∃ source, e.cause = .container source ∧ source.isFormatOrDecrypt = true
  refuses : ∀ clock token, ¬ Fits clock issuer.ttl →
    ∃ e, issuer.unpack clock token = .error e ∧ e.IsConfiguration

theorem hangsOn_signAt {cipher : Crypto.Cipher}
    (backend : issuer.factory.backend = .sealed (stack cipher)) (clock : Instant)
    (source subject : String) {entropy : Entropy} (unlimited : entropy.limit = none) :
    HangsOn (Fits clock issuer.ttl) CsrfError.IsConfiguration
      ((issuer.signAt source subject clock).outcome entropy) := by
  let call : SignCall := ⟨source, subject, clock, entropy⟩
  -- The nonce is drawn before the window is placed, so it is there in either case.
  obtain ⟨raw, left, drawn, unlimited'⟩ := Entropy.draw_of_unlimited unlimited 8
  obtain ⟨nonce, draws⟩ : ∃ nonce, Draws call nonce left :=
    ⟨_, draws_iff.mpr ⟨raw, drawn, rfl⟩⟩
  constructor
  · rintro ⟨stop, ends⟩
    obtain ⟨boxNonce, next, boxDrawn, -⟩ :=
      Entropy.draw_of_unlimited unlimited' Crypto.XChaCha20Poly1305.nonceLength
    have sealing : (stack cipher).sealer.nonce? left = some boxNonce := congrArg Prod.fst boxDrawn
    have windowEnds : windowEnd call.now issuer.ttl = .ok stop := windowEnd_of_add? ends
    have signed : issuer.Signs call _ := signs_token backend draws windowEnds sealing
    exact ⟨_, signed⟩
  · intro lacks
    obtain ⟨e, failed, isConfiguration⟩ := (hangsOn_create issuer.factory clock issuer.ttl
      (binding nonce source subject)).fails lacks
    refine ⟨.ofContainer e, ?_, e, rfl, isConfiguration⟩
    unfold Drawing.outcome signAt liftDrawing
    rw [Drawing.run_bind, Drawing.run_adapt_eq_ok.mpr draws]
    simp only [failed]
    rfl

theorem isFormatOrDecrypt_of_unpack {token : String} {e : CsrfError} (fits : Fits clock issuer.ttl)
    (refused : issuer.unpack clock token = .error e) :
    ∃ source, e.cause = .container source ∧ source.isFormatOrDecrypt = true := by
  obtain failed | ⟨container, -, refused⟩ := bind_eq_error.mp refused
  -- There is a container to load the token into.
  · obtain ⟨container, created⟩ :=
      (hangsOn_create issuer.factory clock issuer.ttl .empty).returns fits
    rw [CsrfError.lift_eq_ok.mpr created] at failed
    cases failed
  · rw [Container.load_eq] at refused
    cases read : container.backend.load (Bytes.ofText (Text.trim token)) with
    | ok data =>
      rw [read] at refused
      cases refused
    | error source =>
      rw [read] at refused
      cases refused
      exact ⟨source, rfl, Backend.isFormatOrDecrypt_of_load read⟩

theorem refuses_unpack (token : String) (lacks : ¬ Fits clock issuer.ttl) :
    ∃ e, issuer.unpack clock token = .error e ∧ e.IsConfiguration := by
  obtain ⟨e, failed, isConfiguration⟩ :=
    (hangsOn_create issuer.factory clock issuer.ttl .empty).fails lacks
  refine ⟨.ofContainer e, bind_eq_error.mpr (.inl ?_), e, rfl, isConfiguration⟩
  rw [failed]
  rfl

theorem ttl_of_ofConfig {config : CsrfConfig} {files : Files}
    (issued : ofConfig config files = .ok issuer) : issuer.ttl = config.ttl := by
  obtain ⟨-, -, rest⟩ := bind_eq_ok.mp issued
  obtain ⟨s, -, rest⟩ := bind_eq_ok.mp rest
  obtain ⟨factory, -, rest⟩ := bind_eq_ok.mp rest
  obtain ⟨methods, -, same⟩ := bind_eq_ok.mp rest
  cases same
  rfl

theorem hangsOnCalendar_of_ofConfig {config : CsrfConfig} {files : Files}
    (issued : ofConfig config files = .ok issuer) : issuer.HangsOnCalendar where
  signs clock source subject entropy unlimited := by
    obtain ⟨key, backend⟩ := exists_backend issued
    exact hangsOn_signAt backend clock source subject unlimited
  reads clock token e fits refused := isFormatOrDecrypt_of_unpack fits refused
  refuses clock token lacks := refuses_unpack token lacks

end Csrf

/-! ### Our time -/

/-- The years from 1970 to 2100. -/
def servedYears : Set Instant := {t | 0 ≤ t.secs ∧ t.secs < 4133980800}

/-- Spans of up to some 7899 years, with which windows of our time end before the year 10000. -/
def Span.Moderate (span : Span) : Prop := span.secs ≤ 249268319999

/-- A window that starts in our time and lasts for such a span fits both calendars, and it still does
when its end is written. -/
theorem exists_expressible_of_moderate {clock : Instant} {span : Span}
    (served : clock ∈ servedYears) (moderate : span.Moderate) :
    ∃ stop, clock.add? span = some stop ∧ Transport.Expressible stop ∧
      Transport.Expressible stop.shown := by
  have early : 0 ≤ clock.secs ∧ clock.secs < 4133980800 := served
  have short : span.secs ≤ 249268319999 := moderate
  have valid := clock.nanos_valid
  have fraction := span.nanos_lt
  unfold Instant.add? Transport.Expressible Transport.firstCookieSecond Transport.lastCookieSecond
  split
  next inside =>
    -- The second after the clock reading is far from the end.
    let stop : Instant := ⟨clock.secs, clock.nanos + span.nanos, clock.in_calendar, inside.2.2⟩
    have same : stop.secs = clock.secs := rfl
    obtain ⟨first, last⟩ := Instant.secs_shown stop
    exact ⟨stop, rfl, by omega, by omega⟩
  next outside =>
    -- At most one second is carried, and clocks show what this leads to.
    let stop : Instant := ⟨clock.secs + span.secs +
        ((clock.nanos % 1000000000 + span.nanos) / 1000000000 : Nat),
      (clock.nanos % 1000000000 + span.nanos) % 1000000000, by omega, by omega⟩
    have shown : stop.OnClock := .inl (Nat.mod_lt _ (by decide))
    have years : -377705116800 ≤ stop.secs ∧ stop.secs ≤ 253402300799 := by
      simp only [stop]
      omega
    refine ⟨stop, Instant.at?_eq_some.mpr ⟨shown, rfl, rfl⟩, years, ?_⟩
    rw [Instant.shown_of_onClock shown]
    exact years

theorem fits_of_moderate {clock : Instant} {span : Span} (served : clock ∈ servedYears)
    (moderate : span.Moderate) : Fits clock span := by
  obtain ⟨stop, ends, -⟩ := exists_expressible_of_moderate served moderate
  exact ⟨stop, ends⟩

/-- Every window that is placed in our time is one that cookies can tell the end of. -/
theorem Sessions.expressible_of_reaches {f : Factory} {handles : Set Sessions} {session : Session}
    (built : Factory.ofSettings f.settings = .ok f) (own : ∀ s ∈ handles, s.factory = f)
    (moderate : ∀ s ∈ handles, s.maxAge.Moderate) (reached : Reaches servedYears handles session) :
    Transport.Expressible session.header.validBefore := by
  obtain ⟨-, -, -, s, member, start, served, stop, ends, view, seen, -, before⟩ :=
    reached.placed built own
  obtain ⟨stop', ends', years, shownYears⟩ :=
    exists_expressible_of_moderate served (moderate s member)
  cases (windowEnd_eq_ok.mp ends).2.symm.trans ends'
  unfold Transport.Expressible at years shownYears ⊢
  rw [before]
  obtain same | same := Backend.secs_of_view seen stop <;> rw [same]
  · exact years
  · exact shownYears

/-! ### Accepted configurations -/

/-- **Within the calendar.** What is made of accepted configurations, for sessions and for
anti-forgery tokens, blames the configuration for one reason only while it serves: that a window of
its span, started at the clock reading, does not end inside the calendar; then it always does. In
our time this cannot happen to spans of up to some 7899 years, and neither can it that a session
which was reached in our time expires later than cookies can tell. -/
theorem configurations_serve_within_calendar {config : SessionConfig} {files : Files}
    {sessions : Sessions} (made : Sessions.ofConfig config files = .ok sessions)
    {csrfConfig : CsrfConfig} {csrfFiles : Files} {issuer : Csrf}
    (issued : Csrf.ofConfig csrfConfig csrfFiles = .ok issuer) :
    (∀ options, (sessions.withOptions options).HangsOnCalendar) ∧ issuer.HangsOnCalendar ∧
    (config.maxAge.Moderate → (∀ clock ∈ servedYears, Fits clock sessions.maxAge) ∧
      ∀ options session, Sessions.Reaches servedYears {sessions.withOptions options} session →
        Transport.Expressible session.header.validBefore) ∧
    (csrfConfig.ttl.Moderate → ∀ clock ∈ servedYears, Fits clock issuer.ttl) := by
  obtain ⟨-, f, built, emits, rfl⟩ := Sessions.ofConfig_eq_ok made
  refine ⟨fun options => ?_, Csrf.hangsOnCalendar_of_ofConfig issued, fun moderate =>
    ⟨fun clock served => fits_of_moderate served moderate, fun options session reached => ?_⟩,
    fun moderate clock served => ?_⟩
  · exact Sessions.hangsOnCalendar (Backend.emitsText_of_ofSettings built emits)
  · refine Sessions.expressible_of_reaches built ?_ ?_ reached
    · rintro s rfl
      rfl
    · rintro s rfl
      exact moderate
  · rw [Csrf.ttl_of_ofConfig issued]
    exact fits_of_moderate served moderate

/-- A minute for sessions and six hours for anti-forgery tokens: both are there all the time. -/
theorem configurations_serve_within_calendar_minute :
    Sessions.ofConfig (Http.minuteConfig "/") (fun _ => .error "") =
      .ok (Http.minuteSessions []) ∧
    Csrf.ofConfig Csrf.keyedConfig (fun _ => .error "") = .ok Csrf.keyedIssuer ∧
    ∀ clock ∈ servedYears,
      (∃ session, (Http.minuteSessions []).createAt clock clock = .ok session) ∧
      ∃ token, (Csrf.keyedIssuer.signAt "a" "b" clock).outcome (.repeating [0]) = .ok token := by
  have made : Sessions.ofConfig (Http.minuteConfig "/") (fun _ => .error "") =
    .ok (Http.minuteSessions []) := by rfl
  obtain ⟨hangs, issuing, sessions, tokens⟩ :=
    configurations_serve_within_calendar made Csrf.ofConfig_keyed
  have minute : (Http.minuteConfig "/").maxAge.Moderate := by
    show 60 ≤ 249268319999
    decide
  have hours : Csrf.keyedConfig.ttl.Moderate := by
    show 21600 ≤ 249268319999
    decide
  refine ⟨made, Csrf.ofConfig_keyed, fun clock served => ⟨?_, ?_⟩⟩
  · exact ((hangs []).creates clock).returns ((sessions minute).1 clock served)
  · exact (issuing.signs clock "a" "b" _ rfl).returns (tokens hours clock served)

/-- Sessions that last for 300000 years. -/
def endlessConfig : SessionConfig :=
  { container := { kind := "jwt", key := some "k" }, maxAge := .ofSecs 9467280000000 }

/-- **Accepted, and not served.** The calendar has no end for sessions of 300000 years. Their
configuration is accepted, and there is no session in it. -/
theorem accepted_span_is_not_served :
    let clock : Instant := ⟨1700000000, 0, by decide, by decide⟩
    clock ∈ servedYears ∧ ∃ sessions e,
      Sessions.ofConfig endlessConfig (fun _ => .error "") = .ok sessions ∧
      sessions.createAt clock clock = .error e ∧ e.IsConfiguration := by
  intro clock
  let sessions : Sessions :=
    ⟨(Http.minuteSessions []).factory, endlessConfig.maxAge, endlessConfig.refresh, []⟩
  have made : Sessions.ofConfig endlessConfig (fun _ => .error "") = .ok sessions := by rfl
  have lacks : ¬ Fits clock sessions.maxAge := by
    have none : clock.add? sessions.maxAge = none := by decide
    rintro ⟨stop, ends⟩
    cases none.symm.trans ends
  obtain ⟨e, failed, isConfiguration⟩ := (sessions.hangsOn_createAt clock).fails lacks
  exact ⟨⟨by decide, by decide⟩, _, e, made, failed, isConfiguration⟩

end SealedTokens
