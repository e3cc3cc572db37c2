import SealedTokens.Proofs.Availability
/-!
# What the session layer writes

Exactly when the layer adds a cookie to the answer of a service, and which one. The answer itself,
its status, its body and its other headers, is left as it is.

## Main results

- `Http.Established.written_iff_due`: the nonce tells whether a session has to be written
- `Http.sessionLayer_writes`: what becomes of an answer
- `Http.due_session_is_not_written`: two requests whose session has to be written and is not

## Proof strategy

The layer looks at the nonce only. Between the nonce that was loaded and the one that is left lie
the refresh that may have been due and the operations of the service, and each of them that has an
effect adds one (`Session.progress_run`). As long as these are fewer than the nonce can count, it
differs exactly if there was one.
-/
namespace SealedTokens

/-! ### The session of a service -/

namespace Session

theorem progress_given (s : Session) (clock stop : Instant) : Progress clock stop False
    (s.refreshRequiredAt clock).toNat s (s.given clock stop) := by
  unfold given
  cases s.refreshRequiredAt clock with
  | true => exact progress_moved s s.payload
  | false => exact .refl s

/-- From the session that was established to the one that operations leave. -/
theorem progress_given_run {s : Session} {clock stop : Instant}
    (ends : windowEnd clock s.sessions.maxAge = .ok stop) (operations : List SessionOperation) :
    Progress clock stop (.clean ∈ operations)
      ((s.refreshRequiredAt clock).toNat + (s.given clock stop).counted clock operations) s
      ((s.given clock stop).run clock operations) := by
  -- First the refresh that may be due, then the operations one by one.
  have moved := s.progress_given clock stop
  rw [← moved.sessions] at ends
  exact (moved.mono False.elim).trans (progress_run _ ends operations)

end Session

/-- The window of a fresh session ends where one does that starts now, whatever options wrote. -/
theorem Sessions.validBefore_createAt {s : Sessions} {clock stop : Instant} {session : Session}
    (ends : windowEnd clock s.maxAge = .ok stop)
    (created : s.createAt clock clock = .ok session) :
    session.header.validBefore = s.factory.backend.carried stop := by
  obtain ⟨container, made, applied⟩ := bind_eq_ok.mp created
  obtain ⟨stop', ends', rfl⟩ := Container.create_eq_ok.mp (SessionError.lift_eq_ok.mp made)
  cases ends.symm.trans ends'
  -- An option that writes moves the window to the same end, as it keeps policy and backend.
  have kept := foldlM_invariant (P := fun session : Session => session.sessions = s ∧
      session.container.backend = s.factory.backend ∧
      session.header.validBefore = s.factory.backend.carried stop)
      (fun first option next h applied => by
    obtain ⟨sessions, backend, before⟩ := h
    obtain ⟨sessions', backend', -⟩ := Session.apply_eq_ok applied
    refine ⟨sessions'.trans sessions, backend'.trans backend, ?_⟩
    cases option with
    | validator check =>
      cases applied
      exact before
    | payload key value =>
      rw [← sessions] at ends
      have written : first.set clock key value = (.ok (), _) :=
        Session.refreshed_of_ok (s := first.withData ⟨first.header, first.payload.insert key value⟩)
          (Session.refreshAt_eq_ok.mpr ⟨stop, ends, rfl⟩)
      rw [Session.apply, written] at applied
      cases applied
      exact congrArg (Backend.carried · stop) backend) ⟨rfl, rfl, rfl⟩ applied
  exact kept.2.2

namespace Transport

/-- An instant that cookies can tell. -/
def Expressible (t : Instant) : Prop := firstCookieSecond ≤ t.secs ∧ t.secs ≤ lastCookieSecond

end Transport

namespace Http

/-- What a service can do with what the layer gives it. -/
inductive ServiceStep where
  | work (operation : SessionOperation)
  | discard

def ServiceStep.operation? : ServiceStep → Option SessionOperation
  | work operation => some operation
  | discard => none

/-- What a service did to its session, in order. -/
def operations (steps : List ServiceStep) : List SessionOperation :=
  steps.filterMap ServiceStep.operation?

namespace CurrentSession

def perform (clock : Instant) (c : CurrentSession) : ServiceStep → CurrentSession
  | .work operation => { c with session := c.session.perform clock operation }
  | .discard => { c with discarded := true }

def run (clock : Instant) (c : CurrentSession) (steps : List ServiceStep) : CurrentSession :=
  steps.foldl (perform clock) c

variable {clock : Instant} {steps : List ServiceStep}

theorem discarded_run_of_discarded {c : CurrentSession} (discarded : c.discarded = true) :
    (c.run clock steps).discarded = true := by
  -- No step takes a discard back.
  induction steps generalizing c with
  | nil => exact discarded
  | cons step steps ih =>
    cases step with
    | work operation => exact @ih (c.perform clock (.work operation)) discarded
    | discard => exact @ih (c.perform clock .discard) rfl

theorem discarded_run (c : CurrentSession) (discards : .discard ∈ steps) :
    (c.run clock steps).discarded = true := by
  induction steps generalizing c with
  | nil => cases discards
  | cons step steps ih =>
    cases step with
    | discard => exact @discarded_run_of_discarded clock steps (c.perform clock .discard) rfl
    | work operation =>
      obtain same | member := List.mem_cons.mp discards
      · cases same
      · exact ih _ member

/-- Without a discard a service only works on the session. -/
theorem run_of_kept (c : CurrentSession) (kept : .discard ∉ steps) :
    c.run clock steps = { c with session := c.session.run clock (operations steps) } := by
  induction steps generalizing c with
  | nil => rfl
  | cons step steps ih =>
    rw [List.mem_cons, not_or] at kept
    cases step with
    | discard => exact absurd rfl kept.1
    | work operation => exact ih (c.perform clock (.work operation)) kept.2

end CurrentSession

section Layer

variable {α : Type}

/-- A service that takes steps, whatever made it choose them, and answers. -/
def acting (steps : List ServiceStep) (answer : Response α) : Service α := fun _ => do
  modify fun s => { s with current := s.current.map fun c => c.run s.clock steps }
  return answer

theorem acting_of_kept {steps : List ServiceStep} (kept : .discard ∉ steps) (answer : Response α) :
    acting steps answer = working (operations steps) answer := by
  have same (clock : Instant) : (fun c : CurrentSession => c.run clock steps) =
      fun c => { c with session := c.session.run clock (operations steps) } :=
    funext fun c => c.run_of_kept kept
  unfold acting working
  simp only [same]

variable {state : SessionState} {request : Request} {serving : Serving} {found : Established}
  {loaded : UInt64} {steps : List ServiceStep} {answer : Response α}

theorem run_sessionLayer_acting
    (ready : state.prepare (Exchange.ofRequest request.headers request.uri.authority?)
      serving.clock = .ok (found, loaded)) :
    (sessionLayer state (acting steps answer) request).run serving =
      (conclude found loaded (Exchange.ofRequest request.headers request.uri.authority?) answer).run
        { serving with
          current := some ((CurrentSession.mk found.session false).run serving.clock steps) } := by
  rw [run_sessionLayer, ready]
  rfl

theorem deliver_nothing (answer : Response α) (headers : Headers) (authority : Option String) :
    deliver answer (.ok (Exchange.ofRequest headers authority)) = answer := by
  rw [deliver_of_presentable fun c member => by cases member]
  exact congrArg (Response.mk answer.status answer.body · answer.headers) (List.append_nil _)

theorem run_sessionLayer_informational (informational : isInformational answer.status = true)
    (ready : state.prepare (Exchange.ofRequest request.headers request.uri.authority?)
      serving.clock = .ok (found, loaded)) :
    ((sessionLayer state (acting steps answer) request).run serving).1 = answer := by
  rw [run_sessionLayer_acting ready, conclude, informational]
  rfl

/-- Nothing is written for a client that keeps its token itself. -/
theorem run_sessionLayer_header {name : String} {scheme : Option String}
    (regular : isInformational answer.status = false)
    (ready : state.prepare (Exchange.ofRequest request.headers request.uri.authority?)
      serving.clock = .ok (found, loaded))
    (header : found.transport = .header name scheme) :
    ((sessionLayer state (acting steps answer) request).run serving).1 = answer := by
  have nothing (left : CurrentSession) (exchange : Exchange) (source : Entropy) :
      (SessionState.complete found loaded left exchange).run.run source =
        (.ok exchange, source) := by
    unfold SessionState.complete
    rw [header]
    -- Neither forgetting a token nor saving one touches the answer.
    split
    · rfl
    · split <;> rfl
  rw [run_sessionLayer_acting ready, run_conclude_regular regular rfl]
  simp only [nothing, deliver_nothing]

/-- A discarded session is forgotten by one cookie, whatever else was done. -/
theorem run_sessionLayer_discarded {config : CookieConfig} {policy : SameSitePolicy}
    (regular : isInformational answer.status = false)
    (ready : state.prepare (Exchange.ofRequest request.headers request.uri.authority?)
      serving.clock = .ok (found, loaded))
    (cookie : found.transport = .cookie config policy) (discards : .discard ∈ steps) :
    let c := Transport.sessionCookie config policy
      (Exchange.ofRequest request.headers request.uri.authority?) "" 0 .epoch
    Presentable c.line → ((sessionLayer state (acting steps answer) request).run serving).1 =
      { answer with cookies := answer.cookies ++ [c] } := by
  intro c presentable
  let left := (CurrentSession.mk found.session false).run serving.clock steps
  have forgotten (exchange : Exchange) (source : Entropy) :
      (SessionState.complete found loaded left exchange).run.run source =
        (.ok (found.transport.discard exchange), source) := by
    unfold SessionState.complete
    rw [show left.discarded = true from CurrentSession.discarded_run _ discards]
    rfl
  rw [run_sessionLayer_acting ready, run_conclude_regular regular rfl]
  simp only [left, forgotten, cookie]
  exact deliver_of_presentable (List.forall_mem_singleton.mpr presentable)

end Layer

/-! ### Sessions that have to be written -/

namespace Established

/-- Why a session has to be written: it replaces one that was given up, its window was due to be
moved, or one of the operations had an effect when its turn came. -/
inductive Due (first : Established) (clock stop : Instant) (operations : List SessionOperation) :
    Prop
  | replaced (new : first.replaced = true)
  | refreshed (old : first.session.refreshRequiredAt clock = true)
  | worked {before after : List SessionOperation} {operation : SessionOperation}
      (split : operations = before ++ operation :: after)
      (effective : ((first.session.given clock stop).run clock before).counts operation = true)

variable {first : Established} {clock stop : Instant} {operations : List SessionOperation}

theorem due_iff : first.Due clock stop operations ↔ first.replaced = true ∨
    0 < (first.session.refreshRequiredAt clock).toNat +
      (first.session.given clock stop).counted clock operations := by
  constructor
  · rintro (new | old | ⟨split, effective⟩)
    · exact .inl new
    · rw [old, Bool.toNat_true]
      exact .inr (by omega)
    · have positive := Session.counted_pos.mpr ⟨_, _, _, split, effective⟩
      exact .inr (by omega)
  · rintro (new | positive)
    · exact .replaced new
    · cases old : first.session.refreshRequiredAt clock with
      | true => exact .refreshed old
      | false =>
        rw [old, Bool.toNat_false, Nat.zero_add] at positive
        obtain ⟨before, operation, after, split, effective⟩ := Session.counted_pos.mp positive
        exact .worked split effective

/-- What the layer asks is whether the session has to be written, unless the nonce comes round. -/
theorem written_iff_due (ends : windowEnd clock first.session.sessions.maxAge = .ok stop)
    (few : operations.length + (first.session.refreshRequiredAt clock).toNat < 2 ^ 64) :
    (first.replaced || ((first.session.given clock stop).run clock operations).header.nonce !=
      first.session.header.nonce) = true ↔ first.Due clock stop operations := by
  have progress := Session.progress_given_run ends operations
  have bound : (first.session.given clock stop).counted clock operations ≤ operations.length :=
    Session.counted_le _ operations
  -- The nonce counts the refresh and the operations that had an effect, up to where it comes round.
  rw [due_iff, Bool.or_eq_true, bne_iff_ne]
  refine or_congr_right ⟨fun advanced => ?_, fun positive => ?_⟩
  · refine Nat.pos_of_ne_zero fun none => advanced ?_
    exact congrArg Header.nonce (progress.idle none).1
  · exact progress.nonce_ne positive (by omega)

end Established

section Writes

variable {α : Type} {state : SessionState} {request : Request} {serving : Serving} {stop : Instant}
  {first : Established} {config : CookieConfig} {policy : SameSitePolicy} {steps : List ServiceStep}
  {answer : Response α}

/-- The window of the session that is left ends where one does that starts now, or it is the one
that came with the request. -/
theorem SessionState.window_of_establish {exchange : Exchange} {clock : Instant}
    (established : state.establish exchange clock = .ok first)
    (ends : windowEnd clock state.sessions.maxAge = .ok stop)
    (operations : List SessionOperation) :
    let left := (first.session.given clock stop).run clock operations
    left.header.validBefore = state.sessions.factory.backend.carried stop ∨
      ∃ token data, first.transport.token? exchange = some token ∧
        state.sessions.factory.backend.load token = .ok data ∧
        left.header.validBefore = data.header.validBefore := by
  intro left
  obtain ⟨transport, session, replaced⟩ := first
  obtain ⟨-, origin⟩ := establish_eq_ok established
  have ends' := ends
  rw [← origin.owned.sessions] at ends'
  have progress : Session.Progress clock stop _ _ session left :=
    Session.progress_given_run ends' operations
  obtain ⟨-, before⟩ | ⟨-, before⟩ := progress.window
  -- Nothing moved the window, so it is the one that the session was established with.
  · rw [before]
    simp only at origin
    cases origin with
    | fresh unproven created => exact .inl (Sessions.validBefore_createAt ends created)
    | proven carried read admitted => exact .inr ⟨_, _, carried, read, rfl⟩
  · rw [before, origin.owned.backend]
    exact .inl rfl

/-- Without a discard, the nonce decides whether the session is written. -/
theorem run_sessionLayer_kept (regular : isInformational answer.status = false)
    (kept : .discard ∉ steps)
    (established : state.establish (Exchange.ofRequest request.headers request.uri.authority?)
      serving.clock = .ok first)
    (ends : windowEnd serving.clock state.sessions.maxAge = .ok stop) :
    let exchange := Exchange.ofRequest request.headers request.uri.authority?
    let left := (first.session.given serving.clock stop).run serving.clock (operations steps)
    ((sessionLayer state (acting steps answer) request).run serving).1 =
      if first.replaced || left.header.nonce != first.session.header.nonce then
        deliver answer ((first.transport.save exchange left).run.run serving.entropy).1
      else answer := by
  intro exchange left
  have ready := SessionState.prepare_of_established established ends
  rw [acting_of_kept kept, run_sessionLayer_working _ regular ready, deliver_nothing]
  simp only [left]
  split <;> rfl

/-- What becomes of an answer whose session has to be written: it has one more cookie, which is
loaded as the state that was left, or it is an error if the window ends outside the years of
cookies. -/
structure WrittenBack (f : Factory) (name : String) (left : Session)
    (answer response : Response α) : Prop where
  added : Transport.Expressible left.header.validBefore → ∃ c,
    response = { answer with cookies := answer.cookies ++ [c] } ∧ c.name = name ∧
      (f.settings.Holds left.data → f.backend.load (Bytes.ofText c.value) = .ok left.data)
  refused : ¬ Transport.Expressible left.header.validBefore →
    response = ⟨500, .text "Internal Server Error", [], textHeaders⟩

/-- Saving a session in a cookie writes it back.

- `sound`: the backend is that of a factory, possibly with another way to sign
- `line`: whatever the value is, the cookie can be a header -/
theorem deliver_due {f : Factory} (built : Factory.ofSettings f.settings = .ok f)
    {sign? : Bytes → Option Bytes} {left : Session} {exchange : Exchange}
    (sound : left.container.backend = f.backend.withSign sign?)
    (emits : f.settings.emitsText = true) (signs : left.container.backend.Signs)
    (honest : ∀ signer, left.container.backend = .signed signer → signer.Honest)
    (carried : left.container.Carried) {source : Entropy} (unlimited : source.limit = none)
    (line : ∀ value, PlainValue value → ∀ maxAge expires,
      Presentable (Transport.sessionCookie config policy exchange value maxAge expires).line)
    (alone : exchange.cookies = []) :
    WrittenBack f config.name left answer (deliver answer
      (((Transport.cookie config policy).save exchange left).run.run source).1) := by
  have text : left.container.backend.EmitsText := by
    rw [sound]
    exact Backend.emitsText_withSign (Backend.emitsText_of_ofSettings built emits)
  refine ⟨fun years => ?_, fun outside => ?_⟩
  · obtain ⟨value, next, saved, -, plain, outcome⟩ :=
      @Transport.exists_save_cookie config policy exchange left source text signs unlimited years
    let c := Transport.sessionCookie config policy exchange value
      (Instant.secondsBetween left.header.validAfter left.header.validBefore)
      left.header.validBefore
    have cookies : (exchange.setCookie c).cookies = [c] := by
      rw [Exchange.setCookie, alone]
      rfl
    refine ⟨c, ?_, rfl, fun holds => ?_⟩
    · rw [saved]
      refine (deliver_of_presentable ?_).trans ?_
      · rw [cookies]
        exact List.forall_mem_singleton.mpr (line value plain _ _)
      · rw [cookies]
    · have loaded := Factory.load_of_backend_save built sound honest carried holds outcome
      rw [sound, Backend.load_withSign] at loaded
      exact loaded
  · obtain ⟨next, failed⟩ :=
      @Transport.save_cookie_of_outside config policy exchange left source text signs unlimited
        outside
    rw [failed]
    rfl

/-- So does the layer with the session of a request, whatever was done to it. -/
theorem deliver_established {f : Factory} (built : Factory.ofSettings f.settings = .ok f)
    (emits : f.settings.emitsText = true) {sign? : Bytes → Option Bytes}
    (own : state.sessions.factory.backend = f.backend.withSign sign?)
    (signs : (f.backend.withSign sign?).Signs)
    (honest : ∀ signer, f.backend.withSign sign? = .signed signer → signer.Honest)
    (established : state.establish (Exchange.ofRequest request.headers request.uri.authority?)
      serving.clock = .ok first)
    (ends : windowEnd serving.clock state.sessions.maxAge = .ok stop)
    (unlimited : serving.entropy.limit = none)
    (line : ∀ value, PlainValue value → ∀ maxAge expires, Presentable
      (Transport.sessionCookie config policy
        (Exchange.ofRequest request.headers request.uri.authority?) value maxAge expires).line) :
    let exchange := Exchange.ofRequest request.headers request.uri.authority?
    let left := (first.session.given serving.clock stop).run serving.clock (operations steps)
    WrittenBack f config.name left answer
      (deliver answer
        (((Transport.cookie config policy).save exchange left).run.run serving.entropy).1) := by
  intro exchange left
  have exposes :=
    (SessionState.prepare_eq_ok (SessionState.prepare_of_established established ends)).2
  have shown := serving.clock_shown
  have carried := exposes.carried shown
  rw [← exposes.owned.sessions] at ends
  -- Neither the refresh nor the operations change what saves the session.
  have progress := Session.progress_run _ ends (operations steps)
  have sound : left.container.backend = f.backend.withSign sign? :=
    (progress.backend.trans exposes.owned.backend).trans own
  rw [← sound] at signs honest
  exact deliver_due built sound emits signs honest
    (progress.carried shown (onClock_of_windowEnd shown ends) carried) unlimited line rfl

def domainConfig : SessionConfig :=
  { minuteConfig "/" with cookie := { domain := "app.example.com" } }

def domainState : SessionState := ⟨minuteSessions [], domainConfig⟩

/-- A request that returns a token, and nothing else. -/
def returning (value : String) : Request :=
  { plainRequest with headers := [("cookie", Bytes.ofText ("_cachet" ++ "=" ++ value))] }

def servingAt (clock : Instant) (clock_shown : clock.OnClock := by decide) : Serving :=
  { plainServing with clock, clock_shown }

theorem select_domain {exchange : Exchange} (absent : exchange.header? "authorization" = none) :
    Transport.select domainConfig exchange = .ok (.cookie domainConfig.cookie .default) := by
  have name : headerName? (Text.trim "Authorization") = some "authorization" := by rfl
  have policy : Registry.find? "default" = some SameSitePolicy.default := by rfl
  refine Transport.select_of_absent ?_ absent ?_
  · unfold SessionConfig.headerName domainConfig minuteConfig
    simp only [name]
  · unfold CookieConfig.policy domainConfig
    simp only [policy]

/-- **What the layer writes.** Sessions of a validated configuration, with any options whose
validators only pass or reject; any request, and any service that takes steps and answers. The
request has a session; unless its nonce comes round, with the refresh that may be due and the
operations of the service, this is what becomes of the answer:

- an answer that only announces another, and one to a client that keeps its token in a header, is
  left alone;
- if the service discarded the session, one cookie is added that is empty and has no time left;
- if the session has to be written, one cookie is added, whose value is loaded as exactly the state
  that was left; but a window that ends outside the years of cookies cannot be told in a cookie, and
  the answer is an error without any;
- otherwise the answer is left alone.

The window that is left ends a lifetime from now, or it came with the token of the request. -/
theorem sessionLayer_writes {config : SessionConfig} {files : Files} {sessions : Sessions}
    (made : Sessions.ofConfig config files = .ok sessions) {options : List SessionOption}
    (decides : ∀ check, .validator check ∈ options → check.Decides) {sign? : Bytes → Option Bytes}
    (signs : (sessions.factory.backend.withSign sign?).Signs)
    (honest : ∀ signer, sessions.factory.backend.withSign sign? = .signed signer → signer.Honest)
    (name : isToken config.cookie.name = true) (path : Presentable config.cookie.path)
    (domain : Presentable config.cookie.domain) (given : config.cookie.domain.isEmpty = false)
    (request : Request) {serving : Serving} (unlimited : serving.entropy.limit = none)
    {stop : Instant} (ends : serving.clock.add? config.maxAge = some stop)
    (steps : List ServiceStep) (answer : Response α) :
    let state : SessionState := ⟨(sessions.withOptions options).withSign sign?, config⟩
    let exchange := Exchange.ofRequest request.headers request.uri.authority?
    let response := ((sessionLayer state (acting steps answer) request).run serving).1
    ∃ first, state.establish exchange serving.clock = .ok first ∧
      let left := (first.session.given serving.clock stop).run serving.clock (operations steps)
      let due := first.Due serving.clock stop (operations steps)
      ((operations steps).length + (first.session.refreshRequiredAt serving.clock).toNat < 2 ^ 64 →
        if isInformational answer.status then response = answer else
        match first.transport with
        | .header _ _ => response = answer
        | .cookie cookie _ => cookie = config.cookie ∧
          (.discard ∈ steps → ∃ c, response = { answer with cookies := answer.cookies ++ [c] } ∧
            c.name = cookie.name ∧ c.value = "" ∧ c.maxAge = 0) ∧
          (.discard ∉ steps → due → Transport.Expressible left.header.validBefore →
            ∃ c, response = { answer with cookies := answer.cookies ++ [c] } ∧
              c.name = cookie.name ∧ (sessions.factory.settings.Holds left.data →
                sessions.factory.backend.load (Bytes.ofText c.value) = .ok left.data)) ∧
          (.discard ∉ steps → due → ¬ Transport.Expressible left.header.validBefore →
            response = ⟨500, .text "Internal Server Error", [], textHeaders⟩) ∧
          (.discard ∉ steps → ¬ due → response = answer)) ∧
      (left.header.validBefore.secs = stop.secs ∨
        ∃ token data, first.transport.token? exchange = some token ∧
          sessions.factory.backend.load token = .ok data ∧
          left.header.validBefore = data.header.validBefore) := by
  intro state exchange response
  obtain ⟨validated, f, built, emits, rfl⟩ := Sessions.ofConfig_eq_ok made
  have ends' : windowEnd serving.clock state.sessions.maxAge = .ok stop := windowEnd_of_add? ends
  obtain ⟨first, established⟩ :=
    @SessionState.exists_establish state serving.clock stop validated
      (decides_withOptions made decides) ends' exchange
  have ready := SessionState.prepare_of_established established ends'
  refine ⟨first, established, fun few => ?_, ?_⟩
  · split
    next informational => exact run_sessionLayer_informational informational ready
    next regular =>
    have regular := Bool.eq_false_iff.mpr regular
    split
    next name scheme header => exact run_sessionLayer_header regular ready header
    next cookie policy isCookie =>
    have selected := (SessionState.establish_eq_ok established).1
    rw [isCookie] at selected
    cases Transport.config_of_select selected
    -- What is in the configuration can be in a header, and the host is not asked for a domain.
    have line (value : String) (plain : PlainValue value) (maxAge : Int) (expires : Instant) :
        Presentable
          (Transport.sessionCookie config.cookie policy exchange value maxAge expires).line :=
      Transport.presentable_cookie (presentable_of_isToken name) plain path
        (Transport.presentable_domain? domain fun empty => by rw [given] at empty; cases empty) _ _
    refine ⟨rfl, fun discards => ?_, ?_⟩
    · have empty : PlainValue "" := fun b member => by cases member
      exact ⟨_, run_sessionLayer_discarded regular ready isCookie discards (line "" empty 0 .epoch),
        rfl, rfl, rfl⟩
    have back := @deliver_established α state request serving stop first config.cookie policy steps
      answer f built emits sign? rfl signs honest established ends' unlimited line
    -- The layer asks for the nonce, which tells whether the session has to be written.
    have first_ends := ends'
    rw [← (SessionState.establish_eq_ok established).2.owned.sessions] at first_ends
    have written := Established.written_iff_due first_ends few
    have run (kept : .discard ∉ steps) :=
      @run_sessionLayer_kept α state request serving stop first steps answer regular kept
        established ends'
    rw [isCookie] at run
    refine ⟨fun kept due years => ?_, fun kept due outside => ?_, fun kept idle => ?_⟩
    · obtain ⟨c, added, rest⟩ := back.added years
      exact ⟨c, ((run kept).trans (if_pos (written.mpr due))).trans added, rest⟩
    · exact ((run kept).trans (if_pos (written.mpr due))).trans (back.refused outside)
    · exact (run kept).trans (if_neg fun advanced => idle (written.mp advanced))
  · have load (token : Bytes) : state.sessions.factory.backend.load token = f.backend.load token :=
      Backend.load_withSign f.backend sign? token
    obtain now | ⟨token, data, carried, read, before⟩ :=
      SessionState.window_of_establish established ends' (operations steps)
    · exact .inl ((congrArg Instant.secs now).trans (Backend.secs_carried _ stop))
    · exact .inr ⟨token, data, carried, (load token).symm.trans read, before⟩

/-- A client without a token; its service looks for an entry, removes it, and then writes it. -/
theorem sessionLayer_writes_entry :
    let state : SessionState :=
      ⟨((minuteSessions []).withOptions []).withSign (Signer.hmac .hs256 .sha256 [107]).sign?,
        domainConfig⟩
    let steps : List ServiceStep := [.work (.get 3), .work (.del 3), .work (.set 3 [4])]
    let answer : Response Nat := ⟨200, .content 7, [], []⟩
    ∃ c left, ((sessionLayer state (acting steps answer) plainRequest).run plainServing).1 =
        { answer with cookies := [c] } ∧
      (minuteSessions []).factory.backend.load (Bytes.ofText c.value) = .ok left ∧
      left.payload = Payload.empty.insert 3 [4] := by
  intro state steps answer
  let stop : Instant := ⟨60, 0, by decide, by decide⟩
  have made : Sessions.ofConfig domainConfig (fun _ => .error "") = .ok (minuteSessions []) := by
    rfl
  have honest : ∀ signer, (minuteSessions []).factory.backend.withSign
      (Signer.hmac .hs256 .sha256 [107]).sign? = .signed signer → signer.Honest := by
    intro signer same
    cases same
    exact Signer.honest_hmac _ _ _
  have decides : ∀ check, .validator check ∈ ([] : List SessionOption) → check.Decides :=
    fun check member => by cases member
  have ends : plainServing.clock.add? domainConfig.maxAge = some stop := by decide
  have unlimited : plainServing.entropy.limit = none := rfl
  obtain ⟨first, established, becomes, -⟩ := sessionLayer_writes made decides (fun _ => rfl) honest
    (by decide) (by decide) (by decide) (by decide) plainRequest unlimited ends steps answer
  -- The session that was established is a fresh one, and the entry is there at the end.
  have created : state.sessions.createAt .epoch .epoch = _ :=
    Sessions.createAt_of_no_options rfl (windowEnd_of_add? ends)
  let exchange := Exchange.ofRequest plainRequest.headers plainRequest.uri.authority?
  have selected : Transport.select state.config exchange = _ := select_domain rfl
  have fresh := SessionState.establish_of_absent created selected rfl
  cases established.symm.trans fresh
  have becomes := becomes (by decide)
  rw [if_neg (by decide)] at becomes
  obtain ⟨-, -, written, -⟩ := becomes
  obtain ⟨c, added, -, loads⟩ := written (by simp [steps])
    (@Established.Due.worked _ _ _ _ [.get 3, .del 3] [] (.set 3 [4]) rfl rfl)
    ⟨by decide, by decide⟩
  exact ⟨c, _, added, loads ⟨(fun compact => by cases compact), (fun lz4 => by cases lz4)⟩,
    by decide⟩

end Writes

/-! ### Requests whose session is not written -/

section Returning

/-- A state of whole seconds that stands has a token, and a request that returns the token gets its
session. -/
theorem exists_returning {data : Data} {clock stop : Instant}
    (carried : (minuteSessions []).factory.backend.Carries data)
    (admitted : (minuteSessions []).Admits clock data)
    (ends : windowEnd clock (.ofSecs 60) = .ok stop) :
    ∃ value, domainState.establish (Exchange.ofRequest (returning value).headers
      (returning value).uri.authority?) clock =
        .ok ⟨.cookie domainConfig.cookie .default, (minuteSessions []).holding data, false⟩ := by
  obtain ⟨token, saved⟩ :=
    Backend.exists_save_hmac .hs256 .sha256 [107] data (.repeating [0])
  have read := (Backend.load_of_save_signed (Signer.honest_hmac _ _ _) saved).trans
    (congrArg Except.ok (Backend.precise_eq_iff.mpr carried))
  obtain ⟨value, -, plain, same⟩ :=
    @Backend.toText?_of_save (.signed (.hmac .hs256 .sha256 [107])) _ _ _ trivial saved
  refine ⟨value, ?_⟩
  let exchange := Exchange.ofRequest (returning value).headers (returning value).uri.authority?
  have absent : exchange.header? "authorization" = none := by
    have other : List.lookup "authorization" (returning value).headers = none :=
      List.lookup_eq_none_iff.mpr (List.forall_mem_singleton.mpr
        (show ("authorization" != "cookie") = true by decide))
    show (List.lookup "authorization" (returning value).headers).bind visibleText? = none
    rw [other]
    rfl
  have name : PlainName "_cachet" := ⟨by decide, by decide⟩
  have found : exchange.cookie? "_cachet" = some ⟨"_cachet", value⟩ :=
    @Exchange.cookie?_of_returned exchange "_cachet" (some value) name
      (fun _ has => by cases has; exact plain) (returns_alone name plain)
  have token : (Transport.cookie domainConfig.cookie .default).token? exchange = some token := by
    rw [← same]
    exact congrArg (Option.map fun c : Cookie => Bytes.ofText c.value) found
  exact SessionState.establish_of_admitted (Sessions.createAt_of_no_options rfl ends)
    (select_domain absent) token read admitted

/-- A window that ends with the first second of the year 10000. -/
def farData : Data :=
  ⟨⟨Header.currentVersion, 1, .epoch, ⟨253402300800, 0, by decide, Instant.epoch.nanos_valid⟩⟩,
    .empty⟩

def minuteData : Data :=
  ⟨⟨Header.currentVersion, 1, .epoch, oneMinute⟩, .empty⟩

theorem counted_touches (clock : Instant) (s : Session) (n : Nat) :
    s.counted clock (List.replicate n .touch) = n := by
  induction n generalizing s with
  | zero => rfl
  | succ n ih =>
    rw [List.replicate_succ, Session.counted, ih]
    exact Nat.add_comm 1 n

/-- With the refresh that was due, the touches take the nonce once round. -/
theorem nonce_touches {s : Session} {clock stop : Instant}
    (ends : windowEnd clock s.sessions.maxAge = .ok stop)
    (due : s.refreshRequiredAt clock = true) {n : Nat} (round : n + 1 = 2 ^ 64) :
    ((s.given clock stop).run clock (List.replicate n .touch)).header.nonce = s.header.nonce := by
  -- The refresh counts one and each touch another, together as many as there are nonces.
  have progress := Session.progress_given_run ends (List.replicate n .touch)
  have none : UInt64.ofNat (2 ^ 64) = 0 := by decide
  rw [progress.nonce, counted_touches, due, Bool.toNat_true, Nat.add_comm, round, none,
    UInt64.add_zero]

/-- **Not written.** Sessions of a validated configuration, whose cookie can be set, and two
requests with a valid token at an instant from which a window ends in the years of cookies. Either
session has to be written and was not discarded, and no cookie is set: the window of the first one
ends after the year 9999, and the second service touches its session so often that the nonce comes
round. -/
theorem due_session_is_not_written :
    let answer : Response Nat := ⟨200, .content 7, [], []⟩
    let exchange (value : String) :=
      Exchange.ofRequest (returning value).headers (returning value).uri.authority?
    Sessions.ofConfig domainConfig (fun _ => .error "") = .ok domainState.sessions ∧
    isToken domainConfig.cookie.name = true ∧ Presentable domainConfig.cookie.path ∧
    Presentable domainConfig.cookie.domain ∧ domainConfig.cookie.domain.isEmpty = false ∧
    (let clock : Instant := ⟨5, 0, by decide, by decide⟩
      ∃ value first stop, clock.add? domainConfig.maxAge = some stop ∧ Transport.Expressible stop ∧
        domainState.establish (exchange value) clock = .ok first ∧
        first.transport = .cookie domainConfig.cookie .default ∧ first.Due clock stop [.touch] ∧
        ((sessionLayer domainState (acting [.work .touch] answer) (returning value)).run
          (servingAt clock)).1 = ⟨500, .text "Internal Server Error", [], textHeaders⟩) ∧
    (let clock : Instant := ⟨20, 0, by decide, by decide⟩
      ∃ value first stop steps, steps = List.replicate (2 ^ 64 - 1) (.work .touch) ∧
        steps.length < 2 ^ 64 ∧ .discard ∉ steps ∧
        clock.add? domainConfig.maxAge = some stop ∧ Transport.Expressible stop ∧
        domainState.establish (exchange value) clock = .ok first ∧
        first.transport = .cookie domainConfig.cookie .default ∧
        first.Due clock stop (operations steps) ∧
        ((sessionLayer domainState (acting steps answer) (returning value)).run
          (servingAt clock)).1 = answer) := by
  intro answer exchange
  refine ⟨by rfl, by decide, by decide, by decide, by decide, ?_, ?_⟩
  · -- The window came with the token, and a touch leaves it where it is.
    intro clock
    let stop : Instant := ⟨65, 0, by decide, by decide⟩
    have ends : windowEnd clock (.ofSecs 60) = .ok stop := by decide
    obtain ⟨value, established⟩ := @exists_returning farData clock stop ⟨rfl, rfl⟩
      ⟨rfl, by decide, by decide, fun check member => by cases member⟩ ends
    let first : Established :=
      ⟨.cookie domainConfig.cookie .default, (minuteSessions []).holding farData, false⟩
    let left := (first.session.given clock stop).run clock [.touch]
    have due : first.Due clock stop [.touch] := @Established.Due.worked _ _ _ _ [] [] .touch rfl rfl
    have backend : left.container.backend = (minuteSessions []).factory.backend :=
      (@Session.progress_given_run first.session clock stop ends [.touch]).backend
    have outside : ¬ (Transport.firstCookieSecond ≤ left.header.validBefore.secs ∧
        left.header.validBefore.secs ≤ Transport.lastCookieSecond) := by decide
    obtain ⟨next, failed⟩ := @Transport.save_cookie_of_outside domainConfig.cookie .default
      (exchange value) left plainServing.entropy (by rw [backend]; trivial)
      (by rw [backend]; exact fun _ => rfl) rfl outside
    have served := @run_sessionLayer_kept Nat domainState (returning value) (servingAt clock) stop
      first [.work .touch] answer rfl (by simp) established ends
    -- The nonce has advanced, so the layer saves the session, and the cookie cannot be made.
    have advanced : (first.replaced || left.header.nonce != first.session.header.nonce) = true := by
      decide
    refine ⟨value, first, stop, by decide, ⟨by decide, by decide⟩, established, rfl, due,
      (served.trans (if_pos advanced)).trans ?_⟩
    have failed : ((first.transport.save (exchange value) left).run.run
      (servingAt clock).entropy).1 = .error Transport.outsideYears := congrArg Prod.fst failed
    exact congrArg (deliver answer) failed
  · -- The refresh that is due moves the window, but the layer goes by the nonce alone.
    intro clock
    let stop : Instant := ⟨80, 0, by decide, by decide⟩
    have ends : windowEnd clock (.ofSecs 60) = .ok stop := by decide
    obtain ⟨value, established⟩ := @exists_returning minuteData clock stop ⟨rfl, rfl⟩
      ⟨rfl, by decide, by decide, fun check member => by cases member⟩ ends
    let first : Established :=
      ⟨.cookie domainConfig.cookie .default, (minuteSessions []).holding minuteData, false⟩
    have old : first.session.refreshRequiredAt clock = true := by decide
    -- As a variable, so that no step of the proof unfolds so long a list.
    obtain ⟨n, round⟩ : ∃ n, n + 1 = 2 ^ 64 := ⟨2 ^ 64 - 1, by decide⟩
    let steps : List ServiceStep := List.replicate n (.work .touch)
    have few : steps.length < 2 ^ 64 := by
      rw [List.length_replicate]
      omega
    have kept : .discard ∉ steps := fun member => by cases List.eq_of_mem_replicate member
    have touches : operations steps = List.replicate n .touch :=
      List.filterMap_replicate_of_some rfl
    have served := @run_sessionLayer_kept Nat domainState (returning value) (servingAt clock) stop
      first steps answer rfl kept established ends
    have same : ((first.session.given clock stop).run clock (operations steps)).header.nonce =
        first.session.header.nonce := by
      rw [touches]
      exact nonce_touches ends old round
    have many : n = 2 ^ 64 - 1 := by omega
    refine ⟨value, first, stop, steps, congrArg (List.replicate · _) many, few, kept, by decide,
      ⟨by decide, by decide⟩, established, rfl, .refreshed old, served.trans (if_neg ?_)⟩
    have unchanged : (first.replaced || ((first.session.given clock stop).run clock
        (operations steps)).header.nonce != first.session.header.nonce) = false := by
      rw [same, bne_self_eq_false]
      rfl
    exact fun advanced => absurd (unchanged.symm.trans advanced) (by decide)

end Returning

end Http

end SealedTokens
