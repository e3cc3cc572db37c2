import SealedTokens.Proofs.CookieTransport
import SealedTokens.Proofs.SessionOperations
/-!
# Persistence

What becomes of the changes that a service makes to its session. The layer writes a session back
when its nonce has advanced, so what advances the nonce is persisted; emptying the payload does not,
and alone it is lost.

## Main results

- `Factory.load_precise_of_save`, `Factory.load_of_backend_save`: states come back from their tokens
- `Http.run_sessionLayer_idle`, `Http.run_sessionLayer_written`, `Http.run_sessionLayer_refused`:
  what becomes of a session after the service
- `Http.sessionLayer_persists`: changes are in the cookie, unless the payload was only emptied
- `Http.emptied_payload_is_not_written`: an emptied payload that is not in any cookie
-/
namespace SealedTokens

/-! ### States that their tokens carry -/

namespace Session

/-- The window is as precise as tokens are, if clocks show the instants that it was moved to. -/
theorem carried_moved (s : Session) {start stop : Instant} (first : start.OnClock)
    (last : stop.OnClock) : (s.moved start stop).container.Carried :=
  s.container.backend.carries_carried _ _ (fun _ => ⟨first, last⟩) _

theorem carried_apply {s next : Session} {clock : Instant} (shown : clock.OnClock)
    {option : SessionOption} (carried : s.container.Carried)
    (applied : s.apply clock option = .ok next) : next.container.Carried := by
  cases option with
  | validator check =>
    cases applied
    exact carried
  | payload key value =>
    rw [apply, set] at applied
    cases written : refreshAt { s with container := s.container.set key value } clock with
    | error e =>
      rw [refreshed_of_error written] at applied
      cases applied
    | ok next' =>
      rw [refreshed_of_ok written] at applied
      cases applied
      obtain ⟨stop, ends, rfl⟩ := refreshAt_eq_ok.mp written
      exact carried_moved _ shown (onClock_of_windowEnd shown ends)

end Session

theorem Sessions.carried_createAt {s : Sessions} {clock now : Instant} {session : Session}
    (clockShown : clock.OnClock) (nowShown : now.OnClock)
    (created : s.createAt clock now = .ok session) : session.container.Carried := by
  obtain ⟨container, made, applied⟩ := bind_eq_ok.mp created
  have carried := Container.carried_create (fun _ => nowShown) (SessionError.lift_eq_ok.mp made)
  exact foldlM_invariant (P := fun session : Session => session.container.Carried)
    (fun _ _ _ carried applied => Session.carried_apply clockShown carried applied) carried applied

namespace Http

/-- What a service sees is carried by its token, whether it is fresh or was loaded. -/
theorem SessionState.Exposes.carried {state : SessionState} {clock : Instant}
    {token : Option Bytes} {session : Session} (shown : clock.OnClock)
    (exposes : state.Exposes clock token session) : session.container.Carried := by
  cases exposes with
  | moved origin due ends => exact Session.carried_moved _ shown (onClock_of_windowEnd shown ends)
  | kept origin recent =>
    cases origin with
    | fresh unproven created => exact Sessions.carried_createAt shown shown created
    | proven carried read admitted => exact Backend.carries_load read

end Http

/-- Operations leave the window alone or move it, and either way tokens carry it. -/
theorem Session.Progress.carried {start stop : Instant} {cleaned : Prop} {count : Nat}
    {s s' : Session} (p : Progress start stop cleaned count s s') (first : start.OnClock)
    (last : stop.OnClock) (carried : s.container.Carried) : s'.container.Carried := by
  have same : s'.container.data = ⟨⟨s'.header.version, s'.header.nonce, s'.header.validAfter,
    s'.header.validBefore⟩, s'.payload⟩ := rfl
  unfold Container.Carried at carried ⊢
  rw [p.backend, same]
  obtain ⟨after, before⟩ | ⟨after, before⟩ := p.window
  · -- Only the ends of the window count, and they are those of before.
    rw [after, before]
    cases isBackend : s.container.backend <;> rw [isBackend] at carried <;> exact carried
  · rw [after, before]
    exact s.container.backend.carries_carried _ _ (fun _ => ⟨first, last⟩) _

/-- A state that the stages of some settings read back: on a machine that can address the payload,
and within what decompression admits. -/
structure Settings.Holds (s : Settings) (data : Data) : Prop where
  addressable : s.serializer = .compact → data.payload.Addressable
  small : s.compressor = .lz4 → (s.serializer.marshal data).length ≤ Lz4.maxLength

/-- Of whatever settings, the stages read back a state without entries. -/
theorem Settings.holds_of_empty (s : Settings) {data : Data} (nothing : data.payload = .empty) :
    s.Holds data where
  addressable _ := by
    rw [nothing]
    exact List.forall_mem_nil _
  small _ := Nat.le_trans (s.serializer.length_marshal_le nothing) (by decide)

section Saved

variable {s : Settings} {f : Factory} (built : Factory.ofSettings s = .ok f) {backend : Backend}
  {sign? : Bytes → Option Bytes} (own : backend = f.backend.withSign sign?)
  (honest : ∀ signer, backend = .signed signer → signer.Honest) {data : Data}

include built own honest

theorem Factory.load_precise_of_save (holds : s.Holds data) {source : Entropy} {token : Bytes}
    (saved : (backend.save data).outcome source = .ok token) :
    backend.load token = .ok (backend.precise data) := by
  obtain ⟨-, sealer, suits, isSealed⟩ | ⟨-, signer, -, isSigned⟩ := backend_of_ofSettings built
  · rw [isSealed] at own
    subst own
    exact Backend.load_of_save_sealed (Sealer.opens_of_create suits) holds.addressable holds.small
      saved
  · rw [isSigned] at own
    subst own
    exact Backend.load_of_save_signed (honest _ rfl) saved

theorem Factory.load_of_backend_save (carried : backend.Carries data) (holds : s.Holds data)
    {source : Entropy} {token : Bytes} (saved : (backend.save data).outcome source = .ok token) :
    backend.load token = .ok data := by
  rw [Factory.load_precise_of_save built own honest holds saved, Backend.precise_eq_iff.mpr carried]

end Saved

/-- The sessions with another way to sign in place of their own. -/
def Sessions.withSign (s : Sessions) (sign? : Bytes → Option Bytes) : Sessions :=
  { s with factory := { s.factory with backend := s.factory.backend.withSign sign? } }

namespace Http

section Conclusion

variable {α : Type}

/-- A service that performs operations on its session, whatever made it choose them, and answers. -/
def working (operations : List SessionOperation) (answer : Response α) : Service α := fun _ => do
  modify fun s =>
    { s with current := s.current.map fun c =>
        { c with session := c.session.run s.clock operations } }
  return answer

/-- A response with the cookies of an exchange, or the error that there is instead. -/
def deliver (answer : Response α) (written : Except SessionError Exchange) : Response α :=
  match written >>= fun exchange => (checkCookies exchange.cookies).map fun _ => exchange with
  | .error e => (LayerError.ofSession e).response
  | .ok exchange => { answer with cookies := answer.cookies ++ exchange.cookies }

/-- The last steps of the layer: what it wrote is delivered. -/
theorem run_drawing (action : Drawing SessionError Exchange) (answer : Response α)
    (serving : Serving) :
    (do
      match ← drawing action with
      | .error e => return (LayerError.ofSession e).response
      | .ok exchange =>
        match checkCookies exchange.cookies with
        | .error e => return (LayerError.ofSession e).response
        | .ok () => return { answer with cookies := answer.cookies ++ exchange.cookies } :
        StateM Serving (Response α)).run serving =
      (deliver answer (action.run.run serving.entropy).1,
        { serving with entropy := (action.run.run serving.entropy).2 }) := by
  rw [StateT.run_bind]
  show StateT.run (match (action.run.run serving.entropy).1 with
    | .error e => _
    | .ok exchange => _) { serving with entropy := (action.run.run serving.entropy).2 } = _
  cases (action.run.run serving.entropy).1 with
  | error e => rfl
  | ok exchange =>
    simp only [deliver, bind, Except.bind]
    cases checkCookies exchange.cookies <;> rfl

/-- Unless the response only announces another, what the layer writes is delivered with it. -/
theorem run_conclude_of_regular (found : Established) (loaded : UInt64) (exchange : Exchange)
    {answer : Response α} (serving : Serving) (regular : isInformational answer.status = false) :
    (conclude found loaded exchange answer).run serving =
      let left := serving.current.getD ⟨found.session, false⟩
      let written := (SessionState.complete found loaded left exchange).run.run serving.entropy
      (deliver answer written.1, { serving with entropy := written.2 }) := by
  rw [conclude, regular]
  simp only [Bool.false_eq_true, ite_false]
  rw [StateT.run_bind, StateT.run_get, pure_bind]
  exact run_drawing _ answer serving

theorem run_conclude_regular {found : Established} {loaded : UInt64} {exchange : Exchange}
    {answer : Response α} {serving : Serving} {left : CurrentSession}
    (regular : isInformational answer.status = false) (current : serving.current = some left) :
    (conclude found loaded exchange answer).run serving =
      let written := (SessionState.complete found loaded left exchange).run.run serving.entropy
      (deliver answer written.1, { serving with entropy := written.2 }) := by
  have chosen : serving.current.getD ⟨found.session, false⟩ = left := by
    rw [current]
    rfl
  rw [run_conclude_of_regular found loaded exchange serving regular, chosen]

/-- A session that was replaced, or whose nonce has advanced, is written back. -/
theorem run_conclude {found : Established} {loaded : UInt64} {exchange : Exchange}
    {answer : Response α} {serving : Serving} {session : Session}
    (regular : isInformational answer.status = false)
    (current : serving.current = some ⟨session, false⟩) :
    (conclude found loaded exchange answer).run serving =
      if found.replaced || session.header.nonce != loaded then
        let saved := (found.transport.save exchange session).run.run serving.entropy
        (deliver answer saved.1, { serving with entropy := saved.2 })
      else (deliver answer (.ok exchange), serving) := by
  -- The session is not discarded, so the nonce decides unless the session is new to the client.
  rw [run_conclude_regular regular current, SessionState.complete]
  simp only [Bool.false_eq_true, ite_false]
  split <;> rfl

/-- A response is an error, or it has exactly the cookies that were written. -/
theorem deliver_cases (answer : Response α) (written : Except SessionError Exchange) :
    (∃ e, deliver answer written = (LayerError.ofSession e).response) ∨
    ∃ exchange, written = .ok exchange ∧
      deliver answer written = { answer with cookies := answer.cookies ++ exchange.cookies } := by
  cases written with
  | error e => exact .inl ⟨e, rfl⟩
  | ok exchange =>
    simp only [deliver, bind, Except.bind]
    cases checkCookies exchange.cookies with
    | error e => exact .inl ⟨e, rfl⟩
    | ok _ => exact .inr ⟨exchange, rfl, rfl⟩

theorem deliver_of_presentable {answer : Response α} {exchange : Exchange}
    (presentable : ∀ c ∈ exchange.cookies, Presentable c.line) :
    deliver answer (.ok exchange) =
      { answer with cookies := answer.cookies ++ exchange.cookies } := by
  have checked : checkCookies exchange.cookies = .ok () := by
    refine if_pos (List.all_eq_true.mpr fun c member => ?_)
    exact (presentable c member).all_isValueByte
  simp only [deliver, bind, Except.bind, checked]
  rfl

/-- A cookie that cannot be a header's value makes the response an error. -/
theorem deliver_of_not_presentable {answer : Response α} {exchange : Exchange} {c : SetCookie}
    (member : c ∈ exchange.cookies) (broken : ¬ Presentable c.line) :
    ∃ e, deliver answer (.ok exchange) = (LayerError.ofSession e).response := by
  have refused :
      ¬ (exchange.cookies.all fun c => (Bytes.ofText c.line).all isValueByte) = true := by
    intro all
    exact broken (.of_all_isValueByte (List.all_eq_true.mp all c member))
  obtain ⟨e, checked⟩ : ∃ e, checkCookies exchange.cookies = .error e := ⟨_, if_neg refused⟩
  refine ⟨e, ?_⟩
  simp only [deliver, bind, Except.bind, checked]
  rfl

theorem run_working (operations : List SessionOperation) (answer : Response α) (request : Request)
    (serving : Serving) (session : Session) :
    (working operations answer request).run { serving with current := some ⟨session, false⟩ } =
      (answer, { serving with current := some ⟨session.run serving.clock operations, false⟩ }) :=
  rfl

/-- The layer around a service that works on its session. -/
theorem run_sessionLayer_working {state : SessionState} {request : Request} {serving : Serving}
    {found : Established} {loaded : UInt64} (operations : List SessionOperation)
    {answer : Response α} (regular : isInformational answer.status = false)
    (ready : state.prepare (Exchange.ofRequest request.headers request.uri.authority?)
      serving.clock = .ok (found, loaded)) :
    let exchange := Exchange.ofRequest request.headers request.uri.authority?
    let session := found.session.run serving.clock operations
    let after : Serving := { serving with current := some ⟨session, false⟩ }
    (sessionLayer state (working operations answer) request).run serving =
      if found.replaced || session.header.nonce != loaded then
        let saved := (found.transport.save exchange session).run.run serving.entropy
        (deliver answer saved.1, { after with entropy := saved.2 })
      else (deliver answer (.ok exchange), after) := by
  intro exchange session after
  rw [run_sessionLayer, ready]
  simp only [run_working]
  exact run_conclude regular rfl

section Outcome

variable {state : SessionState} {request : Request} {serving : Serving} {found : Established}
  {loaded : UInt64} {operations : List SessionOperation} {answer : Response α}

/-- Written or not, the session is as the service left it. -/
theorem current_of_prepare (regular : isInformational answer.status = false)
    (ready : state.prepare (Exchange.ofRequest request.headers request.uri.authority?)
      serving.clock = .ok (found, loaded)) :
    ((sessionLayer state (working operations answer) request).run serving).2.current =
      some ⟨found.session.run serving.clock operations, false⟩ := by
  rw [run_sessionLayer_working operations regular ready]
  simp only
  split <;> rfl

/-- Where the nonce did not advance, the service is answered and nothing is written. -/
theorem run_sessionLayer_idle (regular : isInformational answer.status = false)
    (ready : state.prepare (Exchange.ofRequest request.headers request.uri.authority?)
      serving.clock = .ok (found, loaded)) (kept : found.replaced = false)
    (same : (found.session.run serving.clock operations).header.nonce = loaded) :
    (sessionLayer state (working operations answer) request).run serving =
      (answer, { serving with
        current := some ⟨found.session.run serving.clock operations, false⟩ }) := by
  have nothing : deliver answer
      (.ok (Exchange.ofRequest request.headers request.uri.authority?)) = answer := by
    rw [deliver_of_presentable fun c member => by cases member]
    exact congrArg (Response.mk answer.status answer.body · answer.headers) (List.append_nil _)
  refine (run_sessionLayer_working operations regular ready).trans ?_
  simp only [kept, same, bne_self_eq_false, Bool.or_false, Bool.false_eq_true, ite_false, nothing]

/-- Where it did, the service is answered with the cookie that was written. -/
theorem run_sessionLayer_written (regular : isInformational answer.status = false)
    (ready : state.prepare (Exchange.ofRequest request.headers request.uri.authority?)
      serving.clock = .ok (found, loaded))
    (advanced : (found.session.run serving.clock operations).header.nonce ≠ loaded)
    {c : SetCookie} {next : Entropy}
    (saved : (found.transport.save (Exchange.ofRequest request.headers request.uri.authority?)
        (found.session.run serving.clock operations)).run.run serving.entropy =
      (.ok ((Exchange.ofRequest request.headers request.uri.authority?).setCookie c), next))
    (presentable : Presentable c.line) :
    (sessionLayer state (working operations answer) request).run serving =
      ({ answer with cookies := answer.cookies ++ [c] }, { serving with
        entropy := next
        current := some ⟨found.session.run serving.clock operations, false⟩ }) := by
  have cookie : deliver answer
      (.ok ((Exchange.ofRequest request.headers request.uri.authority?).setCookie c)) =
        { answer with cookies := answer.cookies ++ [c] } :=
    deliver_of_presentable (List.forall_mem_singleton.mpr presentable)
  refine (run_sessionLayer_working operations regular ready).trans ?_
  simp only [bne_iff_ne.mpr advanced, Bool.or_true, ite_true, saved, cookie]

/-- A cookie that no header can carry makes the response an error. -/
theorem run_sessionLayer_refused (regular : isInformational answer.status = false)
    (ready : state.prepare (Exchange.ofRequest request.headers request.uri.authority?)
      serving.clock = .ok (found, loaded))
    (advanced : (found.session.run serving.clock operations).header.nonce ≠ loaded)
    {c : SetCookie} {next : Entropy}
    (saved : (found.transport.save (Exchange.ofRequest request.headers request.uri.authority?)
        (found.session.run serving.clock operations)).run.run serving.entropy =
      (.ok ((Exchange.ofRequest request.headers request.uri.authority?).setCookie c), next))
    (broken : ¬ Presentable c.line) :
    ∃ e, ((sessionLayer state (working operations answer) request).run serving).1 =
      (LayerError.ofSession e).response := by
  obtain ⟨e, refused⟩ : ∃ e, deliver answer
      (.ok ((Exchange.ofRequest request.headers request.uri.authority?).setCookie c)) =
        (LayerError.ofSession e).response :=
    deliver_of_not_presentable (List.mem_singleton_self c) broken
  refine ⟨e, (congrArg Prod.fst (run_sessionLayer_working operations regular ready)).trans ?_⟩
  simp only [bne_iff_ne.mpr advanced, Bool.or_true, ite_true, saved, refused]

end Outcome

end Conclusion

/-- What the layer loaded is what the service's session went on from, by one step at most. -/
theorem SessionState.progress_of_prepare {state : SessionState} {exchange : Exchange}
    {clock stop : Instant} {found : Established} {loaded : UInt64}
    (ready : state.prepare exchange clock = .ok (found, loaded))
    (ends : windowEnd clock state.sessions.maxAge = .ok stop) :
    ∃ session, loaded = session.header.nonce ∧
      ∃ count ≤ 1, Session.Progress clock stop False count session found.session := by
  obtain ⟨session, established, same, ⟨-, kept⟩ | ⟨-, stop', ends', moved⟩⟩ := prepare_cases ready
  · refine ⟨session, same, 0, by decide, ?_⟩
    rw [kept]
    exact .refl session
  · rw [(establish_eq_ok established).2.owned.sessions] at ends'
    cases ends.symm.trans ends'
    refine ⟨session, same, 1, Nat.le_refl 1, ?_⟩
    rw [moved]
    exact Session.progress_moved session session.payload

end Http

namespace Transport

theorem cookieOf_eq_ok {config : CookieConfig} {policy : SameSitePolicy} {exchange : Exchange}
    {session : Session} {token : Bytes} {c : Http.SetCookie}
    (made : cookieOf config policy exchange session token = .ok c) :
    c.name = config.name ∧ Bytes.ofText c.value = token := by
  unfold cookieOf at made
  split at made
  · cases made
  next value isText =>
    obtain ⟨expires, -, made⟩ := bind_eq_ok.mp made
    cases made
    exact ⟨rfl, Bytes.ofText_of_toText? isText⟩

end Transport

namespace Http

variable {α : Type}

/-- A session that is written over the cookie transport is in one cookie more, or an error is
delivered. -/
theorem deliver_save_cookie (answer : Response α) (config : CookieConfig) (policy : SameSitePolicy)
    (exchange : Exchange) (session : Session) (source : Entropy) :
    let saved := ((Transport.cookie config policy).save exchange session).run.run source
    (∃ e, deliver answer saved.1 = (LayerError.ofSession e).response) ∨
    ∃ token c, session.container.save.outcome source = .ok token ∧
      Transport.cookieOf config policy exchange session token = .ok c ∧
      deliver answer saved.1 =
        { answer with cookies := answer.cookies ++ (exchange.cookies ++ [c]) } := by
  intro saved
  have steps : saved = _ := Transport.run_save_cookie source
  rw [steps]
  unfold Drawing.outcome
  rcases session.container.save.run.run source with ⟨e | token, next⟩
  · exact .inl ⟨_, rfl⟩
  · simp only
    cases made : Transport.cookieOf config policy exchange session token with
    | error e => exact .inl ⟨e, rfl⟩
    | ok c =>
      obtain failed | ⟨_, written, delivered⟩ :=
        deliver_cases answer (.ok (exchange.setCookie c))
      · exact .inl failed
      · cases written
        exact .inr ⟨token, c, rfl, made, delivered⟩

/-- Sessions of signed claims, of a minute, under a key of one letter. -/
def minuteSessions (options : List SessionOption) : Sessions :=
  ⟨⟨Settings.ofKind .jwt [107], .signed (.hmac .hs256 .sha256 [107])⟩, .ofSecs 60, .ofSecs 10,
    options⟩

/-- When a window of theirs ends that starts at the epoch. -/
def oneMinute : Instant := ⟨60, 0, by decide, Instant.epoch.nanos_valid⟩

def plainRequest : Request := { method := "GET", uri := { target := ⟨['/'], none⟩ } }

def plainServing : Serving := ⟨.repeating [0], .epoch, by decide, none, none⟩

theorem headerName_default : ({} : SessionConfig).headerName = .ok "authorization" := by rfl

theorem select_plain : Transport.select {}
    (Exchange.ofRequest plainRequest.headers plainRequest.uri.authority?) =
      .ok (.cookie {} .default) :=
  Transport.select_of_absent headerName_default rfl rfl

theorem prepare_plain {options : List SessionOption} {fresh : Session}
    (created : (minuteSessions options).createAt .epoch .epoch = .ok fresh)
    (recent : fresh.refreshRequiredAt .epoch = false) :
    SessionState.prepare ⟨minuteSessions options, {}⟩
      (Exchange.ofRequest plainRequest.headers plainRequest.uri.authority?) plainServing.clock =
        .ok (⟨.cookie {} .default, fresh, false⟩, fresh.header.nonce) :=
  SessionState.prepare_of_recent (SessionState.establish_of_absent created select_plain rfl) recent

/-- **Persistence.** A service performs operations on the session that the layer gives it. The layer
answers with an error; or the payload is what it was; or one cookie is set, and its value is loaded
as exactly the state that the operations left; or the payload was emptied and nothing else was done.

- `honest`: signatures verify, which is asked of signed containers only
- `few`: the nonce does not come round
- `holds`: the machine can address the payload, and decompression admits the state -/
theorem sessionLayer_persists {s : Settings} {f : Factory} (built : Factory.ofSettings s = .ok f)
    {state : SessionState} {sign? : Bytes → Option Bytes}
    (own : state.sessions.factory.backend = f.backend.withSign sign?)
    (honest : ∀ signer, state.sessions.factory.backend = .signed signer → signer.Honest)
    {request : Request} {serving : Serving} {found : Established} {loaded : UInt64}
    (ready : state.prepare (Exchange.ofRequest request.headers request.uri.authority?)
      serving.clock = .ok (found, loaded))
    {config : CookieConfig} {policy : SameSitePolicy}
    (cookies : found.transport = .cookie config policy)
    {operations : List SessionOperation} (few : operations.length + 1 < 2 ^ 64)
    (holds : s.Holds (found.session.run serving.clock operations).data) {answer : Response α}
    (regular : isInformational answer.status = false) :
    let left := found.session.run serving.clock operations
    let response := ((sessionLayer state (working operations answer) request).run serving).1
    (∃ e, response = (LayerError.ofSession e).response) ∨
    left.payload = found.session.payload ∨
    (∃ c, response = { answer with cookies := answer.cookies ++ [c] } ∧ c.name = config.name ∧
      state.sessions.factory.backend.load (Bytes.ofText c.value) = .ok left.data) ∨
    .clean ∈ operations ∧ left.payload = .empty ∧ left.header = found.session.header := by
  intro left response
  obtain ⟨stop, ends⟩ := SessionState.exists_windowEnd_of_prepare ready
  obtain ⟨-, exposes⟩ := SessionState.prepare_eq_ok ready
  obtain ⟨first, same, before, one, prepared⟩ := SessionState.progress_of_prepare ready ends
  have ends' := ends
  rw [← exposes.owned.sessions] at ends'
  obtain ⟨count, bounded, progress⟩ := found.session.exists_progress_run ends' operations
  rcases Nat.eq_zero_or_pos count with none | positive
  -- Nothing counted: the payload is what it was, or it was emptied and no more.
  · obtain ⟨header, payload | ⟨cleaned, emptied⟩⟩ := progress.idle none
    · exact .inr (.inl payload)
    · exact .inr (.inr (.inr ⟨cleaned, emptied, header⟩))
  -- The nonce has advanced beyond the one that was loaded, so the session is written back.
  have advanced : left.header.nonce ≠ loaded := by
    rw [same]
    exact ((prepared.mono False.elim).trans progress).nonce_ne (by omega) (by omega)
  have condition : (found.replaced || left.header.nonce != loaded) = true := by
    rw [bne_iff_ne.mpr advanced, Bool.or_true]
  have answered := congrArg Prod.fst (run_sessionLayer_working operations regular ready)
  simp only at answered
  rw [if_pos condition, cookies] at answered
  obtain ⟨e, failed⟩ | ⟨token, c, saved, made, delivered⟩ :=
    deliver_save_cookie answer config policy _ left serving.entropy
  · exact .inl ⟨e, answered.trans failed⟩
  · obtain ⟨name, value⟩ := Transport.cookieOf_eq_ok made
    have backend : left.container.backend = state.sessions.factory.backend :=
      progress.backend.trans exposes.owned.backend
    have shown := serving.clock_shown
    have carried : left.container.Carried :=
      progress.carried shown (onClock_of_windowEnd shown ends) (exposes.carried shown)
    unfold Container.Carried at carried
    unfold Container.save at saved
    rw [backend] at carried saved
    refine .inr (.inr (.inl ⟨c, answered.trans delivered, name, ?_⟩))
    rw [value]
    exact Factory.load_of_backend_save built own honest carried holds saved

/-- A service that writes to a fresh session: its cookie has what was written. -/
theorem sessionLayer_persists_write :
    let state : SessionState := ⟨minuteSessions [], {}⟩
    let answer : Response Nat := ⟨200, .content 7, [], []⟩
    ∃ c left, ((sessionLayer state (working [.set 1 [2]] answer) plainRequest).run plainServing).1 =
        { answer with cookies := [c] } ∧
      state.sessions.factory.backend.load (Bytes.ofText c.value) = .ok left ∧
      left.payload = Payload.empty.insert 1 [2] := by
  intro state answer
  let operations : List SessionOperation := [.set 1 [2]]
  let stop : Instant := ⟨60, 0, by decide, by decide⟩
  let fresh : Session := ⟨state.sessions, ⟨state.sessions.factory.backend,
    ⟨⟨Header.currentVersion, 0, .epoch, stop⟩, .empty⟩⟩, []⟩
  have ends : windowEnd .epoch state.sessions.maxAge = .ok stop := by decide
  have created : state.sessions.createAt .epoch .epoch = .ok fresh :=
    Sessions.createAt_of_no_options rfl ends
  let found : Established := ⟨.cookie {} .default, fresh, false⟩
  let exchange := Exchange.ofRequest plainRequest.headers plainRequest.uri.authority?
  have ready : state.prepare exchange plainServing.clock = .ok (found, 0) :=
    prepare_plain created (by decide)
  let written : Session := ⟨state.sessions, ⟨state.sessions.factory.backend,
    ⟨⟨Header.currentVersion, 1, .epoch, stop⟩, Payload.empty.insert 1 [2]⟩⟩, []⟩
  have ran : found.session.run plainServing.clock operations = written :=
    Session.refreshed_snd (fresh.withData ⟨fresh.header, Payload.empty.insert 1 [2]⟩) ends
  -- The layer does not answer with an error.
  obtain ⟨value, next, saved, -, plain, -⟩ :=
    @Transport.exists_save_cookie {} .default exchange written plainServing.entropy trivial
      (fun _ => rfl) rfl (by decide)
  let c := Transport.sessionCookie {} .default exchange value
    (Instant.secondsBetween written.header.validAfter written.header.validBefore)
    written.header.validBefore
  have presentable : Presentable c.line := Transport.presentable_sessionCookie
    ⟨by decide, by decide⟩ plain (by decide) (by decide) _ _
  have saved : (found.transport.save exchange (found.session.run plainServing.clock
      operations)).run.run plainServing.entropy = (.ok (exchange.setCookie c), next) := by
    rw [ran]
    exact saved
  have delivered := congrArg Prod.fst (@run_sessionLayer_written Nat state plainRequest plainServing
    found 0 operations answer rfl ready (by rw [ran]; decide) c next saved presentable)
  obtain ⟨e, failed⟩ | same | ⟨c', again, -, loads⟩ | ⟨cleaned, -⟩ :=
    @sessionLayer_persists Nat (.ofKind .jwt [107]) state.sessions.factory rfl state
      (Signer.hmac .hs256 .sha256 [107]).sign? rfl (fun signer same => by
        cases same
        exact Signer.honest_hmac _ _ _) plainRequest plainServing found 0 ready {} .default rfl
      operations (by decide) ⟨(fun compact => by cases compact), (fun lz4 => by cases lz4)⟩ answer
      rfl
  · cases delivered.symm.trans failed
  · rw [ran] at same
    cases same
  · rw [ran] at loads
    exact ⟨c', written.data, again, loads, rfl⟩
  · exact absurd cleaned (by simp [operations])

/-- A service that only empties the payload is answered as if it had done nothing, so whatever token
the client has keeps the old payload. -/
theorem emptied_payload_is_not_written {α : Type} {state : SessionState} {request : Request}
    {serving : Serving} {found : Established}
    (ready : state.prepare (Exchange.ofRequest request.headers request.uri.authority?)
      serving.clock = .ok (found, found.session.header.nonce))
    (kept : found.replaced = false) {answer : Response α}
    (regular : isInformational answer.status = false) :
    ((sessionLayer state (working [.clean] answer) request).run serving).1 = answer :=
  congrArg Prod.fst (run_sessionLayer_idle regular ready kept rfl)

/-- An entry that every new session has is emptied, and no cookie says so. -/
theorem emptied_option_is_not_written :
    let state : SessionState := ⟨minuteSessions [.payload 1 [2]], {}⟩
    let answer : Response Nat := ⟨200, .content 7, [], []⟩
    ∃ found loaded, state.prepare (Exchange.ofRequest plainRequest.headers
        plainRequest.uri.authority?) plainServing.clock = .ok (found, loaded) ∧
      (found.session.run plainServing.clock [.clean]).payload ≠ found.session.payload ∧
      ((sessionLayer state (working [.clean] answer) plainRequest).run plainServing).1 =
        answer := by
  intro state answer
  let stop : Instant := ⟨60, 0, by decide, by decide⟩
  let fresh : Session := ⟨state.sessions, ⟨state.sessions.factory.backend,
    ⟨⟨Header.currentVersion, 1, .epoch, stop⟩, Payload.empty.insert 1 [2]⟩⟩, []⟩
  have ends : windowEnd .epoch state.sessions.maxAge = .ok stop := by decide
  have created : state.sessions.createAt .epoch .epoch = .ok fresh := by
    let first : Session := ⟨state.sessions, ⟨state.sessions.factory.backend,
      ⟨⟨Header.currentVersion, 0, .epoch, stop⟩, .empty⟩⟩, []⟩
    have made : state.sessions.factory.create .epoch state.sessions.maxAge .empty =
        .ok first.container := Container.create_eq_ok.mpr ⟨stop, ends, rfl⟩
    have written : (first.withData ⟨first.header, Payload.empty.insert 1 [2]⟩).refreshAt .epoch =
        .ok fresh := Session.refreshAt_eq_ok.mpr ⟨stop, ends, rfl⟩
    have applied : first.apply .epoch (.payload 1 [2]) = .ok fresh := by
      have set : first.set .epoch 1 [2] = (.ok (), fresh) := Session.refreshed_of_ok written
      rw [Session.apply, set]
    exact bind_eq_ok.mpr ⟨_, SessionError.lift_eq_ok.mpr made, bind_eq_ok.mpr ⟨_, applied, rfl⟩⟩
  have ready := prepare_plain created (by decide)
  have emptied : (fresh.run plainServing.clock [.clean]).payload ≠ fresh.payload := by decide
  exact ⟨_, _, ready, emptied, emptied_payload_is_not_written ready rfl rfl⟩

end Http

end SealedTokens
