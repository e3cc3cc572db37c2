import SealedTokens.Proofs.Availability
/-!
# Keep-alive

A client that comes back before its session's window can have ended keeps its session: every request
finds the payload that the one before left behind. The window that a client holds is never older
than the refresh interval, counted at its last request, for otherwise that request has moved it.

## Main results

- `Http.Turn.exists_prepare`: what a request finds
- `Http.Turn.alive_after`: what a request leaves to the next one
- `Http.sessionLayer_keeps_alive`: a session that is kept alive is never lost
- `Http.path_with_line_break_loses_session`: a cookie that no header can carry keeps nothing
-/
namespace SealedTokens

/-! ### Headers to count on -/

/-- A window is left alone as long as it is recent. -/
theorem Session.refreshRequiredAt_eq_false {s : Session} {now : Instant} :
    s.refreshRequiredAt now = false ↔ Recent s.sessions.refresh s.header.validAfter now := by
  unfold refreshRequiredAt Recent
  cases windowEnd s.header.validAfter s.sessions.refresh with
  | error e => simp
  | ok due =>
    simp only [decide_eq_false_iff_not, ← Instant.not_le, Decidable.not_not, Except.ok.injEq,
      forall_eq']

namespace Sessions

/-- A policy under which a session can be kept alive: it is refreshed after a second or more, and
before its window ends. Tokens of signed claims carry whole seconds only, so their windows have to
be of such. -/
structure Durable (s : Sessions) : Prop where
  second : 1 ≤ s.refresh.secs
  less : s.refresh.toNanos < s.maxAge.toNanos
  carried : s.factory.backend.kind = .jwt → s.maxAge.nanos = 0

/-- A header as it is left by a request at `last`: its window is one of the policy, it has begun and
is still recent, and a cookie can tell its end. -/
structure Keeps (s : Sessions) (last : Instant) (h : Header) : Prop where
  version : h.version = Header.currentVersion
  ends : windowEnd h.validAfter s.maxAge = .ok h.validBefore
  begun : h.validAfter ≤ last
  recent : Recent s.refresh h.validAfter last
  years : Transport.firstCookieSecond ≤ h.validBefore.secs ∧
    h.validBefore.secs ≤ Transport.lastCookieSecond

variable {s : Sessions} {last now stop deadline : Instant}

theorem Durable.long (durable : s.Durable) : 1 ≤ s.maxAge.secs :=
  Nat.le_trans durable.second (Span.secs_le_of_lt durable.less)

/-- A window that starts now. -/
theorem Durable.keeps (durable : s.Durable) {backend : Backend}
    (kind : backend.kind = s.factory.backend.kind) (ends : windowEnd now s.maxAge = .ok stop)
    (years : Transport.firstCookieSecond ≤ stop.secs ∧ stop.secs ≤ Transport.lastCookieSecond)
    (nonce : UInt64) : s.Keeps now
      ⟨Header.currentVersion, nonce, backend.carried now, backend.carried stop⟩ where
  version := rfl
  ends := windowEnd_carried backend durable.long (fun jwt => durable.carried (kind ▸ jwt)) ends
  begun := by
    cases backend with
    | sealed codec => exact Instant.le_refl now
    | signed signer => exact Instant.wholeSeconds_le now
  recent := recent_carried backend durable.second now
  years := by cases backend <;> exact years

/-- A header that is still recent later on. -/
theorem Keeps.later {h : Header} (keeps : s.Keeps last h) (later : last < now)
    (recent : Recent s.refresh h.validAfter now) : s.Keeps now h :=
  { keeps with
    begun := Instant.le_of_lt (Instant.lt_of_le_of_lt keeps.begun later)
    recent }

/-- Who comes back in time is admitted. -/
theorem Keeps.admits {data : Data} (keeps : s.Keeps last data.header) (durable : s.Durable)
    (none : s.options = []) (later : last < now)
    (back : windowEnd last (s.maxAge.less s.refresh) = .ok deadline) (soon : now < deadline) :
    s.Admits now data where
  version := keeps.version
  begun := Instant.lt_of_le_of_lt keeps.begun later
  open' := lt_of_recent durable.second durable.less keeps.ends keeps.recent back soon
  accepted check member := by
    unfold validators at member
    rw [none] at member
    cases member

/-- Operations leave a header to count on. -/
theorem Keeps.progress {session session' : Session} {cleaned : Prop} {count : Nat}
    (keeps : s.Keeps now session.header) (durable : s.Durable)
    (kind : session.container.backend.kind = s.factory.backend.kind)
    (ends : windowEnd now s.maxAge = .ok stop)
    (years : Transport.firstCookieSecond ≤ stop.secs ∧ stop.secs ≤ Transport.lastCookieSecond)
    (p : Session.Progress now stop cleaned count session session') :
    s.Keeps now session'.header := by
  have version := p.version.trans keeps.version
  -- The window is the one that there was, or it starts now.
  obtain ⟨after, before⟩ | ⟨after, before⟩ := p.window
  · constructor
    · exact version
    all_goals simp only [after, before]
    · exact keeps.ends
    · exact keeps.begun
    · exact keeps.recent
    · exact keeps.years
  · have started := durable.keeps kind ends years session.header.nonce
    constructor
    · exact version
    all_goals simp only [after, before]
    · exact started.ends
    · exact started.begun
    · exact started.recent
    · exact started.years

end Sessions

/-! ### Runs of requests -/

namespace Http

/-- One request of a client: when it comes and what it brings, what is done to its session, what the
service answers, and how signatures are made meanwhile, which some algorithms do at random. -/
structure Turn (α : Type) where
  clock : Instant
  clock_shown : clock.OnClock
  request : Request
  operations : List SessionOperation
  answer : Response α
  sign? : Bytes → Option Bytes

/-- What one request leaves to the next: when it was served, the randomness that is left, the cookie
that the client has, and the payload that the service left. -/
structure Standing where
  last : Option Instant
  entropy : Entropy
  jar : Option String
  payload : Payload

/-- Before the first request. -/
def Standing.start (entropy : Entropy) : Standing := ⟨none, entropy, none, .empty⟩

/-- The cookie that a client has after a response: the last one of the name, or the one it had. -/
def received (name : String) (cookies : List SetCookie) (jar : Option String) : Option String :=
  ((cookies.filter fun c => c.name == name).getLast?.map (·.value)).or jar

theorem received_of_others {name : String} {cookies : List SetCookie} {jar : Option String}
    (others : ∀ c ∈ cookies, c.name ≠ name) : received name cookies jar = jar := by
  have none : (cookies.filter fun c => c.name == name) = [] :=
    List.filter_eq_nil_iff.mpr fun c member same => others c member (beq_iff_eq.mp same)
  rw [received, none]
  rfl

theorem received_append {name : String} {cookies : List SetCookie} {jar : Option String}
    {c : SetCookie} (named : c.name = name) :
    received name (cookies ++ [c]) jar = some c.value := by
  have last : [c].filter (fun c => c.name == name) = [c] :=
    List.filter_eq_self.mpr fun c' member => by
      rw [List.mem_singleton.mp member, named]
      exact beq_self_eq_true name
  rw [received, List.filter_append, last, List.getLast?_append]
  rfl

namespace Turn

variable {α : Type}

def exchange (turn : Turn α) : Exchange :=
  Exchange.ofRequest turn.request.headers turn.request.uri.authority?

/-- The sessions as they are while the request is served. -/
def state (turn : Turn α) (state : SessionState) : SessionState :=
  { state with sessions := state.sessions.withSign turn.sign? }

/-- What the service is given, and the nonce that it had. -/
def prepared (turn : Turn α) (state : SessionState) : Except SessionError (Established × UInt64) :=
  (turn.state state).prepare turn.exchange turn.clock

def serve (turn : Turn α) (state : SessionState) (entropy : Entropy) : Response α × Serving :=
  (sessionLayer (turn.state state) (working turn.operations turn.answer) turn.request).run
    { entropy, clock := turn.clock, clock_shown := turn.clock_shown }

def after (turn : Turn α) (state : SessionState) (standing : Standing) : Standing :=
  let served := turn.serve state standing.entropy
  { last := some turn.clock
    entropy := served.2.entropy
    jar := received state.config.cookie.name served.1.cookies standing.jar
    payload := (served.2.current.map (·.session.payload)).getD .empty }

theorem jar_after (turn : Turn α) (state : SessionState) (standing : Standing) :
    (turn.after state standing).jar = received state.config.cookie.name
      (turn.serve state standing.entropy).1.cookies standing.jar := by
  rw [after]

/-- A request of a client that keeps its session alive, and the machine it is served on.

- `back`: it comes later than the last one, and before the rest of the window is over
- `years`: a window that starts now ends in the years of cookies
- `selects`, `returns`: the client uses the cookie transport and returns the cookie that it has
- `authority`: the target is one that was read, whatever was mounted in between
- `noClean`, `few`: the service does not empty the payload, and does less than the nonce can count
- `signs`, `honest`: signatures are made, and verify
- `holds`: the machine can address the payload, and decompression admits what the service left -/
structure Admissible (turn : Turn α) (state : SessionState) (standing : Standing) : Prop where
  back : ∀ last, standing.last = some last → last < turn.clock ∧ ∃ deadline,
    windowEnd last (state.sessions.maxAge.less state.sessions.refresh) = .ok deadline ∧
      turn.clock < deadline
  years : ∃ stop, windowEnd turn.clock state.sessions.maxAge = .ok stop ∧
    Transport.firstCookieSecond ≤ stop.secs ∧ stop.secs ≤ Transport.lastCookieSecond
  selects : ∃ policy, Transport.select state.config turn.exchange =
    .ok (.cookie state.config.cookie policy)
  returns : Returns turn.request.headers state.config.cookie.name standing.jar
  authority : ∃ text uri, Uri.ofText text = .ok uri ∧
    turn.request.uri.authority? = uri.authority?
  regular : isInformational turn.answer.status = false
  others : ∀ c ∈ turn.answer.cookies, c.name ≠ state.config.cookie.name
  noClean : .clean ∉ turn.operations
  few : turn.operations.length + 1 < 2 ^ 64
  signs : (state.sessions.factory.backend.withSign turn.sign?).Signs
  honest : ∀ signer, state.sessions.factory.backend.withSign turn.sign? = .signed signer →
    signer.Honest
  holds : ∀ current, (turn.serve state standing.entropy).2.current = some current →
    state.sessions.factory.settings.Holds current.session.data

end Turn

/-- Where a client that keeps its session alive can get to, from a start without a cookie. -/
inductive Reached (α : Type) (state : SessionState) : Standing → Prop
  | start {entropy : Entropy} (unlimited : entropy.limit = none) :
      Reached α state (.start entropy)
  | turn {standing : Standing} (reached : Reached α state standing) (turn : Turn α)
      (admissible : turn.Admissible state standing) : Reached α state (turn.after state standing)

/-- A configuration under which sessions can be kept alive: factory and policy are, and a header can
carry the cookie. -/
structure SessionState.Lasting (state : SessionState) : Prop where
  built : Factory.ofSettings state.sessions.factory.settings = .ok state.sessions.factory
  emits : state.sessions.factory.settings.emitsText = true
  options : state.sessions.options = []
  durable : state.sessions.Durable
  name : PlainName state.config.cookie.name
  path : Presentable state.config.cookie.path
  domain : Presentable state.config.cookie.domain

/-- What holds between requests: a client without a cookie has nothing to lose, and the cookie of
any other is loaded as what the last service left. -/
structure Standing.Alive (standing : Standing) (state : SessionState) : Prop where
  unlimited : standing.entropy.limit = none
  fresh : standing.jar = none → standing.payload = .empty
  kept : ∀ value, standing.jar = some value → PlainValue value ∧ ∃ last h,
    standing.last = some last ∧ state.sessions.Keeps last h ∧
    state.sessions.factory.backend.load (Bytes.ofText value) = .ok ⟨h, standing.payload⟩

namespace Turn

variable {α : Type} {turn : Turn α} {state : SessionState} {standing : Standing} {stop : Instant}

theorem token?_of_admissible (lasting : state.Lasting) (alive : standing.Alive state)
    (admissible : turn.Admissible state standing) (policy : SameSitePolicy) :
    (Transport.cookie state.config.cookie policy).token? turn.exchange =
      standing.jar.map Bytes.ofText := by
  have plain (value : String) (has : standing.jar = some value) := (alive.kept value has).1
  have found : turn.exchange.cookie? state.config.cookie.name = _ :=
    Exchange.cookie?_of_returned lasting.name plain admissible.returns
  rw [Transport.token?, found, Option.map_map]
  rfl

/-- An established session is prepared for the service: its header is one to count on again. -/
theorem prepared_of_established {first : Session} {transport : Transport} (lasting : state.Lasting)
    (ends : windowEnd turn.clock state.sessions.maxAge = .ok stop)
    (years : Transport.firstCookieSecond ≤ stop.secs ∧ stop.secs ≤ Transport.lastCookieSecond)
    (owned : (turn.state state).sessions.Owns first)
    (version : first.header.version = Header.currentVersion)
    (established : (turn.state state).establish turn.exchange turn.clock =
      .ok ⟨transport, first, false⟩)
    (kept : Recent state.sessions.refresh first.header.validAfter turn.clock →
      state.sessions.Keeps turn.clock first.header) :
    ∃ session, turn.prepared state = .ok (⟨transport, session, false⟩, first.header.nonce) ∧
      session.payload = first.payload ∧ state.sessions.Keeps turn.clock session.header ∧
      ∃ count ≤ 1, Session.Progress turn.clock stop False count first session := by
  have refresh : first.sessions.refresh = state.sessions.refresh := by
    rw [owned.sessions]
    rfl
  -- A window that is recent is left alone, and any other starts now, which counts once.
  cases due : first.refreshRequiredAt turn.clock with
  | false =>
    have recent := Session.refreshRequiredAt_eq_false.mp due
    rw [refresh] at recent
    exact ⟨first, SessionState.prepare_of_recent established due, rfl, kept recent, 0, by decide,
      .refl first⟩
  | true =>
    have ends' : windowEnd turn.clock first.sessions.maxAge = .ok stop := by
      rw [owned.sessions]
      exact ends
    have kind : first.container.backend.kind = state.sessions.factory.backend.kind := by
      rw [owned.backend]
      exact Backend.kind_withSign _ turn.sign?
    have keeps := lasting.durable.keeps kind ends years (first.header.nonce + 1)
    rw [← version] at keeps
    exact ⟨first.moved turn.clock stop, SessionState.prepare_of_due established due ends', rfl,
      keeps, 1, Nat.le_refl 1, Session.progress_moved first first.payload⟩

/-- What a request finds: the state that was left, with its window moved if that was due. -/
theorem exists_prepare (lasting : state.Lasting) (alive : standing.Alive state)
    (admissible : turn.Admissible state standing)
    (ends : windowEnd turn.clock state.sessions.maxAge = .ok stop)
    (years : Transport.firstCookieSecond ≤ stop.secs ∧ stop.secs ≤ Transport.lastCookieSecond) :
    ∃ first session policy,
      turn.prepared state =
        .ok (⟨.cookie state.config.cookie policy, session, false⟩, first.header.nonce) ∧
      first.payload = standing.payload ∧
      (∀ value, standing.jar = some value →
        state.sessions.factory.backend.load (Bytes.ofText value) = .ok first.data ∧
        state.sessions.Admits turn.clock first.data) ∧
      session.payload = first.payload ∧ state.sessions.Keeps turn.clock session.header ∧
      ∃ count ≤ 1, Session.Progress turn.clock stop False count first session := by
  obtain ⟨policy, selected⟩ := admissible.selects
  have token := token?_of_admissible lasting alive admissible policy
  have created : (turn.state state).sessions.createAt turn.clock turn.clock = _ :=
    Sessions.createAt_of_no_options lasting.options ends
  cases jar : standing.jar with
  -- A client without a cookie gets a fresh session, and had nothing before.
  | none =>
    rw [jar] at token
    have established := SessionState.establish_of_absent created selected token
    have kind := Backend.kind_withSign state.sessions.factory.backend turn.sign?
    obtain ⟨session, ready, rest⟩ := prepared_of_established lasting ends years
      (Sessions.createAt_eq_ok created) rfl established
      fun _ => lasting.durable.keeps kind ends years 0
    exact ⟨_, session, policy, ready, (alive.fresh jar).symm, fun value has => (by cases has), rest⟩
  -- The state of the cookie is admitted, as its client is back in time.
  | some value =>
    rw [jar] at token
    obtain ⟨-, last, h, wasLast, keeps, read⟩ := alive.kept value jar
    obtain ⟨later, deadline, back, soon⟩ := admissible.back last wasLast
    let data : Data := ⟨h, standing.payload⟩
    have admitted : state.sessions.Admits turn.clock data :=
      Sessions.Keeps.admits keeps lasting.durable lasting.options later back soon
    have read' : (turn.state state).sessions.factory.backend.load (Bytes.ofText value) = .ok data :=
      (Backend.load_withSign _ _ _).trans read
    let first := (turn.state state).sessions.holding data
    have established : (turn.state state).establish turn.exchange turn.clock =
        .ok ⟨.cookie state.config.cookie policy, first, false⟩ :=
      SessionState.establish_of_admitted created selected token read' ⟨admitted.version,
        admitted.begun, admitted.open', admitted.accepted⟩
    have owned := (turn.state state).sessions.owns_holding data
    obtain ⟨session, ready, rest⟩ := prepared_of_established lasting ends years owned keeps.version
      established fun recent => keeps.later later recent
    refine ⟨first, session, policy, ready, rfl, fun value' has => ?_, rest⟩
    cases has
    exact ⟨read, admitted⟩

/-- What has to be seen of a response and of the session behind it. -/
theorem alive_of_served {response : Response α} {serving : Serving} {left : Session}
    (served : turn.serve state standing.entropy = (response, serving))
    (unlimited : serving.entropy.limit = none) (current : serving.current = some ⟨left, false⟩)
    (keeps : state.sessions.Keeps turn.clock left.header)
    (fresh : received state.config.cookie.name response.cookies standing.jar = none →
      left.payload = .empty)
    (kept : ∀ value, received state.config.cookie.name response.cookies standing.jar = some value →
      PlainValue value ∧
      state.sessions.factory.backend.load (Bytes.ofText value) = .ok left.data) :
    (turn.after state standing).Alive state := by
  have after : turn.after state standing = ⟨some turn.clock, serving.entropy,
      received state.config.cookie.name response.cookies standing.jar, left.payload⟩ := by
    rw [Turn.after, served]
    simp only [current]
    rfl
  rw [after]
  refine ⟨unlimited, fresh, fun value has => ?_⟩
  obtain ⟨plain, read⟩ := kept value has
  exact ⟨plain, turn.clock, left.header, rfl, keeps, read⟩

/-- The cookie that the session is written to is loaded as that session's state. -/
theorem exists_written {left : Session} (lasting : state.Lasting)
    (admissible : turn.Admissible state standing) (unlimited : standing.entropy.limit = none)
    (backend : left.container.backend = state.sessions.factory.backend.withSign turn.sign?)
    (carried : left.container.Carried) (keeps : state.sessions.Keeps turn.clock left.header)
    (holds : state.sessions.factory.settings.Holds left.data) (policy : SameSitePolicy) :
    ∃ c next, ((Transport.cookie state.config.cookie policy).save turn.exchange left).run.run
        standing.entropy = (.ok (turn.exchange.setCookie c), next) ∧ next.limit = none ∧
      c.name = state.config.cookie.name ∧ PlainValue c.value ∧ Presentable c.line ∧
      state.sessions.factory.backend.load (Bytes.ofText c.value) = .ok left.data := by
  have emits : left.container.backend.EmitsText := by
    rw [backend]
    exact Backend.emitsText_withSign (Backend.emitsText_of_ofSettings lasting.built lasting.emits)
  have signs : left.container.backend.Signs := by
    rw [backend]
    exact admissible.signs
  have host : ∀ h, turn.exchange.host = some h → Presentable h := by
    obtain ⟨text, uri, read, same⟩ := admissible.authority
    refine Exchange.presentable_host fun h named => ?_
    exact Uri.presentable_authority read (same.symm.trans named)
  obtain ⟨value, next, saved, unlimited', plain, outcome⟩ :=
    Transport.exists_save_cookie emits signs unlimited keeps.years
  have domain := Transport.presentable_domain? lasting.domain fun _ => host
  refine ⟨_, next, saved, unlimited', rfl, plain,
    Transport.presentable_sessionCookie lasting.name plain lasting.path domain _ _, ?_⟩
  unfold Container.Carried at carried
  unfold Container.save at outcome
  rw [backend] at carried outcome
  rw [← Backend.load_withSign _ turn.sign?]
  exact Factory.load_of_backend_save lasting.built rfl admissible.honest carried holds outcome

/-- What a request leaves: its service is answered, and whatever it did to the session is there for
the next request. -/
theorem alive_after (lasting : state.Lasting) (alive : standing.Alive state)
    (admissible : turn.Admissible state standing) : (turn.after state standing).Alive state ∧
      ∃ cookies, (turn.serve state standing.entropy).1 =
        { turn.answer with cookies := turn.answer.cookies ++ cookies } := by
  obtain ⟨stop, ends, years⟩ := admissible.years
  obtain ⟨first, session, policy, ready, payload, loaded, same, keeps, one, few, before⟩ :=
    exists_prepare lasting alive admissible ends years
  have exposes := (SessionState.prepare_eq_ok ready).2
  have ends' : windowEnd turn.clock session.sessions.maxAge = .ok stop := by
    rw [exposes.owned.sessions]
    exact ends
  obtain ⟨count, many, progress⟩ := session.exists_progress_run ends' turn.operations
  have backend : session.container.backend =
      state.sessions.factory.backend.withSign turn.sign? := exposes.owned.backend
  have kind : session.container.backend.kind = state.sessions.factory.backend.kind := by
    rw [backend]
    exact Backend.kind_withSign _ turn.sign?
  have keepsLeft := keeps.progress lasting.durable kind ends years progress
  have total := (before.mono False.elim).trans progress
  let serving : Serving :=
    { entropy := standing.entropy, clock := turn.clock, clock_shown := turn.clock_shown }
  generalize run : session.run turn.clock turn.operations = left at *
  rcases Nat.eq_zero_or_pos (one + count) with none | positive
  -- Nothing was done, so the cookie that the client has is as good as before.
  · obtain ⟨header, unchanged | ⟨cleaned, -⟩⟩ := total.idle none
    · have served : turn.serve state standing.entropy = _ :=
        run_sessionLayer_idle admissible.regular ready rfl (by rw [run, header])
      have data : left.data = first.data := by
        show Data.mk left.header left.payload = ⟨first.header, first.payload⟩
        rw [header, unchanged]
      refine ⟨alive_of_served served alive.unlimited (by rw [run]) keepsLeft ?_ ?_, [], ?_⟩
      · rw [received_of_others admissible.others, unchanged, payload]
        exact alive.fresh
      · rw [received_of_others admissible.others, data]
        exact fun value has => ⟨(alive.kept value has).1, (loaded value has).1⟩
      · rw [served, List.append_nil]
    · exact absurd cleaned admissible.noClean
  -- The nonce has advanced, so the client gets a cookie.
  · have advanced : left.header.nonce ≠ first.header.nonce :=
      total.nonce_ne positive (by have := admissible.few; omega)
    have current : (turn.serve state standing.entropy).2.current = some ⟨left, false⟩ := by
      rw [← run]
      exact @current_of_prepare α (turn.state state) turn.request serving _ _ turn.operations
        turn.answer admissible.regular ready
    have shown := turn.clock_shown
    have carried : left.container.Carried :=
      progress.carried shown (onClock_of_windowEnd shown ends) (exposes.carried shown)
    obtain ⟨c, next, saved, unlimited, name, plain, presentable, read⟩ :=
      exists_written lasting admissible alive.unlimited (progress.backend.trans backend)
        carried keepsLeft (admissible.holds _ current) policy
    rw [← run] at advanced saved
    have served : turn.serve state standing.entropy = _ :=
      @run_sessionLayer_written α (turn.state state) turn.request serving _ _ turn.operations
        turn.answer admissible.regular ready advanced c next saved presentable
    refine ⟨alive_of_served served unlimited (by rw [run]) keepsLeft ?_ ?_, [c], by rw [served]⟩
    · rw [received_append name]
      exact fun none => by cases none
    · rw [received_append name]
      rintro value ⟨⟩
      exact ⟨plain, read⟩

end Turn

/-! ### Two requests -/

def minuteState (path : String) : SessionState := ⟨minuteSessions [], minuteConfig path⟩

def plainTurn (clock : Instant) (headers : Headers) (operations : List SessionOperation)
    (clock_shown : clock.OnClock := by decide) : Turn Nat :=
  ⟨clock, clock_shown, { plainRequest with headers }, operations, ⟨200, .content 7, [], []⟩,
    (Signer.hmac .hs256 .sha256 [107]).sign?⟩

/-- The session of a client without a cookie, in a window to `stop`. -/
def freshSession (clock stop : Instant) : Session :=
  ⟨minuteSessions [], ⟨(minuteSessions []).factory.backend,
    ⟨⟨Header.currentVersion, 0, clock.wholeSeconds, stop.wholeSeconds⟩, .empty⟩⟩, []⟩

section Plain

variable {path : String} {clock stop : Instant} {headers : Headers}
  {operations : List SessionOperation} {shown : clock.OnClock}

theorem select_minute (absent : (plainTurn clock headers operations shown).exchange.header?
      "authorization" = none) :
    Transport.select (minuteConfig path) (plainTurn clock headers operations shown).exchange =
      .ok (.cookie (minuteConfig path).cookie .default) := by
  have name : headerName? (Text.trim "Authorization") = some "authorization" := by rfl
  have policy : Registry.find? "default" = some SameSitePolicy.default := by rfl
  refine Transport.select_of_absent ?_ absent ?_
  · unfold SessionConfig.headerName minuteConfig
    simp only [name]
  · unfold CookieConfig.policy minuteConfig
    simp only [policy]

/-- A request that brings nothing gets a fresh session. -/
theorem prepared_plain (ends : windowEnd clock (.ofSecs 60) = .ok stop) :
    (plainTurn clock [] operations shown).prepared (minuteState path) =
      .ok (⟨.cookie (minuteConfig path).cookie .default, freshSession clock stop, false⟩, 0) := by
  let turn := plainTurn clock [] operations shown
  have created : (turn.state (minuteState path)).sessions.createAt clock clock = _ :=
    Sessions.createAt_of_no_options rfl ends
  have selected : Transport.select (minuteConfig path) turn.exchange =
      .ok (.cookie (minuteConfig path).cookie .default) := select_minute rfl
  have established := SessionState.establish_of_absent created selected rfl
  have recent := recent_carried (minuteSessions []).factory.backend
    (show 1 ≤ (Span.ofSecs 10).secs by decide) clock
  exact SessionState.prepare_of_recent established (Session.refreshRequiredAt_eq_false.mpr recent)

theorem admissible_plain {standing : Standing}
    (back : ∀ last, standing.last = some last → last < clock ∧ ∃ deadline,
      windowEnd last (.ofSecs 50) = .ok deadline ∧ clock < deadline)
    (ends : windowEnd clock (.ofSecs 60) = .ok stop)
    (years : Transport.firstCookieSecond ≤ stop.secs ∧ stop.secs ≤ Transport.lastCookieSecond)
    (absent : (plainTurn clock headers operations shown).exchange.header? "authorization" = none)
    (returns : Returns headers "_cachet" standing.jar) (noClean : .clean ∉ operations)
    (few : operations.length + 1 < 2 ^ 64) :
    (plainTurn clock headers operations shown).Admissible (minuteState path) standing where
  back := by
    have rest : (Span.ofSecs 60).less (.ofSecs 10) = .ofSecs 50 := by decide
    rw [show (minuteState path).sessions.maxAge.less (minuteState path).sessions.refresh =
      .ofSecs 50 from rest]
    exact back
  years := ⟨stop, ends, years⟩
  selects := ⟨.default, select_minute absent⟩
  returns := returns
  authority := ⟨"/", { target := ⟨['/'], none⟩ }, by decide, rfl⟩
  regular := rfl
  others := fun c member => by cases member
  noClean := noClean
  few := few
  signs := fun _ => rfl
  honest := fun signer same => by
    cases same
    exact Signer.honest_hmac _ _ _
  holds := fun _ _ => ⟨(fun compact => by cases compact), (fun lz4 => by cases lz4)⟩

/-- The first of two requests writes an entry. -/
def firstTurn : Turn Nat := plainTurn .epoch [] [.set 1 [2]] plainServing.clock_shown

def afterFirst (path : String) : Standing :=
  firstTurn.after (minuteState path) (.start (.repeating [0]))

/-- The session that the first request leaves. -/
def writtenFirst : Session :=
  ⟨minuteSessions [], ⟨(minuteSessions []).factory.backend,
    ⟨⟨Header.currentVersion, 1, .epoch, oneMinute⟩, Payload.empty.insert 1 [2]⟩⟩, []⟩

theorem ends_first : windowEnd .epoch (.ofSecs 60) = .ok oneMinute := by decide

theorem run_first :
    (freshSession .epoch oneMinute).run .epoch firstTurn.operations = writtenFirst :=
  Session.refreshed_snd ((freshSession .epoch oneMinute).withData
    ⟨(freshSession .epoch oneMinute).header, Payload.empty.insert 1 [2]⟩) ends_first

theorem reached_first (path : String) : Reached Nat (minuteState path) (afterFirst path) := by
  refine .turn (.start rfl) firstTurn (admissible_plain ?_ ends_first (by decide) rfl ?_ ?_ ?_)
  · exact fun last none => by cases none
  · exact .nothing fun piece member => by cases member
  · simp
  · decide

theorem payload_first (path : String) : (afterFirst path).payload = Payload.empty.insert 1 [2] := by
  have ready : firstTurn.prepared (minuteState path) = _ := prepared_plain ends_first
  have current : (firstTurn.serve (minuteState path) (.repeating [0])).2.current =
      some ⟨(freshSession .epoch oneMinute).run .epoch firstTurn.operations, false⟩ :=
    @current_of_prepare Nat (firstTurn.state (minuteState path)) firstTurn.request
      { entropy := .repeating [0], clock := .epoch, clock_shown := by decide } _ _
      firstTurn.operations firstTurn.answer rfl ready
  rw [run_first] at current
  show (((firstTurn.serve (minuteState path) (.repeating [0])).2.current.map
    (·.session.payload)).getD .empty) = _
  rw [current]
  rfl

/-- The second request, a second later. -/
def secondTurn (headers : Headers) : Turn Nat :=
  plainTurn ⟨1, 0, by decide, Instant.epoch.nanos_valid⟩ headers [.get 1]

theorem admissible_second (path : String) {headers : Headers}
    (absent : (secondTurn headers).exchange.header? "authorization" = none)
    (returns : Returns headers "_cachet" (afterFirst path).jar) :
    (secondTurn headers).Admissible (minuteState path) (afterFirst path) := by
  refine @admissible_plain path _ ⟨61, 0, by decide, by decide⟩ headers [.get 1] _
    (afterFirst path) ?_ (by decide) (by decide) absent returns (by simp) (by decide)
  intro last wasLast
  cases wasLast
  exact ⟨by decide, ⟨50, 0, by decide, by decide⟩, by decide, by decide⟩

end Plain

/-! ### Keeping a session alive -/

theorem Reached.alive {α : Type} {state : SessionState} {standing : Standing}
    (reached : Reached α state standing) (lasting : state.Lasting) : standing.Alive state := by
  induction reached with
  | start unlimited => exact ⟨unlimited, fun _ => rfl, fun value has => by cases has⟩
  | turn reached turn admissible ih => exact (Turn.alive_after lasting ih admissible).1

/-- A validated configuration, and what validation does not ask for. -/
theorem SessionState.lasting_ofConfig {config : SessionConfig} {files : Files} {sessions : Sessions}
    (made : Sessions.ofConfig config files = .ok sessions) (whole : config.refresh.nanos = 0)
    (less : config.refresh.toNanos < config.maxAge.toNanos)
    (carried : sessions.factory.backend.kind = .jwt → config.maxAge.nanos = 0)
    (name : PlainName config.cookie.name) (path : Presentable config.cookie.path)
    (domain : Presentable config.cookie.domain) : SessionState.Lasting ⟨sessions, config⟩ := by
  obtain ⟨validated, f, built, emits, rfl⟩ := Sessions.ofConfig_eq_ok made
  have positive := validated.refresh
  have second : 1 ≤ config.refresh.secs := by
    simp only [Span.isZero, whole, beq_self_eq_true, Bool.and_true, beq_eq_false_iff_ne] at positive
    omega
  exact ⟨built, emits, rfl, ⟨second, less, carried⟩, name, path, domain⟩

/-- **Keep-alive.** Sessions of a validated configuration, any number of requests of one client, and
one request more, all of them served on a working machine and each before the rest of the window is
over, which is the lifetime less the refresh interval. This request is answered by its service; its
service finds the payload that the last one left; its session does not replace another one; and if
the client has a cookie, then this is loaded as a state that is valid now. -/
theorem sessionLayer_keeps_alive {α : Type} {config : SessionConfig} {files : Files}
    {sessions : Sessions} (made : Sessions.ofConfig config files = .ok sessions)
    (whole : config.refresh.nanos = 0) (less : config.refresh.toNanos < config.maxAge.toNanos)
    (carried : sessions.factory.backend.kind = .jwt → config.maxAge.nanos = 0)
    (name : PlainName config.cookie.name) (path : Presentable config.cookie.path)
    (domain : Presentable config.cookie.domain) {standing : Standing}
    (reached : Reached α ⟨sessions, config⟩ standing) {turn : Turn α}
    (admissible : turn.Admissible ⟨sessions, config⟩ standing) :
    (∃ found loaded, turn.prepared ⟨sessions, config⟩ = .ok (found, loaded) ∧
      found.replaced = false ∧ found.session.payload = standing.payload) ∧
    (∀ value, standing.jar = some value → ∃ data,
      sessions.factory.backend.load (Bytes.ofText value) = .ok data ∧
      sessions.Admits turn.clock data) ∧
    ∃ cookies, (turn.serve ⟨sessions, config⟩ standing.entropy).1 =
      { turn.answer with cookies := turn.answer.cookies ++ cookies } := by
  have lasting := SessionState.lasting_ofConfig made whole less carried name path domain
  have alive := reached.alive lasting
  obtain ⟨stop, ends, years⟩ := admissible.years
  obtain ⟨first, session, policy, ready, payload, loaded, same, -⟩ :=
    Turn.exists_prepare lasting alive admissible ends years
  refine ⟨⟨_, _, ready, rfl, same.trans payload⟩,
    fun value has => ⟨first.data, loaded value has⟩, ?_⟩
  exact (Turn.alive_after lasting alive admissible).2

/-- The second request brings the cookie that the first one was answered with, and finds the
entry. -/
theorem sessionLayer_keeps_alive_second : ∃ value, (afterFirst "/").jar = some value ∧
    let second := secondTurn [("cookie", Bytes.ofText ("_cachet" ++ "=" ++ value))]
    (∃ found loaded, second.prepared (minuteState "/") = .ok (found, loaded) ∧
      found.replaced = false ∧ found.session.payload = Payload.empty.insert 1 [2]) ∧
    ∃ cookies, (second.serve (minuteState "/") (afterFirst "/").entropy).1 =
      ⟨200, .content 7, cookies, []⟩ := by
  have made :
      Sessions.ofConfig (minuteConfig "/") (fun _ => .error "") = .ok (minuteSessions []) := by
    rfl
  have name : PlainName "_cachet" := ⟨by decide, by decide⟩
  have lasting : (minuteState "/").Lasting := SessionState.lasting_ofConfig made rfl (by decide)
    (fun _ => rfl) name (by decide) (by decide)
  have alive := (reached_first "/").alive lasting
  cases jar : (afterFirst "/").jar with
  | none =>
    have empty := alive.fresh jar
    rw [payload_first] at empty
    cases empty
  | some value =>
    refine ⟨value, rfl, ?_⟩
    let bytes := Bytes.ofText ("_cachet" ++ "=" ++ value)
    have absent : (secondTurn [("cookie", bytes)]).exchange.header? "authorization" = none := by
      have other : List.lookup "authorization" [("cookie", bytes)] = none :=
        List.lookup_eq_none_iff.mpr (List.forall_mem_singleton.mpr
          (show ("authorization" != "cookie") = true by decide))
      show (List.lookup "authorization" [("cookie", bytes)]).bind visibleText? = none
      rw [other]
      rfl
    have returns : Returns [("cookie", bytes)] "_cachet" (afterFirst "/").jar := by
      rw [jar]
      exact returns_alone name (alive.kept value jar).1
    have admissible := @admissible_second "/" [("cookie", bytes)] absent returns
    obtain ⟨⟨found, loaded, ready, kept, payload⟩, -, answered⟩ := sessionLayer_keeps_alive made rfl
      (by decide) (fun _ => rfl) name (by decide) (by decide) (reached_first "/") admissible
    exact ⟨⟨found, loaded, ready, kept, payload.trans (payload_first "/")⟩, answered⟩

/-- With a line break in the cookie's path, no response can set the cookie: the first request is
answered with an error, and the second one does not find the entry. -/
theorem path_with_line_break_loses_session :
    Sessions.ofConfig (minuteConfig "/\n") (fun _ => .error "") =
      .ok (minuteState "/\n").sessions ∧ PlainName (minuteConfig "/\n").cookie.name ∧
    Reached Nat (minuteState "/\n") (afterFirst "/\n") ∧
    (secondTurn []).Admissible (minuteState "/\n") (afterFirst "/\n") ∧
    ∃ found loaded, (secondTurn []).prepared (minuteState "/\n") = .ok (found, loaded) ∧
      found.session.payload ≠ (afterFirst "/\n").payload := by
  let state := minuteState "/\n"
  have ready : firstTurn.prepared state = _ := prepared_plain ends_first
  -- The session is written to a cookie, and the line of this has the line break of its path.
  obtain ⟨value, next, saved, -⟩ := @Transport.exists_save_cookie state.config.cookie .default
    firstTurn.exchange writtenFirst (.repeating [0]) trivial (fun _ => rfl) rfl (by decide)
  let c := Transport.sessionCookie state.config.cookie .default firstTurn.exchange value
    (Instant.secondsBetween writtenFirst.header.validAfter writtenFirst.header.validBefore)
    writtenFirst.header.validBefore
  have broken : ¬ Presentable c.line := fun line =>
    absurd (SetCookie.presentable_path line) (show ¬ Presentable "/\n" by decide)
  have saved : ((Transport.cookie state.config.cookie .default).save firstTurn.exchange
      ((freshSession .epoch oneMinute).run .epoch firstTurn.operations)).run.run (.repeating [0]) =
        (.ok (firstTurn.exchange.setCookie c), next) := by
    rw [run_first]
    exact saved
  obtain ⟨e, served⟩ := @run_sessionLayer_refused Nat (firstTurn.state state) firstTurn.request
    { entropy := .repeating [0], clock := .epoch, clock_shown := by decide } _ _
    firstTurn.operations firstTurn.answer rfl ready (by rw [run_first]; decide) c next saved broken
  have jar : (afterFirst "/\n").jar = none := by
    have served : (firstTurn.serve state (.repeating [0])).1 = (LayerError.ofSession e).response :=
      served
    have received' := Turn.jar_after firstTurn state (.start (.repeating [0]))
    rw [show (Standing.start (.repeating [0])).entropy = .repeating [0] from rfl, served]
      at received'
    exact received'
  have returns : Returns [] "_cachet" (afterFirst "/\n").jar := by
    rw [jar]
    exact .nothing fun piece member => by cases member
  have second : (secondTurn []).prepared state = _ :=
    @prepared_plain "/\n" ⟨1, 0, by decide, by decide⟩ ⟨61, 0, by decide, by decide⟩ [.get 1]
      (by decide) (by decide)
  refine ⟨by rfl, ⟨by decide, by decide⟩, reached_first _, admissible_second _ rfl returns, _, _,
    second, ?_⟩
  rw [payload_first]
  exact fun same => by cases same

end Http

end SealedTokens
