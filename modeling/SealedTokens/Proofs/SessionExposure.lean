import SealedTokens.Http.Layer
import SealedTokens.Proofs.Operations
import SealedTokens.Proofs.Windows
/-!
# What a service sees of sessions

The session that a service is given is a fresh one, or the state of a token that stands: of the
current version, inside its window, and accepted by every validator. Either way it may have been
refreshed, and nothing else has been done to it.

## Main results

- `Sessions.createAt_eq_ok`: what a fresh session has in common with its policy
- `Http.SessionState.establish_eq_ok`: where an established session comes from
- `Http.run_sessionLayer`: the layer asks for a session, lets the service run, and answers
- `Http.sessionLayer_exposes`: what the service sees
-/
namespace SealedTokens

theorem SessionError.lift_eq_ok {α : Type} {result : Except ContainerError α} {a : α} :
    lift result = .ok a ↔ result = .ok a :=
  mapError_eq_ok

theorem SessionError.lift_eq_error {α : Type} {result : Except ContainerError α}
    {e : SessionError} : lift result = .error e ↔ ∃ source, result = .error source ∧
      e = ofContainer source := by
  cases result with
  | ok a => constructor <;> simp [lift, Except.mapError]
  | error source => constructor <;> simp [lift, Except.mapError, eq_comm]

/-! ### Fresh sessions -/

namespace Sessions

/-- The validators that the options add, in their order. -/
def validators (s : Sessions) : List Validator :=
  s.options.filterMap fun
    | .validator check => some check
    | .payload _ _ => none

/-- A session with the policy, the backend and the validators of its sessions. -/
structure Owns (s : Sessions) (session : Session) : Prop where
  sessions : session.sessions = s
  backend : session.container.backend = s.factory.backend
  validators : session.validators = s.validators

/-- A session of the policy in a given state. -/
def holding (s : Sessions) (data : Data) : Session :=
  ⟨s, ⟨s.factory.backend, data⟩, s.validators⟩

theorem owns_holding (s : Sessions) (data : Data) : s.Owns (s.holding data) := ⟨rfl, rfl, rfl⟩

end Sessions

namespace Session

/-- The session with another state. -/
def withData (s : Session) (data : Data) : Session :=
  { s with container := { s.container with data } }

/-- The state with its window moved: one more on the nonce, and the payload as it was. -/
def moved (s : Session) (start stop : Instant) : Session :=
  s.withData ⟨⟨s.header.version, s.header.nonce + 1, s.container.backend.carried start,
    s.container.backend.carried stop⟩, s.payload⟩

theorem refreshAt_eq_ok {s refreshed : Session} {now : Instant} :
    s.refreshAt now = .ok refreshed ↔
      ∃ stop, windowEnd now s.sessions.maxAge = .ok stop ∧ refreshed = s.moved now stop := by
  unfold refreshAt
  rw [bind_eq_ok]
  constructor
  · rintro ⟨stop, ends, made⟩
    cases made
    exact ⟨stop, SessionError.lift_eq_ok.mp ends, rfl⟩
  · rintro ⟨stop, ends, rfl⟩
    exact ⟨stop, SessionError.lift_eq_ok.mpr ends, rfl⟩

section Refreshed

variable {α : Type} {s next : Session} {clock : Instant} {result : α}

theorem refreshed_of_ok (refreshes : s.refreshAt clock = .ok next) :
    s.refreshed clock result = (.ok result, next) := by
  rw [refreshed, refreshes]

theorem refreshed_of_error {e : SessionError} (fails : s.refreshAt clock = .error e) :
    s.refreshed clock result = (.error e, s) := by
  rw [refreshed, fails]

end Refreshed

theorem load_eq (s : Session) (token : Bytes) : s.load token =
    (SessionError.lift (s.container.backend.load token)).map s.withData := by
  unfold load
  rw [Container.load_eq]
  cases s.container.backend.load token <;> rfl

/-- What an option does: it writes to the payload and refreshes, or adds a validator. -/
theorem apply_eq_ok {s next : Session} {clock : Instant} {option : SessionOption}
    (applied : s.apply clock option = .ok next) :
    next.sessions = s.sessions ∧ next.container.backend = s.container.backend ∧
      next.validators = s.validators ++ [option].filterMap fun
        | .validator check => some check
        | .payload _ _ => none := by
  cases option with
  | validator check =>
    cases applied
    exact ⟨rfl, rfl, rfl⟩
  | payload key value =>
    rw [apply, set] at applied
    cases written : refreshAt { s with container := s.container.set key value } clock with
    | error e =>
      rw [refreshed_of_error written] at applied
      cases applied
    | ok next' =>
      rw [refreshed_of_ok written] at applied
      cases applied
      obtain ⟨stop, -, rfl⟩ := refreshAt_eq_ok.mp written
      exact ⟨rfl, rfl, (List.append_nil _).symm⟩

end Session

namespace Sessions

theorem createAt_eq_ok {s : Sessions} {clock now : Instant} {session : Session}
    (created : s.createAt clock now = .ok session) : s.Owns session := by
  obtain ⟨container, made, applied⟩ := bind_eq_ok.mp created
  obtain ⟨stop, -, rfl⟩ := Container.create_eq_ok.mp (SessionError.lift_eq_ok.mp made)
  -- Each option keeps the policy and the backend, and the validators add up.
  have collected (options : List SessionOption) (start : Session)
      (applied : options.foldlM (fun session option => session.apply clock option) start =
        .ok session) :
      session.sessions = start.sessions ∧
        session.container.backend = start.container.backend ∧
        session.validators = start.validators ++ options.filterMap fun
          | .validator check => some check
          | .payload _ _ => none := by
    induction options generalizing start with
    | nil =>
      cases applied
      exact ⟨rfl, rfl, (List.append_nil _).symm⟩
    | cons option options ih =>
      rw [List.foldlM_cons] at applied
      obtain ⟨next, first, rest⟩ := bind_eq_ok.mp applied
      obtain ⟨sessions, backend, validators⟩ := Session.apply_eq_ok first
      obtain ⟨sessions', backend', validators'⟩ := ih next rest
      refine ⟨sessions'.trans sessions, backend'.trans backend, ?_⟩
      rw [validators', validators, List.append_assoc, ← List.filterMap_append]
      rfl
  obtain ⟨sessions, backend, validators⟩ := collected s.options _ applied
  exact ⟨sessions, backend, validators⟩

/-- Without options a fresh session is a fresh container. -/
theorem createAt_of_no_options {s : Sessions} {clock now stop : Instant} (none : s.options = [])
    (ends : windowEnd now s.maxAge = .ok stop) :
    s.createAt clock now = .ok ⟨s, ⟨s.factory.backend, ⟨⟨Header.currentVersion, 0,
      s.factory.backend.carried now, s.factory.backend.carried stop⟩, .empty⟩⟩, []⟩ := by
  have created : s.factory.create now s.maxAge .empty = .ok _ :=
    Container.create_eq_ok.mpr ⟨stop, ends, rfl⟩
  refine bind_eq_ok.mpr ⟨_, SessionError.lift_eq_ok.mpr created, ?_⟩
  rw [none]
  rfl

end Sessions

/-! ### States that stand -/

namespace Sessions

/-- A state of the current version, around whose instant the window lies, and which every validator
accepts. -/
structure Admits (s : Sessions) (clock : Instant) (data : Data) : Prop where
  version : data.header.version = Header.currentVersion
  begun : data.header.validAfter < clock
  open' : clock < data.header.validBefore
  accepted : ∀ check ∈ s.validators, check data = .ok ()

/-- Why a state that was read is given up. -/
inductive Refuses (s : Sessions) (clock : Instant) (data : Data) : Prop where
  | incompatible (version : data.header.version ≠ Header.currentVersion)
  | notYetValid (early : clock ≤ data.header.validAfter)
  | expired (late : data.header.validBefore ≤ clock)
  | rejected (check : Validator) (member : check ∈ s.validators) (e : SessionError)
      (refused : check data = .error e) (invalid : e.isInvalid = true)

end Sessions

section Validation

variable {s : Sessions} {session : Session} {clock : Instant}

theorem forM_eq_ok {validators : List Validator} {data : Data} :
    (validators.forM fun check => check data) = .ok () ↔
      ∀ check ∈ validators, check data = .ok () := by
  induction validators with
  | nil => simp [pure, Except.pure]
  | cons check validators ih =>
    rw [List.forall_mem_cons, ← ih]
    refine bind_eq_ok.trans ?_
    exact ⟨fun ⟨_, first, rest⟩ => ⟨first, rest⟩, fun ⟨first, rest⟩ => ⟨(), first, rest⟩⟩

theorem forM_eq_error {validators : List Validator} {data : Data} {e : SessionError}
    (refused : (validators.forM fun check => check data) = .error e) :
    ∃ check ∈ validators, check data = .error e := by
  induction validators with
  | nil => cases refused
  | cons check validators ih =>
    obtain first | ⟨_, -, rest⟩ := bind_eq_error.mp refused
    · exact ⟨check, List.mem_cons_self, first⟩
    · obtain ⟨other, member, refused⟩ := ih rest
      exact ⟨other, List.mem_cons_of_mem _ member, refused⟩

theorem Session.validateAt_eq_ok (owned : s.Owns session) :
    session.validateAt clock = .ok () ↔ s.Admits clock session.data := by
  unfold Session.validateAt
  rw [bind_eq_ok, owned.validators]
  constructor
  · rintro ⟨_, window, accepted⟩
    obtain ⟨version, begun, open'⟩ := Header.validate_eq_ok.mp (SessionError.lift_eq_ok.mp window)
    exact ⟨version, begun, open', forM_eq_ok.mp accepted⟩
  · intro admitted
    refine ⟨(), SessionError.lift_eq_ok.mpr (Header.validate_eq_ok.mpr ?_),
      forM_eq_ok.mpr admitted.accepted⟩
    exact ⟨admitted.version, admitted.begun, admitted.open'⟩

theorem Session.refuses_of_validateAt (owned : s.Owns session) {e : SessionError}
    (refused : session.validateAt clock = .error e) (invalid : e.isInvalid = true) :
    s.Refuses clock session.data := by
  unfold Session.validateAt at refused
  obtain window | ⟨_, -, rejected⟩ := bind_eq_error.mp refused
  · obtain ⟨source, window, -⟩ := SessionError.lift_eq_error.mp window
    obtain version | early | late := Header.validate_eq_error window
    · exact .incompatible version
    · exact .notYetValid early
    · exact .expired late
  · rw [owned.validators] at rejected
    obtain ⟨check, member, refused⟩ := forM_eq_error rejected
    exact .rejected check member e refused invalid

end Validation

/-! ### Tokens of requests -/

namespace Transport

/-- The token that a request brings over a transport. -/
def token? (transport : Transport) (exchange : Exchange) : Option Bytes :=
  match transport with
  | .cookie config _ => (exchange.cookie? config.name).map fun c => Bytes.ofText c.value
  | header name scheme => ((exchange.header? name).bind (headerToken? scheme)).map Bytes.ofText

/-- What errors say about where a token was found. -/
def place : Transport → String
  | .cookie _ _ => "cookie"
  | header name _ => s!"{name} header"

/-- A cookie transport that was selected is that of the configuration. -/
theorem config_of_select {config : SessionConfig} {exchange : Exchange} {cookie : CookieConfig}
    {policy : SameSitePolicy} (selected : select config exchange = .ok (.cookie cookie policy)) :
    cookie = config.cookie := by
  obtain ⟨name, -, selected⟩ := bind_eq_ok.mp selected
  split at selected
  · cases selected
  · obtain ⟨policy, -, made⟩ := bind_eq_ok.mp selected
    cases made
    rfl

/-- A header transport that was selected is that of the configured header. -/
theorem headerName_of_select {config : SessionConfig} {exchange : Exchange} {name : String}
    {scheme : Option String} (selected : select config exchange = .ok (.header name scheme)) :
    config.headerName = .ok name := by
  obtain ⟨name', named, selected⟩ := bind_eq_ok.mp selected
  split at selected
  · cases selected
    exact named
  · obtain ⟨policy, -, made⟩ := bind_eq_ok.mp selected
    cases made

theorem load_eq (transport : Transport) (exchange : Exchange) (session : Session) :
    transport.load exchange session =
      match transport.token? exchange with
      | none => .ok none
      | some token => ((session.load token).map some).mapError (·.withContext transport.place) := by
  cases transport with
  | cookie config policy =>
    simp only [load, token?]
    cases exchange.cookie? config.name <;> rfl
  | header name scheme =>
    simp only [load, token?]
    cases (exchange.header? name).bind (headerToken? scheme) <;> rfl

end Transport

namespace Http

namespace SessionState

/-- Why a request gets a fresh session: it brings no token, one that cannot be read, or one whose
state is given up. -/
inductive Unproven (state : SessionState) (clock : Instant) : Option Bytes → Prop
  | absent : Unproven state clock none
  | unreadable {token : Bytes} {e : ContainerError}
      (refused : state.sessions.factory.backend.load token = .error e)
      (readable : e.isFormatOrDecrypt = true) : Unproven state clock (some token)
  | given_up {token : Bytes} {data : Data}
      (read : state.sessions.factory.backend.load token = .ok data)
      (refused : state.sessions.Refuses clock data) : Unproven state clock (some token)

/-- A session before it may be refreshed: a fresh one, or the state of a token that stands. -/
inductive Origin (state : SessionState) (clock : Instant) (token : Option Bytes) :
    Session → Prop
  | fresh {session : Session} (unproven : state.Unproven clock token)
      (created : state.sessions.createAt clock clock = .ok session) :
      Origin state clock token session
  | proven {bytes : Bytes} {data : Data} (carried : token = some bytes)
      (read : state.sessions.factory.backend.load bytes = .ok data)
      (admitted : state.sessions.Admits clock data) :
      Origin state clock token (state.sessions.holding data)

/-- A session as a service sees it: as it came, or with its window moved if that was due. -/
inductive Exposes (state : SessionState) (clock : Instant) (token : Option Bytes) :
    Session → Prop
  | kept {session : Session} (origin : state.Origin clock token session)
      (recent : session.refreshRequiredAt clock = false) : Exposes state clock token session
  | moved {session : Session} {stop : Instant} (origin : state.Origin clock token session)
      (due : session.refreshRequiredAt clock = true)
      (ends : windowEnd clock state.sessions.maxAge = .ok stop) :
      Exposes state clock token (session.moved clock stop)

variable {state : SessionState} {exchange : Exchange} {clock : Instant}

theorem Origin.owned {token : Option Bytes} {session : Session}
    (origin : state.Origin clock token session) : state.sessions.Owns session := by
  cases origin with
  | fresh unproven created => exact Sessions.createAt_eq_ok created
  | proven carried read admitted => exact Sessions.owns_holding _ _

section Load

variable {fresh : Session} {transport : Transport} {token : Bytes}

theorem load_holding (owned : state.sessions.Owns fresh) (token : Bytes) :
    fresh.load token = (SessionError.lift (state.sessions.factory.backend.load token)).map
      state.sessions.holding := by
  obtain ⟨sessions, ⟨backend, data⟩, validators⟩ := fresh
  obtain ⟨rfl, rfl, rfl⟩ := owned
  exact Session.load_eq _ token

theorem load_of_read (owned : state.sessions.Owns fresh)
    (carried : transport.token? exchange = some token) {data : Data}
    (read : state.sessions.factory.backend.load token = .ok data) :
    transport.load exchange fresh = .ok (some (state.sessions.holding data)) := by
  rw [Transport.load_eq, carried]
  simp only [load_holding owned, read]
  rfl

theorem load_of_unread (owned : state.sessions.Owns fresh)
    (carried : transport.token? exchange = some token) {e : ContainerError}
    (unread : state.sessions.factory.backend.load token = .error e) :
    ∃ e', transport.load exchange fresh = .error e' ∧
      e'.isFormatOrDecrypt = e.isFormatOrDecrypt := by
  rw [Transport.load_eq, carried]
  simp only [load_holding owned, unread]
  exact ⟨_, rfl, rfl⟩

end Load

/-- Where an established session comes from. It is marked as replaced only if it is fresh. -/
theorem establish_eq_ok {found : Established}
    (established : state.establish exchange clock = .ok found) :
    Transport.select state.config exchange = .ok found.transport ∧
      state.Origin clock (found.transport.token? exchange) found.session := by
  obtain ⟨fresh, created, established⟩ := bind_eq_ok.mp established
  obtain ⟨transport, selected, established⟩ := bind_eq_ok.mp established
  have owned := Sessions.createAt_eq_ok created
  cases carried : transport.token? exchange with
  -- Without a token the fresh session stays.
  | none =>
    rw [Transport.load_eq, carried] at established
    cases established
    refine ⟨selected, .fresh ?_ created⟩
    rw [carried]
    exact .absent
  | some token =>
    cases read : state.sessions.factory.backend.load token with
    -- So it does if the token is at fault; any other failure is the request's.
    | error e =>
      obtain ⟨e', failed, same⟩ := load_of_unread owned carried read
      simp only [failed, same] at established
      split at established
      next unreadable =>
        cases established
        refine ⟨selected, .fresh ?_ created⟩
        rw [carried]
        exact .unreadable read unreadable
      next => cases established
    | ok data =>
      have own := state.sessions.owns_holding data
      simp only [load_of_read owned carried read] at established
      cases checked : (state.sessions.holding data).validateAt clock with
      | ok _ =>
        simp only [checked] at established
        cases established
        exact ⟨selected, .proven carried read ((Session.validateAt_eq_ok own).mp checked)⟩
      | error e =>
        simp only [checked] at established
        split at established
        -- What was read is given up, and another session is made.
        next invalid =>
          obtain ⟨again, selected', established⟩ := bind_eq_ok.mp established
          obtain ⟨renewed, created', made⟩ := bind_eq_ok.mp established
          cases made
          refine ⟨selected', .fresh ?_ created'⟩
          cases selected.symm.trans selected'
          rw [carried]
          exact .given_up read (Session.refuses_of_validateAt own checked invalid)
        next => cases established

theorem establish_of_absent {fresh : Session} {transport : Transport}
    (created : state.sessions.createAt clock clock = .ok fresh)
    (selected : Transport.select state.config exchange = .ok transport)
    (absent : transport.token? exchange = none) :
    state.establish exchange clock = .ok ⟨transport, fresh, false⟩ := by
  refine bind_eq_ok.mpr ⟨fresh, created, bind_eq_ok.mpr ⟨transport, selected, ?_⟩⟩
  rw [Transport.load_eq, absent]
  rfl

theorem establish_of_admitted {fresh : Session} {transport : Transport} {token : Bytes}
    {data : Data} (created : state.sessions.createAt clock clock = .ok fresh)
    (selected : Transport.select state.config exchange = .ok transport)
    (carried : transport.token? exchange = some token)
    (read : state.sessions.factory.backend.load token = .ok data)
    (admitted : state.sessions.Admits clock data) :
    state.establish exchange clock = .ok ⟨transport, state.sessions.holding data, false⟩ := by
  have valid : (state.sessions.holding data).validateAt clock = .ok () :=
    (Session.validateAt_eq_ok (state.sessions.owns_holding data)).mpr admitted
  refine bind_eq_ok.mpr ⟨fresh, created, bind_eq_ok.mpr ⟨transport, selected, ?_⟩⟩
  simp only [load_of_read (Sessions.createAt_eq_ok created) carried read, valid]
  rfl

/-- A prepared session is an established one, with its window moved if that was due. -/
theorem prepare_cases {found : Established} {loaded : UInt64}
    (ready : state.prepare exchange clock = .ok (found, loaded)) :
    ∃ session, state.establish exchange clock = .ok { found with session } ∧
      loaded = session.header.nonce ∧
      (session.refreshRequiredAt clock = false ∧ found.session = session ∨
        session.refreshRequiredAt clock = true ∧ ∃ stop,
          windowEnd clock session.sessions.maxAge = .ok stop ∧
          found.session = session.moved clock stop) := by
  obtain ⟨first, established, ready⟩ := bind_eq_ok.mp ready
  split at ready
  next due =>
    obtain ⟨session, refreshed, made⟩ := bind_eq_ok.mp ready
    cases made
    exact ⟨first.session, established, rfl, .inr ⟨due, Session.refreshAt_eq_ok.mp refreshed⟩⟩
  next recent =>
    cases ready
    exact ⟨_, established, rfl, .inl ⟨Bool.eq_false_iff.mpr recent, rfl⟩⟩

theorem prepare_of_recent {found : Established}
    (established : state.establish exchange clock = .ok found)
    (recent : found.session.refreshRequiredAt clock = false) :
    state.prepare exchange clock = .ok (found, found.session.header.nonce) := by
  refine bind_eq_ok.mpr ⟨found, established, ?_⟩
  simp only [recent, Bool.false_eq_true, ite_false]
  rfl

theorem prepare_of_due {found : Established} {stop : Instant}
    (established : state.establish exchange clock = .ok found)
    (due : found.session.refreshRequiredAt clock = true)
    (ends : windowEnd clock found.session.sessions.maxAge = .ok stop) :
    state.prepare exchange clock =
      .ok ({ found with session := found.session.moved clock stop },
        found.session.header.nonce) := by
  have refreshed := Session.refreshAt_eq_ok.mpr ⟨stop, ends, rfl⟩
  refine bind_eq_ok.mpr ⟨found, established, ?_⟩
  simp only [due, ite_true]
  exact bind_eq_ok.mpr ⟨_, refreshed, rfl⟩

theorem prepare_eq_ok {found : Established} {loaded : UInt64}
    (ready : state.prepare exchange clock = .ok (found, loaded)) :
    Transport.select state.config exchange = .ok found.transport ∧
      state.Exposes clock (found.transport.token? exchange) found.session := by
  obtain ⟨session, established, -, ⟨recent, same⟩ | ⟨due, stop, ends, moved⟩⟩ :=
    prepare_cases ready
  all_goals obtain ⟨selected, origin⟩ := establish_eq_ok established
  · rw [same]
    exact ⟨selected, .kept origin recent⟩
  · rw [moved]
    rw [origin.owned.sessions] at ends
    exact ⟨selected, .moved origin due ends⟩

/-- Where there is a session at all, a window that starts now ends inside the calendar. -/
theorem exists_windowEnd_of_prepare {prepared : Established × UInt64}
    (ready : state.prepare exchange clock = .ok prepared) :
    ∃ stop, windowEnd clock state.sessions.maxAge = .ok stop := by
  obtain ⟨found, established, -⟩ := bind_eq_ok.mp ready
  obtain ⟨fresh, created, -⟩ := bind_eq_ok.mp established
  obtain ⟨container, made, -⟩ := bind_eq_ok.mp created
  obtain ⟨stop, ends, -⟩ := Container.create_eq_ok.mp (SessionError.lift_eq_ok.mp made)
  exact ⟨stop, ends⟩

theorem Exposes.owned {token : Option Bytes} {session : Session}
    (exposes : state.Exposes clock token session) : state.sessions.Owns session := by
  cases exposes with
  | kept origin recent => exact origin.owned
  | moved origin due ends =>
    exact ⟨origin.owned.sessions, origin.owned.backend, origin.owned.validators⟩

end SessionState

/-! ### The layer -/

section Layer

variable {α : Type}

/-- What the layer does with the response of a service. -/
def conclude (found : Established) (loaded : UInt64) (exchange : Exchange) (response : Response α) :
    StateM Serving (Response α) := do
  if isInformational response.status then return response
  let current := (← get).current.getD ⟨found.session, false⟩
  match ← drawing (SessionState.complete found loaded current exchange) with
  | .error e => return (LayerError.ofSession e).response
  | .ok exchange =>
    match checkCookies exchange.cookies with
    | .error e => return (LayerError.ofSession e).response
    | .ok () => return { response with cookies := response.cookies ++ exchange.cookies }

theorem run_sessionLayer (state : SessionState) (next : Service α) (request : Request)
    (serving : Serving) :
    let exchange := Exchange.ofRequest request.headers request.uri.authority?
    (sessionLayer state next request).run serving =
      match state.prepare exchange serving.clock with
      | .error e => ((LayerError.ofSession e).response, serving)
      | .ok (found, loaded) =>
        let answered := (next request).run { serving with current := some ⟨found.session, false⟩ }
        (conclude found loaded exchange answered.1).run answered.2 := by
  intro exchange
  unfold sessionLayer
  rw [StateT.run_bind, StateT.run_get, pure_bind]
  simp only
  generalize state.prepare (Exchange.ofRequest request.headers request.uri.authority?)
    serving.clock = prepared
  cases prepared <;> rfl

/-- **What a service sees.** For every policy, options, request, and clock: the layer answers with
an error and does not run the service, whatever the service is; or it runs the service, and all that
it hands over is one session. This is a fresh session if the transport that the request selects
carries no token, one that cannot be read, or one whose state is given up; it is the state of the
token if this is of the current version, strictly inside its window and accepted by every validator.
Nothing has been done to it but, if that was due, a refresh. -/
theorem sessionLayer_exposes (state : SessionState) (request : Request) (serving : Serving) :
    let exchange := Exchange.ofRequest request.headers request.uri.authority?
    (∃ e, ∀ next : Service α,
      (sessionLayer state next request).run serving =
        ((LayerError.ofSession e).response, serving)) ∨
    ∃ transport session, ∃ finish : Response α × Serving → Response α × Serving,
      Transport.select state.config exchange = .ok transport ∧
      state.Exposes serving.clock (transport.token? exchange) session ∧
      ∀ next : Service α, (sessionLayer state next request).run serving =
        finish ((next request).run { serving with current := some ⟨session, false⟩ }) := by
  intro exchange
  cases ready : state.prepare exchange serving.clock with
  | error e =>
    refine .inl ⟨e, fun next => ?_⟩
    rw [run_sessionLayer, ready]
  | ok prepared =>
    obtain ⟨found, loaded⟩ := prepared
    obtain ⟨selected, exposes⟩ := SessionState.prepare_eq_ok ready
    refine .inr ⟨found.transport, found.session,
      fun answer => (conclude found loaded exchange answer.1).run answer.2, selected, exposes,
      fun next => ?_⟩
    rw [run_sessionLayer, ready]

end Layer

end Http

end SealedTokens
