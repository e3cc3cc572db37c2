import SealedTokens.Proofs.CsrfGuard
import SealedTokens.Proofs.HeaderTokens
import SealedTokens.Proofs.Resigning
/-!
# Parallel runs

One request served twice, with other randomness, other signatures, and another token of the same
session in its cookies. Whatever the layers are, and in whatever order, the two answers are alike:
they differ in nothing but the tokens that they hand out, and these are loaded alike.

## Main results

- `Http.alike_sessionLayer`, `Http.alike_csrfLayer`, `Http.alike_mounted`, `Http.alike_handling`:
  what is inside a layer is served alike, and so is the layer
- `Http.Router.alike_service`: a router of such layers

## Proof strategy

Two servings are alike if they have the same clock and the same session, up to the way that this is
signed, and neither source of randomness is limited. Every layer keeps them so.
-/
namespace SealedTokens

namespace Http

/-! ### Routers -/

/-- What a handler does: the steps on its session, the callers and targets that it asks
anti-forgery tokens for, and its answer, with the cookies and the other headers that it sets. -/
structure Plan where
  steps : List ServiceStep
  bindings : List (String × String)
  status : Nat
  cookies : List SetCookie
  headers : Headers

/-- A function of the method, the target below the mounts, the target as it was received, the clock,
and the state of the session, if there is one. -/
abbrev Handler := String → Uri → Uri → Instant → Option Data → Plan

/-- What a handler saw of its session, and the anti-forgery tokens that it got. -/
structure Seen where
  data : Option Data
  tokens : List (Except CsrfError String)

/-- Anti-forgery tokens, one after the other from the one source. -/
def signEach (csrf : Csrf) (clock : Instant) :
    List (String × String) → StateM Serving (List (Except CsrfError String))
  | [] => return []
  | (source, subject) :: bindings => do
    let token ← drawing (csrf.signAt source subject clock)
    return token :: (← signEach csrf clock bindings)

/-- A handler as a service; without the layer that signs, there are no anti-forgery tokens. -/
def handling (handler : Handler) : Service Seen := fun request => do
  let serving ← get
  let data := serving.current.map (·.session.data)
  let plan := handler request.method request.uri request.received serving.clock data
  let tokens ← match serving.csrf with
    | some csrf => signEach csrf serving.clock plan.bindings
    | none => pure []
  acting plan.steps ⟨plan.status, .content ⟨data, tokens⟩, plan.cookies, plan.headers⟩ request

/-- Routes to leaves, behind guards and below mounts. -/
inductive Router (Leaf : Type) where
  | leaf (leaf : Leaf)
  | guard (csrf : Csrf) (next : Router Leaf)
  | mount (route : Route) (next : Router Leaf)
  | choose (pick : String → Uri → Bool) (left right : Router Leaf)

def Router.service {Leaf α : Type} (serve : Leaf → Service α) : Router Leaf → Service α
  | leaf l => serve l
  | guard csrf next => csrfLayer csrf (next.service serve)
  | mount route next => mounted route (next.service serve)
  | choose pick left right => fun request =>
    if pick request.method request.uri then left.service serve request
    else right.service serve request

/-- Routes to handlers, without sessions or with them. -/
inductive Routes where
  | bare (handlers : Router Handler)
  | session (handlers : Router Handler)

def Routes.service (state : SessionState) : Routes → Service Seen
  | bare handlers => handlers.service handling
  | session handlers => sessionLayer state (handlers.service handling)

/-- An application: some of its routes have sessions, and guards are in front of them or behind. -/
abbrev Application := Router Routes

def Application.serve (application : Application) (state : SessionState) : Service Seen :=
  Router.service (Routes.service state) application

/-! ### Two servings -/

/-- Cookies that are the same but for the token in them, which is loaded alike. -/
inductive AlikeCookie (backend : Backend) (name : String) : SetCookie → SetCookie → Prop
  | same (c : SetCookie) : AlikeCookie backend name c c
  | session {c : SetCookie} {value : String} (named : c.name = name)
      (same : SameSession backend c.value value) :
      AlikeCookie backend name c { c with value }

/-- Bodies of handlers that saw the same, or the same text. -/
inductive AlikeBody : Body Seen → Body Seen → Prop
  | seen {seen seen' : Seen} (same : seen.data = seen'.data) :
      AlikeBody (.content seen) (.content seen')
  | text (text : String) : AlikeBody (.text text) (.text text)

structure AlikeResponse (backend : Backend) (name : String) (first second : Response Seen) :
    Prop where
  status : first.status = second.status
  body : AlikeBody first.body second.body
  cookies : List.Forall₂ (AlikeCookie backend name) first.cookies second.cookies
  headers : first.headers = second.headers

/-- Requests that differ in the tokens of a cookie only. -/
inductive AlikeRequest (backend : Backend) (name : String) : Request → Request → Prop
  | mk (method : String) (uri received : Uri) (peer : Option IpAddress) {headers headers' : Headers}
      (alike : AlikeHeaders backend name headers headers') :
      AlikeRequest backend name ⟨method, uri, received, headers, peer⟩
        ⟨method, uri, received, headers', peer⟩

/-- Servings that differ in how they sign and in what they draw. -/
inductive AlikeServing (backend : Backend) (sign? sign?' : Bytes → Option Bytes) :
    Serving → Serving → Prop
  | mk {clock : Instant} (shown : clock.OnClock) (csrf : Option Csrf)
      {current : Option CurrentSession}
      (own : ∀ c ∈ current, c.session.container.backend = backend) {entropy entropy' : Entropy}
      (unlimited : entropy.limit = none) (unlimited' : entropy'.limit = none) :
      AlikeServing backend sign? sign?'
        ⟨entropy, clock, shown, current.map (·.withSign sign?), csrf⟩
        ⟨entropy', clock, shown, current.map (·.withSign sign?'), csrf⟩

theorem AlikeServing.unlimited {backend : Backend} {sign? sign?' : Bytes → Option Bytes}
    {first second : Serving} (alike : AlikeServing backend sign? sign?' first second) :
    first.entropy.limit = none ∧ second.entropy.limit = none := by
  cases alike with
  | mk shown csrf own unlimited unlimited' => exact ⟨unlimited, unlimited'⟩

/-- Services that answer alike. -/
def AlikeServices (state : SessionState) (sign? sign?' : Bytes → Option Bytes)
    (service service' : Service Seen) : Prop :=
  ∀ {request request' : Request} {serving serving' : Serving},
    AlikeRequest state.sessions.factory.backend state.config.cookie.name request request' →
    AlikeServing state.sessions.factory.backend sign? sign?' serving serving' →
    let answered := (service request).run serving
    let answered' := (service' request').run serving'
    AlikeResponse state.sessions.factory.backend state.config.cookie.name answered.1 answered'.1 ∧
      AlikeServing state.sessions.factory.backend sign? sign?' answered.2 answered'.2

section Alike

variable {backend : Backend} {name : String} {state : SessionState}
  {sign? sign?' : Bytes → Option Bytes} {service service' : Service Seen}

theorem alike_cookies (cookies : List SetCookie) :
    List.Forall₂ (AlikeCookie backend name) cookies cookies :=
  List.forall₂_same.mpr fun c _ => .same c

/-- An answer that says nothing of sessions. -/
theorem alike_text (status : Nat) (text : String) (headers : Headers) :
    AlikeResponse backend name ⟨status, .text text, [], headers⟩ ⟨status, .text text, [], headers⟩ :=
  ⟨rfl, .text text, .nil, rfl⟩

/-! ### Handlers -/

theorem steady_signAt (csrf : Csrf) (source subject : String) (now : Instant) :
    Drawing.Steady (csrf.signAt source subject now) := by
  have nonce : Drawing.Steady Csrf.freshNonce :=
    (Entropy.steady_fill 8).bind fun bytes => Drawing.steady_pure _
  refine Drawing.Steady.bind (nonce.adapt _) fun nonce => ?_
  cases csrf.factory.create now csrf.ttl (Csrf.binding nonce source subject) with
  | error e => exact Drawing.steady_throw _
  | ok container =>
    have saved : Drawing.Steady (container.touch nonce).save := Backend.steady_save _ _
    refine (saved.adapt _).bind fun token => ?_
    cases Bytes.toText? token with
    | none => exact Drawing.steady_throw _
    | some text => exact Drawing.steady_pure _

/-- Signing leaves all as it was but the position in the source. -/
theorem run_signEach (csrf : Csrf) (clock : Instant) (bindings : List (String × String))
    (serving : Serving) : ∃ entropy, ((signEach csrf clock bindings).run serving).2 =
      { serving with entropy } ∧ entropy.limit = serving.entropy.limit := by
  induction bindings generalizing serving with
  | nil => exact ⟨serving.entropy, rfl, rfl⟩
  | cons binding bindings ih =>
    obtain ⟨source, subject⟩ := binding
    let signed := (csrf.signAt source subject clock).run.run serving.entropy
    obtain ⟨entropy, rest, kept⟩ := ih { serving with entropy := signed.2 }
    exact ⟨entropy, rest, kept.trans (steady_signAt csrf source subject clock serving.entropy)⟩

/-- What a handler leaves: its answer, and the session after its steps. -/
theorem run_handling (handler : Handler) (request : Request) (serving : Serving) :
    let data := serving.current.map (·.session.data)
    let plan := handler request.method request.uri request.received serving.clock data
    ∃ tokens entropy, entropy.limit = serving.entropy.limit ∧
      (handling handler request).run serving =
        (⟨plan.status, .content ⟨data, tokens⟩, plan.cookies, plan.headers⟩,
          { serving with
            entropy, current := serving.current.map (·.run serving.clock plan.steps) }) := by
  obtain ⟨entropy, clock, shown, current, csrf⟩ := serving
  intro data plan
  cases csrf with
  | none => exact ⟨[], entropy, rfl, rfl⟩
  | some csrf =>
    let serving : Serving := ⟨entropy, clock, shown, current, some csrf⟩
    let signed := (signEach csrf clock plan.bindings).run serving
    obtain ⟨left, same, kept⟩ := run_signEach csrf clock plan.bindings serving
    have acted : (handling handler request).run serving =
        (acting plan.steps ⟨plan.status, .content ⟨data, signed.1⟩, plan.cookies, plan.headers⟩
          request).run signed.2 := rfl
    refine ⟨signed.1, left, kept, acted.trans ?_⟩
    rw [same]
    rfl

theorem alike_handling (handler : Handler) :
    AlikeServices state sign? sign?' (handling handler) (handling handler) := by
  intro request request' serving serving' requests servings
  obtain ⟨tokens, entropy, limit, ran⟩ := run_handling handler request serving
  obtain ⟨tokens', entropy', limit', ran'⟩ := run_handling handler request' serving'
  rw [ran, ran']
  cases requests with
  | mk method uri received peer headers =>
    cases servings with
    | mk shown csrf own unlimited unlimited' =>
      rename_i clock current _ _
      -- However the session is signed, it has the same state, and the steps do the same to it.
      have seen (sign? : Bytes → Option Bytes) :
          (current.map (·.withSign sign?)).map (·.session.data) = current.map (·.session.data) := by
        rw [Option.map_map]
        rfl
      have left (sign? : Bytes → Option Bytes) (steps : List ServiceStep) :
          (current.map (·.withSign sign?)).map (·.run clock steps) =
            (current.map (·.run clock steps)).map (·.withSign sign?) := by
        rw [Option.map_map, Option.map_map]
        exact congrArg (Option.map · current) (funext fun c => CurrentSession.run_withSign steps)
      simp only [seen, left]
      refine ⟨⟨rfl, .seen rfl, alike_cookies _, rfl⟩,
        .mk shown csrf ?_ (limit.trans unlimited) (limit'.trans unlimited')⟩
      intro c member
      obtain ⟨before, was, rfl⟩ := Option.map_eq_some_iff.mp member
      exact (CurrentSession.backend_run _).trans (own before was)

/-! ### Guards, mounts and choices -/

/-- The guard looks at headers that carry no cookies. -/
theorem check_of_alike {request request' : Request}
    (requests : AlikeRequest backend name request request') (csrf : Csrf) (clock : Instant) :
    csrf.check clock request = csrf.check clock request' := by
  cases requests with
  | mk method uri received peer headers =>
    have forwarded := text?_of_alike headers (show "x-forwarded-for" ≠ "cookie" by decide)
    have real := text?_of_alike headers (show "x-real-ip" ≠ "cookie" by decide)
    simp only [Csrf.check, Csrf.validateRequest, Csrf.realAddress, forwarded, real]

theorem alike_csrfLayer (csrf : Csrf) (inner : AlikeServices state sign? sign?' service service') :
    AlikeServices state sign? sign?' (csrfLayer csrf service) (csrfLayer csrf service') := by
  intro request request' serving serving' requests servings
  have same := check_of_alike requests csrf
  simp only [run_csrfLayer, same]
  cases requests with
  | mk method uri received peer headers =>
    cases servings with
    | mk shown provided own unlimited unlimited' =>
      simp only
      split
      · exact ⟨alike_text _ _ _, .mk shown provided own unlimited unlimited'⟩
      · exact inner (.mk method uri received peer headers)
          (.mk shown (some csrf) own unlimited unlimited')

theorem alike_mounted (route : Route)
    (inner : AlikeServices state sign? sign?' service service') :
    AlikeServices state sign? sign?' (mounted route service) (mounted route service') := by
  intro request request' serving serving' requests servings
  cases requests with
  | mk method uri received peer headers =>
    simp only [mounted]
    split
    · exact inner (.mk method _ received peer headers) servings
    · exact ⟨alike_text _ _ _, servings⟩

/-! ### Sessions that are found -/

section Found

variable {headers headers' : Headers} {authority : Option String}
  (alike : AlikeHeaders state.sessions.factory.backend state.config.cookie.name headers headers')

include alike

theorem host_of_alike : (Exchange.ofRequest headers authority).host =
    (Exchange.ofRequest headers' authority).host :=
  congrArg authority.or (text?_of_alike alike (show "host" ≠ "cookie" by decide))

/-- Any header says the same, but for the one with the cookies. -/
theorem header?_of_alike (header : String) :
    (Exchange.ofRequest headers authority).header? header =
        (Exchange.ofRequest headers' authority).header? header ∨
      header = "cookie" ∧ ∃ text text',
        (Exchange.ofRequest headers authority).header? header = some text ∧
          (Exchange.ofRequest headers' authority).header? header = some text' ∧
          Parted state.sessions.factory.backend text.toList text'.toList := by
  by_cases cookies : header = "cookie"
  · subst cookies
    exact (text?_cookie_of_alike alike).imp_right fun parted => ⟨rfl, parted⟩
  · exact .inl (text?_of_alike alike cookies)

/-- Over either transport, what is loaded is the same. -/
theorem load_of_alike {fresh : Session} (owned : state.sessions.Owns fresh) {transport : Transport}
    (selected : Transport.select state.config (Exchange.ofRequest headers authority) =
      .ok transport)
    (sameHeader : ∀ header, state.config.headerName = .ok header →
      (Exchange.ofRequest headers authority).header? header =
        (Exchange.ofRequest headers' authority).header? header) :
    transport.load (Exchange.ofRequest headers authority) fresh =
      transport.load (Exchange.ofRequest headers' authority) fresh := by
  rw [Transport.load_eq, Transport.load_eq]
  cases transport with
  | header header scheme =>
    have same := sameHeader header (Transport.headerName_of_select selected)
    rw [Transport.token?, Transport.token?, same]
  | cookie config policy =>
    cases Transport.config_of_select selected
    have same := Exchange.cookie?_of_alike
      (show AlikeHeaders _ _ (Exchange.ofRequest headers authority).headers
        (Exchange.ofRequest headers' authority).headers from alike)
    rw [Transport.token?, Transport.token?]
    generalize (Exchange.ofRequest headers authority).cookie? _ = first at same ⊢
    generalize (Exchange.ofRequest headers' authority).cookie? _ = second at same ⊢
    cases first with
    | none =>
      cases second with
      | none => rfl
      | some c => cases same
    | some c =>
      cases second with
      | none => cases same
      | some c' =>
        have loads := Option.some.inj same
        simp only [Option.map_some, SessionState.load_holding owned, loads]

/-- Where the header for tokens says the same, a request has the same session. -/
theorem establish_of_same_header (clock : Instant)
    (sameHeader : ∀ header, state.config.headerName = .ok header →
      (Exchange.ofRequest headers authority).header? header =
        (Exchange.ofRequest headers' authority).header? header) :
    state.establish (Exchange.ofRequest headers authority) clock =
      state.establish (Exchange.ofRequest headers' authority) clock := by
  have same : Transport.select state.config (Exchange.ofRequest headers authority) =
      Transport.select state.config (Exchange.ofRequest headers' authority) := by
    unfold Transport.select
    cases named : state.config.headerName with
    | error e => rfl
    | ok header => simp only [bind, Except.bind, sameHeader header named]
  refine SessionState.establish_congr same fun fresh transport created selected => ?_
  exact load_of_alike alike (Sessions.createAt_eq_ok created) selected sameHeader

/-- The session of the request is the same in both runs, whatever the token says it in. -/
theorem prepare_of_alike (emits : state.sessions.factory.backend.EmitsText)
    (apart : state.config.SchemeApart) (clock : Instant) :
    state.prepare (Exchange.ofRequest headers authority) clock =
      state.prepare (Exchange.ofRequest headers' authority) clock := by
  have same : state.establish (Exchange.ofRequest headers authority) clock =
      state.establish (Exchange.ofRequest headers' authority) clock := by
    cases named : state.config.headerName with
    | error e =>
      refine establish_of_same_header alike clock fun header same => ?_
      cases named.symm.trans same
    | ok header =>
      rcases @header?_of_alike _ _ _ authority alike header with
        same | ⟨rfl, text, text', carried, carried', parted⟩
      · refine establish_of_same_header alike clock fun other named' => ?_
        cases named.symm.trans named'
        exact same
      · exact SessionState.establish_of_parted emits apart named carried carried' parted clock
  rw [SessionState.prepare, SessionState.prepare, same]

end Found

/-! ### Sessions that are written -/

/-- Exchanges that set cookies which are alike, or one and the same error. -/
inductive AlikeWritten (backend : Backend) (name : String) :
    Except SessionError Exchange → Except SessionError Exchange → Prop
  | error (e : SessionError) : AlikeWritten backend name (.error e) (.error e)
  | ok {exchange exchange' : Exchange}
      (cookies : List.Forall₂ (AlikeCookie backend name) exchange.cookies exchange'.cookies) :
      AlikeWritten backend name (.ok exchange) (.ok exchange')

/-- A token has no character that a header refuses, so the cookie is refused for another part of it
or not at all. -/
theorem presentable_of_alike {c c' : SetCookie} (alike : AlikeCookie backend name c c') :
    Presentable c.line ↔ Presentable c'.line := by
  have line (c : SetCookie) : Presentable c.line ↔
      Presentable (c.name ++ "=" ++ c.value) ∧ ∀ text ∈ c.attributes, Presentable text := by
    rw [← List.forall_mem_cons]
    exact ⟨fun line => Presentable.of_intercalate line, Presentable.intercalate (by decide)⟩
  cases alike with
  | same => exact Iff.rfl
  | session named same =>
    rename_i value
    have text {value : String} (plain : PlainValue value) (c : SetCookie) :
        Presentable (c.name ++ "=" ++ value) ↔ Presentable (c.name ++ "=") := by
      refine ⟨fun whole d member => ?_, fun front =>
        front.append fun d member => (plain.chars d member).2.1⟩
      exact whole d (by rw [String.toList_append]; exact List.mem_append_left _ member)
    rw [line, line, text same.plain, text same.plain' { c with value }]
    rfl

theorem checkCookies_of_alike {cookies cookies' : List SetCookie}
    (alike : List.Forall₂ (AlikeCookie backend name) cookies cookies') :
    checkCookies cookies = checkCookies cookies' := by
  have same : (cookies.all fun c => (Bytes.ofText c.line).all isValueByte) =
      cookies'.all fun c => (Bytes.ofText c.line).all isValueByte := by
    induction alike with
    | nil => rfl
    | cons first rest ih =>
      have presentable := presentable_of_alike first
      have bytes (text : String) : (Bytes.ofText text).all isValueByte = true ↔ Presentable text :=
        ⟨Presentable.of_all_isValueByte, Presentable.all_isValueByte⟩
      rw [← bytes, ← bytes] at presentable
      rw [List.all_cons, List.all_cons, ih, Bool.eq_iff_iff.mpr presentable]
  rw [checkCookies, checkCookies, same]

theorem alike_deliver {answer answer' : Response Seen}
    (answers : AlikeResponse backend name answer answer')
    {written written' : Except SessionError Exchange}
    (alike : AlikeWritten backend name written written') :
    AlikeResponse backend name (deliver answer written) (deliver answer' written') := by
  cases alike with
  | error e => exact alike_text _ _ _
  | ok cookies =>
    rename_i exchange exchange'
    have same := checkCookies_of_alike cookies
    simp only [deliver, bind, Except.bind, same]
    cases checkCookies exchange'.cookies with
    | error e => exact alike_text _ _ _
    | ok _ =>
      exact ⟨answers.status, answers.body, List.rel_append answers.cookies cookies, answers.headers⟩

/-- How a session is signed shows in its token only. -/
theorem outcome_save_withSign (config : CookieConfig) (policy : SameSitePolicy)
    (exchange : Exchange) (session : Session) (sign? : Bytes → Option Bytes) (source : Entropy) :
    ((Transport.cookie config policy).save exchange (session.withSign sign?)).outcome source =
      (((session.container.backend.withSign sign?).save session.container.data).outcome
        source).mapError .ofContainer >>= fun token =>
          (Transport.cookieOf config policy exchange session token).map exchange.setCookie := by
  unfold Drawing.outcome
  rw [Transport.run_save_cookie]
  have same : (session.withSign sign?).container.save.run.run source =
      ((session.container.backend.withSign sign?).save session.container.data).run.run source := rfl
  rw [same]
  rcases ((session.container.backend.withSign sign?).save session.container.data).run.run source
    with ⟨_ | token, next⟩ <;> rfl

theorem outcome_complete_of_discarded {found : Established} {loaded : UInt64} {c : CurrentSession}
    {exchange : Exchange} {source : Entropy} (discarded : c.discarded = true) :
    (SessionState.complete found loaded c exchange).outcome source =
      .ok (found.transport.discard exchange) := by
  unfold SessionState.complete
  rw [discarded]
  rfl

theorem outcome_complete_of_kept {found : Established} {loaded : UInt64} {c : CurrentSession}
    {exchange : Exchange} {source : Entropy} (kept : c.discarded = false) :
    (SessionState.complete found loaded c exchange).outcome source =
      if found.replaced || c.session.header.nonce != loaded then
        (found.transport.save exchange c.session).outcome source
      else .ok exchange := by
  have decided : SessionState.complete found loaded c exchange =
      if found.replaced || c.session.header.nonce != loaded then
        found.transport.save exchange c.session
      else return exchange := if_neg (kept ▸ Bool.false_ne_true)
  rw [decided]
  split <;> rfl

theorem steady_complete (found : Established) (loaded : UInt64) (c : CurrentSession)
    (exchange : Exchange) : Drawing.Steady (SessionState.complete found loaded c exchange) := by
  unfold SessionState.complete
  split
  · exact Drawing.steady_pure _
  · split
    · unfold Transport.save
      split
      · have saved : Drawing.Steady c.session.save := (Backend.steady_save _ _).adapt _
        refine saved.bind fun token => ?_
        split
        · exact Drawing.steady_pure _
        · exact Drawing.steady_throw _
      · exact Drawing.steady_pure _
    · exact Drawing.steady_pure _

section Written

variable {s : Settings} (built : Factory.ofSettings s = .ok state.sessions.factory)
  (emits : state.sessions.factory.backend.EmitsText)
  (signing : state.sessions.factory.backend.Signing sign?)
  (signing' : state.sessions.factory.backend.Signing sign?')

include built emits signing signing'

/-- Two tokens of one state are one text, or texts that are loaded alike. -/
theorem sameSession_of_saves {data : Data} {source source' : Entropy} {token token' : Bytes}
    (made : ((state.sessions.factory.backend.withSign sign?).save data).outcome source = .ok token)
    (made' : ((state.sessions.factory.backend.withSign sign?').save data).outcome source' =
      .ok token') :
    ∃ value value', Bytes.toText? token = some value ∧ Bytes.toText? token' = some value' ∧
      (value = value' ∨ SameSession state.sessions.factory.backend value value') := by
  have loads := Factory.load_of_saves built signing signing' made made'
  obtain ⟨value, isText, plain, same⟩ :=
    Backend.toText?_of_save (Backend.emitsText_withSign emits) made
  obtain ⟨value', isText', plain', same'⟩ :=
    Backend.toText?_of_save (Backend.emitsText_withSign emits) made'
  refine ⟨value, value', isText, isText', ?_⟩
  by_cases one : token = token'
  · exact .inl (Bytes.ofText_injective (same.trans (one.trans same'.symm)))
  · have symbol := Backend.exists_symbol_of_saves emits made made' one
    have symbol' := Backend.exists_symbol_of_saves emits made' made (Ne.symm one)
    rw [← same] at symbol loads
    rw [← same'] at symbol' loads
    exact .inr ⟨plain, plain', exists_char_of_symbol symbol, exists_char_of_symbol symbol', loads⟩

/-- A session is saved in two cookies that are alike, or not at all. -/
theorem alike_save_cookie {session : Session}
    (own : session.container.backend = state.sessions.factory.backend) {config : CookieConfig}
    (policy : SameSitePolicy) {exchange exchange' : Exchange}
    (host : exchange.host = exchange'.host)
    (cookies : exchange.cookies = exchange'.cookies) {source source' : Entropy}
    (unlimited : source.limit = none) (unlimited' : source'.limit = none) :
    AlikeWritten state.sessions.factory.backend config.name
      (((Transport.cookie config policy).save exchange (session.withSign sign?)).outcome source)
      (((Transport.cookie config policy).save exchange' (session.withSign sign?')).outcome
        source') := by
  rw [outcome_save_withSign, outcome_save_withSign, own]
  obtain ⟨token, token', made, made'⟩ | ⟨e, failed, failed'⟩ :=
    Backend.save_cases signing signing' unlimited unlimited' session.container.data
  · obtain ⟨value, value', isText, isText', values⟩ :=
      sameSession_of_saves built emits signing signing' made made'
    simp only [made, made', Except.mapError, bind, Except.bind, Transport.cookieOf_of_text isText,
      Transport.cookieOf_of_text isText']
    cases Transport.expiry session.header.validBefore with
    | error e => exact .error e
    | ok expires =>
      refine .ok ?_
      rw [Exchange.setCookie, Exchange.setCookie, cookies]
      refine List.rel_append (alike_cookies _) (.cons ?_ .nil)
      have domain : Transport.domain? config exchange = Transport.domain? config exchange' := by
        rw [Transport.domain?, Transport.domain?, host]
      simp only [Transport.sessionCookie, domain]
      rcases values with rfl | same
      · exact .same _
      · exact @AlikeCookie.session _ _ { value .. } value' rfl same
  · rw [failed, failed']
    exact .error _

theorem alike_complete {found : Established} {request : Exchange}
    (selected : Transport.select state.config request = .ok found.transport) (loaded : UInt64)
    {c : CurrentSession} (own : c.session.container.backend = state.sessions.factory.backend)
    {exchange exchange' : Exchange} (host : exchange.host = exchange'.host)
    (cookies : exchange.cookies = exchange'.cookies) {source source' : Entropy}
    (unlimited : source.limit = none) (unlimited' : source'.limit = none) :
    AlikeWritten state.sessions.factory.backend state.config.cookie.name
      ((SessionState.complete (found.withSign sign?) loaded (c.withSign sign?)
        exchange).outcome source)
      ((SessionState.complete (found.withSign sign?') loaded (c.withSign sign?')
        exchange').outcome source') := by
  obtain ⟨transport, session, replaced⟩ := found
  have as_it_was : AlikeWritten state.sessions.factory.backend state.config.cookie.name
      (.ok exchange) (.ok exchange') := by
    refine .ok ?_
    rw [cookies]
    exact alike_cookies _
  -- Neither the decision nor the cookie that forgets a session hangs on the token.
  cases discarded : c.discarded with
  | true =>
    have forgets (sign? : Bytes → Option Bytes) : (c.withSign sign?).discarded = true := discarded
    rw [outcome_complete_of_discarded (forgets _), outcome_complete_of_discarded (forgets _)]
    cases transport with
    | header header scheme => exact as_it_was
    | cookie config policy =>
      refine .ok ?_
      have domain : Transport.domain? config exchange = Transport.domain? config exchange' := by
        rw [Transport.domain?, Transport.domain?, host]
      simp only [Established.withSign, Transport.discard, Exchange.setCookie, cookies,
        Transport.sessionCookie, domain]
      exact alike_cookies _
  | false =>
    have decided (sign? : Bytes → Option Bytes) (exchange : Exchange) (source : Entropy) :
        (SessionState.complete (Established.withSign ⟨transport, session, replaced⟩ sign?) loaded
          (c.withSign sign?) exchange).outcome source =
          if replaced || c.session.header.nonce != loaded then
            (transport.save exchange (c.session.withSign sign?)).outcome source
          else .ok exchange := outcome_complete_of_kept discarded
    rw [decided, decided]
    split
    · cases transport with
      | header header scheme => exact as_it_was
      | cookie config policy =>
        cases Transport.config_of_select selected
        exact alike_save_cookie built emits signing signing' own policy host cookies unlimited
          unlimited'
    · exact as_it_was

theorem alike_conclude {found : Established} {request : Exchange}
    (selected : Transport.select state.config request = .ok found.transport) (loaded : UInt64)
    (given : found.session.container.backend = state.sessions.factory.backend)
    {exchange exchange' : Exchange} (host : exchange.host = exchange'.host)
    (cookies : exchange.cookies = exchange'.cookies) {answer answer' : Response Seen}
    (answers : AlikeResponse state.sessions.factory.backend state.config.cookie.name answer answer')
    {after after' : Serving}
    (servings : AlikeServing state.sessions.factory.backend sign? sign?' after after') :
    let concluded := (conclude (found.withSign sign?) loaded exchange answer).run after
    let concluded' := (conclude (found.withSign sign?') loaded exchange' answer').run after'
    AlikeResponse state.sessions.factory.backend state.config.cookie.name concluded.1
        concluded'.1 ∧
      AlikeServing state.sessions.factory.backend sign? sign?' concluded.2 concluded'.2 := by
  cases informational : isInformational answer.status with
  | true =>
    have informational' : isInformational answer'.status = true := answers.status ▸ informational
    simp only [conclude, informational, informational', ite_true]
    exact ⟨answers, servings⟩
  | false =>
    have regular' : isInformational answer'.status = false := answers.status ▸ informational
    simp only [run_conclude_of_regular _ _ _ _ informational,
      run_conclude_of_regular _ _ _ _ regular']
    cases servings with
    | mk shown csrf own unlimited unlimited' =>
      rename_i clock current entropy entropy'
      -- The session that the handler left, or the one that was found if it left none.
      let c := current.getD ⟨found.session, false⟩
      have left (sign? : Bytes → Option Bytes) : (current.map (·.withSign sign?)).getD
          ⟨(found.withSign sign?).session, false⟩ = c.withSign sign? := by
        cases current <;> rfl
      have ownLeft : c.session.container.backend = state.sessions.factory.backend := by
        cases current with
        | none => exact given
        | some last => exact own last rfl
      have written := alike_complete built emits signing signing' selected loaded ownLeft host
        cookies unlimited unlimited'
      simp only [left]
      refine ⟨alike_deliver answers written, .mk shown csrf own ?_ ?_⟩
      · exact (steady_complete _ _ _ _ _).trans unlimited
      · exact (steady_complete _ _ _ _ _).trans unlimited'

theorem alike_sessionLayer (apart : state.config.SchemeApart)
    (inner : AlikeServices state sign? sign?' service service') :
    AlikeServices state sign? sign?' (sessionLayer (state.withSign sign?) service)
      (sessionLayer (state.withSign sign?') service') := by
  intro request request' serving serving' requests servings
  cases requests with
  | mk method uri received peer headers =>
    cases servings with
    | mk shown csrf own unlimited unlimited' =>
      rename_i given given' clock current entropy entropy'
      have same : state.prepare (Exchange.ofRequest given uri.authority?) clock =
          state.prepare (Exchange.ofRequest given' uri.authority?) clock :=
        prepare_of_alike headers emits apart clock
      simp only [run_sessionLayer, SessionState.prepare_withSign, same]
      cases ready : state.prepare (Exchange.ofRequest given' uri.authority?) clock with
      | error e => exact ⟨alike_text _ _ _, .mk shown csrf own unlimited unlimited'⟩
      | ok prepared =>
        obtain ⟨found, loaded⟩ := prepared
        obtain ⟨selected, exposes⟩ := SessionState.prepare_eq_ok ready
        have backend := exposes.owned.backend
        have ownFound : ∀ c ∈ some (CurrentSession.mk found.session false),
            c.session.container.backend = state.sessions.factory.backend := by
          rintro c ⟨⟩
          exact backend
        obtain ⟨answers, after⟩ := inner (.mk method uri received peer headers)
          (.mk shown csrf ownFound unlimited unlimited')
        exact alike_conclude built emits signing signing' selected loaded backend
          (host_of_alike headers) rfl answers after

end Written

theorem Router.alike_service {Leaf : Type} {serve serve' : Leaf → Service Seen}
    (leaves : ∀ leaf, AlikeServices state sign? sign?' (serve leaf) (serve' leaf))
    (router : Router Leaf) :
    AlikeServices state sign? sign?' (router.service serve) (router.service serve') := by
  induction router with
  | leaf leaf => exact leaves leaf
  | guard csrf next ih => exact alike_csrfLayer csrf ih
  | mount route next ih => exact alike_mounted route ih
  | choose pick left right left_ih right_ih =>
    intro request request' serving serving' requests servings
    simp only [Router.service]
    cases requests with
    | mk method uri received peer headers =>
      simp only
      split
      · exact left_ih (.mk method uri received peer headers) servings
      · exact right_ih (.mk method uri received peer headers) servings

end Alike

end Http

end SealedTokens
