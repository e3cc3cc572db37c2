import Mathlib.Logic.Function.Basic
import SealedTokens.Proofs.Availability
import SealedTokens.Proofs.HeaderLanguage
import SealedTokens.Proofs.ParallelRuns
import SealedTokens.Proofs.SharedRandomness
/-!
# Clients do not influence each other

Clients that visit one application in turn, each with the cookies that it was given before. They
share the source of randomness and the keys, so what a client is given as a token hangs on what the
others did. What its tokens say does not, nor does anything else that it is answered: a run of all
the clients is, for each of them, like the run of its own visits alone.

## Main results

- `Http.World.alike_visit`: one visit to two worlds that are alike for its client
- `Http.World.other_visit`: the visit of another client
- `Http.Application.isolates_clients`: all visits
- `Http.Application.cookie_scheme_parts_runs`: with a scheme that is a whole cookie, they can

## Proof strategy

Two worlds are alike for a client if what it was given in the one is alike to what it was given in
the other, and neither source of randomness is limited. Its own visits keep them so when they are
served in both, and the others' when they are served in one only.
-/
namespace SealedTokens

namespace Http

/-! ### Visits -/

/-- A cookie without its value, for what a client decides by. -/
def SetCookie.described (c : SetCookie) : SetCookie := { c with value := "" }

/-- A header of a client: of its own, or some of the cookies that it has been given, picked by all
but their values. -/
inductive HeaderLine where
  | given (name : String) (value : Bytes)
  | cookies (pick : List SetCookie → List Nat)

/-- The texts of picked cookies; there are none beyond the last. -/
def returned (jar : List SetCookie) (picked : List Nat) : List String :=
  (picked.filterMap (jar[·]?)).map fun c => c.name ++ "=" ++ c.value

def HeaderLine.written (jar : List SetCookie) : HeaderLine → String × Bytes
  | given name value => (name, value)
  | cookies pick => cookieLine (returned jar (pick (jar.map SetCookie.described)))

structure Visit (Client : Type) where
  client : Client
  clock : Instant
  clock_shown : clock.OnClock
  method : String
  uri : Uri
  lines : List HeaderLine
  peer : Option IpAddress := none

/-- The request of a visit, with cookies from a jar. -/
def Visit.request {Client : Type} (visit : Visit Client) (jar : List SetCookie) : Request :=
  { method := visit.method, uri := visit.uri, headers := visit.lines.map (·.written jar),
    peer := visit.peer }

/-- What comes of a visit: the session that the layer finds for it, and the answer. -/
structure Outcome where
  found : Except SessionError Data
  response : Response Seen

/-- The source of randomness, and what each client has been given so far. -/
structure World (Client : Type) where
  entropy : Entropy
  jar : Client → List SetCookie

namespace World

variable {Client : Type}

def serve (world : World Client) (application : Application) (state : SessionState)
    (visit : Visit Client) : Response Seen × Serving :=
  ((application.serve state) (visit.request (world.jar visit.client))).run
    { entropy := world.entropy, clock := visit.clock, clock_shown := visit.clock_shown }

def outcome (world : World Client) (application : Application) (state : SessionState)
    (visit : Visit Client) : Outcome :=
  let request := visit.request (world.jar visit.client)
  let ready := state.prepare (Exchange.ofRequest request.headers request.uri.authority?) visit.clock
  ⟨ready.map (·.1.session.data), (world.serve application state visit).1⟩

variable [DecidableEq Client]

/-- The world after a visit; its client keeps all that it is given. -/
def next (world : World Client) (application : Application) (state : SessionState)
    (visit : Visit Client) : World Client :=
  let served := world.serve application state visit
  ⟨served.2.entropy,
    Function.update world.jar visit.client (world.jar visit.client ++ served.1.cookies)⟩

/-- What comes of visits, one after the other. Every time there may be another way to sign. -/
def outcomes (application : Application) (state : SessionState) :
    World Client → List (Visit Client × (Bytes → Option Bytes)) → List (Client × Outcome)
  | _, [] => []
  | world, (visit, sign?) :: visits =>
    let signing := state.withSign sign?
    (visit.client, world.outcome application signing visit) ::
      outcomes application state (world.next application signing visit) visits

end World

/-! ### Two worlds -/

/-- Outcomes with the same session found, and with answers that are alike. -/
structure AlikeOutcome (backend : Backend) (name : String) (first second : Outcome) : Prop where
  found : first.found = second.found
  response : AlikeResponse backend name first.response second.response

/-- Worlds that a client cannot tell apart but by its tokens. -/
structure AlikeFor {Client : Type} (backend : Backend) (name : String) (client : Client)
    (world world' : World Client) : Prop where
  jar : List.Forall₂ (AlikeCookie backend name) (world.jar client) (world'.jar client)
  unlimited : world.entropy.limit = none
  unlimited' : world'.entropy.limit = none

section Alike

variable {backend : Backend} {name : String} {jar jar' : List SetCookie}

theorem alikeText_of_alikeCookie {c c' : SetCookie} (alike : AlikeCookie backend name c c') :
    AlikeText backend name (c.name ++ "=" ++ c.value) (c'.name ++ "=" ++ c'.value) := by
  cases alike with
  | same => exact .same c.name c.value
  | session named same =>
    subst named
    exact .session same

theorem described_of_alike (alike : List.Forall₂ (AlikeCookie backend name) jar jar') :
    jar.map SetCookie.described = jar'.map SetCookie.described := by
  induction alike with
  | nil => rfl
  | cons first rest ih =>
    rw [List.map_cons, List.map_cons, ih]
    cases first <;> rfl

theorem returned_of_alike (alike : List.Forall₂ (AlikeCookie backend name) jar jar')
    (picked : List Nat) : List.Forall₂ (AlikeText backend name) (returned jar picked)
      (returned jar' picked) := by
  have same := alike.length_eq
  unfold returned
  induction picked with
  | nil => exact .nil
  | cons i picked ih =>
    by_cases inside : i < jar.length
    · have inside' : i < jar'.length := same ▸ inside
      rw [List.filterMap_cons_some (List.getElem?_eq_getElem inside),
        List.filterMap_cons_some (List.getElem?_eq_getElem inside')]
      exact .cons (alikeText_of_alikeCookie (alike.get inside inside')) ih
    · have outside' : jar'.length ≤ i := same ▸ Nat.le_of_not_lt inside
      rw [List.filterMap_cons_none (List.getElem?_eq_none (Nat.le_of_not_lt inside)),
        List.filterMap_cons_none (List.getElem?_eq_none outside')]
      exact ih

theorem alike_written (alike : List.Forall₂ (AlikeCookie backend name) jar jar')
    (line : HeaderLine) : AlikeLine backend name (line.written jar) (line.written jar') := by
  cases line with
  | given name value => exact .same _
  | cookies pick =>
    rw [HeaderLine.written, HeaderLine.written, described_of_alike alike]
    exact .cookies (returned_of_alike alike _)

theorem alike_headers (alike : List.Forall₂ (AlikeCookie backend name) jar jar')
    (lines : List HeaderLine) :
    AlikeHeaders backend name (lines.map (·.written jar)) (lines.map (·.written jar')) := by
  rw [AlikeHeaders, List.forall₂_map_left_iff, List.forall₂_map_right_iff, List.forall₂_same]
  intro line _
  exact alike_written alike line

end Alike

/-! ### One visit -/

/-- How sessions are signed does not show in the one that is found. -/
theorem World.found_withSign {Client : Type} (world : World Client) (application : Application)
    (state : SessionState) (sign? : Bytes → Option Bytes) (visit : Visit Client) :
    (world.outcome application (state.withSign sign?) visit).found =
      (state.prepare (Exchange.ofRequest (visit.request (world.jar visit.client)).headers
        visit.uri.authority?) visit.clock).map (·.1.session.data) := by
  unfold outcome
  simp only [SessionState.prepare_withSign]
  show (Except.map _ (state.prepare (Exchange.ofRequest
    (visit.request (world.jar visit.client)).headers visit.uri.authority?) visit.clock)).map _ = _
  cases state.prepare (Exchange.ofRequest (visit.request (world.jar visit.client)).headers
    visit.uri.authority?) visit.clock <;> rfl

section Visits

variable {Client : Type} {state : SessionState} {s : Settings}
  (built : Factory.ofSettings s = .ok state.sessions.factory)
  (emits : state.sessions.factory.backend.EmitsText)
  (apart : state.config.SchemeApart) (application : Application)

include built emits apart

/-- However sessions are signed, an application answers alike. -/
theorem Application.alike_serve {sign? sign?' : Bytes → Option Bytes}
    (signing : state.sessions.factory.backend.Signing sign?)
    (signing' : state.sessions.factory.backend.Signing sign?') :
    AlikeServices state sign? sign?' (application.serve (state.withSign sign?))
      (application.serve (state.withSign sign?')) := by
  refine Router.alike_service (fun routes => ?_) application
  cases routes with
  | bare handlers => exact Router.alike_service alike_handling handlers
  | session handlers =>
    exact alike_sessionLayer built emits signing signing' apart
      (Router.alike_service alike_handling handlers)

namespace World

variable {world world' : World Client} {sign? sign?' : Bytes → Option Bytes}

theorem alike_serve (signing : state.sessions.factory.backend.Signing sign?)
    (signing' : state.sessions.factory.backend.Signing sign?') (visit : Visit Client)
    (alike : AlikeFor state.sessions.factory.backend state.config.cookie.name visit.client world
      world') :
    let served := world.serve application (state.withSign sign?) visit
    let served' := world'.serve application (state.withSign sign?') visit
    AlikeResponse state.sessions.factory.backend state.config.cookie.name served.1 served'.1 ∧
      AlikeServing state.sessions.factory.backend sign? sign?' served.2 served'.2 := by
  have headers := alike_headers alike.jar visit.lines
  have begun : AlikeServing state.sessions.factory.backend sign? sign?'
      ⟨world.entropy, visit.clock, visit.clock_shown, none, none⟩
      ⟨world'.entropy, visit.clock, visit.clock_shown, none, none⟩ :=
    @AlikeServing.mk _ _ _ _ visit.clock_shown none none (by simp) _ _ alike.unlimited
      alike.unlimited'
  exact Application.alike_serve built emits apart application signing signing'
    (.mk visit.method visit.uri visit.uri visit.peer headers) begun

/-- A visit to two worlds that are alike for its client comes to the same, and leaves them so. -/
theorem alike_visit [DecidableEq Client] (signing : state.sessions.factory.backend.Signing sign?)
    (signing' : state.sessions.factory.backend.Signing sign?') (visit : Visit Client)
    (alike : AlikeFor state.sessions.factory.backend state.config.cookie.name visit.client world
      world') :
    AlikeOutcome state.sessions.factory.backend state.config.cookie.name
        (world.outcome application (state.withSign sign?) visit)
        (world'.outcome application (state.withSign sign?') visit) ∧
      AlikeFor state.sessions.factory.backend state.config.cookie.name visit.client
        (world.next application (state.withSign sign?) visit)
        (world'.next application (state.withSign sign?') visit) := by
  obtain ⟨answers, left⟩ := alike_serve built emits apart application signing signing' visit alike
  refine ⟨⟨?_, answers⟩, ?_⟩
  · have headers := alike_headers alike.jar visit.lines
    have same : state.prepare (Exchange.ofRequest (visit.request (world.jar visit.client)).headers
        visit.uri.authority?) visit.clock =
          state.prepare (Exchange.ofRequest (visit.request (world'.jar visit.client)).headers
            visit.uri.authority?) visit.clock := prepare_of_alike headers emits apart visit.clock
    rw [found_withSign, found_withSign, same]
  · constructor
    · simp only [next, Function.update_self]
      exact List.rel_append alike.jar answers.cookies
    · exact left.unlimited.1
    · exact left.unlimited.2

/-- A visit of another client takes nothing from a client and gives it nothing. -/
theorem other_visit [DecidableEq Client] (signing : state.sessions.factory.backend.Signing sign?)
    {client : Client} {visit : Visit Client} (other : visit.client ≠ client)
    (alike : AlikeFor state.sessions.factory.backend state.config.cookie.name client world world') :
    AlikeFor state.sessions.factory.backend state.config.cookie.name client
      (world.next application (state.withSign sign?) visit) world' := by
  have itself : AlikeFor state.sessions.factory.backend state.config.cookie.name visit.client world
      world := ⟨alike_cookies _, alike.unlimited, alike.unlimited⟩
  have served := (alike_serve built emits apart application signing signing visit itself).2
  refine ⟨?_, served.unlimited.1, alike.unlimited'⟩
  simp only [next, Function.update_of_ne other.symm]
  exact alike.jar

end World

end Visits

/-! ### All visits -/

/-- The visits of one client come to the same among the others' and alone. -/
theorem World.alike_visits {Client : Type} [DecidableEq Client] {state : SessionState}
    {s : Settings} (built : Factory.ofSettings s = .ok state.sessions.factory)
    (emits : state.sessions.factory.backend.EmitsText)
    (apart : state.config.SchemeApart) (application : Application) (client : Client)
    {mixed alone : List (Visit Client × (Bytes → Option Bytes))}
    (own : alone.map (·.1) = (mixed.map (·.1)).filter (·.client = client))
    (signing : ∀ turn ∈ mixed ++ alone, state.sessions.factory.backend.Signing turn.2)
    {world world' : World Client}
    (alike : AlikeFor state.sessions.factory.backend state.config.cookie.name client world world') :
    List.Forall₂ (AlikeOutcome state.sessions.factory.backend state.config.cookie.name)
      (((world.outcomes application state mixed).filter (·.1 = client)).map (·.2))
      ((world'.outcomes application state alone).map (·.2)) := by
  induction mixed generalizing alone world world' with
  | nil =>
    cases List.map_eq_nil_iff.mp own
    exact .nil
  | cons turn mixed ih =>
    obtain ⟨visit, sign?⟩ := turn
    have signs : state.sessions.factory.backend.Signing sign? := signing (visit, sign?) (by simp)
    by_cases mine : visit.client = client
    · subst mine
      rw [List.map_cons, List.filter_cons_of_pos (by simp)] at own
      cases alone with
      | nil => cases own
      | cons turn' alone =>
        obtain ⟨visit', sign?'⟩ := turn'
        obtain ⟨same, rest⟩ := List.cons.inj own
        cases same
        have signs' : state.sessions.factory.backend.Signing sign?' :=
          signing (visit, sign?') (by simp)
        obtain ⟨outcome, after⟩ :=
          alike_visit built emits apart application signs signs' visit alike
        have others : ∀ turn ∈ mixed ++ alone, state.sessions.factory.backend.Signing turn.2 := by
          intro turn member
          refine signing turn ?_
          rcases List.mem_append.mp member with before | after
          · exact List.mem_append_left _ (List.mem_cons_of_mem _ before)
          · exact List.mem_append_right _ (List.mem_cons_of_mem _ after)
        rw [outcomes, outcomes, List.filter_cons_of_pos (by simp), List.map_cons, List.map_cons]
        exact .cons outcome (ih rest others after)
    · rw [List.map_cons, List.filter_cons_of_neg (by simpa using mine)] at own
      rw [outcomes, List.filter_cons_of_neg (by simpa using mine)]
      refine ih own (fun turn member => signing turn (List.mem_cons_of_mem _ member)) ?_
      exact other_visit built emits apart application signs mine alike

/-- **Clients do not influence each other.** Sessions of a validated configuration, with any options
and over any transport, and any application that uses them. Whatever the other clients do, and
whatever is drawn, a client is answered as when it is alone: the session that is found for each of
its requests, the status, what the handler saw, and the cookies with the states in them. The one
transport that is left out looks for tokens among the cookies and takes a whole cookie for the
scheme in front of one. -/
theorem Application.isolates_clients {Client : Type} [DecidableEq Client] {config : SessionConfig}
    {files : Files} {sessions : Sessions} (made : Sessions.ofConfig config files = .ok sessions)
    (options : List SessionOption) {transport : SessionConfig}
    (apart : transport.SchemeApart) (application : Application) (client : Client)
    {mixed alone : List (Visit Client × (Bytes → Option Bytes))}
    (own : alone.map (·.1) = (mixed.map (·.1)).filter (·.client = client))
    (signing : ∀ turn ∈ mixed ++ alone, sessions.factory.backend.Signing turn.2)
    {world world' : World Client} (unlimited : world.entropy.limit = none)
    (unlimited' : world'.entropy.limit = none) (given : world.jar client = world'.jar client) :
    let state : SessionState := ⟨sessions.withOptions options, transport⟩
    List.Forall₂ (AlikeOutcome sessions.factory.backend transport.cookie.name)
      (((world.outcomes application state mixed).filter (·.1 = client)).map (·.2))
      ((world'.outcomes application state alone).map (·.2)) := by
  intro state
  obtain ⟨-, f, built, emits, rfl⟩ := Sessions.ofConfig_eq_ok made
  have text : state.sessions.factory.backend.EmitsText :=
    Backend.emitsText_of_ofSettings built emits
  have alike : AlikeFor state.sessions.factory.backend transport.cookie.name client world world' :=
    ⟨given ▸ alike_cookies _, unlimited, unlimited'⟩
  exact World.alike_visits built text apart application client own signing alike

/-! ### Two clients -/

def sealedConfig : SessionConfig :=
  { container := { key := some "0123456789abcdef0123456789abcdef" } }

def sealedSessions : Sessions :=
  let settings := Settings.ofKind .secretBox (Bytes.ofText "0123456789abcdef0123456789abcdef")
  ⟨⟨settings, .sealed (Csrf.stack (Crypto.XChaCha20Poly1305.cipher settings.key))⟩, .ofSecs 604800,
    .ofSecs 10800, []⟩

/-- Every visit writes the session. -/
def writingApplication : Application :=
  .leaf (.session (.leaf fun _ _ _ _ _ => ⟨[.work (.set 1 [2])], [], 200, [], []⟩))

/-- A visit with all the cookies that the client has been given. -/
def returningVisit (client : Bool) (clock : Instant) (clock_shown : clock.OnClock) : Visit Bool :=
  { client, clock, clock_shown, method := "GET", uri := { target := ⟨['/'], none⟩ }
    lines := [.cookies fun jar => List.range jar.length] }

/-- A visit of one client between two of another. The random bytes are zeros with both clients, and
ones with one of them. -/
theorem Application.isolates_clients_writing :
    let unsigned : Bytes → Option Bytes := fun _ => none
    let first := (returningVisit true .epoch (by decide), unsigned)
    let last := (returningVisit true ⟨9, 0, by decide, by decide⟩ (by decide), unsigned)
    let mixed :=
      [first, (returningVisit false ⟨3, 0, by decide, by decide⟩ (by decide), unsigned), last]
    let state : SessionState := ⟨sealedSessions.withOptions [], sealedConfig⟩
    Sessions.ofConfig sealedConfig (fun _ => .error "") = .ok sealedSessions ∧
      List.Forall₂ (AlikeOutcome sealedSessions.factory.backend "_cachet")
        ((((World.mk (.repeating [0]) fun _ => []).outcomes writingApplication state mixed).filter
          (·.1 = true)).map (·.2))
        (((World.mk (.repeating [1]) fun _ => []).outcomes writingApplication state
          [first, last]).map (·.2)) := by
  intro unsigned first last mixed state
  have made : Sessions.ofConfig sealedConfig (fun _ => .error "") = .ok sealedSessions := by rfl
  have apart : sealedConfig.SchemeApart := by
    intro _ scheme given
    cases given
  have signing : ∀ turn ∈ mixed ++ [first, last],
      sealedSessions.factory.backend.Signing turn.2 := by
    intro turn _
    constructor
    · intro signer isSigned
      cases isSigned
    · intro signer isSigned
      cases isSigned
  exact ⟨made, Application.isolates_clients made [] apart writingApplication true rfl signing rfl
    rfl rfl⟩

/-! ### A whole cookie for a scheme -/

/-- Sealed sessions without compression, whose tokens are looked for among the cookies. -/
def amongCookies (scheme : String) : SessionConfig :=
  { container := { key := some "0123456789abcdef0123456789abcdef", compressor := "nop" }
    header := "Cookie", headerScheme := some scheme }

def plainCodec : Codec :=
  let key := Bytes.ofText "0123456789abcdef0123456789abcdef"
  ⟨.compact, .nop, .secretBox (Crypto.XChaCha20Poly1305.cipher key), .base64⟩

def plainSessions : Sessions :=
  let settings :=
    { Settings.ofKind .secretBox (Bytes.ofText "0123456789abcdef0123456789abcdef") with
      compressor := .nop }
  ⟨⟨settings, .sealed plainCodec⟩, .ofSecs 604800, .ofSecs 10800, []⟩

theorem validate_of_scheme (config : SessionConfig) (scheme : Option String) :
    { config with headerScheme := scheme }.validate = config.validate := rfl

theorem ofConfig_amongCookies (scheme : String) :
    Sessions.ofConfig (amongCookies scheme) (fun _ => .error "") = .ok plainSessions := by
  have plain : Sessions.ofConfig (amongCookies "") (fun _ => .error "") = .ok plainSessions := by
    rfl
  have valid : (amongCookies scheme).validate = (amongCookies "").validate :=
    validate_of_scheme (amongCookies "") (some scheme)
  rw [← plain]
  unfold Sessions.ofConfig
  rw [valid]
  rfl

def plainState (scheme : String) : SessionState :=
  ⟨plainSessions.withOptions [], amongCookies scheme⟩

theorem headerName_amongCookies (scheme : String) :
    (amongCookies scheme).headerName = .ok "cookie" := by
  have name : headerName? (Text.trim "Cookie") = some "cookie" := by rfl
  unfold SessionConfig.headerName amongCookies
  simp only [name]

theorem policy_amongCookies (scheme : String) :
    (amongCookies scheme).cookie.policy = .ok .default := by
  have named : Registry.find? "default" = some SameSitePolicy.default := by rfl
  unfold CookieConfig.policy amongCookies
  simp only [named]

/-- The second of all visits. -/
def visitTime : Instant := ⟨9, 0, by decide, Instant.epoch.nanos_valid⟩

def visitEnd : Instant := ⟨604809, 0, by decide, Instant.epoch.nanos_valid⟩

/-- The state of a session that begins with a visit, after so many changes. -/
def visitData (nonce : UInt64) : Data := ⟨⟨2, nonce, visitTime, visitEnd⟩, .empty⟩

/-- The state of an older session, whose box lacks one byte to groups of three. -/
def olderData : Data :=
  ⟨⟨2, 128, .epoch, ⟨604800, 0, by decide, Instant.epoch.nanos_valid⟩⟩, .empty⟩

theorem createAt_visitTime : plainSessions.createAt visitTime visitTime =
    .ok (plainSessions.holding (visitData 0)) :=
  Sessions.createAt_of_no_options rfl (show windowEnd _ _ = .ok visitEnd by decide)

/-- A cookie with nothing in it but its name. -/
def bareCookie (name : String) : SetCookie :=
  ⟨name, "", "/", none, 604800, visitEnd, true, true, none⟩

/-- The session of a first visit as a cookie. -/
def visitCookie (value : String) : SetCookie :=
  Transport.sessionCookie (amongCookies "").cookie .default (.ofRequest [cookieLine []]) value
    (Instant.secondsBetween visitTime visitEnd) visitEnd

/-- Every visit advances the session and is given a cookie. -/
def givingApplication (given : String) : Application :=
  .leaf (.session (.leaf fun _ _ _ _ _ => ⟨[.work .touch], [], 200, [bareCookie given], []⟩))

/-- A visit with the first two cookies that the client has been given, the second one first. -/
def swappingVisit (client : Bool) : Visit Bool :=
  { client, clock := visitTime, clock_shown := by decide, method := "GET"
    uri := { target := ⟨['/'], none⟩ }, lines := [.cookies fun _ => [1, 0]] }

/-- The request of such a visit, with cookies in it. -/
def cookieRequest (texts : List String) : Request :=
  { method := "GET", uri := { target := ⟨['/'], none⟩ }, headers := [cookieLine texts] }

theorem plainValue_token (nonce : Bytes) (data : Data) : ∃ value,
    PlainValue value ∧ Bytes.ofText value = plainCodec.token nonce data := by
  have plain : ∀ b ∈ plainCodec.token nonce data, 33 ≤ b ∧ b < 127 ∧ b ≠ 37 ∧ b ≠ 59 := by
    intro b member
    obtain ⟨low, high, percent, -, -, semicolon⟩ :=
      @Base64.plain_of_mem_encode Base64.urlSafe rfl _ _ member
    exact ⟨low, high, percent, semicolon⟩
  have written : Bytes.ofText (Bytes.asciiText (plainCodec.token nonce data)) = _ :=
    Bytes.ofText_asciiText fun b member => UInt8.lt_trans (plain b member).2.1 (by decide)
  refine ⟨_, ?_, written⟩
  rw [PlainValue, written]
  exact plain

/-- The token of the older session is the name of a cookie and the sign behind it. -/
theorem exists_given (nonce : Bytes) (whole : nonce.length = 24) :
    ∃ given, Bytes.ofText (given ++ "=") = plainCodec.token nonce olderData := by
  -- Only a box of this length is written with the one pad that can be read as an equals sign.
  have content : (plainCodec.content olderData).length = 46 := by decide +kernel
  have short : (plainCodec.sealer.box nonce (plainCodec.content olderData)).length % 3 = 2 := by
    have length : (plainCodec.sealer.box nonce (plainCodec.content olderData)).length = _ :=
      Sealer.length_box _ nonce (plainCodec.content olderData)
    rw [length, whole, content]
  obtain ⟨front, padded⟩ := @Base64.exists_encode_pad Base64.urlSafe rfl _ short
  have written : plainCodec.token nonce olderData = front ++ [Base64.pad] := padded
  obtain ⟨value, plain, same⟩ := plainValue_token nonce olderData
  have ascii : ∀ b ∈ Bytes.ofText value, b < 128 := fun b member =>
    UInt8.lt_trans (plain b member).2.1 (by decide)
  have parts : value = Bytes.asciiText front ++ "=" := by
    refine String.toList_inj.mp ?_
    rw [toList_of_ascii ascii, same, written, List.map_append, String.toList_append,
      Bytes.asciiText, String.toList_ofList]
    rfl
  exact ⟨Bytes.asciiText front, parts ▸ same⟩

section First

variable {source : Entropy} {nonce : Bytes} (drawn : (source.draw 24).1 = some nonce)

include drawn

theorem run_save_plain (data : Data) : ((Backend.sealed plainCodec).save data).run.run source =
    (.ok (plainCodec.token nonce data), (source.draw 24).2) := by
  have saved : ((Backend.sealed plainCodec).save data).run.run source = _ :=
    plainCodec.run_encode data source
  rcases drew : source.draw 24 with ⟨_ | bytes, left⟩
  · rw [drew] at drawn
    cases drawn
  · rw [drew] at drawn saved
    cases drawn
    exact saved

theorem run_save_visit {value : String}
    (written : Bytes.ofText value = plainCodec.token nonce (visitData 1)) (scheme : String) :
    let exchange := Exchange.ofRequest [cookieLine []]
    ((Transport.cookie (amongCookies scheme).cookie .default).save exchange
      (plainSessions.holding (visitData 1))).run.run source =
        (.ok (exchange.setCookie (visitCookie value)), (source.draw 24).2) := by
  intro exchange
  let left := plainSessions.holding (visitData 1)
  have steps : ((Transport.cookie (amongCookies scheme).cookie .default).save exchange
      left).run.run source = _ := Transport.run_save_cookie source
  have saved : left.container.save.run.run source = _ := run_save_plain drawn (visitData 1)
  have expires : Transport.expiry left.header.validBefore = .ok visitEnd :=
    Transport.expiry_eq_ok (t := visitEnd) (by decide)
  rw [saved, ← written] at steps
  simp only [Transport.cookieOf_of_text (Bytes.toText?_ofText value), expires] at steps
  exact steps

end First

theorem prepare_first (scheme : String) :
    (plainState scheme).prepare (.ofRequest [cookieLine []]) visitTime =
      .ok (⟨.cookie (amongCookies scheme).cookie .default, plainSessions.holding (visitData 0),
        false⟩, 0) := by
  have selected : Transport.select (plainState scheme).config (.ofRequest [cookieLine []]) =
      .ok (.cookie (amongCookies scheme).cookie .default) := by
    refine bind_eq_ok.mpr ⟨"cookie", headerName_amongCookies scheme, ?_⟩
    exact bind_eq_ok.mpr ⟨_, policy_amongCookies scheme, rfl⟩
  have recent : (plainSessions.holding (visitData 0)).refreshRequiredAt visitTime = false := by
    decide
  exact SessionState.prepare_of_recent
    (SessionState.establish_of_absent createAt_visitTime selected rfl) recent

theorem presentable_visitCookie {value : String} (plain : PlainValue value) :
    Presentable (visitCookie value).line := by
  refine Transport.presentable_cookie (by decide) plain (by decide) ?_ _ _
  exact Transport.presentable_domain? (by decide) fun _ h carried => by cases carried

/-- The client's session comes first among the cookies of its second visit, so that the scheme in
front of a token may be the one that this session is in. -/
theorem token?_second {value token given : String} (plain : PlainValue value)
    (plain' : PlainValue token) (plainGiven : PlainValue (given ++ "=")) :
    let own := "_cachet" ++ "=" ++ value
    let scheme := "_cachet" ++ "=" ++ token ++ ";"
    let exchange := Exchange.ofRequest [cookieLine [own, given ++ "="]]
    let transport := Transport.ofHeader "cookie" (some scheme)
    Transport.select (amongCookies scheme) exchange = .ok transport ∧
      transport.token? exchange =
        if Text.sameIgnoringCase (own ++ ";") scheme then some (Bytes.ofText (given ++ "="))
        else none := by
  intro own scheme exchange transport
  let text := "; ".intercalate [own, given ++ "="]
  have visible {value : String} (plain : PlainValue value) :
      ∀ c ∈ ("_cachet" ++ "=" ++ value).toList, Text.isBlank c = false := by
    have name : ("_cachet" ++ "=").toList.all (!Text.isBlank ·) = true := by decide
    rw [String.toList_append]
    exact List.forall_mem_append.mpr
      ⟨fun c member => Bool.not_eq_true' _ |>.mp (List.all_eq_true.mp name c member),
        fun c member => (plain.chars c member).1⟩
  have carried : exchange.header? "cookie" = some text := by
    have last : (Bytes.ofText (given ++ "=")).all isVisible = true :=
      List.all_eq_true.mpr fun b member =>
        isVisible_of_range (plainGiven b member).1 (plainGiven b member).2.1
    have between : (Bytes.ofText "; ").all isVisible = true := by decide
    have first : (Bytes.ofText own).all isVisible = true := isVisible_pair (by decide) plain
    have pieces : Bytes.ofText text =
        Bytes.ofText own ++ (Bytes.ofText "; " ++ Bytes.ofText (given ++ "=")) := by
      show Bytes.ofText ("; ".intercalate [own, given ++ "="]) = _
      rw [intercalate_cons_cons, intercalate_singleton, Bytes.ofText_append own,
        Bytes.ofText_append "; "]
    refine Transport.header?_of_single _ ?_
    rw [pieces, List.all_append, List.all_append, first, between, last]
    rfl
  have marked {text : String} (mark : '_' ∈ text.toList) : Text.isBlankText text = false :=
    List.all_eq_false.mpr ⟨'_', mark, by decide⟩
  have kept : (some scheme).filter (!Text.isBlankText ·) = some scheme := by
    rw [Option.filter_some, marked (by simp [scheme])]
    rfl
  constructor
  · refine Transport.select_of_present (headerName_amongCookies scheme) carried (marked ?_)
    simp [text, own]
  · have filled : given ++ "=" ≠ "" := by simp
    have found := Transport.headerToken?_of_whole_cookie (visible plain)
      (fun c member => (plainGiven.chars c member).1) filled (visible plain')
    have steps : transport.token? exchange =
        (Transport.headerToken? (some scheme) text).map Bytes.ofText := by
      show (Transport.ofHeader "cookie" (some scheme)).token? exchange = _
      rw [Transport.ofHeader, Transport.token?, carried, kept, Option.bind_some]
    rw [steps, found]
    split <;> rfl

/-- The token of the older session brings it back. -/
theorem load_older {source : Entropy} {token : Bytes}
    (saved : ((Backend.sealed plainCodec).save olderData).outcome source = .ok token) :
    (Backend.sealed plainCodec).load token = .ok olderData := by
  have opens (nonce content : Bytes) : plainCodec.sealer.Opens nonce content :=
    Crypto.XChaCha20Poly1305.opens _ nonce content
  have shown : (Backend.sealed plainCodec).precise olderData = olderData :=
    Backend.precise_eq_iff.mpr ⟨.inl (by decide), .inl (by decide)⟩
  rw [Backend.load_of_save_sealed opens (fun _ entry member => by cases member)
    (fun lz4 => by cases lz4) saved, shown]

namespace World

variable {world : World Bool} {client : Bool} (scheme given : String)

section First

variable {nonce : Bytes} (drawn : (world.entropy.draw 24).1 = some nonce)
  (first : world.jar client = []) {value : String} (plain : PlainValue value)
  (written : Bytes.ofText value = plainCodec.token nonce (visitData 1))

include drawn first plain written

theorem serve_first :
    let served :=
      world.serve (givingApplication given) (plainState scheme) (swappingVisit client)
    served.1.cookies = [bareCookie given, visitCookie value] ∧
      served.2.entropy = (world.entropy.draw 24).2 := by
  let exchange := Exchange.ofRequest [cookieLine []]
  let left := plainSessions.holding (visitData 1)
  let serving : Serving :=
    { entropy := world.entropy, clock := visitTime, clock_shown := by decide }
  let after : Serving := { serving with current := some ⟨left, false⟩ }
  let handler : Handler := fun _ _ _ _ _ => ⟨[.work .touch], [], 200, [bareCookie given], []⟩
  let answer : Response Seen := ⟨200, .content ⟨some (visitData 0), []⟩, [bareCookie given], []⟩
  have handled : (handling handler (cookieRequest [])).run
      { serving with current := some ⟨plainSessions.holding (visitData 0), false⟩ } =
        (answer, after) := rfl
  -- The handler has touched the session, so the layer saves it beside the cookie of the handler.
  have advanced : (false || left.header.nonce != 0) = true := by decide
  have saved : ((Transport.cookie (amongCookies scheme).cookie .default).save exchange
      left).run.run after.entropy =
        (.ok (exchange.setCookie (visitCookie value)), (world.entropy.draw 24).2) :=
    run_save_visit drawn written scheme
  have delivered : deliver answer (.ok (exchange.setCookie (visitCookie value))) =
      { answer with cookies := [bareCookie given, visitCookie value] } :=
    deliver_of_presentable fun cookie member => by
      cases List.mem_singleton.mp member
      exact presentable_visitCookie plain
  have ready : (plainState scheme).prepare
      (.ofRequest (cookieRequest []).headers (cookieRequest []).uri.authority?) serving.clock = _ :=
    prepare_first scheme
  have served : (sessionLayer (plainState scheme) (handling handler) (cookieRequest [])).run
      serving = ({ answer with cookies := [bareCookie given, visitCookie value] },
        { after with entropy := (world.entropy.draw 24).2 }) := by
    rw [run_sessionLayer, ready]
    simp only [handled]
    rw [run_conclude rfl rfl, if_pos advanced]
    have steps : (let saved := ((Transport.cookie (amongCookies scheme).cookie .default).save
          exchange left).run.run after.entropy
        (deliver answer saved.1, { after with entropy := saved.2 })) =
        (deliver answer (.ok (exchange.setCookie (visitCookie value))),
          { after with entropy := (world.entropy.draw 24).2 }) := by
      rw [saved]
    exact steps.trans (by rw [delivered])
  -- Nothing has been given to the client yet, so it sends an empty line of cookies.
  have empty : world.jar (swappingVisit client).client = [] := first
  have routed : world.serve (givingApplication given) (plainState scheme) (swappingVisit client) =
      (sessionLayer (plainState scheme) (handling handler) (cookieRequest [])).run serving := by
    unfold serve Visit.request
    rw [empty]
    rfl
  rw [routed, served]
  exact ⟨rfl, rfl⟩

/-- A first visit draws one nonce, and leaves the client with a cookie and with its session. -/
theorem next_first :
    world.next (givingApplication given) (plainState scheme) (swappingVisit client) =
      ⟨(world.entropy.draw 24).2,
        Function.update world.jar client [bareCookie given, visitCookie value]⟩ := by
  obtain ⟨cookies, left⟩ := serve_first scheme given drawn first plain written
  have empty : world.jar (swappingVisit client).client = [] := first
  simp only [next, cookies, left, empty]
  rfl

end First

/-- A client that comes back is found the session in its other cookie if the scheme is the one with
its session; otherwise it is found none. -/
theorem found_second {value token : String} (jar : world.jar client =
      [bareCookie given, visitCookie value]) (plain : PlainValue value) (plain' : PlainValue token)
    {source : Entropy} (saved : ((Backend.sealed plainCodec).save olderData).outcome source =
      .ok (Bytes.ofText (given ++ "="))) :
    let own := "_cachet" ++ "=" ++ value
    let scheme := "_cachet" ++ "=" ++ token
    (world.outcome (givingApplication given) (plainState (scheme ++ ";"))
      (swappingVisit client)).found =
        .ok (if Text.sameIgnoringCase (own ++ ";") (scheme ++ ";") then olderData
          else visitData 0) := by
  intro own scheme
  let exchange := Exchange.ofRequest [cookieLine [own, given ++ "="]]
  have plainGiven : PlainValue (given ++ "=") :=
    Backend.plain_of_save (show (Backend.sealed plainCodec).EmitsText from rfl) saved
  obtain ⟨selected, token⟩ := token?_second plain plain' plainGiven
  have sent : (swappingVisit client).request (world.jar client) =
      cookieRequest [own, given ++ "="] := by
    rw [jar]
    show cookieRequest [own, given ++ "=" ++ ""] = _
    rw [String.append_empty]
  have found : (world.outcome (givingApplication given) (plainState (scheme ++ ";"))
      (swappingVisit client)).found =
        ((plainState (scheme ++ ";")).prepare exchange visitTime).map (·.1.session.data) := by
    have sent : (swappingVisit client).request (world.jar (swappingVisit client).client) = _ := sent
    unfold outcome
    rw [sent]
    rfl
  rw [found]
  -- The two cases of the claim: the other cookie is the token of the older session, or there is
  -- no token and the session is a fresh one.
  by_cases whole : Text.sameIgnoringCase (own ++ ";") (scheme ++ ";") = true
  · rw [if_pos whole] at token ⊢
    have admitted : plainSessions.Admits visitTime olderData :=
      ⟨by decide, by decide, by decide, List.forall_mem_nil _⟩
    have recent : (plainSessions.holding olderData).refreshRequiredAt visitTime = false := by decide
    have established : (plainState (scheme ++ ";")).establish exchange visitTime = .ok _ :=
      SessionState.establish_of_admitted createAt_visitTime selected token (load_older saved)
        admitted
    rw [SessionState.prepare_of_recent established recent]
    rfl
  · rw [if_neg whole] at token ⊢
    have recent : (plainSessions.holding (visitData 0)).refreshRequiredAt visitTime = false := by
      decide
    have established : (plainState (scheme ++ ";")).establish exchange visitTime = .ok _ :=
      SessionState.establish_of_absent createAt_visitTime selected token
    rw [SessionState.prepare_of_recent established recent]
    rfl

end World

/-- What a token begins with tells which byte its nonce is made of. -/
theorem toList_of_token {value : String} {b : UInt8} {data : Data}
    (plain : PlainValue value)
    (written : Bytes.ofText value = plainCodec.token (List.replicate 24 b) data) :
    ∃ rest, value.toList = Char.ofNat (Base64.urlSafe.alphabet.symbol
      ((b.toNat * 65536 + b.toNat * 256 + b.toNat) / 262144)).toNat :: rest := by
  have ascii : ∀ b ∈ Bytes.ofText value, b < 128 := fun b member =>
    UInt8.lt_trans (plain b member).2.1 (by decide)
  rw [toList_of_ascii ascii, written]
  exact ⟨_, congrArg (List.map _) (Base64.encode_group Base64.urlSafe b b b _)⟩

/-- **A whole cookie for a scheme.** The one transport that is left out tells the runs apart. Here
the scheme is the cookie that brings the client its session when it is alone, so that with its next
visit the session in its other cookie is found. When another client has drawn before, its session
travels in another token, and for the same visit none is found. -/
theorem Application.cookie_scheme_parts_runs : ∃ scheme given : String,
    let unsigned : Bytes → Option Bytes := fun _ => none
    let own := [(swappingVisit true, unsigned), (swappingVisit true, unsigned)]
    let mixed := (swappingVisit false, unsigned) :: own
    let state : SessionState := ⟨plainSessions.withOptions [], amongCookies scheme⟩
    let world : World Bool := ⟨{ stream := fun i => if i < 24 then 0 else 255 }, fun _ => []⟩
    Sessions.ofConfig (amongCookies scheme) (fun _ => .error "") = .ok plainSessions ∧
      ¬ List.Forall₂ (AlikeOutcome plainSessions.factory.backend "_cachet")
        (((world.outcomes (givingApplication given) state mixed).filter (·.1 = true)).map (·.2))
        ((world.outcomes (givingApplication given) state own).map (·.2)) := by
  let source : Entropy := { stream := fun i => if i < 24 then 0 else 255 }
  obtain ⟨given, same⟩ := exists_given (List.replicate 24 0) rfl
  obtain ⟨value, plain, written⟩ := plainValue_token (List.replicate 24 0) (visitData 1)
  obtain ⟨value', plain', written'⟩ := plainValue_token (List.replicate 24 255) (visitData 1)
  have drawn : (source.draw 24).1 = some (List.replicate 24 0) := by rfl
  have saved : ((Backend.sealed plainCodec).save olderData).outcome source =
      .ok (Bytes.ofText (given ++ "=")) :=
    (congrArg Prod.fst (run_save_plain drawn olderData)).trans (congrArg Except.ok same.symm)
  let scheme := "_cachet" ++ "=" ++ value ++ ";"
  refine ⟨scheme, given, ofConfig_amongCookies scheme, fun alike => ?_⟩
  let application := givingApplication given
  let world : World Bool := ⟨source, fun _ => []⟩
  let other := world.next application (plainState scheme) (swappingVisit false)
  let mixed := other.next application (plainState scheme) (swappingVisit true)
  let alone := world.next application (plainState scheme) (swappingVisit true)
  -- The first visit of the client comes to the same, but not the second.
  have last : (mixed.outcome application (plainState scheme) (swappingVisit true)).found =
      (alone.outcome application (plainState scheme) (swappingVisit true)).found := by
    cases alike with
    | cons _ rest =>
      cases rest with
      | cons last _ => exact last.found
  have left : alone.jar true = [bareCookie given, visitCookie value] := by
    have after : alone = _ := World.next_first scheme given drawn rfl plain written
    rw [after]
    simp only [Function.update_self]
  have left' : mixed.jar true = [bareCookie given, visitCookie value'] := by
    have before : other = _ := World.next_first scheme given drawn rfl plain written
    have drawn' : (other.entropy.draw 24).1 = some (List.replicate 24 255) := by rw [before]; rfl
    have first : other.jar true = [] := by
      rw [before]
      simp only [ne_eq, Bool.true_eq_false, not_false_eq_true, Function.update_of_ne]
      rfl
    have after : mixed = _ := World.next_first scheme given drawn' first plain' written'
    rw [after]
    simp only [Function.update_self]
  -- The two session tokens differ in their first character already, whatever the case.
  have foreign : Text.sameIgnoringCase ("_cachet" ++ "=" ++ value' ++ ";") scheme = false := by
    obtain ⟨rest, begins⟩ := toList_of_token plain written
    obtain ⟨rest', begins'⟩ := toList_of_token plain' written'
    have first : (Char.ofNat (Base64.urlSafe.alphabet.symbol 0).toNat).toLower = 'a' := by decide
    have first' : (Char.ofNat (Base64.urlSafe.alphabet.symbol 63).toNat).toLower = '_' := by decide
    simp [Text.sameIgnoringCase, scheme, begins, begins', first, first']
  have itself : Text.sameIgnoringCase scheme scheme = true := beq_self_eq_true _
  have found : (mixed.outcome application (plainState scheme) (swappingVisit true)).found = _ :=
    World.found_second given left' plain' plain saved
  have found' : (alone.outcome application (plainState scheme) (swappingVisit true)).found = _ :=
    World.found_second given left plain plain saved
  rw [foreign] at found
  rw [itself] at found'
  rw [found, found'] at last
  -- The nonces of a fresh session and of the older one.
  have nonces : (0 : UInt64) = 128 := congrArg (·.header.nonce) (Except.ok.inj last)
  exact absurd nonces (by decide)

end Http

end SealedTokens
