import SealedTokens.Http.Layer
import SealedTokens.Proofs.CsrfValidation
import SealedTokens.Proofs.EncodedTexts
/-!
# The guard against forged requests

A service behind the guard runs for a protected request only if the request proves itself: the
first of its query pairs under the issuer's parameter is a token that was signed for the caller's
address and for the target as the client sent it, and the clock stands inside the token's window.

## Main results

- `Csrf.check_eq_ok_iff`: what a valid request has proven
- `Csrf.isRejection_of_check`: any other request is itself at fault
- `Http.csrfLayer_guards`: the guard, behind any routes and below any mounts

## Proof strategy

Routes change the target that a service sees, but not the one that was received, so the request
behind them is checked as the one before. The check is then settled by `Csrf.verdict`, which is what
becomes of the token of a call, and by the codec, which answers for any other token.
-/
namespace SealedTokens

/-! ### What a request proves -/

namespace Csrf

/-- The request carries a token that one of the calls signed for its caller and for its target, and
the clock stands in the window that the token names. -/
def Proven (csrf : Csrf) (calls : List TimedCall) (clock : Instant) (request : Http.Request) :
    Prop :=
  ∃ source token call, realAddress request.headers request.peer = some source ∧
    CsrfTarget.token? request.received csrf.parameter = some token ∧
    call ∈ calls ∧ csrf.Answers call (Text.trim token) ∧ call.source = source.text ∧
    call.subject = CsrfTarget.subject request.received csrf.parameter ∧ call.now.shown < clock ∧
    ∃ stop, windowEnd call.now call.ttl = .ok stop ∧ clock < stop.shown

/-- No two messages in play for the request have one digest. -/
def Distinct (csrf : Csrf) (calls : List TimedCall) (request : Http.Request) : Prop :=
  ∀ source, realAddress request.headers request.peer = some source →
    Set.InjOn Crypto.Sha256.digest
      (inPlay (calls.map (·.toSignCall)) source.text
        (CsrfTarget.subject request.received csrf.parameter))

/-- The check of a request. -/
def check (csrf : Csrf) (clock : Instant) (request : Http.Request) : Except CsrfError Unit :=
  csrf.validateRequest clock request.headers request.received request.peer

theorem check_of_address {csrf : Csrf} {clock : Instant} {request : Http.Request}
    {source : Http.IpAddress} {token : String}
    (address : realAddress request.headers request.peer = some source)
    (carried : CsrfTarget.token? request.received csrf.parameter = some token) :
    csrf.check clock request = csrf.validateAt clock source.text
      (CsrfTarget.subject request.received csrf.parameter) token clock := by
  simp only [check, validateRequest, validateUrlAt, address, carried]

/-- A request is checked by its address and its token, or lacks one of the two. -/
theorem check_cases (csrf : Csrf) (clock : Instant) (request : Http.Request) :
    (∃ source token, realAddress request.headers request.peer = some source ∧
      CsrfTarget.token? request.received csrf.parameter = some token) ∨
    ∃ e, csrf.check clock request = .error e ∧ e.isRejection = true := by
  unfold check validateRequest
  cases realAddress request.headers request.peer with
  | none => exact .inr ⟨_, rfl, rfl⟩
  | some source =>
    unfold validateUrlAt
    cases CsrfTarget.token? request.received csrf.parameter with
    | none => exact .inr ⟨_, rfl, rfl⟩
    | some token => exact .inl ⟨source, token, rfl, rfl⟩

theorem isRejection_of_checkBinding {container : Container} {source subject : String}
    {e : CsrfError} (refused : checkBinding container source subject = .error e) :
    e.isRejection = true := by
  unfold checkBinding at refused
  obtain failed | ⟨_, -, failed⟩ := bind_eq_error.mp refused
  all_goals
    simp only at failed
    split at failed <;> cases failed
    rfl

theorem isRejection_of_validate {container : Container} {now : Instant} {e : CsrfError}
    (refused : CsrfError.lift (container.validate now) = .error e) : e.isRejection = true := by
  unfold Container.validate Header.validate at refused
  repeat' split at refused
  all_goals
    cases refused
    try rfl

section Checks

variable {csrf : Csrf} {cipher : Crypto.Cipher} {calls : List TimedCall} {clock stop : Instant}

/-- Inside the calendar, a token that is not valid is the fault of who sent it. -/
theorem isRejection_of_validateAt (backend : csrf.factory.backend = .sealed (stack cipher))
    (inCalendar : windowEnd clock csrf.ttl = .ok stop) {source subject token : String}
    {now : Instant} {e : CsrfError}
    (refused : csrf.validateAt clock source subject token now = .error e) :
    e.isRejection = true := by
  -- The step that failed: the reading, the window or the checksums.
  obtain reading | ⟨container, -, refused⟩ := bind_eq_error.mp refused
  · rw [unpack_eq backend inCalendar] at reading
    cases read : ((stack cipher).decode (Bytes.ofText (Text.trim token)) :
      Except ContainerError Data) with
    | ok data =>
      rw [read] at reading
      cases reading
    | error e' =>
      rw [read] at reading
      cases reading
      have readable := Codec.isFormatOrDecrypt_of_decode read
      simp only [CsrfError.isRejection, ContainerError.isRecoverable, readable, Bool.true_or]
  obtain window | ⟨_, -, checksums⟩ := bind_eq_error.mp refused
  · exact isRejection_of_validate window
  · exact isRejection_of_checkBinding checksums

/-- Inside the calendar, a request that is not valid is itself at fault. -/
theorem isRejection_of_check (backend : csrf.factory.backend = .sealed (stack cipher))
    (inCalendar : windowEnd clock csrf.ttl = .ok stop) {request : Http.Request} {e : CsrfError}
    (refused : csrf.check clock request = .error e) : e.isRejection = true := by
  obtain ⟨source, token, address, carried⟩ | ⟨e', refused', rejection⟩ :=
    check_cases csrf clock request
  · rw [check_of_address address carried] at refused
    exact isRejection_of_validateAt backend inCalendar refused
  · cases refused.symm.trans refused'
    exact rejection

/-- A request is valid exactly if it has proven itself. -/
theorem check_eq_ok_iff (backend : csrf.factory.backend = .sealed (stack cipher))
    (ideal : cipher.Ideal (Container.seals (csrf.saves calls)))
    (inCalendar : windowEnd clock csrf.ttl = .ok stop) {request : Http.Request}
    (distinct : csrf.Distinct calls request) :
    csrf.check clock request = .ok () ↔ csrf.Proven calls clock request := by
  constructor
  · intro valid
    obtain ⟨source, token, address, carried⟩ | ⟨e, refused, -⟩ := check_cases csrf clock request
    · rw [check_of_address address carried] at valid
      -- What is valid was signed by a call, and then the verdict on this call is that it is valid.
      obtain ⟨call, member, signed⟩ :=
        signs_of_validateAt backend ideal.toAuthentic inCalendar valid
      obtain ⟨nonce, left, stop', -, ends, same⟩ := validateAt_of_signs backend ideal inCalendar
        (distinct source address) member signed clock
      rw [same] at valid
      obtain ⟨sourceSame, subjectSame, begun, open'⟩ := verdict_eq_ok.mp valid
      exact ⟨source, token, call, address, carried, member, signed, sourceSame, subjectSame, begun,
        stop', ends, open'⟩
    · rw [valid] at refused
      cases refused
  · rintro ⟨source, token, call, address, carried, member, signed, sourceSame, subjectSame, begun,
      stop', ends, open'⟩
    obtain ⟨nonce, left, stop'', -, ends', same⟩ := validateAt_of_signs backend ideal inCalendar
      (distinct source address) member signed clock
    cases ends.symm.trans ends'
    rw [check_of_address address carried, same]
    exact verdict_eq_ok.mpr ⟨sourceSame, subjectSame, begun, open'⟩

end Checks

end Csrf

/-! ### Below mounts -/

namespace Http

/-- How a router leads paths to what it serves, and what it leaves of them: below a prefix, for
instance (`Mount.below?`). -/
abbrev Route := List Char → Option (List Char)

/-- The request that a service behind a route sees, if the route leads there. -/
def Request.below? (request : Request) (route : Route) : Option Request :=
  (route request.uri.path).map fun path =>
    { request with uri := { request.uri with target := { request.uri.target with path } } }

/-- The request that a service sees behind several routes, the outermost first. -/
def Request.inside? (request : Request) (routes : List Route) : Option Request :=
  routes.foldlM Request.below? request

/-- A service behind several routes, the outermost first. -/
def mountedAt {α : Type} (routes : List Route) (service : Service α) : Service α :=
  routes.foldr mounted service

section Mounts

variable {α : Type}

theorem mounted_eq (route : Route) (service : Service α) (request : Request) :
    mounted route service request =
      match request.below? route with
      | some inner => service inner
      | none => pure notFound := by
  unfold mounted Request.below?
  cases route request.uri.path <;> rfl

theorem mountedAt_eq (routes : List Route) (service : Service α) (request : Request) :
    mountedAt routes service request =
      match request.inside? routes with
      | some inner => service inner
      | none => pure notFound := by
  induction routes generalizing request with
  | nil => rfl
  | cons route routes ih =>
    have outer := mounted_eq route (mountedAt routes service) request
    refine outer.trans ?_
    unfold Request.inside?
    rw [List.foldlM_cons]
    cases request.below? route with
    | none => rfl
    | some inner => exact ih inner

/-- Routes leave alone what a request is checked by: only the path that the service sees is cut. -/
theorem inside?_eq_some {routes : List Route} {request inner : Request}
    (inside : request.inside? routes = some inner) :
    ∃ uri, inner = { request with uri } := by
  induction routes generalizing request with
  | nil =>
    cases inside
    exact ⟨inner.uri, rfl⟩
  | cons route routes ih =>
    unfold Request.inside? at inside
    rw [List.foldlM_cons] at inside
    obtain ⟨next, below, inside⟩ := Option.bind_eq_some_iff.mp inside
    obtain ⟨path, -, rfl⟩ := Option.map_eq_some_iff.mp below
    obtain ⟨uri, rfl⟩ := ih inside
    exact ⟨uri, rfl⟩

end Mounts

end Http

/-! ### One token -/

namespace CsrfTarget

open Http

/-- A target without pairs of its own is bound as its path. -/
theorem subject_of_no_pairs {path : String} {query : Option (List Char)} {parameter : String}
    (nonempty : path.toList.isEmpty = false)
    (others : otherPairs { target := ⟨path.toList, query⟩ } parameter = []) :
    subject { target := ⟨path.toList, query⟩ } parameter = path := by
  have whole : CsrfTarget.path { target := ⟨path.toList, query⟩ } = path.toList := by
    simp only [CsrfTarget.path, Uri.path, nonempty, Bool.false_and, Bool.false_eq_true, ite_false]
  rw [subject, others, whole, sorted, List.mergeSort_nil]
  exact String.ofList_toList

/-- A query that is a token alone carries the token and no pairs beside it. -/
theorem of_lone_token (path : List Char) {bytes : Bytes}
    (plain : ∀ b ∈ bytes, b < 128 ∧ b ≠ 37 ∧ b ≠ 38 ∧ b ≠ 43) :
    let uri : Uri := { target := ⟨path, some ("csrf=" ++ Bytes.asciiText bytes).toList⟩ }
    token? uri "csrf" = some (Bytes.asciiText bytes) ∧ otherPairs uri "csrf" = [] := by
  intro uri
  let name := Bytes.ofAscii "csrf"
  have named : ∀ b ∈ name, b < 128 ∧ b ≠ 37 ∧ b ≠ 38 ∧ b ≠ 43 ∧ b ≠ 61 := by
    show ∀ b ∈ [99, 115, 114, 102], b < 128 ∧ b ≠ 37 ∧ b ≠ 38 ∧ b ≠ 43 ∧ b ≠ 61
    simp
  have written : Bytes.ofText ("csrf=" ++ Bytes.asciiText bytes) = name ++ 61 :: bytes := by
    rw [Bytes.ofText_append, Bytes.ofText_asciiText fun b member => (plain b member).1]
    rfl
  -- There is no ampersand, so the query is one pair.
  have whole : (name ++ 61 :: bytes).splitOn 38 = [name ++ 61 :: bytes] := by
    refine List.splitOnP_eq_singleton fun b member => beq_false_of_ne ?_
    rcases List.mem_append.mp member with member | member
    · exact (named b member).2.2.1
    · rcases List.mem_cons.mp member with rfl | member
      · decide
      · exact (plain b member).2.2.1
  have stops : Stops (fun b : UInt8 => decide (b ≠ 61)) (61 :: bytes) := .cons (by decide)
  have before : ∀ b ∈ name, decide (b ≠ 61) = true := fun b member =>
    decide_eq_true (named b member).2.2.2.2
  have pair : Form.decodePair (name ++ 61 :: bytes) = ("csrf", Bytes.asciiText bytes) := by
    have nameText : Form.decode name = "csrf" := by
      rw [Form.decode_plain fun b member =>
        ⟨(named b member).1, (named b member).2.1, (named b member).2.2.2.1⟩]
      decide
    have tokenText : Form.decode bytes = Bytes.asciiText bytes :=
      Form.decode_plain fun b member => ⟨(plain b member).1, (plain b member).2.1,
        (plain b member).2.2.2⟩
    rw [Form.decodePair, takeWhile_run before stops, dropWhile_run before stops, nameText,
      List.drop_succ_cons, List.drop_zero, tokenText]
  have pairs : queryPairs uri = [("csrf", Bytes.asciiText bytes)] := by
    simp only [queryPairs, uri, String.ofList_toList, written, Form.decodePairs, whole]
    rw [List.filter_cons_of_pos (by simp), List.filter_nil, List.map_singleton, pair]
  constructor
  · rw [token?, pairs]
    rfl
  · rw [otherPairs, pairs]
    rfl

end CsrfTarget

/-! ### The guard -/

namespace Http

/-- The fixed answer to a request that has not proven itself. -/
def forbidden {α : Type} : Response α :=
  ⟨400, .text "CSRF token validation failed", [], textHeaders⟩

section Guard

variable {α : Type} {csrf : Csrf}

theorem response_ofCsrf {e : CsrfError} (rejection : e.isRejection = true) :
    ((LayerError.ofCsrf e).response : Response α) = forbidden := by
  have own : (LayerError.ofCsrf e).isRejection = true := rejection
  simp only [LayerError.response, LayerError.status, LayerError.body, own, ite_true, forbidden]

/-- Behind the guard, a service runs for a request that needs no token or has a valid one. -/
theorem run_csrfLayer (csrf : Csrf) (service : Service α) (request : Request) (serving : Serving) :
    (csrfLayer csrf service request).run serving =
      match (if csrf.protects request.method then csrf.check serving.clock request else .ok ()) with
      | .error e => ((LayerError.ofCsrf e).response, serving)
      | .ok () => (service request).run { serving with csrf := some csrf } := by
  unfold csrfLayer Csrf.check
  rw [StateT.run_bind, StateT.run_get, pure_bind]
  simp only
  generalize (if csrf.protects request.method then
    csrf.validateRequest serving.clock request.headers request.received request.peer
    else .ok ()) = checked
  cases checked <;> rfl

/-- **The guard.** Behind any routes, behind the guard, with any serving state: whatever was served
before is in that state, and what the service does is arbitrary. A request that the routes do not
lead to the guard is not found. A protected request that has not proven itself gets the fixed
answer, and the service does not run. Every other request is given to the service.

- `cipher`: stands for the cipher of the issuer's key, which is taken to be ideal
- `calls`: everything that was ever signed under the key
- `routes`: how the guard is mounted, under whatever prefixes (`Mount.below?`) or otherwise
- `ideal`: what decrypts is what was sealed in these calls, so nothing else uses the key
- `inCalendar`: a window that starts now ends inside the calendar
- `distinct`: the digests of the messages in play do not collide -/
theorem csrfLayer_guards {config : CsrfConfig} {files : Files} {issuer : Csrf}
    (built : Csrf.ofConfig config files = .ok issuer) (cipher : Crypto.Cipher)
    (calls : List TimedCall)
    (ideal : cipher.Ideal (Container.seals ((issuer.withCipher cipher).saves calls)))
    (routes : List Route) (service : Service α) (request : Request) (serving : Serving)
    (inCalendar : ∃ stop, windowEnd serving.clock issuer.ttl = .ok stop)
    (distinct : issuer.Distinct calls request) :
    let guard := issuer.withCipher cipher
    let served := (mountedAt routes (csrfLayer guard service) request).run serving
    (request.inside? routes = none → served = (notFound, serving)) ∧
    ∀ inner, request.inside? routes = some inner →
      (guard.protects request.method = true → ¬ guard.Proven calls serving.clock request →
        served = (forbidden, serving)) ∧
      (guard.protects request.method = false ∨ guard.Proven calls serving.clock request →
        served = (service inner).run { serving with csrf := some guard }) := by
  intro guard served
  obtain ⟨stop, inCalendar⟩ := inCalendar
  have backend := Csrf.backend_withCipher built cipher
  have valid := Csrf.check_eq_ok_iff backend ideal inCalendar distinct
  have answer : served = (match request.inside? routes with
      | some inner => csrfLayer guard service inner
      | none => pure notFound).run serving := by
    rw [← mountedAt_eq]
  refine ⟨fun outside => ?_, fun inner inside => ?_⟩
  · rw [answer, outside]
    rfl
  rw [answer, inside]
  -- The guard reads the method, the headers, the peer and the target as it was received.
  obtain ⟨uri, rfl⟩ := inside?_eq_some inside
  have same : guard.check serving.clock { request with uri } = guard.check serving.clock request :=
    rfl
  rw [run_csrfLayer, same]
  constructor
  · intro needed unproven
    have needed : guard.protects ({ request with uri } : Request).method = true := needed
    rw [if_pos needed]
    cases checked : guard.check serving.clock request with
    | ok _ => exact absurd (valid.mp checked) unproven
    | error e =>
      have rejection := Csrf.isRejection_of_check backend inCalendar checked
      exact congrArg (·, serving) (response_ofCsrf rejection)
  · intro admitted
    have passed : (if guard.protects ({ request with uri } : Request).method = true then
        guard.check serving.clock request else .ok ()) = .ok () := by
      split
      next needed =>
        rcases admitted with free | proven
        · exact absurd needed (Bool.eq_false_iff.mp free)
        · exact valid.mpr proven
      next => rfl
    rw [passed]

end Guard

/-- A form below a capture: it is served with the token that was signed for it, and not without. -/
theorem csrfLayer_guards_form :
    let path := "/app/form"
    let page : Service Nat := fun _ => return ⟨200, .content 7, [], []⟩
    let serving : Serving := ⟨.repeating [0], ⟨1, 0, by decide, by decide⟩, by decide, none, none⟩
    let routes : List Route := [Mount.below? "/\x7btenant\x7d".toList]
    let post (query : Option (List Char)) : Request :=
      { method := "POST", uri := { target := ⟨path.toList, query⟩ }, peer := some (.v4 127 0 0 1) }
    ∃ cipher token,
      (Csrf.keyedIssuer.withCipher cipher).Signs (Csrf.zeroCall "127.0.0.1" path) token ∧
      let served (request : Request) : Response Nat := ((mountedAt routes
        (csrfLayer (Csrf.keyedIssuer.withCipher cipher) page) request).run serving).1
      served (post (some ("csrf=" ++ token).toList)) = ⟨200, .content 7, [], []⟩ ∧
        served (post none) = forbidden := by
  intro path page serving routes post
  have ends : windowEnd .epoch Csrf.keyedIssuer.ttl =
      .ok ⟨21600, 0, by decide, by decide⟩ := by decide
  let call : TimedCall := ⟨Csrf.zeroCall "127.0.0.1" path, Csrf.keyedIssuer.ttl⟩
  obtain ⟨cipher, bytes, ideal, signed, plain⟩ :=
    Csrf.exists_ideal_of_one_call "127.0.0.1" path ends
  refine ⟨cipher, Bytes.asciiText bytes, signed, ?_⟩
  intro served
  have inCalendar : ∃ stop, windowEnd serving.clock Csrf.keyedIssuer.ttl = .ok stop :=
    ⟨⟨21601, 0, by decide, by decide⟩, by decide⟩
  have peer (query : Option (List Char)) :
      Csrf.realAddress (post query).headers (post query).peer = some (.v4 127 0 0 1) := rfl
  have address : (IpAddress.v4 127 0 0 1).text = "127.0.0.1" := by decide
  -- Signing hashes these two texts after its nonce, and nothing else has to be kept apart.
  have differ : Csrf.checksum (Csrf.nonceBytes 1) "127.0.0.1" ≠
      Csrf.checksum (Csrf.nonceBytes 1) path := by decide +kernel
  have needed : (Csrf.keyedIssuer.withCipher cipher).protects "POST" = true := by
    show ["POST", "PUT"].contains "POST" = true
    decide
  have nonempty : path.toList.isEmpty = false := by decide
  obtain ⟨carried, others⟩ := CsrfTarget.of_lone_token path.toList
    fun b member => ⟨UInt8.lt_trans (plain b member).2.1 (by decide), (plain b member).2.2.1,
      (plain b member).2.2.2.1, (plain b member).2.2.2.2.1⟩
  have distinct (query : Option (List Char))
      (others : CsrfTarget.otherPairs (post query).received "csrf" = []) :
      Csrf.keyedIssuer.Distinct [call] (post query) := by
    intro source found
    cases (peer query).symm.trans found
    have bound : CsrfTarget.subject (post query).received Csrf.keyedIssuer.parameter = path :=
      CsrfTarget.subject_of_no_pairs nonempty others
    rw [address, bound]
    exact Csrf.injOn_of_one_call fun _ => differ
  -- The handler sees the path below the capture, and the guard the path that was received.
  have inside (query : Option (List Char)) : (post query).inside? routes =
      some { post query with uri := { target := ⟨"/form".toList, query⟩ } } := by
    have whole : (post query).uri.path = path.toList := by
      simp only [post, Uri.path, nonempty, Bool.false_and, Bool.false_eq_true, ite_false]
    have cut : Mount.below? "/\x7btenant\x7d".toList path.toList = some "/form".toList := by
      decide
    simp only [Request.inside?, routes, List.foldlM_cons, List.foldlM_nil, Request.below?, whole,
      cut, Option.map_some]
    rfl
  constructor
  · have proven : (Csrf.keyedIssuer.withCipher cipher).Proven [call] serving.clock
        (post (some ("csrf=" ++ Bytes.asciiText bytes).toList)) := by
      refine ⟨_, Bytes.asciiText bytes, call, peer _, carried, by simp, ?_, address.symm,
        (CsrfTarget.subject_of_no_pairs nonempty others).symm, by decide,
        ⟨21600, 0, by decide, by decide⟩, ends, by decide⟩
      rw [Text.trim_asciiText fun b member => ⟨(plain b member).1, (plain b member).2.1⟩]
      exact signed
    exact congrArg Prod.fst ((csrfLayer_guards Csrf.ofConfig_keyed cipher _ ideal routes page _
      serving inCalendar (distinct _ others)).2 _ (inside _) |>.2 (.inr proven))
  · have unproven : ¬ (Csrf.keyedIssuer.withCipher cipher).Proven [call] serving.clock
        (post none) := by
      rintro ⟨_, token, _, -, carried, -⟩
      cases carried
    exact congrArg Prod.fst ((csrfLayer_guards Csrf.ofConfig_keyed cipher _ ideal routes page _
      serving inCalendar (distinct none rfl)).2 _ (inside _) |>.1 needed unproven)

end Http

end SealedTokens
