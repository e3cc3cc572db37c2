import Mathlib.Data.List.Duplicate
import Mathlib.Data.List.ReduceOption
import SealedTokens.Proofs.CsrfValidation
/-!
# Shared randomness

Containers and issuers of anti-forgery tokens draw from one source of randomness, which may fail at
any time. A save draws the nonce of its box, if it makes one. A signature draws twice, first the
nonce of its header and then the one of its box, and between the two others may draw; if its window
does not end inside the calendar, it does not come to the second. Nothing else draws, so the boxes
have the draws of their length for nonces, one each and in order.

## Main results

- `Codec.run_encode`, `Csrf.run_freshNonce`, `Csrf.run_sealUnder`: what is drawn, and what becomes
  of it
- `SharedSource.does_call`: the step, one case for each kind of call
- `SharedSource.draws_run`: what a run draws, and that its boxes have the draws of their length
- `SharedSource.draws_are_used_once`: the two together
- `Csrf.draws_once_outside_calendar`: a signature that draws once only

## Proof strategy

A call draws strings of certain lengths, which are known beforehand (`SharedSource.lengths`). The
step says what becomes of each of them (`SharedSource.Does`). From it, a run is followed call by
call.
-/
namespace SealedTokens

/-! ### Draws -/

namespace Entropy

/-- Draws of some lengths in order, each with its answer. -/
def drawEach : List Nat → Entropy → List (Option Bytes) × Entropy
  | [], source => ([], source)
  | length :: lengths, source =>
    let (answer, next) := source.draw length
    let (answers, last) := drawEach lengths next
    (answer :: answers, last)

theorem drawEach_append (lengths more : List Nat) (source : Entropy) :
    drawEach (lengths ++ more) source =
      ((drawEach lengths source).1 ++ (drawEach more (drawEach lengths source).2).1,
        (drawEach more (drawEach lengths source).2).2) := by
  induction lengths generalizing source with
  | nil => rfl
  | cons length lengths ih => simp only [List.cons_append, drawEach, ih]

theorem drawEach_singleton (length : Nat) (source : Entropy) :
    drawEach [length] source = ([(source.draw length).1], (source.draw length).2) := rfl

end Entropy

/-- An error for want of something that should be there, randomness for one. -/
def ContainerError.IsInternal (e : ContainerError) : Prop := ∃ message, e.cause = .internal message

/-- What has been drawn is given to what follows; without it, there is an internal error. -/
theorem Entropy.run_fill_bind {α : Type} (length : Nat) (next : Bytes → Drawing ContainerError α)
    (source : Entropy) : (fill length >>= next).run.run source =
      match source.draw length with
      | (some bytes, left) => (next bytes).run.run left
      | (none, left) => (.error (.internal "rng unavailable"), left) := by
  rw [Drawing.run_bind, run_fill]
  rcases source.draw length with ⟨_ | bytes, left⟩ <;> rfl

/-! ### What is drawn -/

/-- A box starts with its nonce. -/
theorem Sealer.take_box {sealer : Sealer} {cipher : Crypto.Cipher}
    (seals : sealer = .secretBox cipher) {nonce : Bytes} (whole : nonce.length = 24)
    (content : Bytes) : (sealer.box nonce content).take 24 = nonce := by
  rw [seals, box, List.append_assoc, ← whole, List.take_left]

namespace Codec

/-- Encoding draws the nonce of its box, if it makes one. -/
theorem run_encode (codec : Codec) (data : Data) (source : Entropy) :
    (codec.encode data).run.run source =
      match codec.sealer with
      | .nop => (.ok (codec.token [] data), source)
      | .secretBox _ =>
        match source.draw 24 with
        | (some nonce, left) => (.ok (codec.token nonce data), left)
        | (none, left) => (.error (.internal "rng unavailable"), left) := by
  obtain ⟨serializer, compressor, sealer, representer⟩ := codec
  cases sealer with
  | nop => rfl
  | secretBox cipher =>
    -- Sealing is the only stage that draws, and the others cannot fail.
    have toBox (content : Bytes) : ((Sealer.secretBox cipher).toBox content).run.run source =
        match source.draw 24 with
        | (some nonce, left) => (.ok ((Sealer.secretBox cipher).box nonce content), left)
        | (none, left) => (.error (.internal "rng unavailable"), left) :=
      Entropy.run_fill_bind 24 _ source
    unfold encode
    rw [Drawing.run_bind, toBox]
    rcases source.draw 24 with ⟨_ | nonce, left⟩ <;> rfl

end Codec

namespace Backend

/-- The lengths of what a save draws. -/
def drawLengths : Backend → List Nat
  | .sealed codec =>
    match codec.sealer with
    | .nop => []
    | .secretBox _ => [24]
  | .signed _ => []

/-- The nonce that the box of a token starts with. -/
def nonceOf? (backend : Backend) (token : Bytes) : Option Bytes :=
  match backend with
  | .sealed codec =>
    match codec.sealer with
    | .nop => none
    | .secretBox _ => (codec.representer.decode token).toOption.map (·.take 24)
  | .signed _ => none

theorem nonceOf?_of_silent {backend : Backend} (silent : backend.drawLengths = []) (token : Bytes) :
    backend.nonceOf? token = none := by
  cases backend with
  | signed signer => rfl
  | sealed codec =>
    unfold drawLengths at silent
    cases sealer : codec.sealer with
    | nop => simp only [nonceOf?, sealer]
    | secretBox cipher => simp [sealer] at silent

theorem nonceOf?_of_spelled {codec : Codec} {cipher : Crypto.Cipher}
    (seals : codec.sealer = .secretBox cipher) {token box : Bytes}
    (spelled : codec.representer.decode token = .ok box) :
    (Backend.sealed codec).nonceOf? token = some (box.take 24) := by
  simp only [nonceOf?, seals, spelled, Except.toOption, Option.map_some]

theorem drawLengths_of_seals {codec : Codec} {cipher : Crypto.Cipher}
    (seals : codec.sealer = .secretBox cipher) : (Backend.sealed codec).drawLengths = [24] := by
  simp only [drawLengths, seals]

/-- A backend that draws for a save seals boxes. -/
theorem seals_of_draws {backend : Backend} (draws : backend.drawLengths ≠ []) :
    ∃ codec cipher, backend = .sealed codec ∧ codec.sealer = .secretBox cipher := by
  cases backend with
  | signed signer => exact absurd rfl draws
  | sealed codec =>
    cases sealer : codec.sealer with
    | nop => simp [drawLengths, sealer] at draws
    | secretBox cipher => exact ⟨codec, cipher, rfl, sealer⟩

theorem run_save_of_seals {codec : Codec} {cipher : Crypto.Cipher}
    (seals : codec.sealer = .secretBox cipher) (data : Data) (source : Entropy) :
    ((Backend.sealed codec).save data).run.run source =
      match source.draw 24 with
      | (some nonce, left) => (.ok (codec.token nonce data), left)
      | (none, left) => (.error (.internal "rng unavailable"), left) := by
  have ran := codec.run_encode data source
  rw [seals] at ran
  exact ran

/-- A backend that draws nothing for a save leaves the source as it is. -/
theorem run_save_of_silent {backend : Backend} (silent : backend.drawLengths = []) (data : Data)
    (source : Entropy) : ∃ result, (backend.save data).run.run source = (result, source) := by
  cases backend with
  | signed signer => exact ⟨_, rfl⟩
  | sealed codec =>
    have ran := codec.run_encode data source
    unfold drawLengths at silent
    cases sealer : codec.sealer with
    | nop =>
      rw [sealer] at ran
      exact ⟨_, ran⟩
    | secretBox cipher => simp [sealer] at silent

end Backend

namespace Csrf

theorem run_freshNonce (source : Entropy) : freshNonce.run.run source =
    match source.draw 8 with
    | (some raw, left) => (.ok (UInt64.ofNat (max (Bytes.toNatBE raw) 1)), left)
    | (none, left) => (.error (.internal "rng unavailable"), left) :=
  Entropy.run_fill_bind 8 (fun raw => pure (UInt64.ofNat (max (Bytes.toNatBE raw) 1))) source

/-- What is left of a signature once its nonce is drawn. -/
def sealUnder (csrf : Csrf) (nonce : UInt64) (source subject : String) (now : Instant) :
    Drawing CsrfError String :=
  match csrf.factory.create now csrf.ttl (binding nonce source subject) with
  | .error e => throw (.ofContainer e)
  | .ok container => do
    let token ← liftDrawing (container.touch nonce).save
    match Bytes.toText? token with
    | some text => return text
    | none => throw ⟨.internal "sealed token is not text", none⟩

theorem signAt_eq (csrf : Csrf) (source subject : String) (now : Instant) :
    csrf.signAt source subject now =
      liftDrawing freshNonce >>= fun nonce => csrf.sealUnder nonce source subject now := rfl

section Issuer

variable {csrf : Csrf} {cipher : Crypto.Cipher}
  (backend : csrf.factory.backend = .sealed (stack cipher)) {nonce : UInt64} (fresh : nonce ≠ 0)

include backend

theorem create_of_ends {now stop : Instant} (ends : windowEnd now csrf.ttl = .ok stop)
    (payload : Payload) : csrf.factory.create now csrf.ttl payload =
      .ok ⟨.sealed (stack cipher), ⟨⟨Header.currentVersion, 0, now, stop⟩, payload⟩⟩ := by
  rw [← backend]
  refine Container.create_eq_ok.mpr ⟨stop, ends, ?_⟩
  rw [backend]
  rfl

include fresh

/-- Sealing a signature draws the nonce of the box, and before that its window has to end inside the
calendar. -/
theorem run_sealUnder (call : SignCall) (source : Entropy) :
    (csrf.sealUnder nonce call.source call.subject call.now).run.run source =
      match windowEnd call.now csrf.ttl with
      | .error e => (.error (.ofContainer e), source)
      | .ok stop =>
        match source.draw 24 with
        | (some boxNonce, left) =>
          (.ok (Bytes.asciiText ((stack cipher).token boxNonce (call.data nonce stop))), left)
        | (none, left) => (.error (.ofContainer (.internal "rng unavailable")), left) := by
  unfold sealUnder
  cases ends : windowEnd call.now csrf.ttl with
  | error e =>
    have uncreated : csrf.factory.create call.now csrf.ttl
        (binding nonce call.source call.subject) = .error e := by
      unfold Factory.create Container.create Header.create
      rw [ends]
      rfl
    rw [uncreated]
    rfl
  | ok stop =>
    -- A nonce of zero would have been counted up from the one in the header.
    have touched : (⟨.sealed (stack cipher), ⟨⟨Header.currentVersion, 0, call.now, stop⟩,
        binding nonce call.source call.subject⟩⟩ : Container).touch nonce =
          ⟨.sealed (stack cipher), call.data nonce stop⟩ := by
      simp only [Container.touch, Container.mapHeader, Header.touch, fresh, ite_false]
      rfl
    have seals : (stack cipher).sealer = .secretBox cipher := rfl
    have saved := Backend.run_save_of_seals seals (call.data nonce stop) source
    rw [create_of_ends backend ends]
    simp only
    rw [touched, Drawing.run_bind, liftDrawing, Drawing.run_adapt, Container.save, saved]
    rcases source.draw 24 with ⟨_ | boxNonce, left⟩
    · rfl
    · simp only [Except.mapError, toText?_token]
      rfl

end Issuer

/-- The text of a token is the spelling of its box. -/
theorem box_of_token {cipher : Crypto.Cipher} (boxNonce : Bytes) (data : Data) :
    RepresenterKind.base64.decode
        (Bytes.ofText (Bytes.asciiText ((stack cipher).token boxNonce data))) =
      .ok ((stack cipher).sealer.box boxNonce ((stack cipher).content data)) := by
  rw [Bytes.ofText_of_toText? (toText?_token boxNonce data)]
  exact RepresenterKind.decode_eq_ok_iff.mpr rfl

/-- A signature is read back as the state that was sealed, as it is shown. -/
theorem load_token {key boxNonce : Bytes} {source left : Entropy}
    (drawn : source.draw 24 = (some boxNonce, left)) (call : SignCall) (nonce : UInt64)
    (stop : Instant) :
    let codec := stack (Crypto.XChaCha20Poly1305.cipher key)
    (Backend.sealed codec).load
        (Bytes.ofText (Bytes.asciiText (codec.token boxNonce (call.data nonce stop)))) =
      .ok (call.data nonce stop).shown := by
  intro codec
  have taken : codec.sealer.nonce? source = some boxNonce := congrArg Prod.fst drawn
  rw [Bytes.ofText_of_toText? (toText?_token boxNonce _)]
  exact Codec.decode_token taken (Crypto.XChaCha20Poly1305.opens key boxNonce _)
    (fun _ => addressable_binding _ _ _) fun _ => length_marshal_data call nonce stop

end Csrf

/-! ### Calls on one source -/

/-- An issuer as configurations make it. -/
structure Issuer where
  csrf : Csrf
  built : ∃ config files, Csrf.ofConfig config files = .ok csrf

theorem Issuer.exists_backend (issuer : Issuer) :
    ∃ key, issuer.csrf.factory.backend =
      .sealed (Csrf.stack (Crypto.XChaCha20Poly1305.cipher key)) := by
  obtain ⟨config, files, built⟩ := issuer.built
  exact Csrf.exists_backend built

/-- A signature whose nonce is drawn and whose box is not sealed yet. -/
structure Signing where
  issuer : Issuer
  call : SignCall
  nonce : UInt64
  drawn : ∃ left, Csrf.Draws call nonce left

/-- What draws from one source: containers, and signatures that have been started. -/
structure SharedSource where
  containers : List Container
  signings : List Signing
  source : Entropy

namespace SharedSource

/-- A container is operated on, validated or saved; a token is checked; a signature is started, and
later finished. Loading a token is an operation. -/
inductive Call where
  | operate (i : Nat) (operation : Operation)
  | validate (i : Nat) (now : Instant)
  | check (issuer : Issuer) (clock : Instant) (source subject token : String) (now : Instant)
  | save (i : Nat)
  | start (issuer : Issuer) (source subject : String) (now : Instant)
  | finish (k : Nat)

inductive Answer where
  | nothing
  | validated (verdict : Except ContainerError Unit)
  | checked (verdict : Except CsrfError Unit)
  | saved (result : Except ContainerError Bytes)
  | started (result : Except CsrfError Unit)
  | signed (result : Except CsrfError String)

/-- A signature is started with its nonce. -/
def start (w : SharedSource) (issuer : Issuer) (source subject : String) (now : Instant) :
    Answer × SharedSource :=
  match drawn : Csrf.freshNonce.run.run w.source with
  | (.ok nonce, left) =>
    let signing : Signing := ⟨issuer, ⟨source, subject, now, w.source⟩, nonce, left, drawn⟩
    (.started (.ok ()), { w with signings := w.signings ++ [signing], source := left })
  | (.error e, left) => (.started (.error (.ofContainer e)), { w with source := left })

def call (w : SharedSource) : Call → Answer × SharedSource
  | .operate i operation =>
    (.nothing, { w with containers := w.containers.modify i (·.perform operation) })
  | .validate i now =>
    match w.containers[i]? with
    | some c => (.validated (c.validate now), w)
    | none => (.nothing, w)
  | .check issuer clock source subject token now =>
    (.checked (issuer.csrf.validateAt clock source subject token now), w)
  | .save i =>
    match w.containers[i]? with
    | some c =>
      let (result, source) := c.save.run.run w.source
      (.saved result, { w with source })
    | none => (.nothing, w)
  | .start issuer source subject now => w.start issuer source subject now
  | .finish k =>
    match w.signings[k]? with
    | some s =>
      let (result, source) :=
        (s.issuer.csrf.sealUnder s.nonce s.call.source s.call.subject s.call.now).run.run w.source
      (.signed result, { w with signings := w.signings.eraseIdx k, source })
    | none => (.nothing, w)

/-- What is left after calls in order. -/
def run (w : SharedSource) (calls : List Call) : SharedSource :=
  calls.foldl (fun w call => (w.call call).2) w

/-- The lengths of what a call draws. -/
def lengths (w : SharedSource) : Call → List Nat
  | .save i => (w.containers[i]?.map (·.backend.drawLengths)).getD []
  | .start .. => [8]
  | .finish k =>
    match w.signings[k]? with
    | some s =>
      match windowEnd s.call.now s.issuer.csrf.ttl with
      | .ok _ => [24]
      | .error _ => []
    | none => []
  | .operate .. | .validate .. | .check .. => []

/-- The nonce that the box in an answer starts with. -/
def nonce? (w : SharedSource) : Call → Answer → Option Bytes
  | .save i, .saved (.ok token) => w.containers[i]?.bind (·.backend.nonceOf? token)
  | .finish k, .signed (.ok text) =>
    w.signings[k]?.bind (·.issuer.csrf.factory.backend.nonceOf? (Bytes.ofText text))
  | _, _ => none

/-- The lengths of what calls in order draw. -/
def lengthsOf (w : SharedSource) : List Call → List Nat
  | [] => []
  | call :: calls => w.lengths call ++ (w.call call).2.lengthsOf calls

/-- The nonces of the boxes that calls in order answer with. -/
def nonces (w : SharedSource) : List Call → List Bytes
  | [] => []
  | call :: calls => (w.nonce? call (w.call call).1).toList ++ (w.call call).2.nonces calls

/-! ### The step -/

/-- A call names a container or a signature that is not there. -/
def Absent (w : SharedSource) : Call → Prop
  | .validate i _ | .save i => w.containers[i]? = none
  | .finish k => w.signings[k]? = none
  | _ => False

/-- What a call answers, and what it leaves. A box starts with the nonce that was drawn for it. The
nonce of a header is drawn when the signature is started, and with it the state that will be sealed:
in it are the nonce, and the two checksums under it. -/
inductive Does (w : SharedSource) : Call → Answer → SharedSource → Prop
  | operated (i : Nat) (operation : Operation) : Does w (.operate i operation) .nothing
      { w with containers := w.containers.modify i (·.perform operation) }
  | validated {i : Nat} {c : Container} {now : Instant} (there : w.containers[i]? = some c) :
      Does w (.validate i now) (.validated (c.validate now)) w
  | checked (issuer : Issuer) (clock : Instant) (source subject token : String) (now : Instant) :
      Does w (.check issuer clock source subject token now)
        (.checked (issuer.csrf.validateAt clock source subject token now)) w
  | saved {i : Nat} {c : Container} {result : Except ContainerError Bytes}
      (there : w.containers[i]? = some c) (silent : c.backend.drawLengths = []) :
      Does w (.save i) (.saved result) w
  | sealed {i : Nat} {c : Container} {codec : Codec} {cipher : Crypto.Cipher}
      {nonce token box : Bytes} {left : Entropy} (there : w.containers[i]? = some c)
      (backend : c.backend = .sealed codec) (seals : codec.sealer = .secretBox cipher)
      (drawn : w.source.draw 24 = (some nonce, left))
      (spelled : codec.representer.decode token = .ok box) (first : box.take 24 = nonce) :
      Does w (.save i) (.saved (.ok token)) { w with source := left }
  | unsealed {i : Nat} {c : Container} {codec : Codec} {cipher : Crypto.Cipher} {left : Entropy}
      {e : ContainerError} (there : w.containers[i]? = some c) (backend : c.backend = .sealed codec)
      (seals : codec.sealer = .secretBox cipher) (failed : w.source.draw 24 = (none, left))
      (internal : e.IsInternal) :
      Does w (.save i) (.saved (.error e)) { w with source := left }
  | started {issuer : Issuer} {source subject : String} {now : Instant} {raw : Bytes}
      {left : Entropy} {s : Signing} (drawn : w.source.draw 8 = (some raw, left))
      (own : s.issuer = issuer ∧ s.call = ⟨source, subject, now, w.source⟩)
      (nonce : s.nonce = UInt64.ofNat (max (Bytes.toNatBE raw) 1)) :
      Does w (.start issuer source subject now) (.started (.ok ()))
        { w with signings := w.signings ++ [s], source := left }
  | unstarted {issuer : Issuer} {source subject : String} {now : Instant} {left : Entropy}
      {e : ContainerError} (failed : w.source.draw 8 = (none, left)) (internal : e.IsInternal) :
      Does w (.start issuer source subject now) (.started (.error (.ofContainer e)))
        { w with source := left }
  | signed {k : Nat} {s : Signing} {stop : Instant} {nonce box : Bytes} {left : Entropy}
      {text : String} (there : w.signings[k]? = some s)
      (ends : windowEnd s.call.now s.issuer.csrf.ttl = .ok stop)
      (drawn : w.source.draw 24 = (some nonce, left))
      (spelled : RepresenterKind.base64.decode (Bytes.ofText text) = .ok box)
      (first : box.take 24 = nonce)
      (state : s.issuer.csrf.factory.backend.load (Bytes.ofText text) =
        .ok (s.call.data s.nonce stop).shown) :
      Does w (.finish k) (.signed (.ok text))
        { w with signings := w.signings.eraseIdx k, source := left }
  | unsigned {k : Nat} {s : Signing} {stop : Instant} {left : Entropy} {e : ContainerError}
      (there : w.signings[k]? = some s)
      (ends : windowEnd s.call.now s.issuer.csrf.ttl = .ok stop)
      (failed : w.source.draw 24 = (none, left)) (internal : e.IsInternal) :
      Does w (.finish k) (.signed (.error (.ofContainer e)))
        { w with signings := w.signings.eraseIdx k, source := left }
  | outside {k : Nat} {s : Signing} {e : ContainerError} (there : w.signings[k]? = some s)
      (ends : windowEnd s.call.now s.issuer.csrf.ttl = .error e) :
      Does w (.finish k) (.signed (.error (.ofContainer e)))
        { w with signings := w.signings.eraseIdx k }
  | absent {call : Call} (absent : w.Absent call) : Does w call .nothing w

section Step

variable {w : SharedSource}

theorem does_save (i : Nat) : w.Does (.save i) (w.call (.save i)).1 (w.call (.save i)).2 := by
  cases there : w.containers[i]? with
  | none =>
    simp only [call, there]
    exact .absent there
  | some c =>
    simp only [call, there, Container.save]
    by_cases silent : c.backend.drawLengths = []
    · obtain ⟨result, ran⟩ := Backend.run_save_of_silent silent c.data w.source
      rw [ran]
      exact .saved there silent
    · obtain ⟨codec, cipher, backend, seals⟩ := Backend.seals_of_draws silent
      rw [backend, Backend.run_save_of_seals seals]
      rcases drawn : w.source.draw 24 with ⟨_ | nonce, left⟩
      · exact .unsealed there backend seals drawn ⟨_, rfl⟩
      · have spelled : codec.representer.decode (codec.token nonce c.data) =
            .ok (codec.sealer.box nonce (codec.content c.data)) :=
          RepresenterKind.decode_eq_ok_iff.mpr rfl
        refine .sealed there backend seals drawn spelled ?_
        exact Sealer.take_box seals (Entropy.length_draw (congrArg Prod.fst drawn)) _

theorem start_of_drawn {nonce : UInt64} {left : Entropy}
    (drawn : Csrf.freshNonce.run.run w.source = (.ok nonce, left)) (issuer : Issuer)
    (source subject : String) (now : Instant) :
    w.start issuer source subject now =
      (.started (.ok ()),
        { w with
          signings := w.signings ++
            [⟨issuer, ⟨source, subject, now, w.source⟩, nonce, left, drawn⟩]
          source := left }) := by
  unfold start
  split
  next nonce' left' drawn' =>
    cases drawn.symm.trans drawn'
    rfl
  next e left' failed => cases drawn.symm.trans failed

theorem start_of_failed {e : ContainerError} {left : Entropy}
    (failed : Csrf.freshNonce.run.run w.source = (.error e, left)) (issuer : Issuer)
    (source subject : String) (now : Instant) :
    w.start issuer source subject now =
      (.started (.error (.ofContainer e)), { w with source := left }) := by
  unfold start
  split
  next nonce left' drawn => cases failed.symm.trans drawn
  next e' left' failed' =>
    cases failed.symm.trans failed'
    rfl

theorem does_start (issuer : Issuer) (source subject : String) (now : Instant) :
    w.Does (.start issuer source subject now) (w.call (.start issuer source subject now)).1
      (w.call (.start issuer source subject now)).2 := by
  have run := Csrf.run_freshNonce w.source
  simp only [call]
  rcases drawn : w.source.draw 8 with ⟨_ | raw, left⟩
  · rw [drawn] at run
    rw [start_of_failed run]
    exact .unstarted drawn ⟨_, rfl⟩
  · rw [drawn] at run
    rw [start_of_drawn run]
    exact .started drawn ⟨rfl, rfl⟩ rfl

theorem does_finish (k : Nat) :
    w.Does (.finish k) (w.call (.finish k)).1 (w.call (.finish k)).2 := by
  cases there : w.signings[k]? with
  | none =>
    simp only [call, there]
    exact .absent there
  | some s =>
    obtain ⟨key, backend⟩ := s.issuer.exists_backend
    obtain ⟨left', draws⟩ := s.drawn
    have run := Csrf.run_sealUnder backend draws.ne_zero s.call w.source
    simp only [call, there, run]
    cases ends : windowEnd s.call.now s.issuer.csrf.ttl with
    | error e => exact .outside there ends
    | ok stop =>
      rcases drawn : w.source.draw 24 with ⟨_ | nonce, left⟩
      · exact .unsigned there ends drawn ⟨_, rfl⟩
      · refine .signed there ends drawn (Csrf.box_of_token _ _) ?_ ?_
        · exact Sealer.take_box rfl (Entropy.length_draw (congrArg Prod.fst drawn)) _
        · rw [backend]
          exact Csrf.load_token drawn s.call s.nonce stop

/-- **The step.** Whatever a call is, and whether its draw is answered or not. -/
theorem does_call (call : Call) : w.Does call (w.call call).1 (w.call call).2 := by
  cases call with
  | operate i operation => exact .operated i operation
  | validate i now =>
    cases there : w.containers[i]? with
    | none =>
      simp only [SharedSource.call, there]
      exact .absent there
    | some c =>
      simp only [SharedSource.call, there]
      exact .validated there
  | check issuer clock source subject token now =>
    exact .checked issuer clock source subject token now
  | save i => exact does_save i
  | start issuer source subject now => exact does_start issuer source subject now
  | finish k => exact does_finish k

/-- What a call draws is what was known beforehand, and its box has a draw of 24 bytes. -/
theorem Does.draws {w w' : SharedSource} {call : Call} {answer : Answer}
    (does : w.Does call answer w') :
    let drawn := w.source.drawEach (w.lengths call)
    w'.source = drawn.2 ∧
      (w.nonce? call answer).toList = drawn.1.reduceOption.filter (·.length = 24) := by
  cases does with
  | operated i operation => exact ⟨rfl, rfl⟩
  | validated there => exact ⟨rfl, rfl⟩
  | checked => exact ⟨rfl, rfl⟩
  | @saved i c result there silent =>
    have none : w.nonce? (.save i) (.saved result) = none := by
      cases result with
      | error e => rfl
      | ok token => simp only [nonce?, there, Option.bind_some, Backend.nonceOf?_of_silent silent]
    simp only [lengths, there, Option.map_some, Option.getD_some, silent, none]
    exact ⟨rfl, rfl⟩
  | @sealed i c codec cipher nonce token box left there backend seals drawn spelled first =>
    have whole : nonce.length = 24 := Entropy.length_draw (congrArg Prod.fst drawn)
    have draws : c.backend.drawLengths = [24] := by
      rw [backend, Backend.drawLengths_of_seals seals]
    have found : c.backend.nonceOf? token = some nonce := by
      rw [backend, Backend.nonceOf?_of_spelled seals spelled, first]
    simp only [lengths, nonce?, there, Option.map_some, Option.getD_some, draws, found,
      Option.bind_some, Entropy.drawEach_singleton, drawn, true_and]
    simp [whole]
  | @unsealed i c codec cipher left e there backend seals failed internal =>
    have draws : c.backend.drawLengths = [24] := by
      rw [backend, Backend.drawLengths_of_seals seals]
    simp only [lengths, there, Option.map_some, Option.getD_some, draws,
      Entropy.drawEach_singleton, failed, true_and]
    rfl
  | @started issuer source subject now raw left s drawn own nonce =>
    -- The draw for a header is too short for a box.
    have whole : raw.length = 8 := Entropy.length_draw (congrArg Prod.fst drawn)
    simp only [lengths, Entropy.drawEach_singleton, drawn, true_and]
    simp [nonce?, whole]
  | unstarted failed internal =>
    simp only [lengths, Entropy.drawEach_singleton, failed, true_and]
    rfl
  | @signed k s stop nonce box left text there ends drawn spelled first state =>
    have whole : nonce.length = 24 := Entropy.length_draw (congrArg Prod.fst drawn)
    obtain ⟨key, backend⟩ := s.issuer.exists_backend
    have found : s.issuer.csrf.factory.backend.nonceOf? (Bytes.ofText text) = some nonce := by
      rw [backend, Backend.nonceOf?_of_spelled rfl spelled, first]
    simp only [lengths, nonce?, there, ends, Option.bind_some, found, Entropy.drawEach_singleton,
      drawn, true_and]
    simp [whole]
  | unsigned there ends failed internal =>
    simp only [lengths, there, ends, Entropy.drawEach_singleton, failed, true_and]
    rfl
  | outside there ends =>
    simp only [lengths, there, ends]
    exact ⟨rfl, rfl⟩
  | @absent call absent =>
    -- Without a container or a signature, there is nothing to draw for.
    cases call with
    | validate i now => exact ⟨rfl, rfl⟩
    | save i =>
      simp only [lengths, show w.containers[i]? = none from absent]
      exact ⟨rfl, rfl⟩
    | finish k =>
      simp only [lengths, show w.signings[k]? = none from absent]
      exact ⟨rfl, rfl⟩
    | operate | check | start => exact absent.elim

end Step

/-! ### Runs -/

/-- A run draws what its calls draw, and its boxes have the draws of 24 bytes, one each. -/
theorem draws_run (w : SharedSource) (calls : List Call) :
    let drawn := w.source.drawEach (w.lengthsOf calls)
    (w.run calls).source = drawn.2 ∧
      w.nonces calls = drawn.1.reduceOption.filter (·.length = 24) := by
  -- By induction on the calls, from any state: the rest draws from what the first call leaves.
  induction calls generalizing w with
  | nil => exact ⟨rfl, rfl⟩
  | cons call calls ih =>
    obtain ⟨left, nonce⟩ := (w.does_call call).draws
    obtain ⟨last, nonces⟩ := ih (w.call call).2
    simp only [lengthsOf, SharedSource.nonces, Entropy.drawEach_append, List.reduceOption_append,
      List.filter_append]
    rw [← left, nonce, nonces]
    exact ⟨last, rfl⟩

/-- A signature that no other call comes between is a start and a finish. If it cannot be started,
it ends there. -/
def SignsInTwo (w : SharedSource) (issuer : Issuer) (source subject : String) (now : Instant) :
    Prop :=
  let signed := (issuer.csrf.signAt source subject now).run.run w.source
  let started := w.call (.start issuer source subject now)
  match started.1 with
  | .started (.ok ()) =>
    started.2.call (.finish w.signings.length) = (.signed signed.1, { w with source := signed.2 })
  | .started (.error e) => signed.1 = .error e ∧ started.2 = { w with source := signed.2 }
  | _ => False

theorem signsInTwo (w : SharedSource) (issuer : Issuer) (source subject : String) (now : Instant) :
    w.SignsInTwo issuer source subject now := by
  unfold SignsInTwo
  rw [Csrf.signAt_eq, Drawing.run_bind, Csrf.liftDrawing, Drawing.run_adapt]
  rcases drawn : Csrf.freshNonce.run.run w.source with ⟨e | nonce, left⟩
  · simp only [call, start_of_failed drawn]
    exact ⟨rfl, rfl⟩
  -- The signature stands last among those that have been started, and it is the one to finish.
  · simp only [call, start_of_drawn drawn, Except.mapError, List.getElem?_concat_length,
      List.eraseIdx_append_of_length_le, Nat.le_refl, Nat.sub_self, List.eraseIdx_cons_zero,
      List.append_nil]
    rfl

/-- **No draw is used twice.** Containers and issuers share a source of randomness, and the calls on
them come in any order; draws may begin to fail at any of them. In a run, the boxes that calls
answer with have the draws of 24 bytes for nonces, one each and in order, and no box has the nonce
of another unless the source has answered the same twice. What the next call does is told case by
case. -/
theorem draws_are_used_once (w : SharedSource) (calls : List Call) :
    let drawn := w.source.drawEach (w.lengthsOf calls)
    let next := w.run calls
    next.source = drawn.2 ∧
      w.nonces calls = drawn.1.reduceOption.filter (·.length = 24) ∧
      (∀ nonce, List.Duplicate nonce (w.nonces calls) →
        List.Duplicate nonce drawn.1.reduceOption) ∧
      (∀ call, next.Does call (next.call call).1 (next.call call).2) ∧
      ∀ issuer source subject now, next.SignsInTwo issuer source subject now := by
  intro drawn next
  obtain ⟨left, nonces⟩ := w.draws_run calls
  -- The nonces are some of the draws, in order, so what is twice among them was drawn twice.
  refine ⟨left, nonces, fun nonce twice => ?_, next.does_call, next.signsInTwo⟩
  rw [nonces] at twice
  exact twice.mono_sublist List.filter_sublist

end SharedSource

/-- At the end of the calendar, a signature fails for its window, after its first draw and without a
second one, from a source that would answer both. -/
theorem Csrf.draws_once_outside_calendar :
    let source : Entropy := { stream := fun i => UInt8.ofNat i }
    let signed := (keyedIssuer.signAt "a" "/x" ⟨8210266876000, 0, by decide, by decide⟩).run.run
      source
    ofConfig keyedConfig (fun _ => .error "") = .ok keyedIssuer ∧
      signed = (.error (.ofContainer (.configuration "ttl 21600s is out of range")),
        (source.drawEach [8]).2) ∧
      (∀ answer ∈ (source.drawEach [8, 24]).1, answer.isSome) ∧
      signed.2.position ≠ (source.drawEach [8, 24]).2.position := by
  intro source signed
  have answered : signed = (.error (.ofContainer (.configuration "ttl 21600s is out of range")),
      (source.drawEach [8]).2) := by
    rfl
  refine ⟨ofConfig_keyed, answered, by decide, ?_⟩
  rw [answered]
  decide

end SealedTokens
