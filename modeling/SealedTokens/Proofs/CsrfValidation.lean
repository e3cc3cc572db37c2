import Mathlib.Data.Set.Function
import SealedTokens.Proofs.CsrfSigning
import SealedTokens.Proofs.EncodedTexts
import SealedTokens.Proofs.Windows
/-!
# Validating anti-forgery tokens

An anti-forgery token validates for exactly what it was signed for. Only tokens that were signed are
read at all; each has its own window and its own two checksums, which are compared in this order.
The window is the one that the token names: it lasts as long as the issuer that signed it had it,
whoever checks it.

## Main results

- `Csrf.validateAt_lawful`: a token is valid for exactly what it was signed for, and fails in a fixed
  order for anything else
- `Csrf.foreign_window_is_honoured`: a window that is not the one that the checking issuer would have
  given

## Proof strategy

Whatever the configuration, an issuer seals with the usual stages (`Csrf.backend_withCipher`). So a
token that was signed is read back as the state of its call (`Csrf.decode_of_signs`), and a text
that is read at all was signed by a call (`Csrf.signs_of_decode`). What a check makes of the state
of a call is `Csrf.verdict`, once checksums are equal only for equal texts.
-/
namespace SealedTokens

/-! ### Stages of an issuer -/

namespace ContainerConfig

theorem choose_blank {α : Type} [Registry α] (entity : String) (default : α) :
    choose entity "" default = .ok default := rfl

/-- A configuration that names nothing has the usual stages. -/
theorem stages_unnamed (key keyFile : Option String) :
    stages { key, keyFile } = .ok (Settings.ofKind .secretBox []) := by
  have named : choose "algorithm" "HS256" SignatureAlgorithm.hs256 = .ok .hs256 := by
    have written : Text.isBlankText "HS256" = false := by decide
    have found : Registry.find? "HS256" = some SignatureAlgorithm.hs256 := by decide
    simp [choose, written, Registry.resolve, found]
  simp only [stages, choose_blank, Settings.ofKind, bind, Except.bind, named]
  rfl

theorem expand_unnamed {key keyFile : Option String} {files : Files} {s : Settings}
    (expanded : expand { key, keyFile } files = .ok s) : s = Settings.ofKind .secretBox s.key := by
  unfold expand at expanded
  rw [stages_unnamed] at expanded
  obtain ⟨_, same, rest⟩ := bind_eq_ok.mp expanded
  cases same
  obtain ⟨loaded, -, rest⟩ := bind_eq_ok.mp rest
  obtain ⟨-, -, made⟩ := bind_eq_ok.mp rest
  cases made
  rfl

end ContainerConfig

theorem CsrfError.lift_eq_ok {α : Type} {result : Except ContainerError α} {a : α} :
    lift result = .ok a ↔ result = .ok a :=
  mapError_eq_ok

namespace Csrf

/-- The issuer with another cipher in place of its own. -/
def withCipher (csrf : Csrf) (cipher : Crypto.Cipher) : Csrf :=
  { csrf with factory := { csrf.factory with backend := csrf.factory.backend.withCipher cipher } }

/-- The stages of every issuer, around a cipher. -/
def stack (cipher : Crypto.Cipher) : Codec := ⟨.compact, .lz4, .secretBox cipher, .base64⟩

/-- Whatever its configuration, an issuer has the factory of the usual settings under some key. -/
theorem exists_factory {config : CsrfConfig} {files : Files} {csrf : Csrf}
    (built : ofConfig config files = .ok csrf) :
    ∃ key, Factory.ofSettings (Settings.ofKind .secretBox key) = .ok csrf.factory := by
  obtain ⟨-, -, rest⟩ := bind_eq_ok.mp built
  obtain ⟨s, settings, rest⟩ := bind_eq_ok.mp rest
  obtain ⟨factory, created, rest⟩ := bind_eq_ok.mp rest
  obtain ⟨methods, -, made⟩ := bind_eq_ok.mp rest
  cases made
  have usual := ContainerConfig.expand_unnamed (CsrfError.lift_eq_ok.mp settings)
  rw [usual] at created
  exact ⟨s.key, CsrfError.lift_eq_ok.mp created⟩

/-- Whatever its configuration, an issuer has the usual stages. -/
theorem backend_withCipher {config : CsrfConfig} {files : Files} {csrf : Csrf}
    (built : ofConfig config files = .ok csrf) (cipher : Crypto.Cipher) :
    (csrf.withCipher cipher).factory.backend = .sealed (stack cipher) := by
  obtain ⟨key, created⟩ := exists_factory built
  exact Factory.backend_withCipher created rfl rfl cipher

/-- Its own cipher is the one in use. -/
theorem exists_backend {config : CsrfConfig} {files : Files} {csrf : Csrf}
    (built : ofConfig config files = .ok csrf) :
    ∃ key, csrf.factory.backend = .sealed (stack (Crypto.XChaCha20Poly1305.cipher key)) := by
  obtain ⟨key, created⟩ := exists_factory built
  obtain ⟨-, sealer, suits, isSealed⟩ | ⟨isJwt, -⟩ := Factory.backend_of_ofSettings created
  · rw [Sealer.eq_of_create suits] at isSealed
    exact ⟨key, isSealed⟩
  · cases isJwt

/-! ### Checks -/

/-- The messages whose digests are compared: for each call, its nonce before the texts that it
was made for and before those that it is checked against. -/
def inPlay (calls : List SignCall) (source subject : String) : Set Bytes :=
  {message | ∃ call ∈ calls, ∃ nonce left, Draws call nonce left ∧
    ∃ text ∈ [call.source, call.subject, source, subject],
      message = nonceBytes nonce ++ Bytes.ofText text}

theorem eq_of_checksum_eq {calls : List SignCall} {source subject : String}
    (injective : Set.InjOn Crypto.Sha256.digest (inPlay calls source subject)) {call : SignCall}
    (member : call ∈ calls) {nonce : UInt64} {left : Entropy} (draws : Draws call nonce left)
    {a b : String} (ha : a ∈ [call.source, call.subject, source, subject])
    (hb : b ∈ [call.source, call.subject, source, subject])
    (same : checksum (nonceBytes nonce) a = checksum (nonceBytes nonce) b) : a = b := by
  have messages := injective ⟨call, member, nonce, left, draws, a, ha, rfl⟩
    ⟨call, member, nonce, left, draws, b, hb, rfl⟩ same
  exact Bytes.ofText_injective (List.append_cancel_left messages)

/-- What becomes of the token of a call, with a window up to `stop`, when it is checked. Its ends are
those that the token names. -/
def verdict (call : SignCall) (nonce : UInt64) (stop : Instant) (source subject : String)
    (now : Instant) : Except CsrfError Unit :=
  let mismatched (issued checked : String) : String :=
    mismatch (checksum (nonceBytes nonce) issued) (checksum (nonceBytes nonce) checked) checked
  if now ≤ call.now.shown then .error (.ofContainer ⟨.notYetValid call.now.shown, none⟩)
  else if stop.shown ≤ now then .error (.ofContainer ⟨.expired stop.shown, none⟩)
  else if call.source ≠ source then
    .error ⟨.sourceMismatch (mismatched call.source source), none⟩
  else if call.subject ≠ subject then
    .error ⟨.subjectMismatch (mismatched call.subject subject), none⟩
  else .ok ()

theorem checkBinding_data {calls : List SignCall} {source subject : String}
    (injective : Set.InjOn Crypto.Sha256.digest (inPlay calls source subject)) {call : SignCall}
    (member : call ∈ calls) {nonce : UInt64} {left : Entropy} (draws : Draws call nonce left)
    (backend : Backend) (stop : Instant) :
    checkBinding ⟨backend, (call.data nonce stop).shown⟩ source subject =
      if call.source ≠ source then .error ⟨.sourceMismatch (mismatch
        (checksum (nonceBytes nonce) call.source) (checksum (nonceBytes nonce) source) source), none⟩
      else if call.subject ≠ subject then .error ⟨.subjectMismatch (mismatch
        (checksum (nonceBytes nonce) call.subject) (checksum (nonceBytes nonce) subject) subject),
        none⟩
      else .ok () := by
  -- The digests of the messages in play are equal for equal messages only.
  have sourceChecked : checksum (nonceBytes nonce) call.source =
      checksum (nonceBytes nonce) source ↔ call.source = source :=
    ⟨eq_of_checksum_eq injective member draws (by simp) (by simp), congrArg _⟩
  have subjectChecked : checksum (nonceBytes nonce) call.subject =
      checksum (nonceBytes nonce) subject ↔ call.subject = subject :=
    ⟨eq_of_checksum_eq injective member draws (by simp) (by simp), congrArg _⟩
  simp only [checkBinding, Container.get?, Container.payload, Container.header, SignCall.data,
    Data.shown, Header.shown, get?_sourceKey, get?_subjectKey, Option.getD_some, sourceChecked,
    subjectChecked]
  -- The caller is compared first, and the target only for the right caller.
  by_cases sourceSame : call.source = source
  · by_cases subjectSame : call.subject = subject
    · simp only [sourceSame, subjectSame, ne_eq, not_true_eq_false, ite_true, ite_false]
      rfl
    · simp only [sourceSame, subjectSame, ne_eq, not_true_eq_false, not_false_eq_true, ite_true,
        ite_false]
      rfl
  · simp only [sourceSame, ne_eq, not_false_eq_true, ite_true, ite_false]
    rfl

/-- The window comes before the checksums. -/
theorem check_data {calls : List SignCall} {source subject : String}
    (injective : Set.InjOn Crypto.Sha256.digest (inPlay calls source subject)) {call : SignCall}
    (member : call ∈ calls) {nonce : UInt64} {left : Entropy} (draws : Draws call nonce left)
    (backend : Backend) (stop now : Instant) :
    (do CsrfError.lift (Container.validate ⟨backend, (call.data nonce stop).shown⟩ now)
        checkBinding ⟨backend, (call.data nonce stop).shown⟩ source subject) =
      verdict call nonce stop source subject now := by
  have bound := checkBinding_data injective member draws backend stop
  unfold verdict
  rw [bound]
  simp only [Container.validate, Header.validate, Container.header, Data.shown, Header.shown,
    SignCall.data, ne_eq, not_true_eq_false, ite_false]
  by_cases early : now ≤ call.now.shown
  · simp only [early, ite_true]
    rfl
  · by_cases late : stop.shown ≤ now
    · simp only [early, late, ite_true, ite_false]
      rfl
    · simp only [early, late, ite_false]
      rfl

/-! ### Reading tokens -/

section Reading

variable {csrf : Csrf} {cipher : Crypto.Cipher} {calls : List TimedCall}

theorem backend_lasting (backend : csrf.factory.backend = .sealed (stack cipher)) (ttl : Span) :
    (csrf.lasting ttl).factory.backend = .sealed (stack cipher) := backend

theorem backend_of_mem_saves (backend : csrf.factory.backend = .sealed (stack cipher)) :
    ∀ save ∈ csrf.saves calls, save.1.backend = .sealed (stack cipher) := by
  rintro save ⟨call, -, saves⟩
  obtain ⟨nonce, stop, -, -, made⟩ := (saves_iff (backend_lasting backend call.ttl)).mp saves
  rw [made]

/-- A token is spelled in visible characters. -/
theorem visible_of_mem_token {nonce : Bytes} {data : Data} {b : UInt8}
    (member : b ∈ (stack cipher).token nonce data) : 33 ≤ b ∧ b < 127 := by
  have visible := Base64.visible_of_mem_encode member
  exact ⟨visible.1, visible.2.1⟩

theorem toText?_token (nonce : Bytes) (data : Data) :
    Bytes.toText? ((stack cipher).token nonce data) =
      some (Bytes.asciiText ((stack cipher).token nonce data)) :=
  Bytes.toText?_ascii fun _ member => UInt8.lt_trans (visible_of_mem_token member).2 (by decide)

/-- What a call answers, once what it draws is known. -/
theorem signs_token (backend : csrf.factory.backend = .sealed (stack cipher)) {call : SignCall}
    {nonce : UInt64} {left : Entropy} {stop : Instant} {boxNonce : Bytes}
    (draws : Draws call nonce left) (ends : windowEnd call.now csrf.ttl = .ok stop)
    (drawn : (stack cipher).sealer.nonce? left = some boxNonce) :
    csrf.Signs call (Bytes.asciiText ((stack cipher).token boxNonce (call.data nonce stop))) :=
  signs_iff.mpr ⟨(⟨.sealed (stack cipher), call.data nonce stop⟩, left),
    (saves_iff backend).mpr ⟨nonce, stop, draws, ends, rfl⟩, _,
    Codec.outcome_encode_eq_ok.mpr ⟨boxNonce, drawn, rfl⟩, toText?_token boxNonce _⟩

/-- No blanks stand around a token that was signed. -/
theorem trim_of_signs (backend : csrf.factory.backend = .sealed (stack cipher)) {call : SignCall}
    {text : String} (signed : csrf.Signs call text) : Text.trim text = text := by
  obtain ⟨⟨container, left⟩, saves, bytes, saved, isText⟩ := signs_iff.mp signed
  obtain ⟨nonce, stop, -, -, made⟩ := (saves_iff backend).mp saves
  simp only at made saved
  subst made
  obtain ⟨boxNonce, -, rfl⟩ := Codec.outcome_encode_eq_ok.mp saved
  rw [toText?_token] at isText
  cases isText
  exact Text.trim_asciiText fun _ member => visible_of_mem_token member

/-- The token of a call is read back as the state of the call as it is shown, if its box is opened
again. -/
theorem decode_of_opens (backend : csrf.factory.backend = .sealed (stack cipher))
    {call : SignCall} (opens : ∀ save boxNonce, csrf.Saves call save →
      (stack cipher).sealer.nonce? save.2 = some boxNonce → ∀ nonce stop,
        save.1 = ⟨.sealed (stack cipher), call.data nonce stop⟩ →
          cipher.Opens boxNonce ((stack cipher).content (call.data nonce stop)))
    {text : String} (signed : csrf.Signs call text) :
    ∃ nonce stop left, Draws call nonce left ∧ windowEnd call.now csrf.ttl = .ok stop ∧
      (stack cipher).decode (Bytes.ofText text) = .ok (call.data nonce stop).shown := by
  obtain ⟨⟨container, left⟩, saves, bytes, saved, isText⟩ := signs_iff.mp signed
  obtain ⟨nonce, stop, draws, ends, made⟩ := (saves_iff backend).mp saves
  refine ⟨nonce, stop, left, draws, ends, ?_⟩
  simp only at made saved
  subst made
  obtain ⟨boxNonce, drawn, token⟩ := Codec.outcome_encode_eq_ok.mp saved
  rw [Bytes.ofText_of_toText? isText, token]
  exact Codec.decode_token drawn (opens _ boxNonce saves drawn nonce stop rfl)
    (fun _ => addressable_binding _ _ _) fun _ => length_marshal_data call nonce stop

theorem decode_of_signs (backend : csrf.factory.backend = .sealed (stack cipher))
    (ideal : cipher.Ideal (Container.seals (csrf.saves calls))) {call : TimedCall}
    (member : call ∈ calls) {text : String} (signed : csrf.Answers call text) :
    ∃ nonce stop left, Draws call.toSignCall nonce left ∧
      windowEnd call.now call.ttl = .ok stop ∧
      (stack cipher).decode (Bytes.ofText text) = .ok (call.data nonce stop).shown := by
  refine decode_of_opens (backend_lasting backend call.ttl)
    (fun save boxNonce saves drawn nonce stop made => ?_) signed
  refine ideal.opens _ _ ⟨save, ⟨call, member, saves⟩, stack cipher, ?_, drawn, ?_⟩ <;> rw [made]

/-- Only the token of a call is read. -/
theorem signs_of_decode (backend : csrf.factory.backend = .sealed (stack cipher))
    (authentic : cipher.Authentic (Container.seals (csrf.saves calls))) {text : String}
    {data : Data} (read : (stack cipher).decode (Bytes.ofText text) = .ok data) :
    ∃ call ∈ calls, csrf.Answers call text := by
  rw [Container.seals_eq (backend_of_mem_saves backend)] at authentic
  obtain ⟨_, ⟨save, ⟨call, member, saves⟩, rfl⟩, saved⟩ :=
    Codec.exists_save_of_decode rfl authentic read
  refine ⟨call, member, signs_iff.mpr ⟨save, saves, _, ?_, Bytes.toText?_ofText text⟩⟩
  rw [Container.save, backend_of_mem_saves backend save ⟨call, member, saves⟩]
  exact saved

theorem unpack_eq (backend : csrf.factory.backend = .sealed (stack cipher)) {clock stop : Instant}
    (inCalendar : windowEnd clock csrf.ttl = .ok stop) (token : String) :
    csrf.unpack clock token =
      (((stack cipher).decode (Bytes.ofText (Text.trim token))).map fun data =>
        (⟨.sealed (stack cipher), data⟩ : Container)).mapError fun e =>
          ⟨.container e, some "unpack"⟩ := by
  have created : csrf.factory.create clock csrf.ttl .empty = .ok _ :=
    Container.create_eq_ok.mpr ⟨stop, inCalendar, rfl⟩
  rw [unpack, CsrfError.lift_eq_ok.mpr created]
  simp only [bind, Except.bind, Container.load_eq, backend]
  rfl

/-- The token of a call is checked against what the call was made for. -/
theorem validateAt_of_signs (backend : csrf.factory.backend = .sealed (stack cipher))
    (ideal : cipher.Ideal (Container.seals (csrf.saves calls))) {clock end' : Instant}
    (inCalendar : windowEnd clock csrf.ttl = .ok end') {source subject token : String}
    (injective : Set.InjOn Crypto.Sha256.digest
      (inPlay (calls.map (·.toSignCall)) source subject)) {call : TimedCall}
    (member : call ∈ calls) (signed : csrf.Answers call (Text.trim token)) (now : Instant) :
    ∃ nonce left stop, Draws call.toSignCall nonce left ∧
      windowEnd call.now call.ttl = .ok stop ∧
      csrf.validateAt clock source subject token now =
        verdict call.toSignCall nonce stop source subject now := by
  obtain ⟨nonce, stop, left, draws, ends, read⟩ := decode_of_signs backend ideal member signed
  refine ⟨nonce, left, stop, draws, ends, ?_⟩
  rw [validateAt, unpack_eq backend inCalendar, read]
  exact check_data injective (List.mem_map_of_mem member) draws _ stop now

/-- Nothing but the token of a call is valid. -/
theorem signs_of_validateAt (backend : csrf.factory.backend = .sealed (stack cipher))
    (authentic : cipher.Authentic (Container.seals (csrf.saves calls))) {clock end' : Instant}
    (inCalendar : windowEnd clock csrf.ttl = .ok end') {source subject token : String}
    {now : Instant} (valid : csrf.validateAt clock source subject token now = .ok ()) :
    ∃ call ∈ calls, csrf.Answers call (Text.trim token) := by
  obtain ⟨container, unpacked, -⟩ := bind_eq_ok.mp valid
  rw [unpack_eq backend inCalendar] at unpacked
  cases read : ((stack cipher).decode (Bytes.ofText (Text.trim token)) :
    Except ContainerError Data) with
  | error e =>
    rw [read] at unpacked
    cases unpacked
  | ok data => exact signs_of_decode backend authentic read

theorem verdict_eq_ok {call : SignCall} {nonce : UInt64} {stop : Instant} {source subject : String}
    {now : Instant} : verdict call nonce stop source subject now = .ok () ↔
      call.source = source ∧ call.subject = subject ∧ call.now.shown < now ∧
        now < stop.shown := by
  unfold verdict
  rw [← Instant.not_le, ← Instant.not_le]
  constructor
  · intro valid
    split at valid
    · cases valid
    next begun =>
      split at valid
      · cases valid
      next open' =>
        split at valid
        · cases valid
        next sourceSame =>
          split at valid
          · cases valid
          next subjectSame => exact ⟨not_not.mp sourceSame, not_not.mp subjectSame, begun, open'⟩
  · rintro ⟨sourceSame, subjectSame, begun, open'⟩
    simp only [begun, open', sourceSame, subjectSame, ne_eq, not_true_eq_false, ite_false]

/-- What a single call seals. -/
theorem seals_of_one_call (backend : csrf.factory.backend = .sealed (stack cipher))
    {call : TimedCall} {nonce : UInt64} {left : Entropy} {stop : Instant} {boxNonce : Bytes}
    (draws : Draws call.toSignCall nonce left) (ends : windowEnd call.now call.ttl = .ok stop)
    (drawn : (stack cipher).sealer.nonce? left = some boxNonce) :
    Container.seals (csrf.saves [call]) =
      {(boxNonce, (stack cipher).content (call.data nonce stop))} := by
  have iff {save : Container × Entropy} :=
    @saves_iff _ _ call.toSignCall (backend_lasting backend call.ttl) save
  have saved : csrf.saves [call] = {(⟨.sealed (stack cipher), call.data nonce stop⟩, left)} := by
    ext ⟨container, rest⟩
    constructor
    · rintro ⟨call', member, saves⟩
      cases List.mem_singleton.mp member
      obtain ⟨nonce', stop', draws', ends', made⟩ := iff.mp saves
      cases draws.symm.trans draws'
      cases ends.symm.trans ends'
      cases made
      rfl
    · intro same
      cases same
      exact ⟨call, by simp, iff.mpr ⟨nonce, stop, draws, ends, rfl⟩⟩
  rw [Container.seals_eq (backend_of_mem_saves backend), saved, Set.image_singleton,
    Codec.seals_singleton drawn]

end Reading

/-! ### One call -/

/-- A configuration that gives a key and nothing else. -/
def keyedConfig : CsrfConfig := { key := some "0123456789abcdef0123456789abcdef" }

/-- The issuer of this configuration. -/
def keyedIssuer : Csrf :=
  let settings := Settings.ofKind .secretBox (Bytes.ofText "0123456789abcdef0123456789abcdef")
  ⟨⟨settings, .sealed (stack (Crypto.XChaCha20Poly1305.cipher settings.key))⟩, .ofSecs 21600,
    "csrf", ["POST", "PUT"]⟩

theorem ofConfig_keyed : ofConfig keyedConfig (fun _ => .error "") = .ok keyedIssuer := by
  have methods : keyedConfig.requiredMethods = .ok ["POST", "PUT"] := by decide
  have name : Text.trim keyedConfig.parameterName = "csrf" := by decide
  have valid : keyedConfig.validate = .ok () := by rfl
  have settings : keyedConfig.settings (fun _ => .error "") = .ok keyedIssuer.factory.settings := by
    rfl
  have factory : Factory.ofSettings keyedIssuer.factory.settings = .ok keyedIssuer.factory := by rfl
  simp only [ofConfig, valid, settings, factory, methods, name, bind, Except.bind]
  rfl

/-- A call that draws zeros only. -/
def zeroCall (source subject : String) (now : Instant := .epoch) : SignCall :=
  ⟨source, subject, now, { stream := fun _ => 0 }⟩

theorem draws_zeroCall (source subject : String) (now : Instant) :
    Draws (zeroCall source subject now) 1 { stream := fun _ => 0, position := 8, draws := 1 } :=
  draws_iff.mpr ⟨List.replicate 8 0, rfl, by decide⟩

/-- Where a single token was signed there is an ideal cipher, and the token is of plain symbols. -/
theorem exists_ideal_of_one_call (source subject : String) {now stop : Instant} {ttl : Span}
    (ends : windowEnd now ttl = .ok stop) :
    let call : TimedCall := ⟨zeroCall source subject now, ttl⟩
    ∃ cipher bytes,
      cipher.Ideal (Container.seals ((keyedIssuer.withCipher cipher).saves [call])) ∧
      (keyedIssuer.withCipher cipher).Answers call (Bytes.asciiText bytes) ∧
      ∀ b ∈ bytes, 33 ≤ b ∧ b < 127 ∧ b ≠ 37 ∧ b ≠ 38 ∧ b ≠ 43 ∧ b ≠ 59 := by
  intro call
  let left : Entropy := { stream := fun _ => 0, position := 8, draws := 1 }
  let boxNonce : Bytes := List.replicate 24 0
  let content := CompressorKind.lz4.compress (SerializerKind.compact.marshal (call.data 1 stop))
  let cipher :=
    (Crypto.XChaCha20Poly1305.cipher keyedIssuer.factory.settings.key).only boxNonce content
  have backend := backend_withCipher ofConfig_keyed cipher
  have draws : Draws call.toSignCall 1 left := draws_zeroCall source subject now
  have drawn : (stack cipher).sealer.nonce? left = some boxNonce := by
    show (left.draw 24).1 = _
    decide
  refine ⟨cipher, (stack cipher).token boxNonce (call.data 1 stop), ?_,
    signs_token (backend_lasting backend ttl) draws ends drawn,
    fun b member => Base64.plain_of_mem_encode rfl member⟩
  rw [seals_of_one_call backend draws ends drawn]
  exact Crypto.Cipher.ideal_only _ boxNonce content

/-- With one call, checked for what it was made for, two messages are in play, or only one. -/
theorem injOn_of_one_call {source subject : String} {now : Instant}
    (differ : source ≠ subject →
      checksum (nonceBytes 1) source ≠ checksum (nonceBytes 1) subject) :
    Set.InjOn Crypto.Sha256.digest (inPlay [zeroCall source subject now] source subject) := by
  have two : inPlay [zeroCall source subject now] source subject ⊆
      {nonceBytes 1 ++ Bytes.ofText source, nonceBytes 1 ++ Bytes.ofText subject} := by
    rintro _ ⟨call, member, nonce, left, draws, text, chosen, rfl⟩
    cases List.mem_singleton.mp member
    have same := (draws_zeroCall source subject now).symm.trans draws
    have one : 1 = nonce := Except.ok.inj (congrArg Prod.fst same)
    clear draws same
    subst one
    -- The texts of the call and those of the check are the same two.
    simp only [zeroCall, List.mem_cons, List.not_mem_nil, or_false] at chosen
    rcases chosen with rfl | rfl | rfl | rfl
    · exact .inl rfl
    · exact .inr rfl
    · exact .inl rfl
    · exact .inr rfl
  refine Set.InjOn.mono two ?_
  by_cases equal : source = subject
  · rw [equal, Set.pair_eq_singleton]
    exact Set.injOn_singleton _ _
  · rintro _ (rfl | rfl) _ (rfl | rfl) same
    · rfl
    · exact absurd same (differ equal)
    · exact absurd same.symm (differ equal)
    · rfl

/-! ### Main result -/

/-- **Validation of anti-forgery tokens.** Tokens are signed by any calls, each for a caller and a
target of its own, at an instant of its own, for a lifetime of its own and with any randomness. A
text is valid for a caller and a target exactly if, trimmed, it is what one of the calls answered
that was made for both, and the instant lies strictly inside the window that the token names. This
starts at the instant of the call and lasts for the lifetime that the call's issuer had; an instant
that no clock shows is named by the second that follows. The token of a call that is not valid fails
by its window first, by its caller next, and by its target only for the right caller.

- `cipher`: stands for the cipher of the issuer's key, which is taken to be ideal
- `ideal`: what decrypts is what was sealed in these calls, so nothing else uses the key
- `inCalendar`: the window of the container that a token is read into, which starts at `clock`
- `injective`: the digests of the messages in play do not collide -/
theorem validateAt_lawful {config : CsrfConfig} {files : Files} {issuer : Csrf}
    (built : ofConfig config files = .ok issuer) (cipher : Crypto.Cipher) (calls : List TimedCall)
    (ideal : cipher.Ideal (Container.seals ((issuer.withCipher cipher).saves calls)))
    (clock : Instant) (inCalendar : ∃ stop, windowEnd clock issuer.ttl = .ok stop)
    (source subject token : String) (now : Instant)
    (injective : Set.InjOn Crypto.Sha256.digest
      (inPlay (calls.map (·.toSignCall)) source subject)) :
    ((issuer.withCipher cipher).validateAt clock source subject token now = .ok () ↔
      ∃ call ∈ calls, (issuer.withCipher cipher).Answers call (Text.trim token) ∧
        call.source = source ∧ call.subject = subject ∧ call.now.shown < now ∧
        ∃ stop, windowEnd call.now call.ttl = .ok stop ∧ now < stop.shown) ∧
    ∀ call ∈ calls, (issuer.withCipher cipher).Answers call (Text.trim token) →
      ∃ nonce left stop, Draws call.toSignCall nonce left ∧
        windowEnd call.now call.ttl = .ok stop ∧
        (issuer.withCipher cipher).validateAt clock source subject token now =
          verdict call.toSignCall nonce stop source subject now := by
  obtain ⟨end', inCalendar⟩ := inCalendar
  have backend := backend_withCipher built cipher
  have answered (call : TimedCall) (member : call ∈ calls)
      (signed : (issuer.withCipher cipher).Answers call (Text.trim token)) :=
    validateAt_of_signs backend ideal inCalendar injective member signed now
  refine ⟨⟨fun valid => ?_, ?_⟩, answered⟩
  -- What is valid was read, hence signed, and then the verdict on its call is that it is valid.
  · obtain ⟨call, member, signed⟩ :=
      signs_of_validateAt backend ideal.toAuthentic inCalendar valid
    obtain ⟨nonce, left, stop, -, ends, same⟩ := answered call member signed
    rw [same, verdict_eq_ok] at valid
    obtain ⟨sourceSame, subjectSame, begun, open'⟩ := valid
    exact ⟨call, member, signed, sourceSame, subjectSame, begun, stop, ends, open'⟩
  · rintro ⟨call, member, signed, sourceSame, subjectSame, begun, stop, ends, open'⟩
    obtain ⟨nonce, left, stop', -, ends', same⟩ := answered call member signed
    cases ends.symm.trans ends'
    rw [same, verdict_eq_ok]
    exact ⟨sourceSame, subjectSame, begun, open'⟩

/-- A single call that draws zeros only: its token is valid for what it was made for. -/
theorem validateAt_lawful_of_one_call :
    let call : TimedCall := ⟨zeroCall "a" "a", keyedIssuer.ttl⟩
    ∃ cipher token, ofConfig keyedConfig (fun _ => .error "") = .ok keyedIssuer ∧
      cipher.Ideal (Container.seals ((keyedIssuer.withCipher cipher).saves [call])) ∧
      (keyedIssuer.withCipher cipher).Answers call token ∧
      (keyedIssuer.withCipher cipher).validateAt .epoch "a" "a" token
        ⟨1, 0, by decide, by decide⟩ = .ok () := by
  intro call
  have ends : windowEnd .epoch keyedIssuer.ttl = .ok ⟨21600, 0, by decide, by decide⟩ := by decide
  obtain ⟨cipher, bytes, ideal, signed, plain⟩ := exists_ideal_of_one_call "a" "a" ends
  refine ⟨cipher, Bytes.asciiText bytes, ofConfig_keyed, ideal, signed, ?_⟩
  refine (validateAt_lawful ofConfig_keyed cipher [call] ideal .epoch ⟨_, ends⟩ "a" "a" _ _
    (injOn_of_one_call fun different => absurd rfl different)).1.mpr
      ⟨call, by simp, ?_, rfl, rfl, by decide, _, ends, by decide⟩
  rw [Text.trim_asciiText fun b member => ⟨(plain b member).1, (plain b member).2.1⟩]
  exact signed

/-- **A window of another issuer.** An issuer whose tokens last for six hours checks a token that an
issuer of the same key signed for twelve: it accepts the token after eight hours. The token was
signed inside the second 4, at an instant that no clock shows, and is not accepted before the second
5. -/
theorem foreign_window_is_honoured :
    let now : Instant := ⟨4, 1333333333, by decide, by decide⟩
    let early : Instant := ⟨4, 1900000000, by decide, by decide⟩
    let late : Instant := ⟨28800, 0, by decide, by decide⟩
    let other := keyedIssuer.lasting (.ofSecs 43200)
    ofConfig keyedConfig (fun _ => .error "") = .ok keyedIssuer ∧
    ofConfig { keyedConfig with ttl := .ofSecs 43200 } (fun _ => .error "") = .ok other ∧
    ∃ cipher token stop,
      cipher.Ideal (Container.seals
        ((keyedIssuer.withCipher cipher).saves [⟨zeroCall "a" "a" now, other.ttl⟩])) ∧
      (other.withCipher cipher).Signs (zeroCall "a" "a" now) token ∧
      Set.InjOn Crypto.Sha256.digest (inPlay [zeroCall "a" "a" now] "a" "a") ∧
      windowEnd now keyedIssuer.ttl = .ok stop ∧ stop ≤ late ∧ now < early ∧ early < stop ∧
      (keyedIssuer.withCipher cipher).validateAt .epoch "a" "a" token late = .ok () ∧
      (keyedIssuer.withCipher cipher).validateAt .epoch "a" "a" token early ≠ .ok () := by
  intro now early late other
  have built : ofConfig { keyedConfig with ttl := .ofSecs 43200 } (fun _ => .error "") =
      .ok other := by rfl
  have longer : windowEnd now other.ttl = .ok ⟨43204, 333333333, by decide, by decide⟩ := by decide
  have inCalendar : windowEnd .epoch keyedIssuer.ttl = .ok ⟨21600, 0, by decide, by decide⟩ := by
    decide
  obtain ⟨cipher, bytes, ideal, signed, plain⟩ := exists_ideal_of_one_call "a" "a" longer
  have injective : Set.InjOn Crypto.Sha256.digest (inPlay [zeroCall "a" "a" now] "a" "a") :=
    injOn_of_one_call fun different => absurd rfl different
  have trimmed : Text.trim (Bytes.asciiText bytes) = Bytes.asciiText bytes :=
    Text.trim_asciiText fun b member => ⟨(plain b member).1, (plain b member).2.1⟩
  have signed' : (keyedIssuer.withCipher cipher).Answers ⟨zeroCall "a" "a" now, other.ttl⟩
      (Text.trim (Bytes.asciiText bytes)) := trimmed.symm ▸ signed
  -- What is compared is the window of the token, whichever lifetime the issuer has that checks it.
  have answered (at' : Instant) := validateAt_of_signs (backend_withCipher ofConfig_keyed cipher)
    ideal inCalendar injective List.mem_cons_self signed' at'
  refine ⟨ofConfig_keyed, built, cipher, Bytes.asciiText bytes, ⟨21604, 333333333, by decide,
    by decide⟩, ideal, signed, injective, by decide, by decide, by decide, by decide, ?_, ?_⟩
  · obtain ⟨nonce, left, stop, -, ends, same⟩ := answered late
    cases longer.symm.trans ends
    rw [same]
    exact verdict_eq_ok.mpr ⟨rfl, rfl, by decide, by decide⟩
  · obtain ⟨nonce, left, stop, -, -, same⟩ := answered early
    rw [same, ne_eq, verdict_eq_ok]
    exact fun ⟨_, _, begun, _⟩ => absurd begun (by decide)

end Csrf

end SealedTokens
