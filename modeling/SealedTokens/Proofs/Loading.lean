import SealedTokens.Proofs.RoundTrip
/-!
# Loading

What a load accepts. A sealed container accepts only tokens that were saved under its key, a signed
one only tokens that carry its signature; whatever else it is given, it says so with an error about
the token and stays as it is.

## Main results

- `Container.load_authentic`: authenticity of sealed tokens
- `Container.respelled_box_is_loaded`: what is authentic is the box, not how it is spelled
- `Container.load_signed_lawful`: acceptance of signed tokens, for every algorithm
-/
namespace SealedTokens

/-! ### Sealed tokens -/

namespace Crypto.Cipher

/-- The cipher in a world where `message` is all that was ever encrypted, and under `nonce`. -/
def only (cipher : Cipher) (nonce message : Bytes) : Cipher where
  encrypt := cipher.encrypt
  decrypt? nonce' ciphertext tag :=
    if nonce' = nonce ∧ cipher.encrypt nonce message = (ciphertext, tag) then some message else none

theorem authentic_only (key nonce message : Bytes) :
    ((XChaCha20Poly1305.cipher key).only nonce message).Authentic {(nonce, message)} where
  tagLength _ _ := Bytes.length_ofNatLE 16 _
  sealed nonce' ciphertext tag message' decrypted := by
    simp only [only] at decrypted
    split at decrypted
    next known =>
      obtain ⟨rfl, encrypted⟩ := known
      exact ⟨message, rfl, encrypted⟩
    · cases decrypted
  original nonce' ciphertext tag message' decrypted origin member encrypted := by
    simp only [only] at decrypted
    split at decrypted
    · cases decrypted
      cases member
      rfl
    · cases decrypted

theorem ideal_only (key nonce message : Bytes) :
    ((XChaCha20Poly1305.cipher key).only nonce message).Ideal {(nonce, message)} where
  toAuthentic := authentic_only key nonce message
  opens nonce' message' member := by
    cases member
    exact ⟨Bytes.length_ofNatLE 16 _, if_pos ⟨rfl, rfl⟩⟩

end Crypto.Cipher

/-- The backend with another cipher in place of its own. -/
def Backend.withCipher (backend : Backend) (cipher : Crypto.Cipher) : Backend :=
  match backend with
  | .sealed ⟨serializer, compressor, .secretBox _, representer⟩ =>
    .sealed ⟨serializer, compressor, .secretBox cipher, representer⟩
  | other => other

/-- The stages of a factory that seals, around a cipher. -/
theorem Factory.backend_withCipher {s : Settings} {f : Factory} (built : ofSettings s = .ok f)
    (kind : s.kind = .secretBox) (sealer : s.sealer = .secretBox) (cipher : Crypto.Cipher) :
    f.backend.withCipher cipher =
      .sealed ⟨s.serializer, s.compressor, .secretBox cipher, s.representer⟩ := by
  obtain ⟨-, stage, created, isSealed⟩ | ⟨isJwt, -⟩ := backend_of_ofSettings built
  · rw [sealer] at created
    rw [isSealed, Sealer.eq_of_create created]
    rfl
  · rw [kind] at isJwt
    cases isJwt

namespace Container

/-- The nonces and contents of all seals that saving the containers makes. -/
def seals (saves : Set (Container × Entropy)) : Set (Bytes × Bytes) :=
  {s | ∃ save ∈ saves, ∃ codec, save.1.backend = .sealed codec ∧
    codec.sealer.nonce? save.2 = some s.1 ∧ s.2 = codec.content save.1.data}

theorem seals_eq {codec : Codec} {saves : Set (Container × Entropy)}
    (own : ∀ save ∈ saves, save.1.backend = .sealed codec) :
    seals saves = codec.seals ((fun save => (save.1.data, save.2)) '' saves) := by
  ext s
  constructor
  · rintro ⟨save, member, codec', same, drawn, written⟩
    cases (own save member).symm.trans same
    exact ⟨_, ⟨save, member, rfl⟩, drawn, written⟩
  · rintro ⟨_, ⟨save, member, rfl⟩, drawn, written⟩
    exact ⟨save, member, codec, own save member, drawn, written⟩

theorem load_eq_ok {c loaded : Container} {token : Bytes} (returned : c.load token = .ok loaded) :
    ∃ data, c.backend.load token = .ok data ∧ loaded = { c with data } := by
  obtain ⟨data, read, made⟩ := bind_eq_ok.mp returned
  cases made
  exact ⟨data, read, rfl⟩

theorem load_eq_error {c : Container} {token : Bytes} {e : ContainerError}
    (refused : c.load token = .error e) : c.backend.load token = .error e := by
  obtain failed | ⟨data, -, made⟩ := bind_eq_error.mp refused
  · exact failed
  · cases made

/-- **Authenticity of sealed tokens.** A container of a factory that seals loads a token only if it
is, byte for byte, one that was saved under the key through the factory's stages, and then has the
state that was saved in it, each end of the window as its written form names it; if clocks show both
ends, this is the very state. Any other token is refused as malformed or forged and leaves the
container as it is.

- `cipher`: stands for the cipher of the factory's key, which is taken to be ideal
- `saves`: the containers that were saved under the key, each with the randomness it was saved with
- `authentic`: what decrypts is one of the encryptions made for these saves -/
theorem load_authentic {s : Settings} {f : Factory} (built : Factory.ofSettings s = .ok f)
    (kind : s.kind = .secretBox) (sealer : s.sealer = .secretBox) (cipher : Crypto.Cipher)
    (saves : Set (Container × Entropy))
    (own : ∀ save ∈ saves, save.1.backend = f.backend.withCipher cipher)
    (authentic : cipher.Authentic (seals saves)) (c : Container)
    (same : c.backend = f.backend.withCipher cipher) (token : Bytes) :
    (∀ loaded, c.load token = .ok loaded →
      (∃ save ∈ saves, save.1.save.outcome save.2 = .ok token) ∧
      ∀ save ∈ saves, save.1.save.outcome save.2 = .ok token →
        loaded = { c with data := save.1.data.shown } ∧
        (save.1.data.OnClock → loaded = { c with data := save.1.data })) ∧
    ∀ e, c.load token = .error e →
      e.isFormatOrDecrypt = true ∧ c.perform (.load token) = c := by
  have backend := Factory.backend_withCipher built kind sealer cipher
  rw [backend] at same own
  rw [seals_eq own] at authentic
  have outcome (save : Container × Entropy) (member : save ∈ saves) : save.1.save = Codec.encode
      ⟨s.serializer, s.compressor, .secretBox cipher, s.representer⟩ save.1.data := by
    rw [Container.save, own save member]
    rfl
  refine ⟨fun loaded returned => ?_, fun e refused => ?_⟩
  -- An accepted token was saved, and is the token of no state but the one that it is read as.
  · obtain ⟨data, read, rfl⟩ := load_eq_ok returned
    rw [same] at read
    refine ⟨?_, fun save member saved => ?_⟩
    · obtain ⟨_, ⟨save, member, rfl⟩, saved⟩ := Codec.exists_save_of_decode rfl authentic read
      exact ⟨save, member, by rw [outcome save member]; exact saved⟩
    · rw [outcome save member] at saved
      have data_eq := Codec.eq_of_decode_save rfl authentic ⟨save, member, rfl⟩ saved read
      change save.1.data.shown = data at data_eq
      rw [← data_eq]
      exact ⟨rfl, fun clock => by rw [Data.shown_eq_iff.mpr clock]⟩
  · have failed := load_eq_error refused
    rw [same] at failed
    exact ⟨Codec.isFormatOrDecrypt_of_decode failed, perform_load_of_error refused⟩

section Sole

variable (data : Data) (representer : RepresenterKind)

/-- The settings whose key is all that anything is sealed under. -/
def soleSettings : Settings := Settings.ofKind .secretBox (List.replicate 32 7)

def soleNonce : Bytes := List.replicate 24 0

def soleSource : Entropy := { stream := fun _ => 0 }

/-- The cipher in a world where one state is all that was ever sealed. -/
def soleCipher : Crypto.Cipher :=
  (Crypto.XChaCha20Poly1305.cipher soleSettings.key).only soleNonce
    (soleSettings.compressor.compress (soleSettings.serializer.marshal data))

def soleCodec : Codec :=
  ⟨soleSettings.serializer, soleSettings.compressor, .secretBox (soleCipher data), representer⟩

/-- The container with this state; its boxes are spelled as it likes. -/
def sole : Container := ⟨.sealed (soleCodec data representer), data⟩

theorem exists_factory_of_sole : ∃ f,
    Factory.ofSettings { soleSettings with representer } = .ok f ∧
      (sole data representer).backend = f.backend.withCipher (soleCipher data) :=
  ⟨⟨_, .sealed ⟨.compact, .lz4,
    .secretBox (Crypto.XChaCha20Poly1305.cipher soleSettings.key), representer⟩⟩, rfl, rfl⟩

theorem drawn_sole : (soleCodec data representer).sealer.nonce? soleSource = some soleNonce := by
  show (soleSource.draw 24).1 = _
  decide

theorem ideal_sole : (soleCipher data).Ideal (seals {(sole data representer, soleSource)}) := by
  have own : ∀ save ∈ ({(sole data representer, soleSource)} : Set (Container × Entropy)),
      save.1.backend = .sealed (soleCodec data representer) := by
    rintro _ rfl
    rfl
  rw [seals_eq own, Set.image_singleton, Codec.seals_singleton (drawn_sole data representer)]
  exact Crypto.Cipher.ideal_only soleSettings.key soleNonce _

theorem save_sole : (sole data representer).save.outcome soleSource =
    .ok ((soleCodec data representer).token soleNonce data) :=
  Codec.outcome_encode_eq_ok.mpr ⟨soleNonce, drawn_sole data representer, rfl⟩

theorem load_sole (empty : data.payload = .empty) :
    (sole data representer).load ((soleCodec data representer).token soleNonce data) =
      .ok { sole data representer with data := data.shown } := by
  have entries : data.payload.entries = [] := by
    rw [empty]
    rfl
  have opens : (soleCodec data representer).sealer.Opens soleNonce
      ((soleCodec data representer).content data) :=
    (ideal_sole data representer).opens soleNonce _
      ⟨_, rfl, soleCodec data representer, rfl, drawn_sole data representer, rfl⟩
  have carried : (soleCodec data representer).serializer.Carries data := by
    intro _ entry member
    rw [entries] at member
    cases member
  have short : ∀ entry ∈ data.payload.entries, entry.2.length ≤ 0 := by
    intro entry member
    rw [entries] at member
    cases member
  have fits : (Serial.write data).length ≤ Lz4.maxLength := by
    refine Nat.le_trans (Data.length_write_le (by decide) data short) ?_
    have none : data.payload.size = 0 := congrArg List.length entries
    simp [none, Lz4.maxLength]
  have decoded : (sole data representer).backend.load
      ((soleCodec data representer).token soleNonce data) = .ok data.shown :=
    Codec.decode_token (drawn_sole data representer) opens carried fun _ => fits
  rw [load_eq, decoded]
  rfl

end Sole

/-- One container saved once, under a nonce of zeros: its own token gives it back, and no other is
loaded. -/
theorem load_authentic_of_one_save :
    let data : Data := ⟨⟨2, 1, .epoch, .epoch⟩, .empty⟩
    let c := sole data .base64
    let saves : Set (Container × Entropy) := {(c, soleSource)}
    (∃ f, Factory.ofSettings soleSettings = .ok f ∧
      c.backend = f.backend.withCipher (soleCipher data)) ∧
      (soleCipher data).Authentic (seals saves) ∧
      (∃ token, c.save.outcome soleSource = .ok token ∧ c.load token = .ok c) ∧
      ∀ token loaded, c.load token = .ok loaded →
        c.save.outcome soleSource = .ok token ∧ loaded = c := by
  intro data c saves
  obtain ⟨f, built, same⟩ := exists_factory_of_sole data .base64
  have own : ∀ save ∈ saves, save.1.backend = f.backend.withCipher (soleCipher data) := by
    rintro _ rfl
    exact same
  have ideal : (soleCipher data).Ideal (seals saves) := ideal_sole data .base64
  have clock : data.OnClock := ⟨by decide, by decide⟩
  have loaded := load_sole data .base64 rfl
  rw [Data.shown_eq_iff.mpr clock] at loaded
  refine ⟨⟨f, built, same⟩, ideal.toAuthentic, ⟨_, save_sole data .base64, loaded⟩,
    fun token loaded returned => ?_⟩
  obtain ⟨⟨save, member, saved⟩, whose⟩ :=
    (load_authentic built rfl rfl (soleCipher data) saves own ideal.toAuthentic c same token).1
      loaded returned
  cases member
  exact ⟨saved, (whose _ rfl saved).2 clock⟩

/-- **Respelled.** One container is saved once, and its box is spelled as it is. A container whose
factory differs from its own in the spelling alone loads a token that was never saved. Its window
starts at an instant that no clock shows, and this is not what is loaded. -/
theorem respelled_box_is_loaded :
    let hidden : Instant := ⟨4, 1333333333, by decide, by decide⟩
    let data : Data := ⟨⟨2, 1, hidden, hidden⟩, .empty⟩
    let c := sole data .base64
    let saved := sole data .nop
    (∃ f, Factory.ofSettings { soleSettings with representer := .base64 } = .ok f ∧
      c.backend = f.backend.withCipher (soleCipher data)) ∧
    (∃ f, Factory.ofSettings { soleSettings with representer := .nop } = .ok f ∧
      saved.backend = f.backend.withCipher (soleCipher data)) ∧
    (soleCipher data).Authentic (seals {(saved, soleSource)}) ∧
    ∃ box token loaded, saved.save.outcome soleSource = .ok box ∧ c.load token = .ok loaded ∧
      token ≠ box ∧ loaded.data ≠ data := by
  intro hidden data c saved
  refine ⟨exists_factory_of_sole data .base64, exists_factory_of_sole data .nop,
    (ideal_sole data .nop).toAuthentic, _, _, _, save_sole data .nop, load_sole data .base64 rfl,
    fun same => ?_, fun same => ?_⟩
  · -- The box starts with its nonce, a byte of which no spelling in text has.
    have member : (0 : UInt8) ∈ (soleCodec data .nop).token soleNonce data :=
      List.mem_append_left _ (List.mem_append_left _ (by decide))
    rw [← same] at member
    exact absurd (Base64.visible_of_mem_encode member).1 (by decide)
  · exact absurd (congrArg (fun d => d.header.validAfter.secs) same) (by decide)

end Container

/-! ### Signed tokens -/

theorem Signer.algorithm_of_create {algorithm : SignatureAlgorithm} {key : Bytes} {signer : Signer}
    (created : Signer.create algorithm key = .ok signer) : signer.algorithm = algorithm := by
  unfold Signer.create at created
  split at created
  · cases created
  · split at created
    next signer' suits =>
      cases created
      cases algorithm with
      | hs256 | hs384 | hs512 =>
        cases suits
        rfl
      | _ =>
        obtain ⟨parsed, -, rfl⟩ := Option.map_eq_some_iff.mp suits
        rfl
    · cases created

namespace Backend

/-- A signed token is read after trimming, by the law of its signer. -/
theorem load_signed_cases (signer : Signer) (token : Bytes) :
    (∃ e, (Backend.signed signer).load token = .error e ∧ e.IsFormat ∧
      Bytes.toText? token = none) ∨
    (∃ text, Bytes.toText? token = some text ∧ (Backend.signed signer).load token =
      Jwt.read signer (Bytes.ofText (Text.trim text)) >>= Claims.toData) := by
  cases isText : Bytes.toText? token with
  | none =>
    refine .inl ⟨.format "JWT is not valid UTF-8", ?_, ⟨_, rfl⟩, rfl⟩
    simp only [load, isText]
  | some text => exact .inr ⟨text, rfl, load_signed isText⟩

end Backend

namespace Container

/-- **Acceptance of signed tokens.** Whatever the algorithm and the key, a container of signed
claims loads a token only if it is a text that, trimmed, is three canonical segments of base64 with
points between them, its header names the algorithm, its signature verifies over what stands before
the last point, and its claims have both ends of their window in the calendar; these claims are then
the state. Anything else leaves the container as it is. It is refused as forged exactly if it is
such a text up to its claims, with a header that names the algorithm and a signature that does not
verify, and as malformed for every other cause. -/
theorem load_signed_lawful {algorithm : SignatureAlgorithm} {key : Bytes} {signer : Signer}
    (created : Signer.create algorithm key = .ok signer) (c : Container)
    (backend : c.backend = .signed signer) (token : Bytes) :
    (∀ loaded, c.load token = .ok loaded → ∃ text header claims signature, ∃ stated : Claims,
      Bytes.toText? token = some text ∧
      Bytes.ofText (Text.trim text) = Jwt.segment header ++ Jwt.point :: Jwt.segment claims ++
        Jwt.point :: Jwt.segment signature ∧
      (Json.parse? header).bind Jose.declared? = some (Registry.name algorithm) ∧
      signer.verify (Jwt.segment header ++ Jwt.point :: Jwt.segment claims) signature = true ∧
      (Json.parse? claims).bind Claims.ofJson? = some stated ∧
      ∃ start stop, Instant.at? stated.iat = some start ∧ Instant.at? stated.exp = some stop ∧
        loaded = { c with data := ⟨⟨stated.version, stated.nonce, start, stop⟩, stated.payload⟩ }) ∧
    ∀ e, c.load token = .error e → c.perform (.load token) = c ∧
      ((∃ text, Bytes.toText? token = some text ∧
          Jwt.Forged signer (Bytes.ofText (Text.trim text))) → e.IsDecrypt) ∧
      ((¬ ∃ text, Bytes.toText? token = some text ∧
          Jwt.Forged signer (Bytes.ofText (Text.trim text))) → e.IsFormat) := by
  have own := Signer.algorithm_of_create created
  refine ⟨fun loaded returned => ?_, fun e refused => ⟨perform_load_of_error refused, ?_⟩⟩
  · obtain ⟨data, read, rfl⟩ := load_eq_ok returned
    rw [backend] at read
    obtain ⟨e, failed, -⟩ | ⟨text, isText, load_eq⟩ := Backend.load_signed_cases signer token
    · rw [read] at failed
      cases failed
    · rw [load_eq] at read
      obtain ⟨stated, accepted, toData⟩ := bind_eq_ok.mp read
      -- Accepted by the signer, and then by the calendar.
      obtain ⟨⟨header, claims, signature⟩, shape, accepts⟩ := Jwt.read_eq_ok_iff.mp accepted
      obtain ⟨start, stop, first, second, rfl⟩ := Claims.toData_eq_ok toData
      have declared := Jwt.declares_of_admits accepts.admitted
      rw [Jwt.Declares, own] at declared
      exact ⟨text, header, claims, signature, stated, isText, shape, declared, accepts.verified,
        accepts.stated.ofJson, start, stop, first, second, rfl⟩
  · have failed := load_eq_error refused
    rw [backend] at failed
    obtain ⟨e', failed', isFormat, noText⟩ | ⟨text, isText, load_eq⟩ :=
      Backend.load_signed_cases signer token
    · rw [failed] at failed'
      cases failed'
      refine ⟨fun isForged => ?_, fun _ => isFormat⟩
      obtain ⟨text, isText, -⟩ := isForged
      rw [noText] at isText
      cases isText
    rw [load_eq] at failed
    -- The token is one text, so what is forged is this one.
    have forged : (∃ text, Bytes.toText? token = some text ∧
        Jwt.Forged signer (Bytes.ofText (Text.trim text))) ↔
          Jwt.Forged signer (Bytes.ofText (Text.trim text)) := by
      simp only [isText, Option.some.injEq, exists_eq_left']
    rw [forged]
    have law := Jwt.lawful_read signer (Bytes.ofText (Text.trim text))
    -- The reading failed, or the claims that it gave are out of range.
    obtain reading | ⟨stated, accepted, outside⟩ := bind_eq_error.mp failed
    · rw [reading] at law
      obtain ⟨isDecrypt, isForged⟩ | ⟨isFormat, genuine⟩ := law
      · exact ⟨fun _ => isDecrypt, fun genuine => absurd isForged genuine⟩
      · exact ⟨fun isForged => absurd isForged genuine, fun _ => isFormat⟩
    · exact ⟨fun isForged => absurd isForged (Jwt.not_forged_of_read accepted),
        fun _ => Claims.isFormat_of_toData outside⟩

/-- A token of HS256 that was just saved: it is loaded, names HS256 and carries its signature. -/
theorem load_signed_lawful_hs256 :
    let signer := Signer.hmac .hs256 .sha256 [7]
    let c : Container := ⟨.signed signer, ⟨⟨2, 1, .epoch, .epoch⟩, .empty⟩⟩
    Signer.create .hs256 [7] = .ok signer ∧ ∃ token, c.load token = .ok c ∧
      ∃ header claims signature,
        (Json.parse? header).bind Jose.declared? = some "HS256" ∧
        signer.verify (Jwt.segment header ++ Jwt.point :: Jwt.segment claims) signature = true := by
  intro signer c
  have created : Signer.create .hs256 [7] = .ok signer := rfl
  obtain ⟨token, saved⟩ := Backend.exists_save_hmac .hs256 .sha256 [7] c.data (.repeating [0])
  have loaded : c.load token = .ok c := by
    rw [load_eq, Backend.load_of_save_signed (Signer.honest_hmac _ _ _) saved]
    rfl
  obtain ⟨text, header, claims, signature, stated, -, -, declared, verified, -⟩ :=
    (load_signed_lawful created c rfl token).1 c loaded
  exact ⟨created, token, loaded, header, claims, signature, declared, verified⟩

end Container

end SealedTokens
