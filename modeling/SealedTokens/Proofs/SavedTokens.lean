import SealedTokens.Proofs.CsrfValidation
import SealedTokens.Proofs.Persistence
/-!
# Saved tokens

Which of the tokens that saving answers are loaded again. Writing has no limit, and reading has one:
what was compressed is read back up to a mebibyte. A longer state is saved all the same, and its
token is refused.

## Main results

- `Factory.honours_of_save`: what loading makes of a token that was saved
- `Factory.eq_of_load_saved`: a state that was saved is not mistaken for another, on any terms
- `Factory.loads_unless_oversized`: of containers, session cookies and anti-forgery tokens
- `Factory.oversized_state_is_lost`: a state that is saved and cannot be read back
-/
namespace SealedTokens

namespace Backend

/-- A state that takes more than decompression admits. -/
def Oversized (backend : Backend) (data : Data) : Prop :=
  match backend with
  | .sealed codec => ¬ codec.compressor.Restores (codec.serializer.marshal data)
  | .signed _ => False

/-- What loading makes of a token of a state: it is read as the state, or refused as malformed for
no other reason than the size. -/
structure Honours (backend : Backend) (data : Data) (token : Bytes) : Prop where
  reads : ¬ backend.Oversized data → backend.load token = .ok (backend.precise data)
  refuses : backend.Oversized data → ∃ e, backend.load token = .error e ∧ e.IsFormat

variable {data : Data} {source : Entropy} {token : Bytes}

theorem oversized_of_mem {codec : Codec} (compact : codec.serializer = .compact)
    (lz4 : codec.compressor = .lz4) {entry : UInt32 × Bytes}
    (member : entry ∈ data.payload.entries) (large : Lz4.maxLength < entry.2.length) :
    (Backend.sealed codec).Oversized data := by
  intro restored
  -- The entry alone takes more than is restored.
  have short := restored lz4
  have long := Data.length_le_length_write member
  rw [compact] at short
  exact absurd (Nat.le_trans long short) (Nat.not_le.mpr large)

theorem honours_sealed {codec : Codec}
    (opens : ∀ nonce content, codec.sealer.Opens nonce content)
    (carried : codec.serializer.Carries data)
    (saved : ((Backend.sealed codec).save data).outcome source = .ok token) :
    (Backend.sealed codec).Honours data token where
  reads admitted :=
    load_of_save_sealed opens carried (Classical.not_not.mp admitted) saved
  refuses oversized := by
    obtain ⟨nonce, drawn, rfl⟩ := Codec.outcome_encode_eq_ok.mp saved
    exact Codec.exists_error_of_not_restored drawn (opens _ _) oversized

theorem honours_signed {signer : Signer} (honest : signer.Honest)
    (saved : ((Backend.signed signer).save data).outcome source = .ok token) :
    (Backend.signed signer).Honours data token where
  reads _ := load_of_save_signed honest saved
  refuses oversized := oversized.elim

/-- What signs does not matter for loading. -/
theorem Honours.of_withSign {backend : Backend} {sign? : Bytes → Option Bytes}
    (honours : (backend.withSign sign?).Honours data token) : backend.Honours data token := by
  obtain ⟨reads, refuses⟩ := honours
  -- Size and precision depend on the kind of the backend, and this is the same.
  rw [load_withSign] at reads refuses
  cases backend with
  | sealed codec => exact ⟨reads, refuses⟩
  | signed signer => exact ⟨reads, refuses⟩

theorem eq_of_load_sealed {codec : Codec} {read : Data}
    (opens : ∀ nonce content, codec.sealer.Opens nonce content)
    (saved : ((Backend.sealed codec).save data).outcome source = .ok token)
    (returned : (Backend.sealed codec).load token = .ok read) :
    read = (Backend.sealed codec).precise data := by
  obtain ⟨nonce, drawn, rfl⟩ := Codec.outcome_encode_eq_ok.mp saved
  have decoded : codec.decode (codec.token nonce data) = .ok read := returned
  rw [Codec.decode_token_eq drawn (opens _ _)] at decoded
  obtain ⟨bytes, decompressed, unmarshaled⟩ := bind_eq_ok.mp decoded
  exact (Codec.eq_of_decode_content decompressed unmarshaled).symm

theorem eq_of_load_signed {signer reader : Signer} {read : Data}
    (saved : ((Backend.signed signer).save data).outcome source = .ok token)
    (returned : (Backend.signed reader).load token = .ok read) :
    read = (Backend.signed reader).precise data := by
  have issued : Jwt.issue signer (Claims.ofData data) = .ok token := saved
  obtain ⟨signature, rfl, -⟩ := Jwt.issue_eq_ok issued
  obtain ⟨text, isText, trimmed⟩ := Option.map_eq_some_iff.mp
    (Jwt.trim_text (Jwt.issued signer (Claims.ofData data) signature))
  rw [load_signed isText, trimmed] at returned
  obtain ⟨claims, accepted, stated⟩ := bind_eq_ok.mp returned
  rw [Jwt.eq_of_read_issue (Claims.ofJson?_ofData data) issued accepted] at stated
  exact Except.ok.inj (stated.symm.trans (Claims.toData_ofData data))

end Backend

namespace Factory

variable {s : Settings} {f : Factory} {sign? : Bytes → Option Bytes}

/-- The token of a state is loaded as this state, if it is loaded: whatever it takes, and however it
was signed. -/
theorem eq_of_load_saved (built : ofSettings s = .ok f) {data read : Data} {source : Entropy}
    {token : Bytes} (saved : ((f.backend.withSign sign?).save data).outcome source = .ok token)
    (returned : f.backend.load token = .ok read) : read = f.backend.precise data := by
  obtain ⟨-, sealer, suits, isSealed⟩ | ⟨-, signer, -, isSigned⟩ := backend_of_ofSettings built
  · rw [isSealed] at saved returned ⊢
    exact Backend.eq_of_load_sealed (Sealer.opens_of_create suits) saved returned
  · rw [isSigned] at saved returned ⊢
    exact Backend.eq_of_load_signed saved returned

theorem honours_of_save (built : ofSettings s = .ok f)
    (honest : ∀ signer, f.backend.withSign sign? = .signed signer → signer.Honest) {data : Data}
    (addressable : s.serializer = .compact → data.payload.Addressable) {source : Entropy}
    {token : Bytes} (saved : ((f.backend.withSign sign?).save data).outcome source = .ok token) :
    f.backend.Honours data token := by
  obtain ⟨-, sealer, suits, isSealed⟩ | ⟨-, signer, -, isSigned⟩ := backend_of_ofSettings built
  all_goals refine @Backend.Honours.of_withSign data token f.backend sign? ?_
  · rw [isSealed] at saved ⊢
    exact Backend.honours_sealed (Sealer.opens_of_create suits) addressable saved
  · rw [isSigned] at saved honest ⊢
    exact Backend.honours_signed (honest _ rfl) saved

/-- **Tokens that load.** Whatever a factory's containers save, for any state that a machine can
address and with any randomness, is loaded as that state, its window as precise as tokens are; the
one exception are states that take more than a mebibyte and are compressed, whose tokens are refused
as malformed. The same holds of the cookies that sessions are saved in. Anti-forgery tokens are
never so large, so they are always loaded.

- `sign?`: stands for signing under the factory's key, which some algorithms do at random
- `honest`: signatures verify, which is asked of signed containers only -/
theorem loads_unless_oversized (built : ofSettings s = .ok f)
    (honest : ∀ signer, f.backend.withSign sign? = .signed signer → signer.Honest) :
    (∀ (c : Container) (source : Entropy) (token : Bytes),
      c.backend = f.backend.withSign sign? → (s.serializer = .compact → c.payload.Addressable) →
      c.save.outcome source = .ok token → f.backend.Honours c.data token) ∧
    (∀ (session : Session) (config : CookieConfig) (policy : SameSitePolicy)
      (exchange written : Exchange) (source : Entropy),
      session.container.backend = f.backend.withSign sign? →
      (s.serializer = .compact → session.payload.Addressable) →
      ((Transport.cookie config policy).save exchange session).outcome source = .ok written →
      ∃ c, written.cookies = exchange.cookies ++ [c] ∧ c.name = config.name ∧
        f.backend.Honours session.data (Bytes.ofText c.value)) ∧
    ∀ config files (issuer : Csrf), Csrf.ofConfig config files = .ok issuer →
      ∀ call token, issuer.Signs call token →
        ∃ data, issuer.factory.backend.load (Bytes.ofText token) = .ok data := by
  refine ⟨fun c source token own addressable saved => ?_,
    fun session config policy exchange written source own addressable saved => ?_,
    fun config files issuer made call token signed => ?_⟩
  · unfold Container.save at saved
    rw [own] at saved
    exact honours_of_save built honest addressable saved
  -- The value of a cookie is the token of its session, as text.
  · obtain ⟨token, c, sealed, cookie, rfl⟩ := Transport.save_cookie_eq_ok saved
    obtain ⟨name, value⟩ := Transport.cookieOf_eq_ok cookie
    unfold Container.save at sealed
    rw [own] at sealed
    refine ⟨c, rfl, name, ?_⟩
    rw [value]
    exact honours_of_save built honest addressable sealed
  -- Two checksums are far below the limit, and the key opens what it sealed.
  · obtain ⟨key, backend⟩ := Csrf.exists_backend made
    obtain ⟨nonce, stop, -, -, -, read⟩ := Csrf.decode_of_opens backend
      (fun _ _ _ _ _ _ _ => Crypto.XChaCha20Poly1305.opens key _ _) signed
    exact ⟨(call.data nonce stop).shown, by rw [backend]; exact read⟩

/-- The usual stages, under a key of one byte repeated. -/
def plainFactory : Factory :=
  let s := Settings.ofKind .secretBox (List.replicate 32 7)
  ⟨s, .sealed (Csrf.stack (Crypto.XChaCha20Poly1305.cipher s.key))⟩

def entryData (value : Bytes) : Data :=
  ⟨⟨Header.currentVersion, 0, .epoch, Http.oneMinute⟩, Payload.empty.insert 1 value⟩

theorem exists_save_entry (value : Bytes) : ∃ token,
    (plainFactory.backend.save (entryData value)).outcome (Entropy.repeating [0]) = .ok token := by
  let codec := Csrf.stack (Crypto.XChaCha20Poly1305.cipher (List.replicate 32 7))
  have drawn : codec.sealer.nonce? (Entropy.repeating [0]) = some (List.replicate 24 0) := by
    show ((Entropy.repeating [0]).draw 24).1 = _
    decide
  have saved : (codec.encode (entryData value)).outcome (Entropy.repeating [0]) = .ok _ :=
    Codec.outcome_encode_eq_ok.mpr ⟨_, drawn, rfl⟩
  exact ⟨_, saved⟩

/-- A single entry of one byte. -/
theorem loads_unless_oversized_entry :
    ofSettings plainFactory.settings = .ok plainFactory ∧ ∃ token,
      (plainFactory.backend.save (entryData [2])).outcome (Entropy.repeating [0]) = .ok token ∧
      plainFactory.backend.load token = .ok (entryData [2]) := by
  have built : ofSettings plainFactory.settings = .ok plainFactory := by rfl
  obtain ⟨token, saved⟩ := exists_save_entry [2]
  refine ⟨built, token, saved, ?_⟩
  have honours := (@loads_unless_oversized _ _ (fun _ => none) built
    (fun signer isSigned => by cases isSigned)).1 ⟨plainFactory.backend, entryData [2]⟩ _ token rfl
    (fun _ entry member => by cases List.mem_singleton.mp member; decide) saved
  refine honours.reads fun oversized => oversized fun _ => ?_
  have short : ∀ entry ∈ (entryData [2]).payload.entries, entry.2.length ≤ 1 := by decide
  exact Nat.le_trans (Data.length_write_le (by decide) (entryData [2]) short) (by decide)

/-- **Saved and lost.** An entry of one byte more than a mebibyte: its state is saved, and the token
that this answers is refused. -/
theorem oversized_state_is_lost :
    let value : Bytes := List.replicate (2 ^ 20 + 1) 0
    ofSettings plainFactory.settings = .ok plainFactory ∧ ∃ token e,
      (plainFactory.backend.save (entryData value)).outcome (Entropy.repeating [0]) = .ok token ∧
      plainFactory.backend.load token = .error e ∧ e.IsFormat := by
  intro value
  have built : ofSettings plainFactory.settings = .ok plainFactory := by rfl
  have length : value.length = 2 ^ 20 + 1 := List.length_replicate
  obtain ⟨token, saved⟩ := exists_save_entry value
  have oversized : plainFactory.backend.Oversized (entryData value) :=
    Backend.oversized_of_mem rfl rfl List.mem_cons_self (by
      rw [length]
      decide)
  have addressable : (entryData value).payload.Addressable := fun entry member => by
    rw [List.mem_singleton.mp member]
    exact Nat.lt_of_le_of_lt (Nat.le_of_eq length) (by decide)
  have honours := @honours_of_save _ _ (fun _ => none) built (fun signer same => by cases same) _
    (fun _ => addressable) _ _ saved
  obtain ⟨e, refused, isFormat⟩ := honours.refuses oversized
  exact ⟨built, token, e, saved, refused, isFormat⟩

end Factory

end SealedTokens
