import Mathlib.Data.List.Induction
import SealedTokens.Csrf.Basic
import SealedTokens.Proofs.Loading
/-!
# Signing anti-forgery tokens

What signing an anti-forgery token does: one fresh nonce that is never zero, one window, two
checksums, and one seal over all of them.

## Main results

- `Csrf.Draws.ne_zero`: no call takes the nonce zero
- `Csrf.signs_iff`: a token is the text of what a call saves
- `Csrf.saves_iff`: what a call saves is its own state, in its own window
-/
namespace SealedTokens

namespace Bytes

theorem toNatBE_append (front : Bytes) (b : UInt8) :
    toNatBE (front ++ [b]) = toNatBE front * 256 + b.toNat := by
  rw [toNatBE, List.foldl_append]
  rfl

theorem toNatBE_lt (bytes : Bytes) : toNatBE bytes < 256 ^ bytes.length := by
  induction bytes using List.reverseRecOn with
  | nil => decide
  | append_singleton front b ih =>
    have byte := b.toNat_lt
    rw [toNatBE_append, List.length_append, List.length_singleton, Nat.pow_succ]
    omega

end Bytes

theorem Crypto.Sha256.length_digest (message : Bytes) : (digest message).length = 32 := by
  simp [digest, Words.bytes, Bytes.length_ofNatBE]

/-- A request for a token: for whom and for what, from when on, and with what randomness. -/
structure SignCall where
  source : String
  subject : String
  now : Instant
  entropy : Entropy

/-- A call to an issuer whose tokens last for `ttl`. -/
structure TimedCall extends SignCall where
  ttl : Span

/-- The state that is sealed for a call under its nonce, with a window up to `stop`. -/
def SignCall.data (call : SignCall) (nonce : UInt64) (stop : Instant) : Data :=
  ⟨⟨Header.currentVersion, nonce, call.now, stop⟩, Csrf.binding nonce call.source call.subject⟩

namespace Csrf

/-- The nonce that a call draws, and the randomness that is left after it. -/
def Draws (call : SignCall) (nonce : UInt64) (left : Entropy) : Prop :=
  freshNonce.run.run call.entropy = (.ok nonce, left)

theorem draws_iff {call : SignCall} {nonce : UInt64} {left : Entropy} : Draws call nonce left ↔
    ∃ raw, call.entropy.draw 8 = (some raw, left) ∧
      nonce = UInt64.ofNat (max (Bytes.toNatBE raw) 1) := by
  unfold Draws freshNonce
  rw [ExceptT.run_bind, StateT.run_bind, Entropy.run_fill]
  rcases call.entropy.draw 8 with ⟨_ | raw, next⟩
  · refine ⟨fun failed => ?_, fun ⟨_, failed, _⟩ => ?_⟩ <;> cases failed
  · constructor
    · intro draws
      cases draws
      exact ⟨raw, rfl, rfl⟩
    · rintro ⟨_, same, rfl⟩
      cases same
      rfl

/-- No draw is taken for the nonce zero, not even one of zeros only. -/
theorem Draws.ne_zero {call : SignCall} {nonce : UInt64} {left : Entropy}
    (draws : Draws call nonce left) : nonce ≠ 0 := by
  obtain ⟨raw, drawn, rfl⟩ := draws_iff.mp draws
  have length : raw.length = 8 := Entropy.length_draw (congrArg Prod.fst drawn)
  have small := Bytes.toNatBE_lt raw
  rw [length] at small
  have value : (UInt64.ofNat (max (Bytes.toNatBE raw) 1)).toNat = max (Bytes.toNatBE raw) 1 := by
    rw [UInt64.toNat_ofNat', Nat.mod_eq_of_lt (by omega)]
  intro zero
  rw [zero] at value
  have : (0 : UInt64).toNat = 0 := rfl
  omega

/-- What a call saves: the container with its nonce set, and the randomness for its box. -/
def Saves (csrf : Csrf) (call : SignCall) (save : Container × Entropy) : Prop :=
  ∃ nonce container, Draws call nonce save.2 ∧
    csrf.factory.create call.now csrf.ttl (binding nonce call.source call.subject) = .ok container ∧
    save.1 = container.touch nonce

/-- The issuer of the same key whose tokens last for `ttl`. -/
def lasting (csrf : Csrf) (ttl : Span) : Csrf := { csrf with ttl }

/-- What calls to issuers of one key save. -/
def saves (csrf : Csrf) (calls : List TimedCall) : Set (Container × Entropy) :=
  {save | ∃ call ∈ calls, (csrf.lasting call.ttl).Saves call.toSignCall save}

/-- A call answers with a token. -/
def Signs (csrf : Csrf) (call : SignCall) (token : String) : Prop :=
  (csrf.signAt call.source call.subject call.now).outcome call.entropy = .ok token

/-- A call to an issuer of the same key answers with a token. -/
def Answers (csrf : Csrf) (call : TimedCall) (token : String) : Prop :=
  (csrf.lasting call.ttl).Signs call.toSignCall token

/-- A token is the text of what is saved. -/
theorem signs_iff {csrf : Csrf} {call : SignCall} {token : String} : csrf.Signs call token ↔
    ∃ save, csrf.Saves call save ∧ ∃ bytes, save.1.save.outcome save.2 = .ok bytes ∧
      Bytes.toText? bytes = some token := by
  unfold Signs signAt
  rw [Drawing.outcome_bind_eq_ok]
  constructor
  · rintro ⟨nonce, left, draws, returned⟩
    have draws := Drawing.run_adapt_eq_ok.mp draws
    cases created : csrf.factory.create call.now csrf.ttl (binding nonce call.source call.subject)
    · rw [created] at returned
      cases returned
    -- What the container saves is drawn from what the nonce left over.
    next container =>
      rw [created] at returned
      obtain ⟨bytes, rest, drawn, answered⟩ := Drawing.outcome_bind_eq_ok.mp returned
      have saved := congrArg Prod.fst (Drawing.run_adapt_eq_ok.mp drawn)
      refine ⟨(container.touch nonce, left), ⟨nonce, container, draws, created, rfl⟩, bytes,
        saved, ?_⟩
      cases isText : Bytes.toText? bytes with
      | none =>
        rw [isText] at answered
        cases answered
      | some text =>
        rw [isText] at answered
        cases answered
        rfl
  · rintro ⟨⟨_, left⟩, ⟨nonce, container, draws, created, rfl⟩, bytes, saved, isText⟩
    refine ⟨nonce, left, Drawing.run_adapt_eq_ok.mpr draws, ?_⟩
    rw [created]
    refine Drawing.outcome_bind_eq_ok.mpr ⟨bytes, _,
      Drawing.run_adapt_eq_ok.mpr (Prod.ext saved rfl), ?_⟩
    rw [isText]
    rfl

section Sealed

variable {csrf : Csrf} {codec : Codec} {call : SignCall}

/-- With a sealing backend, the state of a call is saved as it was put together. -/
theorem saves_iff (backend : csrf.factory.backend = .sealed codec) {save : Container × Entropy} :
    csrf.Saves call save ↔ ∃ nonce stop, Draws call nonce save.2 ∧
      windowEnd call.now csrf.ttl = .ok stop ∧ save.1 = ⟨.sealed codec, call.data nonce stop⟩ := by
  -- Touching sets a nonce unless it is zero, and no nonce that was drawn is.
  have touched (nonce : UInt64) (stop : Instant) (fresh : nonce ≠ 0) (payload : Payload) :
      (⟨.sealed codec, ⟨⟨Header.currentVersion, 0, call.now, stop⟩, payload⟩⟩ :
        Container).touch nonce =
          ⟨.sealed codec, ⟨⟨Header.currentVersion, nonce, call.now, stop⟩, payload⟩⟩ := by
    simp only [Container.touch, Container.mapHeader, Header.touch, fresh, ite_false]
  constructor
  · rintro ⟨nonce, container, draws, created, made⟩
    obtain ⟨stop, ends, rfl⟩ := Container.create_eq_ok.mp created
    refine ⟨nonce, stop, draws, ends, ?_⟩
    rw [made, backend]
    exact touched nonce stop draws.ne_zero _
  · rintro ⟨nonce, stop, draws, ends, made⟩
    refine ⟨nonce, _, draws, Container.create_eq_ok.mpr ⟨stop, ends, rfl⟩, ?_⟩
    rw [made, backend]
    exact (touched nonce stop draws.ne_zero _).symm

/-- The two checksums, in the order of their keys. -/
theorem entries_binding (nonce : UInt64) (source subject : String) :
    (binding nonce source subject).entries =
      [(sourceKey, checksum (nonceBytes nonce) source),
        (subjectKey, checksum (nonceBytes nonce) subject)] := by
  have ordered : sourceKey < subjectKey := by decide
  exact Payload.entries_foldl_insert _ .empty (by simpa [Payload.empty] using ordered)

theorem get?_sourceKey (nonce : UInt64) (source subject : String) :
    (binding nonce source subject).get? sourceKey = some (checksum (nonceBytes nonce) source) := by
  rw [Payload.get?, entries_binding]
  rfl

theorem get?_subjectKey (nonce : UInt64) (source subject : String) :
    (binding nonce source subject).get? subjectKey =
      some (checksum (nonceBytes nonce) subject) := by
  rw [Payload.get?, entries_binding]
  rfl

theorem addressable_binding (nonce : UInt64) (source subject : String) :
    (binding nonce source subject).Addressable := by
  rw [Payload.Addressable, entries_binding]
  simp [checksum, Crypto.Sha256.length_digest]

/-- What is sealed for a call is far below the limit of reading. -/
theorem length_marshal_data (call : SignCall) (nonce : UInt64) (stop : Instant) :
    (SerializerKind.marshal .compact (call.data nonce stop)).length ≤ Lz4.maxLength := by
  have entries := entries_binding nonce call.source call.subject
  have short : ∀ entry ∈ (call.data nonce stop).payload.entries, entry.2.length ≤ 32 := by
    rw [SignCall.data, entries]
    simp [checksum, Crypto.Sha256.length_digest]
  have size : (call.data nonce stop).payload.size = 2 := by
    rw [SignCall.data, Payload.size, entries]
    rfl
  have written := Data.length_write_le (by decide) (call.data nonce stop) short
  rw [size] at written
  exact Nat.le_trans written (by decide)

end Sealed

end Csrf

end SealedTokens
