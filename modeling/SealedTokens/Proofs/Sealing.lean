import Mathlib.Data.Set.Basic
import SealedTokens.Container.Sealer
import SealedTokens.Proofs.Outcomes
/-!
# Sealing

Sealing under the cipher in use is undone by opening. What a cipher has to promise for more than
this, that nothing else can be opened, is stated here as a property of a cipher and of the seals
made under it.

## Main results

- `Crypto.XChaCha20Poly1305.opens`: the cipher in use undoes itself
- `Sealer.ofBox_box`: a box is opened again
- `Sealer.exists_box_of_ofBox`, `Sealer.eq_of_ofBox_box`: under an authentic cipher, what is opened
  is a box that was made, and gives what was put into it
-/
namespace SealedTokens

namespace Crypto

namespace ChaCha20

theorem length_flatMap_wordBytes (words : List UInt32) :
    (words.flatMap wordBytes).length = 4 * words.length := by
  induction words with
  | nil => rfl
  | cons w words ih =>
    rw [List.flatMap_cons, List.length_append, ih, List.length_cons]
    simp only [wordBytes, List.length_cons, List.length_nil]
    omega

theorem length_block (s : Words) (counter : UInt32) : (block s counter).length = 64 := by
  rw [block, length_flatMap_wordBytes]
  simp [Words.toList]

theorem length_le_keystream (key nonce : Bytes) (first length : Nat) :
    length ≤ (keystream key nonce first length).length := by
  -- A whole number of blocks, the last of which may be longer than needed.
  have blocks : (keystream key nonce first length).length = (length + 63) / 64 * 64 := by
    have each (i : Nat) : (block (start key (Bytes.ofNatLE 4 0 ++ nonce))
        (UInt32.ofNat (first + i))).length = 64 := length_block _ _
    simp only [keystream, List.length_flatMap, each, List.map_const', List.sum_replicate_nat,
      List.length_range]
  omega

theorem length_apply (key nonce : Bytes) (first : Nat) (message : Bytes) :
    (apply key nonce first message).length = message.length := by
  have enough := length_le_keystream key nonce first message.length
  rw [apply, List.length_zipWith, Nat.min_eq_left enough]

theorem xor_xor (message stream : Bytes) (enough : message.length ≤ stream.length) :
    List.zipWith (· ^^^ ·) (List.zipWith (· ^^^ ·) message stream) stream = message := by
  induction message generalizing stream with
  | nil => simp
  | cons b message ih =>
    match stream with
    | [] => simp at enough
    | s :: stream =>
      rw [List.zipWith_cons_cons, List.zipWith_cons_cons, ih stream (by simpa using enough),
        UInt8.xor_assoc, UInt8.xor_self, UInt8.xor_zero]

/-- Applying the keystream twice does nothing. -/
theorem apply_apply (key nonce : Bytes) (first : Nat) (message : Bytes) :
    apply key nonce first (apply key nonce first message) = message := by
  rw [apply, length_apply]
  exact xor_xor _ _ (length_le_keystream key nonce first message.length)

end ChaCha20

/-! ### Promises of a cipher -/

namespace Cipher

/-- What is encrypted under a nonce is decrypted again, and its tag has the length that boxes
reserve for it. -/
structure Opens (cipher : Cipher) (nonce message : Bytes) : Prop where
  tagLength : (cipher.encrypt nonce message).2.length = XChaCha20Poly1305.tagLength
  decrypts : cipher.decrypt? nonce (cipher.encrypt nonce message).1
    (cipher.encrypt nonce message).2 = some message

/-- Only what was encrypted is decrypted, and to its own message, where `seals` has the nonces and
messages of all that was encrypted. -/
structure Authentic (cipher : Cipher) (seals : Set (Bytes × Bytes)) : Prop where
  tagLength : ∀ nonce message,
    (cipher.encrypt nonce message).2.length = XChaCha20Poly1305.tagLength
  sealed : ∀ nonce ciphertext tag message, cipher.decrypt? nonce ciphertext tag = some message →
    ∃ origin, (nonce, origin) ∈ seals ∧ cipher.encrypt nonce origin = (ciphertext, tag)
  original : ∀ nonce ciphertext tag message, cipher.decrypt? nonce ciphertext tag = some message →
    ∀ origin, (nonce, origin) ∈ seals → cipher.encrypt nonce origin = (ciphertext, tag) →
      origin = message

/-- Exactly what was encrypted is decrypted. -/
structure Ideal (cipher : Cipher) (seals : Set (Bytes × Bytes)) : Prop
    extends cipher.Authentic seals where
  opens : ∀ nonce message, (nonce, message) ∈ seals → cipher.Opens nonce message

end Cipher

theorem XChaCha20Poly1305.opens (key nonce message : Bytes) :
    (cipher key).Opens nonce message where
  tagLength := Bytes.length_ofNatLE 16 _
  decrypts := by simp [cipher, ChaCha20.apply_apply]

end Crypto

/-! ### Boxes -/

namespace Sealer

open Crypto

/-- The nonce that sealing draws; no sealing needs none. -/
def nonce? (sealer : Sealer) (source : Entropy) : Option Bytes :=
  match sealer with
  | nop => some []
  | secretBox _ => (source.draw XChaCha20Poly1305.nonceLength).1

/-- The box of a content under a nonce. -/
def box (sealer : Sealer) (nonce content : Bytes) : Bytes :=
  match sealer with
  | nop => content
  | secretBox cipher =>
    nonce ++ (cipher.encrypt nonce content).1 ++ (cipher.encrypt nonce content).2

/-- What is sealed under a nonce is opened again. -/
def Opens (sealer : Sealer) (nonce content : Bytes) : Prop :=
  match sealer with
  | nop => True
  | secretBox cipher => cipher.Opens nonce content

/-- A box is longer than its content by the nonce and the tag. -/
theorem length_box (key nonce content : Bytes) :
    ((secretBox (XChaCha20Poly1305.cipher key)).box nonce content).length =
      nonce.length + content.length + 16 := by
  have tag := (XChaCha20Poly1305.opens key nonce content).tagLength
  have ciphertext :
      ((XChaCha20Poly1305.cipher key).encrypt nonce content).1.length = content.length :=
    ChaCha20.length_apply _ _ _ _
  rw [box, List.length_append, List.length_append, ciphertext, tag]
  rfl

theorem outcome_toBox (sealer : Sealer) (content : Bytes) (source : Entropy) :
    (sealer.toBox content).outcome source =
      match sealer.nonce? source with
      | some nonce => .ok (sealer.box nonce content)
      | none => .error (.internal "rng unavailable") := by
  cases sealer with
  | nop => rfl
  | secretBox cipher =>
    unfold Drawing.outcome toBox
    rw [ExceptT.run_bind, StateT.run_bind, Entropy.run_fill, nonce?]
    rcases source.draw XChaCha20Poly1305.nonceLength with ⟨_ | nonce, next⟩ <;> rfl

/-- A box is cut where it was joined, whatever its length. -/
theorem cut_join (ciphertext : Bytes) {nonce tag : Bytes}
    (hn : nonce.length = XChaCha20Poly1305.nonceLength)
    (ht : tag.length = XChaCha20Poly1305.tagLength) :
    let rest := (nonce ++ ciphertext ++ tag).drop XChaCha20Poly1305.nonceLength
    let length := rest.length - XChaCha20Poly1305.tagLength
    (nonce ++ ciphertext ++ tag).take XChaCha20Poly1305.nonceLength = nonce ∧
      rest.take length = ciphertext ∧ rest.drop length = tag := by
  intro rest length
  have rest_eq : rest = ciphertext ++ tag := by
    simp only [rest]
    rw [List.append_assoc, ← hn, List.drop_left]
  have length_eq : length = ciphertext.length := by
    simp only [length]
    rw [rest_eq, List.length_append, ht, Nat.add_sub_cancel]
  refine ⟨?_, ?_, ?_⟩
  · rw [List.append_assoc, ← hn, List.take_left]
  · rw [rest_eq, length_eq, List.take_left]
  · rw [rest_eq, length_eq, List.drop_left]

theorem ofBox_join (cipher : Crypto.Cipher) {nonce ciphertext tag : Bytes}
    (hn : nonce.length = XChaCha20Poly1305.nonceLength)
    (ht : tag.length = XChaCha20Poly1305.tagLength) :
    (secretBox cipher).ofBox (nonce ++ ciphertext ++ tag) =
      match cipher.decrypt? nonce ciphertext tag with
      | some content => .ok content
      | none => .error ⟨.decrypt "Decryption failed", some "AEAD authentication failed"⟩ := by
  obtain ⟨first, second, third⟩ := cut_join ciphertext hn ht
  have long : ¬ (nonce ++ ciphertext ++ tag).length < minLength := by
    rw [List.length_append, List.length_append, hn, ht, minLength]
    omega
  rw [ofBox, if_neg long]
  cases opened : cipher.decrypt? nonce ciphertext tag with
  | none => simp only [first, second, third, opened]
  | some content => simp only [first, second, third, opened]

theorem ofBox_box {sealer : Sealer} {nonce content : Bytes} {source : Entropy}
    (drawn : sealer.nonce? source = some nonce) (opens : sealer.Opens nonce content) :
    sealer.ofBox (sealer.box nonce content) = .ok content := by
  cases sealer with
  | nop => rfl
  | secretBox cipher =>
    rw [box, ofBox_join cipher (Entropy.length_draw drawn) opens.tagLength, opens.decrypts]

section Authentic

variable {cipher : Crypto.Cipher} {seals : Set (Bytes × Bytes)}

/-- Only a box that was made is opened. -/
theorem exists_box_of_ofBox (authentic : cipher.Authentic seals) {given content : Bytes}
    (opened : (secretBox cipher).ofBox given = .ok content) :
    ∃ nonce origin, (nonce, origin) ∈ seals ∧ given = (secretBox cipher).box nonce origin := by
  rw [ofBox] at opened
  split at opened
  · cases opened
  · simp only at opened
    split at opened
    next message decrypted =>
      -- The parts that were cut are those of a seal, and joined again they are the box.
      obtain ⟨origin, member, encrypted⟩ := authentic.sealed _ _ _ _ decrypted
      refine ⟨_, origin, member, ?_⟩
      rw [box, encrypted, List.append_assoc, List.take_append_drop, List.take_append_drop]
    · cases opened

/-- A box that was made is opened to its own content, if it is opened. -/
theorem eq_of_ofBox_box (authentic : cipher.Authentic seals) {nonce origin content : Bytes}
    (hn : nonce.length = XChaCha20Poly1305.nonceLength) (member : (nonce, origin) ∈ seals)
    (opened : (secretBox cipher).ofBox ((secretBox cipher).box nonce origin) = .ok content) :
    origin = content := by
  rw [box, ofBox_join cipher hn (authentic.tagLength nonce origin)] at opened
  split at opened
  next message decrypted =>
    cases opened
    exact authentic.original _ _ _ _ decrypted origin member rfl
  · cases opened

end Authentic

theorem isFormatOrDecrypt_of_ofBox {sealer : Sealer} {given : Bytes} {e : ContainerError}
    (refused : sealer.ofBox given = .error e) : e.isFormatOrDecrypt = true := by
  cases sealer with
  | nop => cases refused
  | secretBox cipher =>
    simp only [ofBox] at refused
    split at refused
    · cases refused
      rfl
    · split at refused <;> cases refused
      rfl

end Sealer

end SealedTokens
