import SealedTokens.Container.Codec
import SealedTokens.Proofs.Lz4Stream
import SealedTokens.Proofs.Sealing
import SealedTokens.Proofs.Serials
/-!
# Codecs

The four stages of a codec together. Each stage reads back what it wrote, if it reads it at all, and
refuses with an error about the token; sealing under an authentic cipher makes every token that is
read one that was written.

## Main results

- `Codec.decode_token`, `Codec.shown_of_decode`: what was encoded is decoded, as it is shown
- `Codec.exists_save_of_decode`, `Codec.eq_of_decode_save`: under an authentic cipher, what is decoded
  was encoded, and gives what was saved
- `Codec.isFormatOrDecrypt_of_decode`: whatever fails, the error is about the token
-/
namespace SealedTokens

/-! ### The stages one by one -/

namespace SerializerKind

variable {α : Type} [Serial α]

theorem isFormatOrDecrypt_of_unmarshal {kind : SerializerKind} {bytes : Bytes} {e : ContainerError}
    (refused : (kind.unmarshal bytes : Except ContainerError α) = .error e) :
    e.isFormatOrDecrypt = true := by
  cases kind with
  | compact =>
    simp only [unmarshal] at refused
    split at refused <;> cases refused
    rfl
  | json =>
    simp only [unmarshal] at refused
    split at refused <;> cases refused
    rfl

variable [LawfulSerial α]

/-- The form of a kind carries a value. -/
def Carries (kind : SerializerKind) (value : α) : Prop := kind = compact → LawfulSerial.Fits value

theorem unmarshal_marshal {kind : SerializerKind} {value : α} (carried : kind.Carries value) :
    kind.unmarshal (kind.marshal value) = .ok (LawfulSerial.shown value) := by
  cases kind with
  | compact =>
    have read := LawfulSerial.reads value (carried rfl) []
    rw [List.append_nil] at read
    simp only [unmarshal, marshal, read]
  | json =>
    simp only [unmarshal, marshal, Json.parse?_print (LawfulSerial.isWritten value),
      Option.bind_some, LawfulSerial.ofJson?_toJson]

/-- No value is mistaken for another, carried or not. -/
theorem eq_of_unmarshal_marshal {kind : SerializerKind} {value read : α}
    (returned : kind.unmarshal (kind.marshal value) = .ok read) :
    read = LawfulSerial.shown value := by
  by_cases carried : kind.Carries value
  · rw [unmarshal_marshal carried] at returned
    cases returned
    rfl
  -- What does not fit was written all the same, but no reader takes it.
  · obtain ⟨isCompact, unfit⟩ := Classical.not_imp.mp carried
    subst isCompact
    obtain ⟨fault, failed⟩ := LawfulSerial.refuses value unfit []
    rw [List.append_nil] at failed
    simp only [unmarshal, marshal, failed] at returned
    cases returned

/-- What is read is as it is shown. -/
theorem shown_of_unmarshal {kind : SerializerKind} {bytes : Bytes} {value : α}
    (returned : kind.unmarshal bytes = .ok value) : LawfulSerial.shown value = value := by
  cases kind with
  | compact =>
    simp only [unmarshal] at returned
    split at returned
    next read =>
      cases returned
      exact LawfulSerial.shown_of_read _ _ _ read
    · cases returned
  | json =>
    simp only [unmarshal] at returned
    split at returned
    next read =>
      cases returned
      obtain ⟨json, -, read⟩ := Option.bind_eq_some_iff.mp read
      exact LawfulSerial.shown_of_ofJson? _ _ read
    · cases returned

/-- A state without entries takes little room in either form. -/
theorem length_marshal_le (kind : SerializerKind) {d : Data} (nothing : d.payload = .empty) :
    (kind.marshal d).length ≤ 500 := by
  cases kind with
  | compact =>
    have written := Data.length_write_le (show 0 < 2 ^ 64 by decide) d
      (by simp [nothing, Payload.empty])
    rw [nothing] at written
    exact Nat.le_trans written (by decide)
  | json =>
    have header := d.header.length_print_le
    have whole : json.marshal d = Json.openObject :: (Json.quotedBytes (Bytes.ofAscii "header") ++
        Json.colon :: (Serial.toJson d.header).print ++ Json.comma ::
          (Json.quotedBytes (Bytes.ofAscii "payload") ++
            Json.colon :: [Json.openObject, Json.closeObject])) ++ [Json.closeObject] := by
      show (Serial.toJson d).print = _
      simp only [Serial.toJson, nothing, Data.memberNames, Json.print]
      rfl
    have names : "header".toList.length = 6 ∧ "payload".toList.length = 7 := by decide
    rw [whole]
    simp only [Json.quotedBytes, Bytes.ofAscii, List.length_append, List.length_cons,
      List.length_map, List.length_nil]
    omega

end SerializerKind

namespace CompressorKind

/-- A stage that restores a byte string of its length. -/
def Restores (kind : CompressorKind) (bytes : Bytes) : Prop :=
  kind = lz4 → bytes.length ≤ Lz4.maxLength

theorem decompress_compress {kind : CompressorKind} {bytes : Bytes}
    (restored : kind.Restores bytes) :
    kind.decompress (kind.compress bytes) = .ok bytes := by
  cases kind with
  | nop => rfl
  | lz4 => simp only [decompress, compress, Lz4.decompress_compress (restored rfl)]

/-- What is not restored is not mistaken for anything either. -/
theorem exists_error_of_not_restored {kind : CompressorKind} {bytes : Bytes}
    (lost : ¬ kind.Restores bytes) :
    ∃ e, kind.decompress (kind.compress bytes) = .error e ∧ e.IsFormat := by
  obtain ⟨rfl, large⟩ := Classical.not_imp.mp lost
  obtain ⟨fault, failed⟩ := Lz4.exists_error_of_large (Nat.not_le.mp large)
  refine ⟨⟨.format fault.message, fault.context⟩, ?_, fault.message, rfl⟩
  simp only [decompress, compress, failed]

theorem eq_of_decompress_compress {kind : CompressorKind} {bytes read : Bytes}
    (returned : kind.decompress (kind.compress bytes) = .ok read) : read = bytes := by
  cases kind with
  | nop =>
    cases returned
    rfl
  | lz4 =>
    simp only [decompress, compress] at returned
    split at returned
    next restored =>
      cases returned
      exact Lz4.eq_of_decompress_compress restored
    · cases returned

theorem isFormatOrDecrypt_of_decompress {kind : CompressorKind} {bytes : Bytes} {e : ContainerError}
    (refused : kind.decompress bytes = .error e) : e.isFormatOrDecrypt = true := by
  cases kind with
  | nop => cases refused
  | lz4 =>
    simp only [decompress] at refused
    split at refused <;> cases refused
    rfl

end CompressorKind

namespace RepresenterKind

/-- A spelling is read as the one byte string that it spells. -/
theorem decode_eq_ok_iff {kind : RepresenterKind} {token bytes : Bytes} :
    kind.decode token = .ok bytes ↔ token = kind.encode bytes := by
  cases kind with
  | nop =>
    refine ⟨fun returned => ?_, fun same => ?_⟩
    · cases returned
      rfl
    · rw [same]
      rfl
  | base64 =>
    simp only [decode, encode, ← Base64.decode_eq_ok_iff]
    split
    next read =>
      simp [read]
    next failed =>
      simp [failed]

theorem isFormatOrDecrypt_of_decode {kind : RepresenterKind} {token : Bytes} {e : ContainerError}
    (refused : kind.decode token = .error e) : e.isFormatOrDecrypt = true := by
  cases kind with
  | nop => cases refused
  | base64 =>
    simp only [decode] at refused
    split at refused <;> cases refused
    rfl

end RepresenterKind

/-! ### The stages together -/

namespace Codec

variable {α : Type} [Serial α] {codec : Codec}

/-- What is sealed for a value. -/
def content (codec : Codec) (value : α) : Bytes :=
  codec.compressor.compress (codec.serializer.marshal value)

/-- The token of a value under a nonce. -/
def token (codec : Codec) (nonce : Bytes) (value : α) : Bytes :=
  codec.representer.encode (codec.sealer.box nonce (codec.content value))

theorem outcome_encode (codec : Codec) (value : α) (source : Entropy) :
    (codec.encode value).outcome source =
      match codec.sealer.nonce? source with
      | some nonce => .ok (codec.token nonce value)
      | none => .error (.internal "rng unavailable") := by
  have encoded := Drawing.outcome_map (codec.sealer.toBox (codec.content value))
    codec.representer.encode source
  rw [Sealer.outcome_toBox] at encoded
  refine encoded.trans ?_
  cases codec.sealer.nonce? source <;> rfl

theorem outcome_encode_eq_ok {value : α} {source : Entropy} {token : Bytes} :
    (codec.encode value).outcome source = .ok token ↔
      ∃ nonce, codec.sealer.nonce? source = some nonce ∧ token = codec.token nonce value := by
  rw [outcome_encode]
  cases codec.sealer.nonce? source with
  | none => simp
  | some nonce => simp [eq_comm]

theorem decode_eq_ok {token : Bytes} {value : α} (returned : codec.decode token = .ok value) :
    ∃ box compressed bytes, codec.representer.decode token = .ok box ∧
      codec.sealer.ofBox box = .ok compressed ∧ codec.compressor.decompress compressed = .ok bytes ∧
      codec.serializer.unmarshal bytes = .ok value := by
  obtain ⟨box, spelled, returned⟩ := bind_eq_ok.mp returned
  obtain ⟨compressed, opened, returned⟩ := bind_eq_ok.mp returned
  obtain ⟨bytes, decompressed, read⟩ := bind_eq_ok.mp returned
  exact ⟨box, compressed, bytes, spelled, opened, decompressed, read⟩

/-- Whatever fails, the error is about the token. -/
theorem isFormatOrDecrypt_of_decode {token : Bytes} {e : ContainerError}
    (refused : (codec.decode token : Except ContainerError α) = .error e) :
    e.isFormatOrDecrypt = true := by
  -- The stage that failed, in the order in which they are undone.
  obtain spelling | ⟨box, -, refused⟩ := bind_eq_error.mp refused
  · exact RepresenterKind.isFormatOrDecrypt_of_decode spelling
  obtain opening | ⟨compressed, -, refused⟩ := bind_eq_error.mp refused
  · exact Sealer.isFormatOrDecrypt_of_ofBox opening
  obtain decompressing | ⟨bytes, -, reading⟩ := bind_eq_error.mp refused
  · exact CompressorKind.isFormatOrDecrypt_of_decompress decompressing
  · exact SerializerKind.isFormatOrDecrypt_of_unmarshal reading

/-- The nonces and contents of the seals that saving each of the values makes. -/
def seals (codec : Codec) (saves : Set (α × Entropy)) : Set (Bytes × Bytes) :=
  {s | ∃ save ∈ saves, codec.sealer.nonce? save.2 = some s.1 ∧ s.2 = codec.content save.1}

theorem seals_singleton {value : α} {source : Entropy} {nonce : Bytes}
    (drawn : codec.sealer.nonce? source = some nonce) :
    codec.seals {(value, source)} = {(nonce, codec.content value)} := by
  ext ⟨first, second⟩
  constructor
  · rintro ⟨_, rfl, drawn', written⟩
    cases drawn.symm.trans drawn'
    cases written
    rfl
  · intro same
    cases same
    exact ⟨_, rfl, drawn, rfl⟩

section Authentic

variable {cipher : Crypto.Cipher} {saves : Set (α × Entropy)} {token : Bytes} {value : α}

/-- Under an authentic cipher, what is decoded is the token of a saved value. -/
theorem exists_save_of_decode (sealed : codec.sealer = .secretBox cipher)
    (authentic : cipher.Authentic (codec.seals saves)) (returned : codec.decode token = .ok value) :
    ∃ save ∈ saves, (codec.encode save.1).outcome save.2 = .ok token := by
  obtain ⟨box, compressed, bytes, spelled, opened, decompressed, read⟩ := decode_eq_ok returned
  rw [sealed] at opened
  obtain ⟨nonce, origin, ⟨save, member, drawn, written⟩, joined⟩ :=
    Sealer.exists_box_of_ofBox authentic opened
  refine ⟨save, member, outcome_encode_eq_ok.mpr ⟨nonce, drawn, ?_⟩⟩
  simp only at written
  -- The representer has one spelling for a box, so the token is the one that was written.
  rw [RepresenterKind.decode_eq_ok_iff.mp spelled, joined, ← sealed, written]
  rfl

end Authentic

section Opens

variable {value : α} {source : Entropy} {nonce : Bytes}
  (drawn : codec.sealer.nonce? source = some nonce)
  (opens : codec.sealer.Opens nonce (codec.content value))

include drawn opens

/-- What becomes of a token once its spelling and its box are undone. -/
theorem decode_token_eq : (codec.decode (codec.token nonce value) : Except ContainerError α) =
    (codec.compressor.decompress (codec.content value)).bind codec.serializer.unmarshal := by
  have spelled : codec.representer.decode (codec.token nonce value) =
      .ok (codec.sealer.box nonce (codec.content value)) :=
    RepresenterKind.decode_eq_ok_iff.mpr rfl
  have opened := Sealer.ofBox_box drawn opens
  unfold decode
  simp only [spelled, opened, bind, Except.bind]

/-- A value that is not restored was encoded all the same, and is not decoded. -/
theorem exists_error_of_not_restored
    (lost : ¬ codec.compressor.Restores (codec.serializer.marshal value)) :
    ∃ e, (codec.decode (codec.token nonce value) : Except ContainerError α) = .error e ∧
      e.IsFormat := by
  obtain ⟨e, failed, isFormat⟩ := CompressorKind.exists_error_of_not_restored lost
  rw [decode_token_eq drawn opens, content, failed]
  exact ⟨e, rfl, isFormat⟩

/-- What was encoded is decoded as it is shown, if each stage undoes itself on it. -/
theorem decode_token [LawfulSerial α] (carried : codec.serializer.Carries value)
    (restored : codec.compressor.Restores (codec.serializer.marshal value)) :
    codec.decode (codec.token nonce value) = .ok (LawfulSerial.shown value) := by
  rw [decode_token_eq drawn opens, content, CompressorKind.decompress_compress restored]
  exact SerializerKind.unmarshal_marshal carried

end Opens

variable [LawfulSerial α]

/-- A content that is read at all is the content of what is read. -/
theorem eq_of_decode_content {value read : α} {bytes : Bytes}
    (decompressed : codec.compressor.decompress (codec.content value) = .ok bytes)
    (returned : codec.serializer.unmarshal bytes = .ok read) : LawfulSerial.shown value = read := by
  have restored := CompressorKind.eq_of_decompress_compress decompressed
  subst restored
  exact (SerializerKind.eq_of_unmarshal_marshal returned).symm

theorem shown_of_decode {token : Bytes} {value : α} (returned : codec.decode token = .ok value) :
    LawfulSerial.shown value = value := by
  obtain ⟨_, _, _, -, -, -, read⟩ := decode_eq_ok returned
  exact SerializerKind.shown_of_unmarshal read

/-- The token of a saved value is decoded to this value as it is shown, if it is decoded. -/
theorem eq_of_decode_save {cipher : Crypto.Cipher} {saves : Set (α × Entropy)} {token : Bytes}
    {value : α} (sealed : codec.sealer = .secretBox cipher)
    (authentic : cipher.Authentic (codec.seals saves)) {save : α × Entropy} (member : save ∈ saves)
    (saved : (codec.encode save.1).outcome save.2 = .ok token)
    (returned : codec.decode token = .ok value) : LawfulSerial.shown save.1 = value := by
  obtain ⟨box, compressed, bytes, spelled, opened, decompressed, read⟩ := decode_eq_ok returned
  obtain ⟨nonce, drawn, rfl⟩ := outcome_encode_eq_ok.mp saved
  -- Backwards from the token: its box, the content of the box, and the value of the content.
  have box_eq : codec.sealer.box nonce (codec.content save.1) = box := by
    rw [Codec.token, RepresenterKind.decode_eq_ok_iff.mpr rfl] at spelled
    exact Except.ok.inj spelled
  have drawn' := drawn
  rw [← box_eq, sealed] at opened
  rw [sealed] at drawn'
  have content_eq := Sealer.eq_of_ofBox_box authentic (Entropy.length_draw drawn')
    ⟨save, member, drawn, rfl⟩ opened
  rw [← content_eq] at decompressed
  exact eq_of_decode_content decompressed read

end Codec

end SealedTokens
