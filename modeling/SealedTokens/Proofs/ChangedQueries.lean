import SealedTokens.Proofs.CsrfGuard
import SealedTokens.Proofs.DamagedTexts
import SealedTokens.Proofs.Subjects
/-!
# Changed queries

A token that was signed for a target is not accepted in another: the path has to be the same, and
the same values have to stand under each name. What is compared is the text that a query spells.
Byte strings that are no text are repaired before, so two of them may count as the same value.

## Main results

- `Csrf.query_of_validateUrlAt`: what a target that carries a token has in common with the one that
  the token was signed for
- `Csrf.repaired_values_are_merged`: two byte strings that one token is accepted with

## Proof strategy

The token is read back as the state of the call that signed it, and its second checksum is over the
subject of the target that was signed. So both targets have the same subject, which says that the
texts under each name are the same. A text without replacement characters was read from its own
bytes, and then the bytes are the same as well.
-/
namespace SealedTokens

open Http

/-! ### Queries as byte strings -/

namespace Http.Form

/-- The bytes that a written name or value stands for. -/
def decodeBytes (written : Bytes) : Bytes := percentDecode (written.map unplus)

/-- The pair of byte strings that a written piece stands for. -/
def bytePair (piece : Bytes) : Bytes × Bytes :=
  (decodeBytes (piece.takeWhile (· ≠ 61)), decodeBytes ((piece.dropWhile (· ≠ 61)).drop 1))

/-- The pairs of byte strings that a query stands for. -/
def bytePairs (query : Bytes) : List (Bytes × Bytes) :=
  ((query.splitOn 38).filter (!·.isEmpty)).map bytePair

theorem decodePair_eq (piece : Bytes) :
    decodePair piece = ((bytePair piece).map Text.lossy Text.lossy) := rfl

theorem decodePairs_eq (query : Bytes) :
    decodePairs query = (bytePairs query).map (Prod.map Text.lossy Text.lossy) := by
  rw [decodePairs, bytePairs, List.map_map]
  rfl

/-- A piece in front of a pair is a pair of its own. -/
theorem bytePairs_before {piece : List Char} (plain : ∀ c ∈ piece, c.toNat < 128 ∧ c ≠ '&')
    (some : piece ≠ []) (pair : FormPair) :
    bytePairs (Bytes.ofText (String.ofList (piece ++ '&' :: encodePair pair))) =
      [bytePair (written piece), bytePair (written (encodePair pair))] := by
  have ascii : ∀ c ∈ piece ++ '&' :: encodePair pair, c.toNat < 128 := by
    intro c member
    rcases List.mem_append.mp member with before | after
    · exact (plain c before).1
    rcases List.mem_cons.mp after with rfl | after
    · decide
    · exact (of_mem_encodePair after).2.1
  have joined : written (piece ++ '&' :: encodePair pair) =
      [38].intercalate [written piece, written (encodePair pair)] := by
    simp [written, List.intercalate]
  have apart : ∀ p ∈ [written piece, written (encodePair pair)], (38 : UInt8) ∉ p := by
    simpa using ⟨not_mem_written (c := '&') plain (by decide), not_mem_written_encodePair pair⟩
  have nonempty : ∀ p ∈ [written piece, written (encodePair pair)], (!p.isEmpty) = true := by
    simpa [written, encodePair] using some
  rw [ofText_ascii ascii, joined, bytePairs, pieces_intercalate apart nonempty]
  rfl

end Http.Form

namespace CsrfTarget

/-- The query of a target as pairs of byte strings. -/
def bytePairs (uri : Uri) : List (Bytes × Bytes) :=
  match uri.target.query with
  | some query => Form.bytePairs (Bytes.ofText (String.ofList query))
  | none => []

/-- The byte strings that stand under a name, in the order they stand in. -/
def byteValues (uri : Uri) (name : Bytes) : List Bytes :=
  ((bytePairs uri).filter (·.1 = name)).map Prod.snd

theorem queryPairs_eq (uri : Uri) :
    queryPairs uri = (bytePairs uri).map (Prod.map Text.lossy Text.lossy) := by
  cases written : uri.target.query with
  | none => rw [queryPairs, bytePairs, written]; rfl
  | some query =>
    rw [queryPairs, bytePairs, written]
    exact Form.decodePairs_eq _

/-- The text has no replacement character, so it is not a repaired one. -/
def Whole (text : String) : Prop := Text.replacement ∉ text.toList

/-- A name that needs no repair is read from its own bytes alone. -/
theorem values_lossy (uri : Uri) {name : Bytes} (whole : Whole (Text.lossy name)) :
    values uri (Text.lossy name) = (byteValues uri name).map Text.lossy := by
  have same (other : Bytes) : Text.lossy other = Text.lossy name ↔ other = name := by
    constructor
    · intro read
      rw [← Text.ofText_lossy whole, ← read, Text.ofText_lossy (read ▸ whole)]
    · rintro rfl
      rfl
  rw [values, byteValues, queryPairs_eq, List.filter_map, List.map_map, List.map_map]
  congr 1
  refine List.filter_congr fun pair _ => ?_
  simp [same]

/-- Values that need no repair are the bytes of what is read. -/
theorem byteValues_eq (uri : Uri) {name : Bytes} (whole : Whole (Text.lossy name))
    (wholeValues : ∀ value ∈ values uri (Text.lossy name), Whole value) :
    byteValues uri name = (values uri (Text.lossy name)).map Bytes.ofText := by
  rw [values_lossy uri whole, List.forall_mem_map] at wholeValues
  rw [values_lossy uri whole, List.map_map]
  refine (List.map_id _).symm.trans (List.map_congr_left fun value member => ?_)
  exact (Text.ofText_lossy (wholeValues value member)).symm

end CsrfTarget

namespace Csrf

open CsrfTarget (Rearranged queryPairs values byteValues withToken Whole)

/-! ### Accepted tokens -/

section Accepted

variable {config : CsrfConfig} {files : Files} {issuer : Csrf}

/-- A token that a target is accepted with was signed for the subject of the target. -/
theorem subject_of_validateAt (built : ofConfig config files = .ok issuer) {call : SignCall}
    {token : String} (signed : issuer.Signs call token) {clock now : Instant}
    {source subject : String}
    (injective : Set.InjOn Crypto.Sha256.digest (inPlay [call] source subject))
    (accepted : issuer.validateAt clock source subject token now = .ok ()) :
    call.subject = subject := by
  obtain ⟨key, backend⟩ := exists_backend built
  obtain ⟨nonce, stop, left, draws, -, read⟩ := decode_of_opens backend
    (fun _ _ _ _ _ _ _ => Crypto.XChaCha20Poly1305.opens key _ _) signed
  -- That it was accepted says that there was a container to read it into.
  obtain ⟨container, unpacked, checked⟩ := bind_eq_ok.mp accepted
  obtain ⟨created, made, -⟩ := bind_eq_ok.mp unpacked
  obtain ⟨stop', inCalendar, -⟩ := Container.create_eq_ok.mp (CsrfError.lift_eq_ok.mp made)
  rw [validateAt, unpack_eq backend inCalendar, trim_of_signs backend signed, read] at accepted
  have verdict := (check_data injective List.mem_cons_self draws _ stop now).symm.trans accepted
  exact (verdict_eq_ok.mp verdict).2.1

theorem token?_signed {uri signed : Uri} (valid : uri.NamesPath) {source : String} {start : Instant}
    {entropy : Entropy}
    (answered : (issuer.signUrlAt source uri start).outcome entropy = .ok signed) :
    ∃ token, issuer.Signs ⟨source, CsrfTarget.subject uri issuer.parameter, start, entropy⟩ token ∧
      CsrfTarget.token? signed issuer.parameter = some token := by
  obtain ⟨token, signs, rfl⟩ := (signUrlAt_eq_ok valid).mp answered
  exact ⟨token, signs,
    CsrfTarget.token?_of_filter (CsrfTarget.filter_queryPairs_withToken _ _)⟩

end Accepted

/-! ### Main result -/

/-- **Changed queries.** A target that is accepted with the token of another has the same path,
and the same texts under each name but the token's, in the same order. Under a name that is no
repaired text, it has the same byte strings if none of the texts that the signed target has there
is a repaired one.

- `valid`: holds for whatever is read and has a scheme or starts with a slash
  (`Uri.namesPath_of_ofText`)
- `injective`: the digests of the messages in play do not collide -/
theorem query_of_validateUrlAt {config : CsrfConfig} {files : Files} {issuer : Csrf}
    (built : ofConfig config files = .ok issuer) (source : String) {uri signed other : Uri}
    (valid : uri.NamesPath) (readable : other.target.Readable) {start clock now : Instant}
    {entropy : Entropy}
    (answered : (issuer.signUrlAt source uri start).outcome entropy = .ok signed)
    (placed : CsrfTarget.token? other issuer.parameter =
      CsrfTarget.token? signed issuer.parameter)
    (injective : Set.InjOn Crypto.Sha256.digest
      (inPlay [⟨source, CsrfTarget.subject uri issuer.parameter, start, entropy⟩] source
        (CsrfTarget.subject other issuer.parameter)))
    (accepted : issuer.validateUrlAt clock source other now = .ok ()) :
    CsrfTarget.path other = CsrfTarget.path uri ∧
    (∀ name, name ≠ issuer.parameter → values other name = values uri name) ∧
    ∀ name : Bytes, name ≠ Bytes.ofText issuer.parameter → Whole (Text.lossy name) →
      (∀ value ∈ values uri (Text.lossy name), Whole value) →
        byteValues other name = byteValues uri name := by
  obtain ⟨token, signs, carried⟩ := token?_signed valid answered
  rw [validateUrlAt, placed, carried] at accepted
  have same := subject_of_validateAt built signs injective accepted
  obtain ⟨samePath, arranged⟩ :=
    (CsrfTarget.subject_eq_iff valid.readable readable).mp same
  have sameValues := CsrfTarget.rearranged_otherPairs_iff.mp arranged
  refine ⟨samePath.symm, fun name different => (sameValues name different).symm,
    fun name different whole wholeValues => ?_⟩
  have differentText : Text.lossy name ≠ issuer.parameter := by
    rintro same
    exact different (by rw [← same, Text.ofText_lossy whole])
  -- The texts of the other target are those of the signed one, so none of them is repaired either.
  rw [CsrfTarget.byteValues_eq uri whole wholeValues,
    CsrfTarget.byteValues_eq other whole (sameValues _ differentText ▸ wholeValues),
    sameValues _ differentText]

/-- What a target is signed with if only zeros are drawn, and where that is accepted a second
later. -/
theorem exists_signed_with_zeros (source : String) {uri : Uri} (valid : uri.NamesPath) :
    ∃ token, (keyedIssuer.signUrlAt source uri .epoch).outcome { stream := fun _ => 0 } =
        .ok (withToken uri "csrf" token) ∧
      ∀ other : Uri, CsrfTarget.path other = CsrfTarget.path uri →
        Rearranged (queryPairs other) (queryPairs (withToken uri "csrf" token)) →
          CsrfTarget.token? other "csrf" =
            CsrfTarget.token? (withToken uri "csrf" token) "csrf" ∧
          keyedIssuer.validateUrlAt .epoch source other ⟨1, 0, by decide, by decide⟩ = .ok () := by
  obtain ⟨key, backend⟩ := exists_backend ofConfig_keyed
  have ends : windowEnd .epoch keyedIssuer.ttl = .ok ⟨21600, 0, by decide, by decide⟩ := by decide
  have drawn : (stack (Crypto.XChaCha20Poly1305.cipher key)).sealer.nonce?
      { stream := fun _ => 0, position := 8, draws := 1 } = some (List.replicate 24 0) := by
    show (Entropy.draw 24 _).1 = _
    decide
  have signs := signs_token backend (draws_zeroCall source (CsrfTarget.subject uri "csrf") .epoch)
    ends drawn
  refine ⟨_, (signUrlAt_eq_ok valid).mpr ⟨_, signs, rfl⟩, fun other samePath samePairs => ?_⟩
  have only (token : String) : (queryPairs (withToken uri "csrf" token)).filter (·.1 = "csrf") =
      [("csrf", token)] := CsrfTarget.filter_queryPairs_withToken "csrf" token
  have carried := CsrfTarget.token?_of_filter ((samePairs.order "csrf").trans (only _))
  have bound := (CsrfTarget.subject_of_rearranged
    (samePath.trans (CsrfTarget.targetPath_withToken valid "csrf" _).symm) samePairs).trans
      (CsrfTarget.subject_withToken valid "csrf" _)
  refine ⟨carried.trans (CsrfTarget.token?_of_filter (only _)).symm, ?_⟩
  have parameter : keyedIssuer.parameter = "csrf" := rfl
  have begun : Instant.epoch < ⟨1, 0, by decide, by decide⟩ := by decide
  rw [validateUrlAt, parameter, carried, bound]
  exact validateAt_of_signed ofConfig_keyed signs ⟨_, ends⟩ begun ends (by decide)

/-- A value beyond ASCII and a name that is repeated: both come back byte for byte. -/
theorem query_of_validateUrlAt_accented :
    let uri : Uri := { target := ⟨"/cart".toList, some "a=1&a=+&b=%C3%A9".toList⟩ }
    Uri.ofText "/cart?a=1&a=+&b=%C3%A9" = .ok uri ∧
      ofConfig keyedConfig (fun _ => .error "") = .ok keyedIssuer ∧
      ∃ signed, (keyedIssuer.signUrlAt "a" uri .epoch).outcome { stream := fun _ => 0 } =
          .ok signed ∧
        keyedIssuer.validateUrlAt .epoch "a" signed ⟨1, 0, by decide, by decide⟩ = .ok () ∧
        byteValues signed [98] = [[0xC3, 0xA9]] := by
  intro uri
  have read : Uri.ofText "/cart?a=1&a=+&b=%C3%A9" = .ok uri := by decide
  have valid : uri.NamesPath := Uri.namesPath_of_ofText read (.inr rfl)
  obtain ⟨token, answered, accepts⟩ := exists_signed_with_zeros "a" valid
  have accepted := (accepts _ (CsrfTarget.targetPath_withToken valid "csrf" token) (.refl _)).2
  have written : CsrfTarget.subject uri "csrf" = "/cart?a=1&a=+&b=%C3%A9" := by
    have ascending : (CsrfTarget.otherPairs uri "csrf").Pairwise fun p q => p.1 ≤ q.1 := by decide
    rw [CsrfTarget.subject, CsrfTarget.sorted_of_ascending ascending]
    decide
  have injective : Set.InjOn Crypto.Sha256.digest
      (inPlay [⟨"a", CsrfTarget.subject uri "csrf", .epoch, { stream := fun _ => 0 }⟩] "a"
        (CsrfTarget.subject (withToken uri "csrf" token) "csrf")) := by
    rw [CsrfTarget.subject_withToken valid, written]
    exact injOn_of_one_call fun _ => by decide +kernel
  have same := (query_of_validateUrlAt ofConfig_keyed "a" valid
    (CsrfTarget.namesPath_withToken valid "csrf" token).readable answered rfl injective accepted).2.2
  refine ⟨read, ofConfig_keyed, _, answered, accepted, ?_⟩
  rw [same [98] (by decide) (show Text.replacement ∉ (Text.lossy [98]).toList by decide)]
  · decide
  · show ∀ value ∈ values uri (Text.lossy [98]), Text.replacement ∉ value.toList
    decide

/-- Two byte strings that are no text. Both are read as one replacement character, so the token
that is signed for one of them is accepted with the other. -/
theorem repaired_values_are_merged :
    let uri : Uri := { target := ⟨"/a".toList, some "x=%FF".toList⟩ }
    Uri.ofText "/a?x=%FF" = .ok uri ∧
      ofConfig keyedConfig (fun _ => .error "") = .ok keyedIssuer ∧
      ∃ signed other : Uri,
        (keyedIssuer.signUrlAt "a" uri .epoch).outcome { stream := fun _ => 0 } = .ok signed ∧
        other.NamesPath ∧ CsrfTarget.token? other "csrf" = CsrfTarget.token? signed "csrf" ∧
        Set.InjOn Crypto.Sha256.digest
          (inPlay [⟨"a", CsrfTarget.subject uri "csrf", .epoch, { stream := fun _ => 0 }⟩] "a"
            (CsrfTarget.subject other "csrf")) ∧
        keyedIssuer.validateUrlAt .epoch "a" other ⟨1, 0, by decide, by decide⟩ = .ok () ∧
        byteValues uri [120] = [[0xFF]] ∧ byteValues other [120] = [[0xFE]] := by
  intro uri
  have read : Uri.ofText "/a?x=%FF" = .ok uri := by decide
  have valid : uri.NamesPath := Uri.namesPath_of_ofText read (.inr rfl)
  obtain ⟨token, answered, accepts⟩ := exists_signed_with_zeros "a" valid
  let other : Uri := { target := ⟨"/a".toList,
    some (['x', '=', '%', 'F', 'E'] ++ '&' :: Form.encodePair ("csrf", token))⟩ }
  have bytes : CsrfTarget.bytePairs other = [([120], [0xFE]),
      Form.bytePair (Form.written (Form.encodePair ("csrf", token)))] :=
    Form.bytePairs_before (by simp) (by simp) _
  have pair := Form.decodePair_encodePair ("csrf", token)
  rw [Form.decodePair_eq] at pair
  have pairs : queryPairs other = [("x", "\uFFFD"), ("csrf", token)] := by
    rw [CsrfTarget.queryPairs_eq, bytes, List.map_cons, List.map_cons, pair]
    rfl
  -- What is read is what the signed target has, and in the same order.
  have others : CsrfTarget.otherPairs uri "csrf" = [("x", "\uFFFD")] := by decide
  have samePairs : Rearranged (queryPairs other) (queryPairs (withToken uri "csrf" token)) := by
    rw [CsrfTarget.queryPairs_withToken, others, pairs]
    exact (CsrfTarget.rearranged_sorted _).symm
  have samePath : CsrfTarget.path other = CsrfTarget.path uri := rfl
  obtain ⟨placed, accepted⟩ := accepts other samePath samePairs
  have bound : CsrfTarget.subject other "csrf" = CsrfTarget.subject uri "csrf" :=
    (CsrfTarget.subject_of_rearranged
      (samePath.trans (CsrfTarget.targetPath_withToken valid "csrf" token).symm) samePairs).trans
        (CsrfTarget.subject_withToken valid "csrf" token)
  have written : CsrfTarget.subject uri "csrf" = "/a?x=%EF%BF%BD" := by
    rw [CsrfTarget.subject, others, CsrfTarget.sorted_of_ascending (List.pairwise_singleton _ _)]
    decide
  have otherName : (Form.bytePair (Form.written (Form.encodePair ("csrf", token)))).1 ≠ [120] := by
    intro same
    have name : Text.lossy [120] = "csrf" := by rw [← same]; exact congrArg Prod.fst pair
    exact absurd name (by decide)
  refine ⟨read, ofConfig_keyed, _, other, answered, ?_, placed, ?_, accepted, by decide, ?_⟩
  · refine ⟨.inl ⟨rfl, rfl⟩, rfl, valid.spelled.path, fun query written c member => ?_⟩
    cases written
    rcases List.mem_append.mp member with before | after
    · exact List.all_eq_true.mp (by decide) c before
    rcases List.mem_cons.mp after with rfl | after
    · decide
    · exact (Form.of_mem_encodePair after).1
  · rw [bound, written]
    exact injOn_of_one_call fun _ => by decide +kernel
  · rw [byteValues, bytes]
    simp [otherName]

end Csrf

end SealedTokens
