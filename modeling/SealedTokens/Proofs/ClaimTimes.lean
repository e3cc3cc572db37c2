import SealedTokens.Proofs.RoundTrip
import SealedTokens.Proofs.Windows
/-!
# Times of signed claims

Signed claims name three times: `nbf` and `iat` for the start of a window, and `exp` for its end.
The tokens that containers issue have the same for the first two, but any holder of the key can sign
others. Of those, `iat` and `exp` are honoured, and `nbf` is read and dropped: a token that is not
to be used yet is accepted from its issue on.

## Main results

- `Container.load_accepted`: every text that the signer reads is loaded, whoever issued it, if the
  calendar has the window of its claims
- `Container.claims_hold_iff`: when its state is valid, and for which claims this is what they say
- `Container.not_before_is_dropped`: a token that is accepted before its own `nbf`
-/
namespace SealedTokens

/-- A time that the calendar has is a whole number as JSON has them. -/
theorem Json.int64?_of_at? {secs : Int} {t : Instant} (read : Instant.at? secs = some t) :
    int64? (.integer secs) = some secs := by
  obtain ⟨-, rfl, -⟩ := Instant.at?_eq_some.mp read
  exact int64?_secs t

/-- Between two whole seconds there is an instant right after the first. -/
theorem Instant.exists_between_whole {a : Instant} (whole : a.IsWhole) :
    ∃ t, a < t ∧ ∀ b : Instant, a < b → b.IsWhole → t < b := by
  refine ⟨⟨a.secs, 1, a.in_calendar, by decide⟩, ?_, fun b later whole' => ?_⟩
  · rw [lt_iff, whole]
    exact .inr ⟨rfl, Nat.zero_lt_one⟩
  · rw [lt_iff, whole, whole'] at later
    have later : a.secs < b.secs := by omega
    exact lt_iff.mpr (.inl later)

namespace Header

theorem validate_of_version {h : Header} (other : h.version ≠ currentVersion) (now : Instant) :
    h.validate now = .error ⟨.incompatible h.version currentVersion, none⟩ :=
  if_pos other

/-- A header is valid at no instant up to a given one exactly if it is of another version, or if its
window starts no earlier or is empty. -/
theorem waits_iff {h : Header} {first : Instant} (start : h.validAfter.IsWhole)
    (stop : h.validBefore.IsWhole) (whole : first.IsWhole) :
    (∀ now, h.validate now = .ok () → first < now) ↔
      h.version ≠ currentVersion ∨ first ≤ h.validAfter ∨ h.validBefore ≤ h.validAfter := by
  constructor
  · intro waits
    by_contra otherwise
    simp only [not_or, ne_eq, not_not, Instant.not_le] at otherwise
    obtain ⟨version, late, opens⟩ := otherwise
    -- Right after its start the header is valid, and `first` is still to come.
    obtain ⟨now, begun, soon⟩ := Instant.exists_between_whole start
    have valid : h.validate now = .ok () :=
      validate_eq_ok.mpr ⟨version, begun, soon h.validBefore opens stop⟩
    have before : first < first :=
      Instant.lt_of_lt_of_le (waits now valid) (Instant.le_of_lt (soon first late whole))
    rw [Instant.lt_iff] at before
    omega
  · intro reason now valid
    obtain ⟨version, begun, open'⟩ := validate_eq_ok.mp valid
    obtain other | early | closed := reason
    · exact absurd version other
    · exact Instant.lt_of_le_of_lt early begun
    · have before : h.validAfter < h.validAfter :=
        Instant.lt_of_lt_of_le (Instant.lt_of_lt_of_le begun (Instant.le_of_lt open')) closed
      rw [Instant.lt_iff] at before
      omega

end Header

namespace Container

/-- Every text that a signer reads is loaded as the state of its claims, if the calendar has the
window that they name. -/
theorem load_accepted {signer : Signer} {token : Bytes} {contents : Jwt.Contents} {claims : Claims}
    {iat exp : Instant}
    (spelled : (Bytes.toText? token).map (fun text => Bytes.ofText (Text.trim text)) =
      some contents.text)
    (accepts : Jwt.Accepts signer contents claims) (iatRead : Instant.at? claims.iat = some iat)
    (expRead : Instant.at? claims.exp = some exp) {c : Container}
    (backend : c.backend = .signed signer) : c.load token =
      .ok { c with data := ⟨⟨claims.version, claims.nonce, iat, exp⟩, claims.payload⟩ } := by
  obtain ⟨text, isText, trimmed⟩ := Option.map_eq_some_iff.mp spelled
  have read : Jwt.read signer contents.text = .ok claims :=
    Jwt.read_eq_ok_iff.mpr ⟨contents, rfl, accepts⟩
  have stated : (Except.ok claims : Except ContainerError Claims) >>= Claims.toData =
      .ok ⟨⟨claims.version, claims.nonce, iat, exp⟩, claims.payload⟩ :=
    Claims.toData_of_at? iatRead expRead
  rw [load_eq, backend, Backend.load_signed isText, trimmed, read, stated]
  rfl

/-- The members of claims as another issuer may write them: in an order of its own, beside an
audience. -/
def foreignNames : List String := ["exp", "aud", "version", "nonce", "iat", "nbf"]

/-- Their values, for the version 2 and no payload. -/
def foreignValues (nbf iat exp : Int) : List Json :=
  [.integer exp, .text (Bytes.ofAscii "x"), .integer 2, .integer 1, .integer iat, .integer nbf]

/-- Claims that another issuer wrote are stated all the same. -/
theorem states_foreign (signer : Signer) {nbf iat exp : Instant} :
    Jwt.States signer (Json.object (List.zip (foreignNames.map Bytes.ofAscii)
      (foreignValues nbf.secs iat.secs exp.secs))).print
      ⟨nbf.secs, iat.secs, exp.secs, 2, 1, .empty⟩ := by
  have plain : ∀ name ∈ foreignNames, Json.IsName name := by
    simp [foreignNames, Json.IsName]
  have audience : Json.IsName "x" := by simp [Json.IsName]
  have written : ∀ v ∈ foreignValues nbf.secs iat.secs exp.secs, v.IsWritten := by
    simp [foreignValues, Json.IsWritten.integer, Json.IsWritten.text audience.isPlain]
  have read := Json.record?_of_members (Json.members?_zip plain)
    (Json.keys_zip_nodup (foreignValues nbf.secs iat.secs exp.secs)
      (show foreignNames.Nodup by decide))
  refine ⟨_, Json.parse?_print (Json.isWritten_zip plain written), ?_, fun _ => ?_⟩
  · have members := read Claims.memberNames
    exact Claims.ofJson?_members members (Json.int64?_secs nbf) (Json.int64?_secs iat)
      (Json.int64?_secs exp) (Json.nat?_integer (by decide)) (Json.nat?_integer (by decide)) rfl
  · rw [Claims.registeredClaimsFit, read]
    rfl

/-- **Times of signed claims.** Take any signer and any text that is, trimmed, three segments of
base64 with points between them: a header that the signer takes and that names its algorithm, claims
with any version, nonce and payload whose three times the calendar has, in any spelling and beside
any other members, and a signature over the two that verifies. A container of the signer loads it,
whatever its state, and the state that it has then is valid exactly if the version is the current
one and the instant lies strictly between `iat` and `exp`; another version is reported as such at
every instant. So the claims are honoured as they are written, and no token is accepted up to its
own `nbf`, exactly if `nbf` is not later than `iat`, or nothing of the token is valid anyway: its
version is another one, or it expires no later than it is issued. -/
theorem claims_hold_iff {signer : Signer} {token : Bytes} {contents : Jwt.Contents}
    {claims : Claims} {nbf iat exp : Instant}
    (spelled : (Bytes.toText? token).map (fun text => Bytes.ofText (Text.trim text)) =
      some contents.text)
    (accepts : Jwt.Accepts signer contents claims) (nbfRead : Instant.at? claims.nbf = some nbf)
    (iatRead : Instant.at? claims.iat = some iat) (expRead : Instant.at? claims.exp = some exp)
    {c : Container} (backend : c.backend = .signed signer) :
    ∃ loaded, c.load token = .ok loaded ∧
      loaded = { c with data := ⟨⟨claims.version, claims.nonce, iat, exp⟩, claims.payload⟩ } ∧
      (∀ now, loaded.validate now = .ok () ↔
        claims.version = Header.currentVersion ∧ iat < now ∧ now < exp) ∧
      (claims.version ≠ Header.currentVersion → ∀ now, loaded.validate now =
        .error ⟨.incompatible claims.version Header.currentVersion, none⟩) ∧
      ((∀ now, loaded.validate now = .ok () ↔
          claims.version = Header.currentVersion ∧ nbf < now ∧ iat < now ∧ now < exp) ↔
        claims.version ≠ Header.currentVersion ∨ nbf ≤ iat ∨ exp ≤ iat) ∧
      ((∀ now, loaded.validate now = .ok () → nbf < now) ↔
        claims.version ≠ Header.currentVersion ∨ nbf ≤ iat ∨ exp ≤ iat) := by
  let header : Header := ⟨claims.version, claims.nonce, iat, exp⟩
  have loads := load_accepted spelled accepts iatRead expRead backend
  have valid (now : Instant) : header.validate now = .ok () ↔
      claims.version = Header.currentVersion ∧ iat < now ∧ now < exp := Header.validate_eq_ok
  have waits : (∀ now, header.validate now = .ok () → nbf < now) ↔
      claims.version ≠ Header.currentVersion ∨ nbf ≤ iat ∨ exp ≤ iat :=
    Header.waits_iff (Instant.isWhole_of_at? iatRead) (Instant.isWhole_of_at? expRead)
      (Instant.isWhole_of_at? nbfRead)
  refine ⟨_, loads, rfl, valid, fun other now => Header.validate_of_version other now, ?_, waits⟩
  rw [← waits]
  constructor
  · intro honoured now accepted
    exact ((honoured now).mp accepted).2.1
  · intro waiting now
    refine ⟨fun accepted => ?_, fun ⟨version, _, begun, open'⟩ => (valid now).mpr
      ⟨version, begun, open'⟩⟩
    obtain ⟨version, begun, open'⟩ := (valid now).mp accepted
    exact ⟨version, waiting now accepted, begun, open'⟩

/-- A token of another issuer, for HS256. It starts before it expires, and was issued before it
starts: it is loaded and valid right after its issue, so its claims are not honoured as they are
written. -/
theorem claims_hold_iff_postdated :
    let signer := Signer.hmac .hs256 .sha256 [7]
    let claims : Claims := ⟨1000, 0, 2000, 2, 1, .empty⟩
    let written := Json.object (List.zip (foreignNames.map Bytes.ofAscii)
      (foreignValues claims.nbf claims.iat claims.exp))
    let signed : Jwt.Contents := ⟨Jose.text .hs256, written.print, []⟩
    let contents := { signed with signature := Crypto.Hmac.code .sha256 [7] signed.signed }
    let c : Container := ⟨.signed signer, ⟨⟨2, 0, .epoch, .epoch⟩, .empty⟩⟩
    ∃ nbf exp : Instant, Instant.at? claims.nbf = some nbf ∧
      Instant.at? claims.iat = some .epoch ∧ Instant.at? claims.exp = some exp ∧
      Jwt.Accepts signer contents claims ∧
      ∃ loaded, c.load contents.text = .ok loaded ∧
        (∀ now, Instant.epoch < now → now < exp → loaded.validate now = .ok ()) ∧
        ¬ ∀ now, loaded.validate now = .ok () → nbf < now := by
  intro signer claims written signed contents c
  let nbf : Instant := ⟨1000, 0, by decide, by decide⟩
  let exp : Instant := ⟨2000, 0, by decide, by decide⟩
  have nbfRead : Instant.at? claims.nbf = some nbf := by decide
  have iatRead : Instant.at? claims.iat = some .epoch := by decide
  have expRead : Instant.at? claims.exp = some exp := by decide
  have accepts : Jwt.Accepts signer contents claims :=
    { admitted := Jwt.admits_issued signer
      verified := Signer.honest_hmac _ _ _ _ _ rfl
      stated := @states_foreign signer nbf .epoch exp }
  obtain ⟨loaded, loads, -, valid, -, -, waits⟩ :=
    claims_hold_iff (Jwt.trim_text contents) accepts nbfRead iatRead expRead (c := c) rfl
  refine ⟨nbf, exp, nbfRead, iatRead, expRead, accepts, loaded, loads,
    fun now begun open' => (valid now).mpr ⟨rfl, begun, open'⟩, fun waiting => ?_⟩
  exact absurd (waits.mp waiting) (by decide)

/-- **Before its time.** A token of HS256 that is not to be used before the second 1000 is loaded,
and accepted at the second 500. -/
theorem not_before_is_dropped :
    let signer := Signer.hmac .hs256 .sha256 [7]
    let claims : Claims := ⟨1000, 0, 2000, 2, 1, .empty⟩
    let c : Container := ⟨.signed signer, ⟨⟨2, 0, .epoch, .epoch⟩, .empty⟩⟩
    let nbf : Instant := ⟨1000, 0, by decide, by decide⟩
    let now : Instant := ⟨500, 0, by decide, by decide⟩
    ∃ signature loaded, Signer.create .hs256 [7] = .ok signer ∧
      signer.sign? (Jwt.issued signer claims signature).signed = some signature ∧
      c.load (Jwt.issued signer claims signature).text = .ok loaded ∧
      Instant.at? claims.nbf = some nbf ∧ now ≤ nbf ∧ loaded.validate now = .ok () := by
  intro signer claims c nbf now
  let exp : Instant := ⟨2000, 0, by decide, by decide⟩
  let signature := Crypto.Hmac.code .sha256 [7] (Jwt.issued signer claims []).signed
  have signed : signer.sign? (Jwt.issued signer claims signature).signed = some signature := rfl
  have nbfRead : Instant.at? claims.nbf = some nbf := by decide
  have iatRead : Instant.at? claims.iat = some .epoch := by decide
  have expRead : Instant.at? claims.exp = some exp := by decide
  have accepts : Jwt.Accepts signer (Jwt.issued signer claims signature) claims :=
    Jwt.accepts_issued (Claims.ofJson?_toJson (Json.int64?_of_at? nbfRead)
      (Json.int64?_of_at? iatRead) (Json.int64?_of_at? expRead)) (Signer.honest_hmac _ _ _ _ _ signed)
  have loads := load_accepted (Jwt.trim_text _) accepts iatRead expRead (c := c) rfl
  exact ⟨signature, _, rfl, signed, loads, nbfRead, by decide, by decide⟩

end Container

end SealedTokens
