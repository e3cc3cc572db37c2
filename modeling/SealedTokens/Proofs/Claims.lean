import SealedTokens.Jwt.Claims
import SealedTokens.Proofs.Outcomes
import SealedTokens.Proofs.Serials
/-!
# Claims

The claims of a state are read back from their JSON, and the state from the claims up to fractions of
a second.

## Main results

- `Claims.ofJson?_toJson`, `Claims.ofJson?_ofData`: claims are read back from their JSON
- `Claims.toData_of_at?`, `Claims.toData_ofData`: the state is read back from its claims
- `Claims.toData_eq_ok`, `Claims.isFormat_of_toData`: what any claims are read as
-/
namespace SealedTokens

/-- An instant that tokens of whole seconds carry. -/
def Instant.IsWhole (t : Instant) : Prop := t.nanos = 0

theorem Instant.isWhole_wholeSeconds (t : Instant) : t.wholeSeconds.IsWhole := rfl

theorem Instant.IsWhole.onClock {t : Instant} (whole : t.IsWhole) : t.OnClock :=
  .inl (by rw [whole]; decide)

theorem Instant.at?_secs {t : Instant} (whole : t.IsWhole) : Instant.at? t.secs = some t :=
  Instant.at?_eq_some.mpr ⟨whole.onClock, rfl, whole⟩

theorem Instant.isWhole_of_at? {secs : Int} {t : Instant} (read : Instant.at? secs = some t) :
    t.IsWhole :=
  (Instant.at?_eq_some.mp read).2.2

theorem Json.int64?_secs (t : Instant) : int64? (.integer t.secs) = some t.secs := by
  have bounds := t.in_calendar
  exact if_pos ⟨by omega, by omega⟩

namespace Claims

/-- The JSON values of claims, without a payload that is empty. -/
def values (c : Claims) : List Json :=
  [.integer c.nbf, .integer c.iat, .integer c.exp, .integer c.version.toNat,
    .integer c.nonce.toNat] ++ if c.payload.isEmpty then [] else [Serial.toJson c.payload]

theorem toJson_eq (c : Claims) :
    c.toJson = .object (List.zip (memberNames.map Bytes.ofAscii) c.values) := rfl

theorem length_values_le (c : Claims) : c.values.length ≤ memberNames.length := by
  unfold values
  split <;> simp [memberNames]

theorem isName_memberNames : ∀ name ∈ memberNames, Json.IsName name := by
  simp [memberNames, Json.IsName]

theorem isWritten_toJson (c : Claims) : c.toJson.IsWritten := by
  refine Json.isWritten_zip isName_memberNames ?_
  split <;> simp [Json.IsWritten.integer, LawfulSerial.isWritten]

/-- The payload among the values of a record: left out for one that is empty. -/
def payloadOf? : Option Json → Option Payload
  | some json => Serial.ofJson? json
  | none => some .empty

theorem ofJson?_members {json nbf iat exp version nonce : Json} {payload : Option Json}
    {x y z : Int} {v n : Nat} {p : Payload}
    (members : json.record? memberNames =
      some [some nbf, some iat, some exp, some version, some nonce, payload])
    (hx : nbf.int64? = some x) (hy : iat.int64? = some y) (hz : exp.int64? = some z)
    (hv : version.nat? 32 = some v) (hn : nonce.nat? 64 = some n)
    (hp : payloadOf? payload = some p) :
    ofJson? json = some ⟨x, y, z, UInt32.ofNat v, UInt64.ofNat n, p⟩ := by
  rw [ofJson?, members]
  cases payload with
  | none =>
    cases hp
    simp [hx, hy, hz, hv, hn]
  | some json =>
    have read : Serial.ofJson? json = some p := hp
    simp [hx, hy, hz, hv, hn, read]

theorem record?_toJson (c : Claims) : c.toJson.record? memberNames =
    some [some (.integer c.nbf), some (.integer c.iat), some (.integer c.exp),
      some (.integer c.version.toNat), some (.integer c.nonce.toNat),
      if c.payload.isEmpty then none else some (Serial.toJson c.payload)] := by
  rw [toJson_eq, Json.record?_zip isName_memberNames (by decide) c.length_values_le, values]
  split <;> rfl

theorem payloadOf?_toJson (p : Payload) :
    payloadOf? (if p.isEmpty then none else some (Serial.toJson p)) = some p := by
  split
  next empty =>
    have same : p = .empty := Payload.ext (List.isEmpty_iff.mp empty)
    rw [same]
    rfl
  · exact LawfulSerial.ofJson?_toJson p

/-- Claims are read back from their JSON if their times are whole numbers as JSON has them. -/
theorem ofJson?_toJson {c : Claims} (nbf : Json.int64? (.integer c.nbf) = some c.nbf)
    (iat : Json.int64? (.integer c.iat) = some c.iat)
    (exp : Json.int64? (.integer c.exp) = some c.exp) : ofJson? c.toJson = some c := by
  have read := ofJson?_members (record?_toJson c) nbf iat exp (Json.nat?_integer c.version.toNat_lt)
    (Json.nat?_integer c.nonce.toNat_lt) (payloadOf?_toJson c.payload)
  rw [UInt32.ofNat_toNat, UInt64.ofNat_toNat] at read
  exact read

theorem ofJson?_ofData (d : Data) : ofJson? (ofData d).toJson = some (ofData d) :=
  ofJson?_toJson (Json.int64?_secs d.header.validAfter) (Json.int64?_secs d.header.validAfter)
    (Json.int64?_secs d.header.validBefore)

theorem registeredClaimsFit_toJson (c : Claims) : registeredClaimsFit c.toJson = true := by
  have read := Json.record?_of_members (Json.members?_zip isName_memberNames)
    (Json.keys_zip_nodup c.values (by decide)) ["exp", "nbf", "sub", "iss", "aud"]
  -- Of the claims that are looked at, only the subject could be of a wrong type, and there is none.
  have noSubject : (List.zip memberNames c.values).lookup "sub" = none := by
    unfold values
    split <;> rfl
  rw [registeredClaimsFit, toJson_eq, read]
  simp only [List.map_cons, noSubject]
  rfl

/-- The state of claims whose window the calendar has. What `nbf` says is no part of it. -/
theorem toData_of_at? {c : Claims} {start stop : Instant} (first : Instant.at? c.iat = some start)
    (second : Instant.at? c.exp = some stop) :
    c.toData = .ok ⟨⟨c.version, c.nonce, start, stop⟩, c.payload⟩ := by
  simp only [toData, instant, first, second, bind, Except.bind, pure, Except.pure]

/-- A state is read back from its claims up to fractions of a second. -/
theorem toData_ofData (d : Data) : (ofData d).toData = .ok ⟨⟨d.header.version, d.header.nonce,
    d.header.validAfter.wholeSeconds, d.header.validBefore.wholeSeconds⟩, d.payload⟩ :=
  toData_of_at? (Instant.at?_secs (Instant.isWhole_wholeSeconds d.header.validAfter))
    (Instant.at?_secs (Instant.isWhole_wholeSeconds d.header.validBefore))

theorem instant_eq_ok {claim : String} {secs : Int} {t : Instant}
    (returned : instant claim secs = .ok t) : Instant.at? secs = some t := by
  unfold instant at returned
  split at returned
  next read =>
    cases returned
    exact read
  · cases returned

theorem toData_eq_ok {c : Claims} {d : Data} (returned : c.toData = .ok d) :
    ∃ start stop, Instant.at? c.iat = some start ∧ Instant.at? c.exp = some stop ∧
      d = ⟨⟨c.version, c.nonce, start, stop⟩, c.payload⟩ := by
  obtain ⟨start, first, returned⟩ := bind_eq_ok.mp returned
  obtain ⟨stop, second, returned⟩ := bind_eq_ok.mp returned
  cases returned
  exact ⟨start, stop, instant_eq_ok first, instant_eq_ok second, rfl⟩

theorem isFormat_of_instant {claim : String} {secs : Int} {e : ContainerError}
    (refused : instant claim secs = .error e) : e.IsFormat := by
  unfold instant at refused
  split at refused <;> cases refused
  exact ⟨_, rfl⟩

theorem isFormat_of_toData {c : Claims} {e : ContainerError} (refused : c.toData = .error e) :
    e.IsFormat := by
  obtain first | ⟨start, -, refused⟩ := bind_eq_error.mp refused
  · exact isFormat_of_instant first
  obtain second | ⟨stop, -, refused⟩ := bind_eq_error.mp refused
  · exact isFormat_of_instant second
  · cases refused

end Claims

end SealedTokens
