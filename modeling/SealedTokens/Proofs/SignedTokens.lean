import SealedTokens.Jwt.Token
import SealedTokens.Proofs.Claims
import SealedTokens.Proofs.Jose
/-!
# Signed tokens

Signed tokens are read back into the claims that they were issued for. What is read at all is three
canonical segments, names the algorithm of the signer and carries its signature, and this is so
however the header is read.

## Main results

- `Jwt.lawful_read`: what may come of reading any text, and which error means what
- `Jwt.read_eq_ok_iff`: the texts that are read
- `Jwt.read_issued`: a token in its written form is read back if its signature verifies
- `Jwt.eq_of_read_issue`: what is issued is read as nothing else, whoever signed it

## Proof strategy

Both ways to read a token take the same steps in the same order around a header that they read
differently. `Lawful` is what a reading has to do with its text, whatever errors it has and however
they are answered, and `Concludes` the part of it that comes after the signature. Each step has a
lemma that keeps either of them: before the signature a failure shows that the text is not forged
(`forged_iff`), at the signature it shows that it is (`lawful_verify`), and behind it nothing is.
-/
namespace SealedTokens

/-- A signer verifies what it has signed. -/
def Signer.Honest (signer : Signer) : Prop :=
  ∀ message signature, signer.sign? message = some signature →
    signer.verify message signature = true

namespace Jwt

/-! ### Parts and segments -/

theorem splitLast?_join (front : Bytes) {last : Bytes} (clear : point ∉ last) :
    splitLast? (front ++ point :: last) = some (front, last) := by
  have reversed : (front ++ point :: last).reverse = last.reverse ++ point :: front.reverse := by
    simp
  have run : (last.reverse ++ point :: front.reverse).takeWhile (· != point) = last.reverse := by
    refine takeWhile_run (fun b member => ?_) (.cons (by simp))
    rw [bne_iff_ne]
    rintro rfl
    exact clear (List.mem_reverse.mp member)
  have longer : ¬ last.reverse.length = (front ++ point :: last).length := by
    simp only [List.length_reverse, List.length_append, List.length_cons]
    omega
  have front_eq : (front ++ point :: last).take
      ((front ++ point :: last).length - last.reverse.length - 1) = front := by
    rw [show (front ++ point :: last).length - last.reverse.length - 1 = front.length by
      simp only [List.length_reverse, List.length_append, List.length_cons]
      omega]
    exact List.take_left
  rw [splitLast?, reversed, run]
  simp only [longer, ite_false, front_eq, List.reverse_reverse]

theorem splitLast?_eq_some {text front last : Bytes}
    (split : splitLast? text = some (front, last)) :
    text = front ++ point :: last ∧ point ∉ last := by
  -- A text with a point is one that was joined at its last point, so the lemma above applies to it.
  by_cases clear : point ∈ text
  · obtain ⟨last', front', reversed, clear'⟩ :=
      List.eq_append_cons_of_mem (List.mem_reverse.mpr clear)
    have joined : text = front'.reverse ++ point :: last'.reverse := by
      rw [← List.reverse_reverse text, reversed]
      simp
    have clear' : point ∉ last'.reverse := by simpa using clear'
    have same := splitLast?_join front'.reverse clear'
    rw [← joined, split] at same
    cases same
    exact ⟨joined, clear'⟩
  · have others : ∀ b ∈ text.reverse, (b != point) = true := by
      intro b member
      rw [bne_iff_ne]
      rintro rfl
      exact clear (List.mem_reverse.mp member)
    have whole := takeWhile_run others (.nil _)
    rw [List.append_nil] at whole
    simp [splitLast?, whole] at split

theorem parts?_join {header claims signature : Bytes} (hc : point ∉ claims)
    (hs : point ∉ signature) :
    parts? (header ++ point :: claims ++ point :: signature) =
      some ⟨header, claims, header ++ point :: claims, signature⟩ := by
  rw [parts?, splitLast?_join _ hs]
  simp only [Option.bind_eq_bind, Option.bind_some, splitLast?_join _ hc]
  rfl

/-- The parts of a text are what stands around its last two points. -/
theorem parts?_eq_some {text : Bytes} {parts : Parts} (split : parts? text = some parts) :
    text = parts.signed ++ point :: parts.signature ∧
      parts.signed = parts.header ++ point :: parts.claims ∧
      point ∉ parts.claims ∧ point ∉ parts.signature := by
  simp only [parts?, Option.bind_eq_bind, Option.bind_eq_some_iff] at split
  obtain ⟨⟨signed, signature⟩, outer, ⟨header, claims⟩, inner, made⟩ := split
  cases made
  obtain ⟨whole, hs⟩ := splitLast?_eq_some outer
  obtain ⟨front, hc⟩ := splitLast?_eq_some inner
  exact ⟨whole, front, hc, hs⟩

theorem point_not_mem_segment (bytes : Bytes) : point ∉ segment bytes := by
  intro member
  exact (Base64.visible_of_mem_encode member).2.2.2.2 rfl

section Segments

variable {ε α : Type} {refusal : Base64.Fault → ε} {wrong e : ε} {written bytes : Bytes}
  {read? : Json → Option α}

theorem content_segment (refusal : Base64.Fault → ε) (bytes : Bytes) :
    content refusal (segment bytes) = .ok bytes := by
  simp only [content, segment, Base64.decode_encode]

theorem content_eq_ok (returned : content refusal written = .ok bytes) :
    written = segment bytes := by
  unfold content at returned
  split at returned
  next decoded =>
    cases returned
    exact Base64.decode_eq_ok_iff.mp decoded
  · cases returned

theorem content_eq_error (refused : content refusal written = .error e) :
    (∃ fault, e = refusal fault) ∧ ∀ bytes, written ≠ segment bytes := by
  refine ⟨?_, fun bytes same => ?_⟩
  · unfold content at refused
    split at refused <;> cases refused
    exact ⟨_, rfl⟩
  · rw [same, content_segment] at refused
    cases refused

theorem segment_injective : Function.Injective segment := by
  intro bytes bytes' same
  have read := content_segment id bytes
  rw [same, content_segment] at read
  exact (Except.ok.inj read).symm

theorem value_eq_ok_iff {v : α} :
    value wrong read? bytes = .ok v ↔ (Json.parse? bytes).bind read? = some v := by
  unfold value
  split
  next read => simp [read]
  next failed => simp [failed]

theorem value_eq_error (refused : value wrong read? bytes = .error e) :
    e = wrong ∧ (Json.parse? bytes).bind read? = none := by
  unfold value at refused
  split at refused
  · cases refused
  next failed =>
    cases refused
    exact ⟨rfl, failed⟩

end Segments

/-! ### What a reading may do -/

/-- What the three segments of a token stand for. -/
structure Contents where
  header : Bytes
  claims : Bytes
  signature : Bytes

/-- The part that is signed. -/
def Contents.signed (c : Contents) : Bytes := segment c.header ++ point :: segment c.claims

def Contents.text (c : Contents) : Bytes := c.signed ++ point :: segment c.signature

/-- A header that names the algorithm of a signer, whatever else is in it. -/
def Declares (signer : Signer) (header : Bytes) : Prop :=
  (Json.parse? header).bind Jose.declared? = some (Registry.name signer.algorithm)

/-- A header that the signer's way of reading headers takes, and that names its algorithm. -/
def Admits (signer : Signer) (header : Bytes) : Prop :=
  if signer.algorithm = .es512 then
    (Json.parse? header).bind Jose.bareAlgorithm? = some (Registry.name signer.algorithm)
  else (Json.parse? header).bind Jose.fullAlgorithm? = some signer.algorithm

/-- Bytes that the signer's way of reading claims takes for these claims. -/
def States (signer : Signer) (written : Bytes) (claims : Claims) : Prop :=
  ∃ json, Json.parse? written = some json ∧ Claims.ofJson? json = some claims ∧
    (signer.algorithm ≠ .es512 → Claims.registeredClaimsFit json = true)

/-- Contents that name the algorithm of a signer, carry its signature and state the claims. -/
structure Accepts (signer : Signer) (contents : Contents) (claims : Claims) : Prop where
  admitted : Admits signer contents.header
  verified : signer.verify contents.signed contents.signature = true
  stated : States signer contents.claims claims

/-- A text that names the algorithm of a signer and carries a signature that is not the signer's. -/
def Forged (signer : Signer) (text : Bytes) : Prop :=
  ∃ header claims signature,
    text = segment header ++ point :: claims ++ point :: segment signature ∧
    point ∉ claims ∧ Admits signer header ∧
    signer.verify (segment header ++ point :: claims) signature = false

/-- What may come of reading a segment with claims, when errors are answered with `answer`. -/
def Concludes {ε : Type} (answer : ε → ContainerError) (signer : Signer) (written : Bytes) :
    Except ε Claims → Prop
  | .ok claims => ∃ bytes, written = segment bytes ∧ States signer bytes claims
  | .error e => (answer e).IsFormat

/-- What may come of reading a token, when errors are answered with `answer`: accepted claims, an
error about the signature of a text that is forged, or an error about the form of one that is not. -/
def Lawful {ε : Type} (answer : ε → ContainerError) (signer : Signer) (text : Bytes) :
    Except ε Claims → Prop
  | .ok claims => ∃ contents : Contents, text = contents.text ∧ Accepts signer contents claims
  | .error e => (answer e).IsDecrypt ∧ Forged signer text ∨
      (answer e).IsFormat ∧ ¬ Forged signer text

theorem declares_of_admits {signer : Signer} {header : Bytes} (admitted : Admits signer header) :
    Declares signer header := by
  unfold Admits at admitted
  split at admitted
  all_goals
    obtain ⟨json, parsed, named⟩ := Option.bind_eq_some_iff.mp admitted
    rw [Declares, parsed, Option.bind_some]
  · exact Jose.declared?_of_bareAlgorithm? named
  · exact Jose.declared?_of_fullAlgorithm? named

theorem States.ofJson {signer : Signer} {written : Bytes} {claims : Claims}
    (stated : States signer written claims) :
    (Json.parse? written).bind Claims.ofJson? = some claims := by
  obtain ⟨json, parsed, read, -⟩ := stated
  rw [parsed, Option.bind_some, read]

section Law

variable {ε α : Type} {answer : ε → ContainerError} {signer : Signer} {text : Bytes}
  {parts : Parts} {header signature : Bytes} {next : Bytes → Except ε Claims}

theorem not_forged_of_whole (whole : parts? text = none) : ¬ Forged signer text := by
  rintro ⟨header, claims, signature, rfl, clear, -⟩
  rw [parts?_join clear (point_not_mem_segment signature)] at whole
  cases whole

/-- Whether a text is forged, once it is split. -/
theorem forged_iff (split : parts? text = some parts) : Forged signer text ↔
    ∃ header signature, parts.header = segment header ∧ parts.signature = segment signature ∧
      Admits signer header ∧ signer.verify parts.signed signature = false := by
  constructor
  · rintro ⟨header, claims, signature, rfl, clear, admitted, unverified⟩
    rw [parts?_join clear (point_not_mem_segment signature)] at split
    cases split
    exact ⟨header, signature, rfl, rfl, admitted, unverified⟩
  · rintro ⟨header, signature, headerRead, signatureRead, admitted, unverified⟩
    obtain ⟨whole, front, clear, -⟩ := parts?_eq_some split
    rw [headerRead] at front
    rw [front, signatureRead] at whole
    rw [front] at unverified
    exact ⟨header, parts.claims, signature, whole, clear, admitted, unverified⟩

/-- A header that the signer does not admit, whatever else is wrong. -/
theorem Lawful.foreign {e : ε} (split : parts? text = some parts)
    (headerRead : parts.header = segment header) (foreign : ¬ Admits signer header)
    (isFormat : (answer e).IsFormat) : Lawful answer signer text (.error e) := by
  refine .inr ⟨isFormat, fun isForged => ?_⟩
  obtain ⟨header', -, same, -, admitted, -⟩ := (forged_iff split).mp isForged
  rw [headerRead] at same
  rw [segment_injective same] at foreign
  exact foreign admitted

theorem Lawful.readHeader {refusal : Base64.Fault → ε} (split : parts? text = some parts)
    (isFormat : ∀ fault, (answer (refusal fault)).IsFormat)
    (goes : ∀ header, parts.header = segment header → Lawful answer signer text (next header)) :
    Lawful answer signer text (content refusal parts.header >>= next) := by
  cases read : content refusal parts.header with
  | ok header => exact goes header (content_eq_ok read)
  | error e =>
    obtain ⟨⟨fault, rfl⟩, alien⟩ := content_eq_error read
    refine .inr ⟨isFormat fault, fun isForged => ?_⟩
    obtain ⟨header, -, same, -⟩ := (forged_iff split).mp isForged
    exact alien header same

theorem Lawful.readSignature {refusal : Base64.Fault → ε} (split : parts? text = some parts)
    (isFormat : ∀ fault, (answer (refusal fault)).IsFormat)
    (goes : ∀ signature, parts.signature = segment signature →
      Lawful answer signer text (next signature)) :
    Lawful answer signer text (content refusal parts.signature >>= next) := by
  cases read : content refusal parts.signature with
  | ok signature => exact goes signature (content_eq_ok read)
  | error e =>
    obtain ⟨⟨fault, rfl⟩, alien⟩ := content_eq_error read
    refine .inr ⟨isFormat fault, fun isForged => ?_⟩
    obtain ⟨-, signature, -, same, -⟩ := (forged_iff split).mp isForged
    exact alien signature same

theorem Lawful.readName {wrong : ε} {read? : Json → Option α} {next : α → Except ε Claims}
    (split : parts? text = some parts) (headerRead : parts.header = segment header)
    (isFormat : (answer wrong).IsFormat)
    (foreign : (Json.parse? header).bind read? = none → ¬ Admits signer header)
    (goes : ∀ a, (Json.parse? header).bind read? = some a → Lawful answer signer text (next a)) :
    Lawful answer signer text (value wrong read? header >>= next) := by
  cases read : value wrong read? header with
  | ok a => exact goes a (value_eq_ok_iff.mp read)
  | error e =>
    obtain ⟨rfl, nameless⟩ := value_eq_error read
    exact .foreign split headerRead (foreign nameless) isFormat

/-- The signature is checked over what stands before the last point, and only when the header has
named the algorithm. -/
theorem lawful_verify {e : ε} {rest : Except ε Claims} (split : parts? text = some parts)
    (headerRead : parts.header = segment header)
    (signatureRead : parts.signature = segment signature) (admitted : Admits signer header)
    (isDecrypt : (answer e).IsDecrypt) (concludes : Concludes answer signer parts.claims rest) :
    Lawful answer signer text (if !signer.verify parts.signed signature then .error e else rest) := by
  split
  next unverified =>
    rw [Bool.not_eq_true'] at unverified
    exact .inl ⟨isDecrypt, (forged_iff split).mpr
      ⟨header, signature, headerRead, signatureRead, admitted, unverified⟩⟩
  next verified =>
    rw [Bool.not_eq_true', Bool.not_eq_false] at verified
    cases rest with
    | error e =>
      -- The one signature of the text verifies, so no other one can fail to.
      refine .inr ⟨concludes, fun isForged => ?_⟩
      obtain ⟨-, signature', -, same, -, unverified⟩ := (forged_iff split).mp isForged
      rw [signatureRead] at same
      rw [segment_injective same, unverified] at verified
      cases verified
    | ok claims =>
      obtain ⟨written, claimsRead, stated⟩ := concludes
      obtain ⟨whole, front, -⟩ := parts?_eq_some split
      rw [headerRead, claimsRead] at front
      rw [signatureRead] at whole
      refine ⟨⟨header, written, signature⟩, ?_, admitted, ?_, stated⟩
      · rw [whole, front]
        rfl
      · rw [Contents.signed, ← front]
        exact verified

theorem Concludes.readClaims {refusal : Base64.Fault → ε} {written : Bytes}
    (isFormat : ∀ fault, (answer (refusal fault)).IsFormat)
    (goes : ∀ bytes, written = segment bytes → Concludes answer signer written (next bytes)) :
    Concludes answer signer written (content refusal written >>= next) := by
  cases read : content refusal written with
  | ok bytes => exact goes bytes (content_eq_ok read)
  | error e =>
    obtain ⟨⟨fault, rfl⟩, -⟩ := content_eq_error read
    exact isFormat fault

end Law

/-! ### Both readings are lawful -/

theorem lawful_decodeFull {signer : Signer} (full : signer.algorithm ≠ .es512) (text : Bytes) :
    Lawful classify signer text (decodeFull signer text) := by
  have form (fault : Base64.Fault) : (classify (.base64 fault)).IsFormat := ⟨_, rfl⟩
  unfold decodeFull
  cases split : parts? text with
  | none => exact .inr ⟨⟨_, rfl⟩, not_forged_of_whole split⟩
  | some parts =>
    refine .readHeader split form fun header headerRead => ?_
    refine .readName split headerRead ⟨_, rfl⟩ (fun nameless admitted => ?_) fun name named => ?_
    · rw [Admits, if_neg full, nameless] at admitted
      cases admitted
    split
    next foreign =>
      refine .foreign split headerRead (fun admitted => foreign ?_) ⟨_, rfl⟩
      rw [Admits, if_neg full, named] at admitted
      exact Option.some.inj admitted
    next own =>
    refine .readSignature split form fun signature signatureRead => ?_
    have admitted : Admits signer header := by
      rw [Admits, if_neg full, named, not_not.mp own]
    -- Only now the signature is checked, and only behind it the claims are looked at.
    refine lawful_verify split headerRead signatureRead admitted ⟨"InvalidSignature", rfl⟩ ?_
    refine .readClaims form fun bytes claimsRead => ?_
    cases parsed : value (.json : DecodeError) some bytes with
    | error e =>
      obtain ⟨rfl, -⟩ := value_eq_error parsed
      exact ⟨_, rfl⟩
    | ok json =>
      have parsed : Json.parse? bytes = some json := by
        simpa using value_eq_ok_iff.mp parsed
      cases read : Claims.ofJson? json with
      | none =>
        simp only [bind, Except.bind, read]
        exact ⟨_, rfl⟩
      | some claims =>
        simp only [bind, Except.bind, read]
        split
        next fits => exact ⟨bytes, claimsRead, json, parsed, read, fun _ => fits⟩
        · exact ⟨_, rfl⟩

theorem lawful_readFull {signer : Signer} (full : signer.algorithm ≠ .es512) (text : Bytes) :
    Lawful id signer text (readFull signer text) := by
  have law := lawful_decodeFull full text
  unfold readFull
  cases decoded : decodeFull signer text <;> rw [decoded] at law <;> exact law

theorem lawful_readBare {signer : Signer} (bare : signer.algorithm = .es512) (text : Bytes) :
    Lawful id signer text (readBare signer text) := by
  have form (message : String) : (id (malformed message)).IsFormat := ⟨_, rfl⟩
  -- One case for each way out, in the order in which the reader comes to them.
  unfold readBare
  cases split : parts? text with
  | none => exact .inr ⟨⟨_, rfl⟩, not_forged_of_whole split⟩
  | some parts =>
    simp only
    split
    next long =>
      -- A header with a point in it is no segment, so that nothing is forged.
      refine .inr ⟨⟨_, rfl⟩, fun isForged => ?_⟩
      obtain ⟨header, -, same, -⟩ := (forged_iff split).mp isForged
      rw [same, List.contains_iff_mem] at long
      exact point_not_mem_segment header long
    next =>
    refine .readHeader split (fun _ => form _) fun header headerRead => ?_
    refine .readName split headerRead (form _) (fun nameless admitted => ?_) fun name named => ?_
    · rw [Admits, if_pos bare, nameless] at admitted
      cases admitted
    split
    next foreign =>
      refine .foreign split headerRead (fun admitted => foreign ?_) (form _)
      rw [Admits, if_pos bare, named] at admitted
      exact Option.some.inj admitted
    next own =>
    refine .readSignature split (fun _ => form _) fun signature signatureRead => ?_
    have admitted : Admits signer header := by
      rw [Admits, if_pos bare, named, not_not.mp own]
    refine lawful_verify split headerRead signatureRead admitted
      ⟨"signature verification failed", rfl⟩ ?_
    refine .readClaims (fun _ => form _) fun bytes claimsRead => ?_
    cases stated : value (malformed Json.refusal) Claims.ofJson? bytes with
    | error e =>
      obtain ⟨rfl, -⟩ := value_eq_error stated
      exact form _
    | ok claims =>
      obtain ⟨json, parsed, read⟩ := Option.bind_eq_some_iff.mp (value_eq_ok_iff.mp stated)
      exact ⟨bytes, claimsRead, json, parsed, read, fun full => absurd bare full⟩

theorem lawful_read (signer : Signer) (text : Bytes) :
    Lawful id signer text (read signer text) := by
  unfold read
  split
  next bare => exact lawful_readBare bare text
  next full => exact lawful_readFull full text

/-! ### Issued tokens -/

section Issued

variable {signer : Signer} {claims : Claims} {token : Bytes}

def issued (signer : Signer) (claims : Claims) (signature : Bytes) : Contents :=
  ⟨Jose.text signer.algorithm, claims.toJson.print, signature⟩

theorem issue_eq_ok (returned : issue signer claims = .ok token) :
    ∃ signature, token = (issued signer claims signature).text ∧
      signer.sign? (issued signer claims signature).signed = some signature := by
  simp only [issue] at returned
  split at returned
  next signature signed =>
    cases returned
    exact ⟨signature, rfl, signed⟩
  · cases returned

theorem parts?_text (contents : Contents) : parts? contents.text =
    some ⟨segment contents.header, segment contents.claims, contents.signed,
      segment contents.signature⟩ :=
  parts?_join (point_not_mem_segment _) (point_not_mem_segment _)

/-- A text stands for one content. -/
theorem Contents.text_injective : Function.Injective Contents.text := by
  rintro ⟨header, claims, signature⟩ ⟨header', claims', signature'⟩ same
  have split := parts?_text ⟨header, claims, signature⟩
  rw [same, parts?_text] at split
  obtain ⟨first, second, -, third⟩ := Parts.mk.inj (Option.some.inj split)
  cases segment_injective first
  cases segment_injective second
  cases segment_injective third
  rfl

theorem readBare_text {contents : Contents} (bare : signer.algorithm = .es512)
    (accepts : Accepts signer contents claims) : readBare signer contents.text = .ok claims := by
  have three : (segment contents.header).contains point = false := by
    simpa using point_not_mem_segment _
  have named : value (malformed Json.refusal) Jose.bareAlgorithm? contents.header =
      .ok (Registry.name signer.algorithm) := by
    have admitted := accepts.admitted
    rw [Admits, if_pos bare] at admitted
    exact value_eq_ok_iff.mpr admitted
  have stated : value (malformed Json.refusal) Claims.ofJson? contents.claims = .ok claims :=
    value_eq_ok_iff.mpr accepts.stated.ofJson
  simp only [readBare, parts?_text, three, content_segment, bind, Except.bind, named,
    accepts.verified, ne_eq, not_true_eq_false, Bool.not_true, Bool.false_eq_true, ite_false]
  exact stated

theorem readFull_text {contents : Contents} (full : signer.algorithm ≠ .es512)
    (accepts : Accepts signer contents claims) : readFull signer contents.text = .ok claims := by
  obtain ⟨json, parsed, read, fits⟩ := accepts.stated
  have named : value (.json : DecodeError) Jose.fullAlgorithm? contents.header =
      .ok signer.algorithm := by
    have admitted := accepts.admitted
    rw [Admits, if_neg full] at admitted
    exact value_eq_ok_iff.mpr admitted
  have parsed : value (.json : DecodeError) some contents.claims = .ok json :=
    value_eq_ok_iff.mpr (by simpa using parsed)
  have decoded : decodeFull signer contents.text = .ok claims := by
    simp only [decodeFull, parts?_text, content_segment, bind, Except.bind, named,
      accepts.verified, parsed, read, fits full, ne_eq, not_true_eq_false, Bool.not_true,
      Bool.false_eq_true, ite_false]
    rfl
  rw [readFull, decoded]
  rfl

/-- **The texts that are read**, and the claims that they are read as. -/
theorem read_eq_ok_iff {text : Bytes} : read signer text = .ok claims ↔
    ∃ contents : Contents, text = contents.text ∧ Accepts signer contents claims := by
  constructor
  · intro returned
    have law := lawful_read signer text
    rw [returned] at law
    exact law
  · rintro ⟨contents, rfl, accepts⟩
    unfold read
    split
    next bare => exact readBare_text bare accepts
    next full => exact readFull_text full accepts

theorem not_forged_of_read {text : Bytes} (returned : read signer text = .ok claims) :
    ¬ Forged signer text := by
  obtain ⟨contents, rfl, accepts⟩ := read_eq_ok_iff.mp returned
  intro isForged
  -- The text has one header, one part that is signed and one signature, and this one verifies.
  obtain ⟨-, signature, -, same, -, unverified⟩ := (forged_iff (parts?_text contents)).mp isForged
  rw [← segment_injective same, accepts.verified] at unverified
  cases unverified

theorem admits_issued (signer : Signer) : Admits signer (Jose.text signer.algorithm) := by
  unfold Admits
  split
  · exact Jose.bareAlgorithm?_issued signer.algorithm
  next full => exact Jose.fullAlgorithm?_issued signer.algorithm full

/-- What is issued is accepted if its signature verifies and the claims are read back from their
JSON. -/
theorem accepts_issued {signature : Bytes} (readable : Claims.ofJson? claims.toJson = some claims)
    (verified : signer.verify (issued signer claims signature).signed signature = true) :
    Accepts signer (issued signer claims signature) claims where
  admitted := admits_issued signer
  verified := verified
  stated := ⟨claims.toJson, Json.parse?_print claims.isWritten_toJson, readable,
    fun _ => claims.registeredClaimsFit_toJson⟩

theorem read_issued {signature : Bytes} (readable : Claims.ofJson? claims.toJson = some claims)
    (verified : signer.verify (issued signer claims signature).signed signature = true) :
    read signer (issued signer claims signature).text = .ok claims :=
  read_eq_ok_iff.mpr ⟨_, rfl, accepts_issued readable verified⟩

/-- What is issued is read as the claims that it was issued for, if it is read at all. -/
theorem eq_of_read_issue {reader : Signer} {accepted : Claims}
    (readable : Claims.ofJson? claims.toJson = some claims)
    (returned : issue signer claims = .ok token) (read : Jwt.read reader token = .ok accepted) :
    accepted = claims := by
  obtain ⟨signature, rfl, -⟩ := issue_eq_ok returned
  obtain ⟨contents, same, accepts⟩ := read_eq_ok_iff.mp read
  have stated := accepts.stated.ofJson
  rw [← Contents.text_injective same, issued, Json.parse?_print claims.isWritten_toJson,
    Option.bind_some, readable] at stated
  exact (Option.some.inj stated).symm

/-- A token is visible ASCII, which no trimming touches. -/
theorem visible_text (contents : Contents) : ∀ b ∈ contents.text, 33 ≤ b ∧ b < 127 := by
  have segments (bytes : Bytes) : ∀ b ∈ segment bytes, 33 ≤ b ∧ b < 127 := by
    intro b member
    have visible := Base64.visible_of_mem_encode member
    exact ⟨visible.1, visible.2.1⟩
  have between : 33 ≤ point ∧ point < 127 := by decide
  simp only [Contents.text, Contents.signed, List.forall_mem_append, List.forall_mem_cons]
  exact ⟨⟨segments _, between, segments _⟩, between, segments _⟩

theorem trim_text (contents : Contents) :
    (Bytes.toText? contents.text).map (fun text => Bytes.ofText (Text.trim text)) =
      some contents.text := by
  have visible := visible_text contents
  have ascii : ∀ b ∈ contents.text, b < 128 := by
    intro b member
    exact UInt8.lt_trans (visible b member).2 (by decide)
  rw [Bytes.toText?_ascii ascii, Option.map_some, Text.trim_asciiText visible,
    Bytes.ofText_asciiText ascii]

end Issued

end Jwt

end SealedTokens
