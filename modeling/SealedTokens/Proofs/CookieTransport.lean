import SealedTokens.Proofs.EncodedTexts
import SealedTokens.Proofs.HeaderValues
import SealedTokens.Proofs.RoundTrip
import SealedTokens.Proofs.SessionExposure
/-!
# The cookie transport

How a token comes back in a cookie: what is written is a plain value, which is read as it was
written, wherever it stands among other cookies.

## Main results

- `Exchange.cookie?_of_returned`: a cookie that the client returns is the one that is found
- `Backend.plain_of_save`: tokens are plain values
- `Backend.exists_save`: there is a token whenever there is randomness
- `Transport.run_save_cookie`, `Transport.exists_save_cookie`: how a session is written, and when
- `Transport.error_of_save`: why it is not
-/
namespace SealedTokens

/-! ### Plain texts -/

namespace Http

/-- Visible characters that have no meaning in a cookie's value. -/
def PlainValue (value : String) : Prop :=
  ∀ b ∈ Bytes.ofText value, 33 ≤ b ∧ b < 127 ∧ b ≠ 37 ∧ b ≠ 59

/-- A token that is read as it is written: percent decoding leaves it alone. -/
structure PlainName (name : String) : Prop where
  isToken : isToken name = true
  decodes : percentDecode (Bytes.ofText name) = Bytes.ofText name

theorem toList_of_ascii {text : String} (ascii : ∀ b ∈ Bytes.ofText text, b < 128) :
    text.toList = (Bytes.ofText text).map fun b => Char.ofNat b.toNat := by
  have read := (Bytes.toText?_ofText text).symm.trans (Bytes.toText?_ascii ascii)
  exact (congrArg String.toList (Option.some.inj read)).trans String.toList_ofList

theorem isVisible_of_range {b : UInt8} (low : 33 ≤ b) (high : b < 127) : isVisible b = true := by
  simp only [isVisible, Bool.or_eq_true, Bool.and_eq_true, decide_eq_true_eq]
  exact .inr ⟨UInt8.le_trans (by decide) low, high⟩

theorem ascii_of_visible {bytes : Bytes} (all : bytes.all isVisible = true) :
    ∀ b ∈ bytes, b < 128 := by
  intro b member
  have visible := List.all_eq_true.mp all b member
  simp only [isVisible, Bool.or_eq_true, Bool.and_eq_true, decide_eq_true_eq] at visible
  obtain rfl | ⟨-, high⟩ := visible
  · decide
  · exact UInt8.lt_trans high (by decide)

/-- The bytes of a text are read back as the text if they are visible. -/
theorem visibleText?_ofText (text : String) : visibleText? (Bytes.ofText text) =
    if (Bytes.ofText text).all isVisible then some text else none := by
  unfold visibleText?
  split
  next all => rw [← toList_of_ascii (ascii_of_visible all), String.ofList_toList]
  next => rfl

theorem toNat_of_mem {text : String} {P : UInt8 → Prop} (all : ∀ b ∈ Bytes.ofText text, P b)
    (ascii : ∀ b, P b → b < 128) :
    ∀ c ∈ text.toList, ∃ b, P b ∧ c = Char.ofNat b.toNat ∧ c.toNat = b.toNat := by
  intro c member
  rw [toList_of_ascii fun b member => ascii b (all b member)] at member
  obtain ⟨b, written, rfl⟩ := List.mem_map.mp member
  exact ⟨b, all b written, rfl, Bytes.toNat_ofNat_ascii (ascii b (all b written))⟩

theorem isTokenByte_range {b : UInt8} (token : isTokenByte b = true) :
    33 ≤ b ∧ b < 127 ∧ b ≠ 59 ∧ b ≠ 61 := by
  have all : ∀ n < 256, isTokenByte (UInt8.ofNat n) = true →
      33 ≤ UInt8.ofNat n ∧ UInt8.ofNat n < 127 ∧ UInt8.ofNat n ≠ 59 ∧ UInt8.ofNat n ≠ 61 := by
    decide +kernel
  have same : UInt8.ofNat b.toNat = b := UInt8.ofNat_toNat
  have range := all b.toNat b.toNat_lt
  rw [same] at range
  exact range token

section Token

variable {name : String}

theorem bytes_of_isToken (token : isToken name = true) :
    ∀ b ∈ Bytes.ofText name, 33 ≤ b ∧ b < 127 ∧ b ≠ 59 ∧ b ≠ 61 := by
  simp only [isToken, Bool.and_eq_true, List.all_eq_true] at token
  exact fun b member => isTokenByte_range (token.2 b member)

theorem chars_of_isToken (token : isToken name = true) :
    ∀ c ∈ name.toList, Text.isBlank c = false ∧ isValueChar c = true ∧ c ≠ ';' ∧ c ≠ '=' := by
  intro c member
  obtain ⟨b, ⟨low, high, semicolon, equals⟩, rfl, value⟩ := toNat_of_mem (bytes_of_isToken token)
    (fun b range => UInt8.lt_trans range.2.1 (by decide)) c member
  have low' : 33 ≤ b.toNat := low
  have high' : b.toNat < 127 := high
  refine ⟨Text.isBlank_of_visible low high, isValueChar_of_visible (by omega) (by omega), ?_, ?_⟩
  · intro same
    rw [same] at value
    exact semicolon (UInt8.toNat_inj.mp value.symm)
  · intro same
    rw [same] at value
    exact equals (UInt8.toNat_inj.mp value.symm)

theorem presentable_of_isToken (token : isToken name = true) : Presentable name :=
  fun c member => (chars_of_isToken token c member).2.1

theorem nonempty_of_isToken (token : isToken name = true) : name.toList.isEmpty = false := by
  simp only [isToken, Bool.and_eq_true, Bool.not_eq_true', List.isEmpty_eq_false_iff] at token
  rw [List.isEmpty_eq_false_iff]
  intro empty
  have same : name = "" := String.toList_eq_nil_iff.mp empty
  exact token.1 (by rw [same]; rfl)

end Token

namespace PlainName

variable {name : String}

theorem bytes (plain : PlainName name) :
    ∀ b ∈ Bytes.ofText name, 33 ≤ b ∧ b < 127 ∧ b ≠ 59 ∧ b ≠ 61 := bytes_of_isToken plain.isToken

theorem chars (plain : PlainName name) :
    ∀ c ∈ name.toList, Text.isBlank c = false ∧ isValueChar c = true ∧ c ≠ ';' ∧ c ≠ '=' :=
  chars_of_isToken plain.isToken

end PlainName

namespace PlainValue

variable {value : String}

theorem chars (plain : PlainValue value) :
    ∀ c ∈ value.toList, Text.isBlank c = false ∧ isValueChar c = true ∧ c ≠ ';' := by
  intro c member
  obtain ⟨b, ⟨low, high, -, semicolon⟩, rfl, value⟩ := toNat_of_mem plain
    (fun b range => UInt8.lt_trans range.2.1 (by decide)) c member
  have low' : 33 ≤ b.toNat := low
  have high' : b.toNat < 127 := high
  refine ⟨Text.isBlank_of_visible low high, isValueChar_of_visible (by omega) (by omega), ?_⟩
  intro same
  rw [same] at value
  exact semicolon (UInt8.toNat_inj.mp value.symm)

theorem decodes (plain : PlainValue value) :
    percentDecode (Bytes.ofText value) = Bytes.ofText value :=
  percentDecode_plain fun b member => (plain b member).2.2.1

end PlainValue

/-! ### Reading a cookie -/

namespace Cookie

theorem decoded?_of_plain {text : String}
    (decodes : percentDecode (Bytes.ofText text) = Bytes.ofText text) :
    decoded? text.toList = some text := by
  rw [decoded?, String.ofList_toList, decodes, Bytes.toText?_ofText]

/-- A plain value is read as it was written, with any blanks around it, and the token in front of
it is decoded. -/
theorem ofPiece?_of_token {name value : String} {left right : List Char}
    (token : isToken name = true) (plainValue : PlainValue value)
    (before : ∀ c ∈ left, Text.isBlank c = true) (after : ∀ c ∈ right, Text.isBlank c = true) :
    ofPiece? (left ++ (name ++ "=" ++ value).toList ++ right) =
      (decoded? name.toList).map fun text => ⟨text, value⟩ := by
  have chars := chars_of_isToken token
  have spelled : left ++ (name ++ "=" ++ value).toList ++ right =
      (left ++ name.toList) ++ '=' :: (value.toList ++ right) := by
    simp only [String.toList_append, List.append_assoc]
    rfl
  -- The first equals sign is the one behind the name.
  have noEquals : ∀ c ∈ left ++ name.toList, decide (c ≠ '=') = true := by
    rw [List.forall_mem_append]
    refine ⟨fun c member => ?_, fun c member => decide_eq_true (chars c member).2.2.2⟩
    refine decide_eq_true fun same => ?_
    have blank := before c member
    rw [same] at blank
    exact absurd blank (by decide)
  have stops : Stops (fun c : Char => decide (c ≠ '=')) ('=' :: (value.toList ++ right)) :=
    .cons (by decide)
  have nothing : ∀ c ∈ ([] : List Char), Text.isBlank c = true := by simp
  have nameTrimmed := Text.trimChars_around before (fun c member => (chars c member).1) nothing
  have valueTrimmed := Text.trimChars_around nothing
    (fun c member => (plainValue.chars c member).1) after
  rw [List.append_nil] at nameTrimmed
  rw [List.nil_append] at valueTrimmed
  rw [spelled, ofPiece?, takeWhile_run noEquals stops, dropWhile_run noEquals stops, nameTrimmed]
  simp only [nonempty_of_isToken token, Bool.false_eq_true, ite_false, valueTrimmed,
    decoded?_of_plain plainValue.decodes]
  cases decoded? name.toList <;> rfl

/-- A plain name with a plain value is read as it was written, with any blanks around it. -/
theorem ofPiece?_around {name value : String} {left right : List Char} (plainName : PlainName name)
    (plainValue : PlainValue value) (before : ∀ c ∈ left, Text.isBlank c = true)
    (after : ∀ c ∈ right, Text.isBlank c = true) :
    ofPiece? (left ++ (name ++ "=" ++ value).toList ++ right) = some ⟨name, value⟩ := by
  rw [ofPiece?_of_token plainName.isToken plainValue before after,
    decoded?_of_plain plainName.decodes]
  rfl

end Cookie

/-- The pieces of a request's cookie headers. -/
def cookiePieces (headers : Headers) : List (List Char) :=
  ((headers.all "cookie").filterMap visibleText?).flatMap fun text => text.toList.splitOn ';'

/-- A piece is a cookie of a name. -/
def Names (name : String) (piece : List Char) : Prop :=
  ∃ value, Cookie.ofPiece? piece = some ⟨name, value⟩

/-- A client returns the cookie that it has, as the first one of its name and with any blanks around
it; without a cookie it returns none. -/
inductive Returns (headers : Headers) (name : String) : (jar : Option String) → Prop
  | nothing (unnamed : ∀ piece ∈ cookiePieces headers, ¬ Names name piece) :
      Returns headers name none
  | cookie {value : String} {front back : List (List Char)} {left right : List Char}
      (pieces : cookiePieces headers =
        front ++ (left ++ (name ++ "=" ++ value).toList ++ right) :: back)
      (unnamed : ∀ piece ∈ front, ¬ Names name piece)
      (before : ∀ c ∈ left, Text.isBlank c = true) (after : ∀ c ∈ right, Text.isBlank c = true) :
      Returns headers name (some value)

/-- Where the cookie headers are one text without a semicolon, there is one piece if the text is
read at all. -/
theorem cookiePieces_of_text {headers : Headers} {text : String} (unbroken : ';' ∉ text.toList)
    (only : headers.all "cookie" = [Bytes.ofText text]) :
    cookiePieces headers = if (Bytes.ofText text).all isVisible then [text.toList] else [] := by
  have read := visibleText?_ofText text
  unfold cookiePieces
  rw [only]
  split
  next all =>
    rw [if_pos all] at read
    rw [List.filterMap_cons_some read, List.filterMap_nil, List.flatMap_singleton,
      List.splitOn_eq_singleton unbroken]
  next hidden =>
    rw [if_neg hidden] at read
    rw [List.filterMap_cons_none read]
    rfl

section Pair

variable {name value : String} (token : isToken name = true) (plainValue : PlainValue value)

include token plainValue

theorem isVisible_pair : (Bytes.ofText (name ++ "=" ++ value)).all isVisible = true := by
  have inName : ∀ b ∈ Bytes.ofText name, isVisible b = true := fun b member =>
    isVisible_of_range (bytes_of_isToken token b member).1 (bytes_of_isToken token b member).2.1
  have inValue : ∀ b ∈ Bytes.ofText value, isVisible b = true := fun b member =>
    isVisible_of_range (plainValue b member).1 (plainValue b member).2.1
  have sign : (Bytes.ofText "=").all isVisible = true := by decide
  rw [Bytes.ofText_append, Bytes.ofText_append, List.all_append, List.all_append, sign,
    List.all_eq_true.mpr inName, List.all_eq_true.mpr inValue]
  rfl

theorem semicolon_not_mem_pair : ';' ∉ (name ++ "=" ++ value).toList := by
  simp only [String.toList_append, List.mem_append]
  rintro ((inName | inSign) | inValue)
  · exact (chars_of_isToken token _ inName).2.2.1 rfl
  · exact absurd inSign (by decide)
  · exact (plainValue.chars _ inValue).2.2 rfl

/-- Where the cookie headers are one pair, this is their only piece. -/
theorem cookiePieces_of_pair {headers : Headers}
    (only : headers.all "cookie" = [Bytes.ofText (name ++ "=" ++ value)]) :
    cookiePieces headers = [(name ++ "=" ++ value).toList] := by
  rw [cookiePieces_of_text (semicolon_not_mem_pair token plainValue) only,
    if_pos (isVisible_pair token plainValue)]

end Pair

/-- A client that sends its cookie alone returns it. -/
theorem returns_alone {name value : String} (plainName : PlainName name)
    (plainValue : PlainValue value) :
    Returns [("cookie", Bytes.ofText (name ++ "=" ++ value))] name (some value) := by
  let headers : Headers := [("cookie", Bytes.ofText (name ++ "=" ++ value))]
  have alone : cookiePieces headers = [] ++ ([] ++ (name ++ "=" ++ value).toList ++ []) :: [] := by
    rw [cookiePieces_of_pair plainName.isToken plainValue rfl, List.nil_append, List.nil_append,
      List.append_nil]
  exact .cookie alone (by simp) (by simp) (by simp)

end Http

namespace Exchange

open Http

theorem cookie?_eq (exchange : Exchange) (name : String) : exchange.cookie? name =
    ((cookiePieces exchange.headers).filterMap Cookie.ofPiece?).find? fun c => c.name == name := by
  unfold cookie? cookiePieces
  rw [List.filterMap_flatMap]
  rfl

theorem find?_of_unnamed {name : String} {pieces : List (List Char)}
    (unnamed : ∀ piece ∈ pieces, ¬ Names name piece) :
    ((pieces.filterMap Cookie.ofPiece?).find? fun c => c.name == name) = none := by
  rw [List.find?_eq_none]
  intro c member same
  obtain ⟨piece, member, read⟩ := List.mem_filterMap.mp member
  have named : c.name = name := by simpa using same
  exact unnamed piece member ⟨c.value, by rw [read, ← named]⟩

/-- What the client returns is what is found. -/
theorem cookie?_of_returned {exchange : Exchange} {name : String} {jar : Option String}
    (plainName : PlainName name) (plainJar : ∀ value, jar = some value → PlainValue value)
    (returned : Returns exchange.headers name jar) :
    exchange.cookie? name = jar.map fun value => ⟨name, value⟩ := by
  rw [cookie?_eq]
  cases returned with
  | nothing unnamed => exact find?_of_unnamed unnamed
  | cookie pieces unnamed before after =>
    have read := Cookie.ofPiece?_around plainName (plainJar _ rfl) before after
    rw [pieces, List.filterMap_append, List.find?_append, find?_of_unnamed unnamed,
      List.filterMap_cons_some read, Option.none_or, List.find?_cons_of_pos (by simp)]
    rfl

end Exchange

/-! ### Tokens as values -/

/-- A source that answers a draw is as willing afterwards. -/
theorem Entropy.draw_of_unlimited {source : Entropy} (unlimited : source.limit = none)
    (length : Nat) : ∃ bytes next, source.draw length = (some bytes, next) ∧ next.limit = none := by
  simp only [draw, unlimited, Option.any_none, Bool.false_eq_true, ite_false]
  exact ⟨_, _, rfl, rfl⟩

namespace Backend

/-- Tokens of the backend are text. -/
def EmitsText : Backend → Prop
  | .sealed codec => codec.representer = .base64
  | .signed _ => True

/-- The backend signs whatever it is given, if it signs at all. -/
def Signs : Backend → Prop
  | .sealed _ => True
  | .signed signer => ∀ message, (signer.sign? message).isSome = true

variable {backend : Backend} {data : Data} {source : Entropy} {token : Bytes}

theorem emitsText_withSign {sign? : Bytes → Option Bytes} (emits : backend.EmitsText) :
    (backend.withSign sign?).EmitsText := by
  cases backend with
  | sealed codec => exact emits
  | signed signer => trivial

/-- Whatever the backend, tokens are spelled in the safe alphabet, with points between the segments
of a signed one. -/
theorem forall_of_save {P : UInt8 → Prop}
    (encoded : ∀ form bytes, form.alphabet = .urlSafe → ∀ b ∈ Base64.encode form bytes, P b)
    (point : P Jwt.point) (emits : backend.EmitsText)
    (saved : (backend.save data).outcome source = .ok token) : ∀ b ∈ token, P b := by
  cases backend with
  | sealed codec =>
    obtain ⟨nonce, -, rfl⟩ := Codec.outcome_encode_eq_ok.mp saved
    have base64 : codec.representer = .base64 := emits
    rw [Codec.token, base64]
    exact encoded Base64.urlSafe _ rfl
  | signed signer =>
    obtain ⟨signature, rfl, -⟩ := Jwt.issue_eq_ok saved
    have segment (bytes : Bytes) : ∀ b ∈ Jwt.segment bytes, P b :=
      encoded Base64.urlSafeBare bytes rfl
    simp only [Jwt.Contents.text, Jwt.Contents.signed, List.forall_mem_append,
      List.forall_mem_cons]
    exact ⟨⟨segment _, point, segment _⟩, point, segment _⟩

/-- Tokens are plain values. -/
theorem plain_of_save (emits : backend.EmitsText)
    (saved : (backend.save data).outcome source = .ok token) :
    ∀ b ∈ token, 33 ≤ b ∧ b < 127 ∧ b ≠ 37 ∧ b ≠ 59 := by
  refine forall_of_save (fun form bytes safe b member => ?_) (by decide) emits saved
  obtain ⟨low, high, percent, -, -, semicolon⟩ := Base64.plain_of_mem_encode safe member
  exact ⟨low, high, percent, semicolon⟩

theorem toText?_of_save (emits : backend.EmitsText)
    (saved : (backend.save data).outcome source = .ok token) :
    ∃ value, Bytes.toText? token = some value ∧ Http.PlainValue value ∧
      Bytes.ofText value = token := by
  have plain := plain_of_save emits saved
  have ascii : ∀ b ∈ token, b < 128 := fun b member =>
    UInt8.lt_trans (plain b member).2.1 (by decide)
  have same := Bytes.ofText_asciiText ascii
  refine ⟨Bytes.asciiText token, Bytes.toText?_ascii ascii, ?_, same⟩
  rw [Http.PlainValue, same]
  exact plain

/-- With randomness and a signature whenever one is asked for, saving succeeds. -/
theorem exists_save (signs : backend.Signs) (unlimited : source.limit = none) (data : Data) :
    ∃ token next, (backend.save data).run.run source = (.ok token, next) ∧ next.limit = none := by
  cases backend with
  | sealed codec =>
    obtain ⟨serializer, compressor, sealer, representer⟩ := codec
    cases sealer with
    | nop => exact ⟨_, source, rfl, unlimited⟩
    | secretBox cipher =>
      obtain ⟨nonce, next, drawn, unlimited'⟩ :=
        Entropy.draw_of_unlimited unlimited Crypto.XChaCha20Poly1305.nonceLength
      refine ⟨Codec.token ⟨serializer, compressor, .secretBox cipher, representer⟩ nonce data, next,
        ?_, unlimited'⟩
      rw [save, Codec.encode, Drawing.run_bind, Sealer.toBox, Drawing.run_bind, Entropy.run_fill,
        drawn]
      rfl
  | signed signer =>
    have signs : ∀ message, (signer.sign? message).isSome = true := signs
    obtain ⟨signature, signed⟩ := Option.isSome_iff_exists.mp
      (signs (Jwt.signedPart signer.algorithm (Claims.ofData data)))
    have issued : Jwt.issue signer (Claims.ofData data) = .ok
        (Jwt.signedPart signer.algorithm (Claims.ofData data) ++ Jwt.point ::
          Jwt.segment signature) := by
      simp only [Jwt.issue, signed]
    exact ⟨_, source, congrArg (·, source) issued, unlimited⟩

end Backend

/-! ### Writing a session -/

namespace Transport

variable {config : CookieConfig} {policy : SameSitePolicy} {exchange : Exchange} {session : Session}

theorem run_save_cookie (source : Entropy) :
    ((Transport.cookie config policy).save exchange session).run.run source =
      match session.container.save.run.run source with
      | (.error e, next) => (.error (.ofContainer e), next)
      | (.ok token, next) =>
        ((cookieOf config policy exchange session token).map exchange.setCookie, next) := by
  rw [save, Drawing.run_bind, Session.save, Drawing.run_adapt]
  rcases session.container.save.run.run source with ⟨e | token, next⟩
  · rfl
  · simp only [Except.mapError]
    cases cookieOf config policy exchange session token <;> rfl

theorem outcome_save_cookie (source : Entropy) :
    ((Transport.cookie config policy).save exchange session).outcome source =
      match session.container.save.outcome source with
      | .error e => .error (.ofContainer e)
      | .ok token => (cookieOf config policy exchange session token).map exchange.setCookie := by
  unfold Drawing.outcome
  rw [run_save_cookie]
  rcases session.container.save.run.run source with ⟨e | token, next⟩ <;> rfl

/-- What is written is one cookie more, made of the session's token. -/
theorem save_cookie_eq_ok {source : Entropy} {written : Exchange}
    (saved : ((Transport.cookie config policy).save exchange session).outcome source =
      .ok written) :
    ∃ token c, session.container.save.outcome source = .ok token ∧
      cookieOf config policy exchange session token = .ok c ∧ written = exchange.setCookie c := by
  rw [outcome_save_cookie] at saved
  cases sealed : session.container.save.outcome source with
  | error e =>
    rw [sealed] at saved
    cases saved
  | ok token =>
    rw [sealed] at saved
    cases made : cookieOf config policy exchange session token with
    | error e =>
      simp only [made] at saved
      cases saved
    | ok c =>
      simp only [made] at saved
      cases saved
      exact ⟨token, c, rfl, made, rfl⟩

/-- Without a value in the header, the cookie is the transport. -/
theorem select_of_absent {config : SessionConfig} {name : String}
    (named : config.headerName = .ok name) (absent : exchange.header? name = none)
    (chosen : config.cookie.policy = .ok policy) :
    select config exchange = .ok (.cookie config.cookie policy) := by
  refine bind_eq_ok.mpr ⟨name, named, ?_⟩
  simp only [absent, Option.any_none, Bool.false_eq_true, ite_false]
  exact bind_eq_ok.mpr ⟨policy, chosen, rfl⟩

/-- A cookie is made of a token that is text, and of an expiry in the years of cookies. -/
theorem cookieOf_of_text {token : Bytes} {value : String}
    (isText : Bytes.toText? token = some value) :
    cookieOf config policy exchange session token =
      (expiry session.header.validBefore).map
        (sessionCookie config policy exchange value
          (Instant.secondsBetween session.header.validAfter session.header.validBefore)) := by
  unfold cookieOf
  simp only [isText]
  cases expiry session.header.validBefore <;> rfl

open Http (Presentable)

section Host

variable {P : Char → Prop} (brackets : P '[' ∧ P ']')

include brackets

/-- Without its port, a host has no characters but its own, and brackets. -/
theorem forall_withoutPort {host : String} (all : ∀ c ∈ host.toList, P c) :
    ∀ c ∈ (withoutPort host).toList, P c := by
  have taken {p : Char → Bool} {cs : List Char} (all : ∀ c ∈ cs, P c) :
      ∀ c ∈ cs.takeWhile p, P c :=
    fun c member => all c ((List.takeWhile_prefix p).subset member)
  unfold withoutPort
  simp only
  -- An address in brackets keeps its brackets, and anything else is cut at the first colon.
  split
  next rest same =>
    split
    · have inside : ∀ c ∈ rest, P c := fun c member =>
        all c (by rw [same]; exact List.mem_cons_of_mem _ member)
      rw [String.toList_ofList]
      simp only [List.cons_append, List.forall_mem_cons, List.forall_mem_append]
      exact ⟨brackets.1, taken inside, brackets.2, by simp⟩
    · rw [String.toList_ofList]
      exact taken all
  next =>
    rw [String.toList_ofList]
    exact taken all

/-- The domain is the configured one or the host's. -/
theorem forall_domain? (own : ∀ c ∈ config.domain.toList, P c)
    (host : config.domain.isEmpty = true → ∀ h, exchange.host = some h → ∀ c ∈ h.toList, P c) :
    ∀ d, domain? config exchange = some d → ∀ c ∈ d.toList, P c := by
  intro d named
  unfold domain? at named
  simp only at named
  have either : ∀ c ∈ (if config.domain.isEmpty then
      (exchange.host.map withoutPort).getD "" else withoutPort config.domain).toList, P c := by
    split
    next unset =>
      cases known : exchange.host with
      | none => exact fun c member => by cases member
      | some h => exact forall_withoutPort brackets (host unset h known)
    next => exact forall_withoutPort brackets own
  generalize (if config.domain.isEmpty then (exchange.host.map withoutPort).getD ""
    else withoutPort config.domain) = text at named either
  split at named
  · cases named
  · cases named
    exact either

end Host

theorem presentable_domain? (own : Presentable config.domain)
    (host : config.domain.isEmpty = true → ∀ h, exchange.host = some h → Presentable h) :
    ∀ d, domain? config exchange = some d → Presentable d :=
  forall_domain? (by decide) own host

theorem presentable_attribute? (policy : SameSitePolicy) :
    ∀ text, policy.attribute? = some text → Presentable text := by
  intro text named
  cases policy <;> cases named <;> decide

theorem expiry_eq_ok {t : Instant}
    (years : firstCookieSecond ≤ t.secs ∧ t.secs ≤ lastCookieSecond) : expiry t = .ok t :=
  if_pos years

/-- What is said of a window that cookies cannot tell the end of. -/
def outsideYears : SessionError :=
  ⟨.internal "timestamp was not in range", some "cookie expiry"⟩

theorem expiry_eq_error {t : Instant}
    (outside : ¬ (firstCookieSecond ≤ t.secs ∧ t.secs ≤ lastCookieSecond)) :
    expiry t = .error outsideYears := if_neg outside

/-- The cookie of a session can be set if nothing in the configuration or the host is refused by a
header. -/
theorem presentable_cookie {value : String} (name : Presentable config.name)
    (plain : Http.PlainValue value) (path : Presentable config.path)
    (domain : ∀ d, domain? config exchange = some d → Presentable d) (maxAge : Int)
    (expires : Instant) :
    Presentable (sessionCookie config policy exchange value maxAge expires).line :=
  Http.SetCookie.presentable_line name (fun c member => (plain.chars c member).2.1) path domain
    (presentable_attribute? policy)

theorem presentable_sessionCookie {value : String} (name : Http.PlainName config.name)
    (plain : Http.PlainValue value) (path : Presentable config.path)
    (domain : ∀ d, domain? config exchange = some d → Presentable d) (maxAge : Int)
    (expires : Instant) :
    Presentable (sessionCookie config policy exchange value maxAge expires).line :=
  presentable_cookie (Http.presentable_of_isToken name.isToken) plain path domain maxAge expires

/-- With randomness, a token that is text, and an expiry in the years of cookies, a session is made
into a cookie. -/
theorem exists_save_cookie {source : Entropy} (emits : session.container.backend.EmitsText)
    (signs : session.container.backend.Signs) (unlimited : source.limit = none)
    (years : firstCookieSecond ≤ session.header.validBefore.secs ∧
      session.header.validBefore.secs ≤ lastCookieSecond) :
    ∃ value next,
      ((Transport.cookie config policy).save exchange session).run.run source =
        (.ok (exchange.setCookie (sessionCookie config policy exchange value
          (Instant.secondsBetween session.header.validAfter session.header.validBefore)
          session.header.validBefore)), next) ∧
      next.limit = none ∧ Http.PlainValue value ∧
      session.container.save.outcome source = .ok (Bytes.ofText value) := by
  obtain ⟨token, next, saved, unlimited'⟩ :=
    Backend.exists_save signs unlimited session.container.data
  have saved : session.container.save.run.run source = (.ok token, next) := saved
  have outcome : session.container.save.outcome source = .ok token := congrArg Prod.fst saved
  obtain ⟨value, isText, plain, same⟩ := Backend.toText?_of_save emits outcome
  have steps : ((Transport.cookie config policy).save exchange session).run.run source = _ :=
    run_save_cookie source
  rw [saved] at steps
  simp only [cookieOf_of_text isText, expiry_eq_ok years] at steps
  exact ⟨value, next, steps, unlimited', plain, outcome.trans (congrArg Except.ok same.symm)⟩

/-- Outside the years of cookies nothing is made of the token. -/
theorem save_cookie_of_outside {source : Entropy} (emits : session.container.backend.EmitsText)
    (signs : session.container.backend.Signs) (unlimited : source.limit = none)
    (outside : ¬ (firstCookieSecond ≤ session.header.validBefore.secs ∧
      session.header.validBefore.secs ≤ lastCookieSecond)) :
    ∃ next, ((Transport.cookie config policy).save exchange session).run.run source =
      (.error outsideYears, next) := by
  obtain ⟨token, next, saved, -⟩ := Backend.exists_save signs unlimited session.container.data
  have saved : session.container.save.run.run source = (.ok token, next) := saved
  obtain ⟨value, isText, -, -⟩ := Backend.toText?_of_save emits (congrArg Prod.fst saved)
  have steps : ((Transport.cookie config policy).save exchange session).run.run source = _ :=
    run_save_cookie source
  rw [saved] at steps
  simp only [cookieOf_of_text isText, expiry_eq_error outside] at steps
  exact ⟨next, steps⟩

/-- A session is not saved since its container fails, or since cookies cannot tell when it ends. -/
theorem error_of_save {source : Entropy} {e : SessionError}
    (emits : session.container.backend.EmitsText)
    (failed : ((Transport.cookie config policy).save exchange session).outcome source = .error e) :
    (∃ cause, session.container.save.outcome source = .error cause ∧ e = .ofContainer cause) ∨
      e = outsideYears ∧ ¬ (firstCookieSecond ≤ session.header.validBefore.secs ∧
        session.header.validBefore.secs ≤ lastCookieSecond) := by
  rw [outcome_save_cookie] at failed
  cases saved : session.container.save.outcome source with
  | error cause =>
    rw [saved] at failed
    cases failed
    exact .inl ⟨cause, rfl, rfl⟩
  | ok token =>
    obtain ⟨value, isText, -, -⟩ := Backend.toText?_of_save emits saved
    simp only [saved, cookieOf_of_text isText] at failed
    by_cases years : firstCookieSecond ≤ session.header.validBefore.secs ∧
        session.header.validBefore.secs ≤ lastCookieSecond
    · rw [expiry_eq_ok years] at failed
      cases failed
    · rw [expiry_eq_error years] at failed
      cases failed
      exact .inr ⟨rfl, years⟩

end Transport

end SealedTokens
