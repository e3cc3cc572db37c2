import SealedTokens.Proofs.Availability
import SealedTokens.Proofs.ReturnedCookies
/-!
# Tokens looked for among cookies

The header that is searched for a token may be the one with the cookies. No token is found there:
what is taken for one is a cookie with its name in front, and an equals sign inside a text is none
of base64. So two requests that differ in the tokens of a cookie find the same there, unless the
scheme in front of a token is a cookie itself.

## Main results

- `Backend.load_of_broken`: a text with an equals sign inside is no token
- `Http.text?_cookie_of_alike`: the first header with cookies
- `Transport.headerToken?_of_parted`: what is taken for a token there
- `Http.SessionState.establish_of_broken`: the session that a request has with it
-/
namespace SealedTokens

/-- An equals sign somewhere before another visible character. -/
def Broken (chars : List Char) : Prop :=
  ∃ c, c ≠ '=' ∧ Text.isBlank c = false ∧ List.Sublist ['=', c] chars

theorem Broken.mono {chars more : List Char} (broken : Broken chars) (inside : chars.Sublist more) :
    Broken more := by
  obtain ⟨c, other, visible, pair⟩ := broken
  exact ⟨c, other, visible, pair.trans inside⟩

theorem Broken.trimChars {chars : List Char} (broken : Broken chars) :
    Broken (Text.trimChars chars) := by
  obtain ⟨c, other, visible, pair⟩ := broken
  refine ⟨c, other, visible, Text.sublist_trimChars ?_ pair⟩
  simp only [List.forall_mem_cons]
  exact ⟨by decide, visible, by simp⟩

/-! ### Texts that are no tokens -/

/-- In base64, an equals sign is followed by equals signs only. -/
theorem not_broken_encode {text : String} {bytes : Bytes}
    (encoded : Bytes.ofText text = Base64.encode Base64.urlSafe bytes) : ¬ Broken text.toList := by
  rintro ⟨c, other, -, pair⟩
  have ascii : ∀ b ∈ Bytes.ofText text, b < 128 := by
    intro b member
    rw [encoded] at member
    exact UInt8.lt_trans (Base64.visible_of_mem_encode member).2.1 (by decide)
  obtain ⟨front, n, spelled, clear, -⟩ := Base64.encode_padded Base64.urlSafe bytes
  have chars := Http.toList_of_ascii ascii
  rw [encoded, spelled, List.map_append, List.map_replicate] at chars
  rw [chars] at pair
  obtain ⟨before, after, same, inFront, inPadding⟩ := List.sublist_append_iff.mp pair
  cases before with
  | nil =>
    have last : c ∈ after := by rw [← show ['=', c] = after from same]; simp
    exact other (List.eq_of_mem_replicate (inPadding.subset last))
  | cons first before =>
    cases (List.cons.inj same).1
    obtain ⟨b, member, isEquals⟩ := List.mem_map.mp (inFront.subset List.mem_cons_self)
    have small : b < 128 := ascii b (by rw [encoded, spelled]; exact List.mem_append_left _ member)
    have value := Bytes.toNat_ofNat_ascii small
    rw [isEquals] at value
    have isPad : Base64.pad = b := UInt8.toNat_inj.mp value
    exact clear (isPad ▸ member)

theorem pad_not_mem_segment (bytes : Bytes) : Base64.pad ∉ Jwt.segment bytes := by
  obtain ⟨front, n, spelled, clear, bare⟩ := Base64.encode_padded Base64.urlSafeBare bytes
  rw [Jwt.segment, spelled, bare rfl, List.replicate_zero, List.append_nil]
  exact clear

theorem Backend.load_of_broken {backend : Backend} (emits : backend.EmitsText) {text : String}
    (broken : Broken text.toList) : ∃ e, backend.load (Bytes.ofText text) = .error e := by
  cases loaded : backend.load (Bytes.ofText text) with
  | error e => exact ⟨e, rfl⟩
  | ok data =>
    exfalso
    cases backend with
    | sealed codec =>
      have base64 : codec.representer = .base64 := emits
      obtain ⟨box, _, _, spelled, -⟩ := Codec.decode_eq_ok loaded
      rw [base64] at spelled
      exact not_broken_encode (RepresenterKind.decode_eq_ok_iff.mp spelled) broken
    | signed signer =>
      rw [load_signed (Bytes.toText?_ofText text)] at loaded
      obtain ⟨claims, accepted, -⟩ := bind_eq_ok.mp loaded
      have law := Jwt.lawful_read signer (Bytes.ofText (Text.trim text))
      rw [accepted] at law
      obtain ⟨contents, shape, -⟩ := law
      obtain ⟨c, -, -, pair⟩ := broken.trimChars
      have equals : Base64.pad ∈ Bytes.ofText (Text.trim text) := by
        rw [Bytes.ofText_eq_flatMap, Text.trim, String.toList_ofList]
        exact List.mem_flatMap.mpr ⟨'=', pair.subset List.mem_cons_self, by decide⟩
      -- Neither a segment nor a point between two of them has one.
      have point : Base64.pad ≠ Jwt.point := by decide
      rw [shape] at equals
      simp only [Jwt.Contents.text, Jwt.Contents.signed, List.mem_append, List.mem_cons,
        pad_not_mem_segment, point, or_self] at equals

/-- Where two tokens of one state differ, they are more than equals signs. -/
theorem Backend.exists_symbol_of_saves {backend : Backend} (emits : backend.EmitsText)
    {sign? sign?' : Bytes → Option Bytes} {data : Data} {source source' : Entropy}
    {token token' : Bytes} (saved : ((backend.withSign sign?).save data).outcome source = .ok token)
    (saved' : ((backend.withSign sign?').save data).outcome source' = .ok token')
    (differ : token ≠ token') : ∃ b ∈ token, b ≠ Base64.pad := by
  cases backend with
  | sealed codec =>
    have base64 : codec.representer = .base64 := emits
    obtain ⟨nonce, drawn, rfl⟩ := Codec.outcome_encode_eq_ok.mp saved
    obtain ⟨nonce', drawn', rfl⟩ := Codec.outcome_encode_eq_ok.mp saved'
    rw [Codec.token, base64]
    refine Base64.exists_symbol fun empty => ?_
    cases sealer : codec.sealer with
    | nop =>
      -- Without a cipher there is one token only.
      rw [sealer] at drawn drawn'
      cases drawn
      cases drawn'
      exact differ rfl
    | secretBox cipher =>
      rw [sealer] at drawn empty
      have filled := Entropy.length_draw drawn
      have none : nonce = [] :=
        (List.append_eq_nil_iff.mp (List.append_eq_nil_iff.mp empty).1).1
      rw [none] at filled
      cases filled
  | signed signer =>
    obtain ⟨signature, rfl, -⟩ := Jwt.issue_eq_ok saved
    exact ⟨Jwt.point, by simp [Jwt.Contents.text], by decide⟩

theorem exists_char_of_symbol {value : String}
    (symbol : ∃ b ∈ Bytes.ofText value, b ≠ Base64.pad) : ∃ c ∈ value.toList, c ≠ '=' := by
  obtain ⟨b, written, other⟩ := symbol
  rw [Bytes.ofText_eq_flatMap] at written
  obtain ⟨c, member, byte⟩ := List.mem_flatMap.mp written
  refine ⟨c, member, ?_⟩
  rintro rfl
  exact other (List.mem_singleton.mp (show b ∈ [61] from byte))

namespace Http

/-! ### Headers with cookies -/

/-- Texts that part in a token of a cookie. What follows it is further cookies, the same or with
tokens that differ too. -/
inductive Parted (backend : Backend) : List Char → List Char → Prop
  | last (front : List Char) {value value' : String} (same : SameSession backend value value') :
      Parted backend (front ++ '=' :: value.toList) (front ++ '=' :: value'.toList)
  | inside (front : List Char) {value value' : String} (same : SameSession backend value value')
      {back back' : List Char} (named : '=' ∈ back) (named' : '=' ∈ back')
      (rest : back = back' ∨ Broken back ∧ Broken back') :
      Parted backend (front ++ '=' :: (value.toList ++ ';' :: ' ' :: back))
        (front ++ '=' :: (value'.toList ++ ';' :: ' ' :: back'))

variable {backend : Backend} {name : String}

/-- An equals sign in front of a token breaks what is around them. -/
theorem broken_value {value : String} (plain : PlainValue value)
    (symbol : ∃ c ∈ value.toList, c ≠ '=') (front back : List Char) :
    Broken (front ++ '=' :: (value.toList ++ back)) := by
  obtain ⟨c, member, other⟩ := symbol
  refine ⟨c, other, (plain.chars c member).1, List.Sublist.trans ?_ (List.sublist_append_right _ _)⟩
  exact ((List.singleton_sublist.mpr member).trans (List.sublist_append_left _ _)).cons_cons '='

theorem Parted.broken {chars chars' : List Char} (parted : Parted backend chars chars') :
    Broken chars ∧ Broken chars' := by
  cases parted with
  | last front same =>
    have whole := broken_value same.plain same.symbol front []
    have whole' := broken_value same.plain' same.symbol' front []
    rw [List.append_nil] at whole whole'
    exact ⟨whole, whole'⟩
  | inside front same named named' rest =>
    exact ⟨broken_value same.plain same.symbol front _,
      broken_value same.plain' same.symbol' front _⟩

theorem Parted.behind {chars chars' : List Char} (parted : Parted backend chars chars')
    (before : List Char) : Parted backend (before ++ chars) (before ++ chars') := by
  cases parted with
  | last front same =>
    rw [← List.append_assoc, ← List.append_assoc]
    exact .last (before ++ front) same
  | inside front same named named' rest =>
    rw [← List.append_assoc, ← List.append_assoc]
    exact .inside (before ++ front) same named named' rest

theorem named_of_alike_text {text text' : String} (alike : AlikeText backend name text text') :
    '=' ∈ text.toList ∧ '=' ∈ text'.toList := by
  cases alike <;> simp

theorem named_intercalate {text : String} (named : '=' ∈ text.toList) (texts : List String) :
    '=' ∈ ("; ".intercalate (text :: texts)).toList := by
  cases texts with
  | nil => rwa [intercalate_singleton]
  | cons next texts =>
    rw [intercalate_cons_cons, String.toList_append]
    exact List.mem_append_left _ named

theorem parted_of_alike_texts {texts texts' : List String}
    (alike : List.Forall₂ (AlikeText backend name) texts texts') :
    "; ".intercalate texts = "; ".intercalate texts' ∨
      Parted backend ("; ".intercalate texts).toList ("; ".intercalate texts').toList := by
  induction alike with
  | nil => exact .inl rfl
  | cons first rest ih =>
    cases rest with
    | nil =>
      rw [intercalate_singleton, intercalate_singleton]
      cases first with
      | same => exact .inl rfl
      | session same =>
        rw [toList_cookie, toList_cookie]
        exact .inr (.last name.toList same)
    | cons second rest =>
      obtain ⟨named, named'⟩ := named_of_alike_text second
      rw [intercalate_cons_cons, intercalate_cons_cons]
      simp only [String.toList_append]
      cases first with
      | same other value =>
        rcases ih with same | parted
        · exact .inl (by rw [same])
        · exact .inr ((parted.behind _).behind _)
      | session same =>
        have spelled (value : String) (more : List Char) : (name ++ "=" ++ value).toList ++
            ("; ".toList ++ more) = name.toList ++ '=' :: (value.toList ++ ';' :: ' ' :: more) := by
          rw [toList_cookie, List.append_assoc]
          rfl
        rw [spelled, spelled]
        refine .inr (.inside name.toList same (named_intercalate named _)
          (named_intercalate named' _) ?_)
        rcases ih with same | parted
        · exact .inl (congrArg String.toList same)
        · exact .inr parted.broken

/-- The first header with cookies, if it is text: the same, or parted in a token. -/
theorem text?_cookie_of_alike {headers headers' : Headers}
    (alike : AlikeHeaders backend name headers headers') :
    headers.text? "cookie" = headers'.text? "cookie" ∨
      ∃ text text', headers.text? "cookie" = some text ∧ headers'.text? "cookie" = some text' ∧
        Parted backend text.toList text'.toList := by
  unfold Headers.text?
  induction alike with
  | nil => exact .inl rfl
  | cons line rest ih =>
    cases line with
    | same line =>
      rw [List.lookup_cons, List.lookup_cons]
      split
      · exact .inl rfl
      · exact ih
    | cookies texts =>
      simp only [cookieLine, List.lookup_cons, beq_self_eq_true, Option.bind_some,
        visibleText?_ofText, visible_of_alike_texts texts]
      split
      · rcases parted_of_alike_texts texts with same | parted
        · exact .inl (congrArg some same)
        · exact .inr ⟨_, _, rfl, rfl, parted⟩
      · exact .inl rfl

end Http

/-! ### What is taken for a token -/

namespace Transport

open Http

/-- Characters as a token, unless they are blank. -/
def word? (chars : List Char) : Option String :=
  if (Text.trimChars chars).isEmpty then none else some (String.ofList (Text.trimChars chars))

theorem broken_word? {chars : List Char} (broken : Broken chars) :
    ∀ token ∈ word? chars, Broken token.toList := by
  intro token taken
  unfold word? at taken
  split at taken
  · cases taken
  · cases taken
    rw [String.toList_ofList]
    exact broken.trimChars

/-- Without a space, a value is all token or all scheme. -/
theorem headerToken?_of_clear {value : String} (clear : ' ' ∉ Text.trimChars value.toList)
    (scheme : Option String) :
    headerToken? scheme value =
      if scheme.isNone then word? (Text.trimChars value.toList) else none := by
  have whole : (Text.trimChars value.toList).dropWhile (· ≠ ' ') = [] := by
    have all := dropWhile_run (passes_of_notMem clear) (.nil _)
    rwa [List.append_nil] at all
  unfold headerToken? word?
  dsimp only
  rw [whole]
  cases scheme with
  | none =>
    simp only
    cases Text.trimChars (Text.trimChars value.toList) with
    | nil => rfl
    | cons c chars => rfl
  | some scheme => rfl

/-- What follows the first space is the token, if what stands before it suits. -/
theorem headerToken?_of_space {value : String} {front back : List Char}
    (split : Text.trimChars value.toList = front ++ ' ' :: back) (clear : ' ' ∉ front)
    (scheme : Option String) : headerToken? scheme value =
      if scheme.all fun s => Text.sameIgnoringCase (String.ofList front) (Text.trim s) then
        word? back
      else none := by
  obtain ⟨given, rest⟩ := cut_at_mark clear back
  unfold headerToken? word?
  dsimp only
  rw [split, given, rest]
  cases scheme with
  | none =>
    simp only
    cases Text.trimChars back with
    | nil => rfl
    | cons c chars => rfl
  | some scheme =>
    rw [Option.all_some]
    simp only
    cases Text.sameIgnoringCase (String.ofList front) (Text.trim scheme) with
    | false => rfl
    | true =>
      simp only [ite_true]
      cases Text.trimChars back with
      | nil => rfl
      | cons c chars => rfl

/-- A text without blanks is the word that it is read as. -/
theorem word?_of_visible {word : String} (visible : ∀ c ∈ word.toList, Text.isBlank c = false)
    (filled : word ≠ "") : word? word.toList = some word := by
  have trimmed : Text.trimChars word.toList = word.toList := by
    rw [← Text.toList_trim, Text.trim_eq_self visible]
  have nonempty : word.toList.isEmpty = false :=
    List.isEmpty_eq_false_iff.mpr fun empty => filled (String.toList_eq_nil_iff.mp empty)
  rw [word?, trimmed, nonempty, String.ofList_toList]
  rfl

/-- In front of another cookie, a whole one can be the scheme. -/
theorem headerToken?_of_whole_cookie {first second scheme : String}
    (visible : ∀ c ∈ first.toList, Text.isBlank c = false)
    (visible' : ∀ c ∈ second.toList, Text.isBlank c = false) (filled : second ≠ "")
    (whole : ∀ c ∈ scheme.toList, Text.isBlank c = false) :
    headerToken? (some (scheme ++ ";")) ("; ".intercalate [first, second]) =
      if Text.sameIgnoringCase (first ++ ";") (scheme ++ ";") then some second else none := by
  have ended {text : String} (visible : ∀ c ∈ text.toList, Text.isBlank c = false) :
      ∀ c ∈ (text ++ ";").toList, Text.isBlank c = false := by
    rw [String.toList_append]
    exact List.forall_mem_append.mpr ⟨visible, List.forall_mem_singleton.mpr (by decide)⟩
  have nonempty : second.toList ≠ [] := fun empty => filled (String.toList_eq_nil_iff.mp empty)
  have written : Text.trimChars ("; ".intercalate [first, second]).toList =
      (first ++ ";").toList ++ ' ' :: second.toList := by
    have split : ("; ".intercalate [first, second]).toList =
        (first.toList ++ ';' :: [' ']) ++ second.toList := by
      rw [Http.intercalate_cons_cons, Http.intercalate_singleton]
      simp
    have kept : first.toList.dropWhile Text.isBlank = first.toList :=
      Text.dropWhile_isBlank (List.forall_mem_nil _) visible
    rw [split, Text.trimChars_append_word _ nonempty visible',
      Text.dropWhile_append_visible _ _ (by decide), kept, String.toList_append]
    simp
  have clear : ' ' ∉ (first ++ ";").toList := fun member =>
    absurd (ended visible ' ' member) (by decide)
  rw [headerToken?_of_space written clear, Option.all_some, String.ofList_toList,
    Text.trim_eq_self (ended whole), word?_of_visible visible' filled]

/-- With a space in the name of its cookie, what is taken for a token has the equals sign in it. -/
theorem broken_of_space {text : String} {front back : List Char}
    (written : text.toList = front ++ '=' :: back) (broken : Broken ('=' :: back))
    (space : ' ' ∈ front.dropWhile Text.isBlank) (scheme : Option String) :
    ∀ token ∈ headerToken? scheme text, Broken token.toList := by
  obtain ⟨before, after, found, clear⟩ := List.eq_append_cons_of_mem space
  let tail := (back.reverse.dropWhile Text.isBlank).reverse
  have visible : Text.isBlank '=' = false := by decide
  have trimmed : Text.trimChars text.toList = before ++ ' ' :: (after ++ '=' :: tail) := by
    rw [written, Text.trimChars_append_visible _ _ visible, found, List.append_assoc,
      List.cons_append]
  have kept : Broken ('=' :: tail) := by
    have behind := broken.trimChars
    rwa [← List.nil_append ('=' :: back), Text.trimChars_append_visible _ _ visible] at behind
  rw [headerToken?_of_space trimmed clear]
  intro token taken
  split at taken
  · exact broken_word? (kept.mono (List.sublist_append_right _ _)) token taken
  · cases taken

/-- A single cookie is taken for a token with its name, or with what follows a space in it. -/
theorem broken_of_last {text value : String} {front : List Char}
    (written : text.toList = front ++ '=' :: value.toList) (plain : PlainValue value)
    (symbol : ∃ c ∈ value.toList, c ≠ '=') (scheme : Option String) :
    ∀ token ∈ headerToken? scheme text, Broken token.toList := by
  have behind := broken_value plain symbol
  have broken : Broken ('=' :: value.toList) := by simpa using behind [] []
  by_cases space : ' ' ∈ front.dropWhile Text.isBlank
  · exact broken_of_space written broken space scheme
  · have clear : ' ' ∉ Text.trimChars text.toList := by
      rw [written, Text.trimChars_append_visible _ _ (by decide), List.mem_append, List.mem_cons]
      rintro (inName | same | inValue)
      · exact space inName
      · cases same
      · have kept := (List.dropWhile_sublist _).subset (List.mem_reverse.mp inValue)
        exact absurd (plain.chars _ (List.mem_reverse.mp kept)).1 (by decide)
    rw [headerToken?_of_clear clear]
    intro token taken
    split at taken
    · have whole : Broken text.toList := by
        rw [written]
        exact broken.mono (List.sublist_append_right _ _)
      exact broken_word? whole.trimChars token taken
    · cases taken

/-- A scheme without a semicolon is not what stands before the space between two cookies. -/
theorem not_sameIgnoringCase {front : List Char} {scheme : String} (inside : ';' ∈ front)
    (clear : ';' ∉ scheme.toList) :
    Text.sameIgnoringCase (String.ofList front) (Text.trim scheme) = false := by
  refine Bool.eq_false_iff.mpr fun same => clear ?_
  have member : ';' ∈ (Text.trim scheme).toList :=
    Text.mem_of_sameIgnoringCase same (by decide) (by decide) (by rwa [String.toList_ofList])
  rw [Text.toList_trim] at member
  have nothing : ∀ c ∈ ([] : List Char), Text.isBlank c = true := by simp
  exact (trimChars_sublist nothing _).subset member

/-- Without a space in the name, only another cookie may be taken for a token. -/
theorem headerToken?_of_cookies {text : String} {front back : List Char} {value : String}
    (written : text.toList = front ++ '=' :: (value.toList ++ ';' :: ' ' :: back))
    (plain : PlainValue value) (named : '=' ∈ back) (clear : ' ' ∉ front.dropWhile Text.isBlank)
    {scheme : Option String} (free : ∀ s ∈ scheme, ';' ∉ s.toList) :
    headerToken? scheme text = if scheme.isNone then word? back else none := by
  obtain ⟨before, after, rfl, -⟩ := List.eq_append_cons_of_mem named
  let first := front.dropWhile Text.isBlank ++ '=' :: (value.toList ++ [';'])
  let tail := (after.reverse.dropWhile Text.isBlank).reverse
  have visible : Text.isBlank '=' = false := by decide
  have trimmed : Text.trimChars text.toList = first ++ ' ' :: (before ++ '=' :: tail) := by
    rw [written, show front ++ '=' :: (value.toList ++ ';' :: ' ' :: (before ++ '=' :: after)) =
      front ++ '=' :: (value.toList ++ ';' :: ' ' :: before) ++ '=' :: after by simp,
      Text.trimChars_append_visible _ _ visible, Text.dropWhile_append_visible _ _ visible]
    simp [first, tail]
  have clear' : ' ' ∉ first := by
    simp only [first, List.mem_append, List.mem_cons, List.not_mem_nil, or_false, not_or]
    refine ⟨clear, by decide, fun member => ?_, by decide⟩
    exact absurd (plain.chars _ member).1 (by decide)
  -- The blanks at the end are gone already.
  have again : word? (before ++ '=' :: tail) = word? (before ++ '=' :: after) := by
    have idle : (tail.reverse.dropWhile Text.isBlank).reverse = tail := by
      rw [List.reverse_reverse, List.dropWhile_idempotent]
    rw [word?, word?, Text.trimChars_append_visible _ _ visible,
      Text.trimChars_append_visible _ _ visible, idle]
  rw [headerToken?_of_space trimmed clear', again]
  cases scheme with
  | none => rfl
  | some scheme =>
    have semicolon : ';' ∈ first := by simp [first]
    rw [Option.all_some, not_sameIgnoringCase semicolon (free scheme rfl)]
    rfl

/-- **Tokens among cookies.** With any scheme but one that has a semicolon, the same is taken for a
token in both texts, or nothing that is a token is taken for one in either. -/
theorem headerToken?_of_parted {backend : Backend} {text text' : String}
    (parted : Parted backend text.toList text'.toList) {scheme : Option String}
    (free : ∀ s ∈ scheme, ';' ∉ s.toList) :
    headerToken? scheme text = headerToken? scheme text' ∨
      (∀ token ∈ headerToken? scheme text, Broken token.toList) ∧
        ∀ token ∈ headerToken? scheme text', Broken token.toList := by
  generalize written : text.toList = chars at parted
  generalize written' : text'.toList = chars' at parted
  cases parted with
  | last front same =>
    exact .inr ⟨broken_of_last written same.plain same.symbol scheme,
      broken_of_last written' same.plain' same.symbol' scheme⟩
  | inside front same named named' rest =>
    rename_i value value' back back'
    by_cases space : ' ' ∈ front.dropWhile Text.isBlank
    · have broken := broken_value same.plain same.symbol [] (';' :: ' ' :: back)
      have broken' := broken_value same.plain' same.symbol' [] (';' :: ' ' :: back')
      exact .inr ⟨broken_of_space written broken space scheme,
        broken_of_space written' broken' space scheme⟩
    · rw [headerToken?_of_cookies written same.plain named space free,
        headerToken?_of_cookies written' same.plain' named' space free]
      cases scheme with
      | some scheme => exact .inl rfl
      | none =>
        rcases rest with same | ⟨broken, broken'⟩
        · exact .inl (congrArg word? same)
        · exact .inr ⟨broken_word? broken, broken_word? broken'⟩

end Transport

/-- With a value in the header, it is the transport. -/
theorem Transport.select_of_present {config : SessionConfig} {exchange : Exchange}
    {name text : String} (named : config.headerName = .ok name)
    (carried : exchange.header? name = some text) (filled : Text.isBlankText text = false) :
    select config exchange = .ok (ofHeader name config.headerScheme) := by
  refine bind_eq_ok.mpr ⟨name, named, ?_⟩
  rw [carried, Option.any_some, filled]
  rfl

theorem not_blank_of_broken {text : String} (broken : Broken text.toList) :
    Text.isBlankText text = false := by
  obtain ⟨c, -, -, pair⟩ := broken
  refine List.all_eq_false.mpr ⟨'=', pair.subset List.mem_cons_self, by decide⟩

/-- Where a token is looked for among the cookies, no scheme takes a whole one for its own. -/
def SessionConfig.SchemeApart (config : SessionConfig) : Prop :=
  config.headerName = .ok "cookie" → ∀ s ∈ config.headerScheme, ';' ∉ s.toList

namespace Http

/-- What is taken for a token and is none leaves a fresh session. -/
theorem SessionState.establish_of_broken {state : SessionState} {exchange : Exchange}
    {clock : Instant} {fresh : Session} {header text : String} {scheme : Option String}
    (emits : state.sessions.factory.backend.EmitsText)
    (created : state.sessions.createAt clock clock = .ok fresh)
    (selected : Transport.select state.config exchange = .ok (.header header scheme))
    (carried : exchange.header? header = some text)
    (broken : ∀ token ∈ Transport.headerToken? scheme text, Broken token.toList) :
    state.establish exchange clock = .ok ⟨.header header scheme, fresh, false⟩ := by
  have token : (Transport.header header scheme).token? exchange =
      (Transport.headerToken? scheme text).map Bytes.ofText := by
    rw [Transport.token?, carried, Option.bind_some]
  cases taken : Transport.headerToken? scheme text with
  | none =>
    rw [taken] at token
    exact establish_of_absent created selected token
  | some word =>
    rw [taken] at token
    obtain ⟨e, unread⟩ := Backend.load_of_broken emits (broken word taken)
    exact establish_of_unreadable created selected token unread

/-- A request has the session that its transport loads. -/
theorem SessionState.establish_congr {state : SessionState} {exchange exchange' : Exchange}
    {clock : Instant}
    (same : Transport.select state.config exchange = Transport.select state.config exchange')
    (loads : ∀ fresh transport, state.sessions.createAt clock clock = .ok fresh →
      Transport.select state.config exchange = .ok transport →
        transport.load exchange fresh = transport.load exchange' fresh) :
    state.establish exchange clock = state.establish exchange' clock := by
  unfold establish
  rw [← same]
  cases created : state.sessions.createAt clock clock with
  | error e => rfl
  | ok fresh =>
    cases selected : Transport.select state.config exchange with
    | error e => rfl
    | ok transport => simp only [bind, Except.bind, loads fresh transport created selected]

/-- Among cookies that part in a token, the same session is found. -/
theorem SessionState.establish_of_parted {state : SessionState} {exchange exchange' : Exchange}
    {text text' : String} (emits : state.sessions.factory.backend.EmitsText)
    (apart : state.config.SchemeApart) (named : state.config.headerName = .ok "cookie")
    (carried : exchange.header? "cookie" = some text)
    (carried' : exchange'.header? "cookie" = some text')
    (parted : Parted state.sessions.factory.backend text.toList text'.toList) (clock : Instant) :
    state.establish exchange clock = state.establish exchange' clock := by
  obtain ⟨broken, broken'⟩ := parted.broken
  have selected := Transport.select_of_present named carried (not_blank_of_broken broken)
  have selected' := Transport.select_of_present named carried' (not_blank_of_broken broken')
  have free : ∀ s ∈ state.config.headerScheme.filter (!Text.isBlankText ·), ';' ∉ s.toList :=
    fun s member => apart named s (Option.mem_filter_iff.mp member).1
  rcases Transport.headerToken?_of_parted parted free with same | ⟨none, none'⟩
  · refine establish_congr (selected.trans selected'.symm) fun fresh transport _ chosen => ?_
    cases selected.symm.trans chosen
    rw [Transport.load_eq, Transport.load_eq, Transport.ofHeader, Transport.token?,
      Transport.token?, carried, carried', Option.bind_some, Option.bind_some, same]
  · cases created : state.sessions.createAt clock clock with
    | error e =>
      unfold establish
      rw [created]
      rfl
    | ok fresh =>
      rw [establish_of_broken emits created selected carried none,
        establish_of_broken emits created selected' carried' none']

end Http

end SealedTokens
