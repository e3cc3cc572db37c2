import SealedTokens.Proofs.HeaderTokens
import SealedTokens.Proofs.TextTokens
/-!
# The language of token headers

With a scheme, only what stands behind the scheme and a space is a token; without one, whatever is
in front of the first space is passed over. The value is cut at its first space, and what is in
front of the cut is compared with the scheme. So a scheme of one word is found wherever it should
be, and a scheme of several words never is, although a configuration with one is accepted.

## Main results

- `Transport.headerToken?_eq_some_iff`: what is read, for every scheme and every value
- `Transport.reads_bearers_iff`: the schemes for which that is what should be read
- `Transport.token?_of_issued`: issued tokens behind their scheme, and behind another word
- `SessionConfig.headers_are_read_iff`: the three for all validated configurations
-/
namespace SealedTokens

namespace Http

/-- A character that counts as text in a header. -/
def isVisibleChar (c : Char) : Prop := c.toNat = 9 ∨ 32 ≤ c.toNat ∧ c.toNat < 127

/-- The bytes of a text are visible when its characters are. -/
theorem visible_ofText_iff {text : String} :
    (Bytes.ofText text).all isVisible = true ↔ ∀ c ∈ text.toList, isVisibleChar c := by
  have range (b : UInt8) : isVisible b = true ↔ b.toNat = 9 ∨ 32 ≤ b.toNat ∧ b.toNat < 127 := by
    simp only [isVisible, Bool.or_eq_true, Bool.and_eq_true, decide_eq_true_eq,
      ← UInt8.toNat_inj, UInt8.le_iff_toNat_le, UInt8.lt_iff_toNat_lt]
    rfl
  constructor
  · intro visible c member
    have ascii (b : UInt8) (shown : isVisible b = true) : b < 128 := by
      rw [range] at shown
      rw [UInt8.lt_iff_toNat_lt]
      exact Nat.lt_of_lt_of_le (by omega) (Nat.le_refl 128)
    obtain ⟨b, shown, -, value⟩ := toNat_of_mem (List.all_eq_true.mp visible) ascii c member
    rw [isVisibleChar, value]
    exact (range b).mp shown
  · intro visible
    rw [Bytes.ofText_eq_flatMap, List.all_eq_true]
    intro b member
    obtain ⟨c, inside, spelled⟩ := List.mem_flatMap.mp member
    have shown := visible c inside
    have ascii : c.toNat < 128 := by
      rw [isVisibleChar] at shown
      omega
    rw [Bytes.utf8EncodeChar_ascii ascii, List.mem_singleton] at spelled
    have value : b.toNat = c.toNat := by
      rw [spelled, UInt8.toNat_ofNat', Nat.mod_eq_of_lt (by omega)]
    rw [range, value]
    exact shown

/-- A text that was read from a header is visible. -/
theorem visible_of_visibleText? {bytes : Bytes} {text : String}
    (read : visibleText? bytes = some text) : (Bytes.ofText text).all isVisible = true := by
  unfold visibleText? at read
  split at read
  next all =>
    cases read
    have same := Bytes.ofText_asciiText (ascii_of_visible all)
    rw [Bytes.asciiText] at same
    rw [same]
    exact all
  next => cases read

theorem isVisibleChar_toLower {c : Char} : isVisibleChar c.toLower ↔ isVisibleChar c := by
  unfold Char.toLower
  split
  next upper =>
    have low : 65 ≤ c.val.toNat := UInt32.le_iff_toNat_le.mp upper.1
    have high : c.val.toNat ≤ 90 := UInt32.le_iff_toNat_le.mp upper.2
    have offset : ('a'.val - 'A'.val).toNat = 32 := rfl
    have value : (c.val + ('a'.val - 'A'.val)).toNat = c.val.toNat + 32 := by
      rw [UInt32.toNat_add]
      omega
    simp only [isVisibleChar, Char.toNat, value]
    omega
  next => rfl

/-- Whether a text is visible does not hang on its case. -/
theorem visible_of_sameIgnoringCase {a b : String} (same : Text.sameIgnoringCase a b = true)
    (visible : ∀ c ∈ a.toList, isVisibleChar c) : ∀ c ∈ b.toList, isVisibleChar c := by
  have lower : ∀ c ∈ a.toList.map Char.toLower, isVisibleChar c := by
    rw [List.forall_mem_map]
    exact fun c member => isVisibleChar_toLower.mpr (visible c member)
  rw [beq_iff_eq.mp same, List.forall_mem_map] at lower
  exact fun c member => isVisibleChar_toLower.mp (lower c member)

end Http

namespace Transport

/-- The token that a header's value bears: what stands behind the scheme in any case and a space,
up to blanks, or without a scheme, what stands behind the first space, or all of it. -/
inductive Bears : Option String → String → String → Prop
  | schemed {scheme value front rest : String}
      (spelled : Text.sameIgnoringCase front (Text.trim scheme) = true)
      (parts : Text.trim value = front ++ " " ++ rest) (filled : Text.isBlankText rest = false) :
      Bears (some scheme) value (Text.trim rest)
  | parted {value front rest : String} (first : ' ' ∉ front.toList)
      (parts : Text.trim value = front ++ " " ++ rest) : Bears none value (Text.trim rest)
  | whole {value : String} (single : ' ' ∉ (Text.trim value).toList)
      (filled : Text.isBlankText value = false) : Bears none value (Text.trim value)

/-- A scheme of several words. -/
def Divided (scheme : String) : Prop := ' ' ∈ (Text.trim scheme).toList

section Reading

variable {scheme : Option String} {value token : String}

theorem word?_eq_some {chars : List Char} : word? chars = some token ↔
    Text.trimChars chars ≠ [] ∧ token = String.ofList (Text.trimChars chars) := by
  unfold word?
  cases Text.trimChars chars with
  | nil => simp
  | cons c rest => simp [eq_comm]

theorem space_of_sameIgnoringCase {a b : String} (same : Text.sameIgnoringCase a b = true)
    (space : ' ' ∈ a.toList) : ' ' ∈ b.toList :=
  Text.mem_of_sameIgnoringCase same (by decide) (by decide) space

theorem toList_parts {front rest : String} (parts : Text.trim value = front ++ " " ++ rest) :
    Text.trimChars value.toList = front.toList ++ ' ' :: rest.toList := by
  have chars := congrArg String.toList parts
  simpa using chars

theorem ofList_parts {front back : List Char}
    (parts : Text.trimChars value.toList = front ++ ' ' :: back) :
    Text.trim value = String.ofList front ++ " " ++ String.ofList back := by
  rw [← String.toList_inj]
  simpa using parts

/-- **What is read.** A token is found in a value just where it bears one, as long as the scheme is
a single word. -/
theorem headerToken?_eq_some_iff : headerToken? scheme value = some token ↔
    Bears scheme value token ∧ ∀ s ∈ scheme, ¬ Divided s := by
  constructor
  · intro found
    -- The value is cut at its first space, so the part in front is a single word.
    by_cases space : ' ' ∈ Text.trimChars value.toList
    · obtain ⟨front, back, parts, first⟩ := List.eq_append_cons_of_mem space
      rw [headerToken?_of_space parts first] at found
      split at found
      next suits =>
        obtain ⟨filled, rfl⟩ := word?_eq_some.mp found
        have single : ' ' ∉ (String.ofList front).toList := by rwa [String.toList_ofList]
        have trimmed : String.ofList (Text.trimChars back) = Text.trim (String.ofList back) := by
          rw [Text.trim, String.toList_ofList]
        rw [trimmed]
        cases scheme with
        | none => exact ⟨.parted single (ofList_parts parts), fun _ given => by cases given⟩
        | some s =>
          refine ⟨.schemed suits (ofList_parts parts) ?_, fun s' given divided => ?_⟩
          · rwa [Text.isBlankText_eq_false, String.toList_ofList]
          · cases given
            exact single (space_of_sameIgnoringCase (Text.sameIgnoringCase_comm.mp suits) divided)
      next => cases found
    · rw [headerToken?_of_clear space] at found
      split at found
      next unschemed =>
        obtain rfl := Option.isNone_iff_eq_none.mp unschemed
        obtain ⟨filled, rfl⟩ := word?_eq_some.mp found
        rw [Text.trimChars_trimChars] at filled ⊢
        have single : ' ' ∉ (Text.trim value).toList := by rwa [Text.toList_trim]
        exact ⟨.whole single (Text.isBlankText_eq_false.mpr filled), fun _ given => by cases given⟩
      next => cases found
  · rintro ⟨bears, single⟩
    cases bears with
    | schemed spelled parts filled =>
      have first := mt (space_of_sameIgnoringCase spelled) (single _ rfl)
      rw [headerToken?_of_space (toList_parts parts) first, Option.all_some,
        String.ofList_toList, if_pos spelled]
      exact word?_eq_some.mpr ⟨Text.isBlankText_eq_false.mp filled, rfl⟩
    | parted first parts =>
      rw [headerToken?_of_space (toList_parts parts) first, Option.all_none, if_pos rfl]
      refine word?_eq_some.mpr ⟨fun blank => ?_, rfl⟩
      -- The value ends in a visible character, which is behind the space.
      obtain ⟨c, member, visible⟩ :=
        Text.exists_visible_of_trimChars (toList_parts parts) (List.cons_ne_nil _ _)
      obtain rfl | inside := List.mem_cons.mp member
      · cases visible
      · rw [Text.trimChars_eq_nil.mp blank c inside] at visible
        cases visible
    | whole first filled =>
      rw [Text.toList_trim] at first
      rw [headerToken?_of_clear first, Option.isNone_none, if_pos rfl, word?_eq_some,
        Text.trimChars_trimChars]
      exact ⟨Text.isBlankText_eq_false.mp filled, rfl⟩

end Reading

/-! ### Schemes -/

section Schemes

variable {scheme : Option String} {s text value token : String}

/-- A word behind a text that starts visibly is kept apart from it. -/
theorem trim_behind {front : List Char} (starts : front.dropWhile Text.isBlank = front)
    (given : front ≠ []) (filled : text ≠ "") (visible : ∀ c ∈ text.toList, Text.isBlank c = false)
    (written : value.toList = front ++ ' ' :: text.toList) :
    Text.trimChars value.toList = front ++ ' ' :: text.toList := by
  have filled : text.toList ≠ [] := by simpa using filled
  have kept : (front ++ [' ']).dropWhile Text.isBlank = front ++ [' '] := by
    rw [List.dropWhile_append, starts, if_neg (by simpa using given)]
  rw [written, List.append_cons, Text.trimChars_append_word _ filled visible, kept]

/-- A word behind the scheme is the token that the value bears. -/
theorem bears_behind (written : Text.isBlankText s = false) (filled : text ≠ "")
    (visible : ∀ c ∈ text.toList, Text.isBlank c = false) :
    Bears (some s) (Text.trim s ++ " " ++ text) text := by
  have parts : Text.trimChars (Text.trim s ++ " " ++ text).toList =
      Text.trimChars s.toList ++ ' ' :: text.toList :=
    trim_behind (Text.dropWhile_trimChars _) (Text.isBlankText_eq_false.mp written) filled visible
      (by simp)
  have bears := @Bears.schemed s (Text.trim s ++ " " ++ text) (Text.trim s) text
    (beq_iff_eq.mpr rfl) (by rw [← String.toList_inj]; simpa using parts) ?_
  · rwa [Text.trim_eq_self visible] at bears
  · have given : text.toList ≠ [] := by simpa using filled
    obtain ⟨c, rest, same⟩ := List.exists_cons_of_ne_nil given
    exact List.all_eq_false.mpr ⟨c, same ▸ List.mem_cons_self,
      by simpa using visible c (same ▸ List.mem_cons_self)⟩

/-- **Which schemes are read.** Among the values that are text, just those that bear a token are
found to have one, unless the scheme is text, too, and has several words. -/
theorem reads_bearers_iff : (∀ value token, (Bytes.ofText value).all Http.isVisible = true →
      (headerToken? scheme value = some token ↔ Bears scheme value token)) ↔
    ∀ s ∈ scheme, Divided s → (Bytes.ofText (Text.trim s)).all Http.isVisible = false := by
  constructor
  · intro reads s given divided
    obtain rfl := Option.mem_def.mp given
    by_contra sendable
    rw [Bool.not_eq_false] at sendable
    -- With any word behind it, a scheme of several words is a value that is not read.
    have space : ' ' ∈ Text.trimChars s.toList := by rwa [Divided, Text.toList_trim] at divided
    have written : Text.isBlankText s = false :=
      Text.isBlankText_eq_false.mpr (List.ne_nil_of_mem space)
    have bears : Bears (some s) (Text.trim s ++ " " ++ "x") "x" :=
      bears_behind written (by decide) (List.forall_mem_singleton.mpr (by decide))
    have shown : (Bytes.ofText (Text.trim s ++ " " ++ "x")).all Http.isVisible = true := by
      rw [Bytes.ofText_append, Bytes.ofText_append, List.all_append, List.all_append, sendable]
      decide
    exact (headerToken?_eq_some_iff.mp ((reads _ _ shown).mpr bears)).2 s rfl divided
  · intro unsendable value token shown
    rw [headerToken?_eq_some_iff, and_iff_left_iff_imp]
    intro bears s given divided
    obtain rfl := Option.mem_def.mp given
    cases bears with
    | schemed spelled parts filled =>
      -- The value has the scheme in it, so the scheme is text if the value is.
      have visible := Http.visible_ofText_iff.mp shown
      have inFront := Http.visible_of_sameIgnoringCase spelled fun c member => visible c <| by
        have nothing : ∀ c ∈ ([] : List Char), Text.isBlank c = true := by simp
        refine (Http.trimChars_sublist nothing _).subset ?_
        rw [List.nil_append, toList_parts parts]
        exact List.mem_append_left _ member
      cases (Http.visible_ofText_iff.mpr inFront).symm.trans (unsendable s rfl divided)

/-- Behind another word, a token is not found. -/
theorem headerToken?_of_other {other : String} (word : ∀ c ∈ other.toList, Text.isBlank c = false)
    (foreign : Text.sameIgnoringCase other (Text.trim s) = false) (filled : text ≠ "")
    (visible : ∀ c ∈ text.toList, Text.isBlank c = false) :
    headerToken? (some s) (other ++ " " ++ text) = none := by
  have clear {word : List Char} (visible : ∀ c ∈ word, Text.isBlank c = false) : ' ' ∉ word :=
    fun space => absurd (visible ' ' space) (by decide)
  refine Option.eq_none_iff_forall_ne_some.mpr fun token found => ?_
  cases (headerToken?_eq_some_iff.mp found).1 with
  | @schemed _ _ front rest spelled parts _ =>
    have trimmed := toList_parts parts
    -- A value with no word in front of the space is the token alone.
    by_cases given : other.toList = []
    · have whole := Text.trimChars_append_word [' '] (by simpa using filled) visible
      have blank : (other ++ " " ++ text).toList = [' '] ++ text.toList := by simp [given]
      rw [blank, whole] at trimmed
      refine clear visible ?_
      rw [show text.toList = front.toList ++ ' ' :: rest.toList from trimmed]
      simp
    · have starts : other.toList.dropWhile Text.isBlank = other.toList := by
        obtain ⟨c, back, same⟩ := List.exists_cons_of_ne_nil given
        rw [same] at word ⊢
        exact List.dropWhile_cons_of_neg (by simpa using word c List.mem_cons_self)
      rw [trim_behind starts given filled visible (by simp)] at trimmed
      have same := (List.append_cons_inj_of_notMem (clear word) (clear visible)).mp trimmed
      rw [String.toList_inj.mp same.1, spelled] at foreign
      cases foreign

/-- A request with nothing but a value under a name. -/
theorem header?_of_single (name : String) (shown : (Bytes.ofText value).all Http.isVisible = true) :
    (Exchange.ofRequest [(name, Bytes.ofText value)]).header? name = some value := by
  rw [Exchange.header?, Exchange.ofRequest, Http.Headers.text?, List.lookup_cons_self,
    Option.bind_some, Http.visibleText?_ofText, if_pos shown]

theorem token?_of_lookup {exchange : Exchange} {name : String}
    (carried : exchange.headers.lookup name = some (Bytes.ofText value)) :
    (Transport.header name scheme).token? exchange =
      if (Bytes.ofText value).all Http.isVisible then (headerToken? scheme value).map Bytes.ofText
      else none := by
  rw [token?, Exchange.header?, Http.Headers.text?, carried, Option.bind_some,
    Http.visibleText?_ofText]
  split <;> rfl

/-- **Issued tokens.** Behind its scheme, a token is found if the scheme is text and one word;
behind another word, it is not. -/
theorem token?_of_issued {exchange : Exchange} {name : String} (filled : text ≠ "")
    (plain : Http.PlainValue text) (written : Text.isBlankText s = false) :
    (exchange.headers.lookup name = some (Bytes.ofText (Text.trim s ++ " " ++ text)) →
      ((Transport.header name (some s)).token? exchange = some (Bytes.ofText text) ↔
        ¬ Divided s ∧ (Bytes.ofText (Text.trim s)).all Http.isVisible = true)) ∧
    ∀ other : String, (∀ c ∈ other.toList, Text.isBlank c = false) →
      Text.sameIgnoringCase other (Text.trim s) = false →
      exchange.headers.lookup name = some (Bytes.ofText (other ++ " " ++ text)) →
      (Transport.header name (some s)).token? exchange = none := by
  have visible : ∀ c ∈ text.toList, Text.isBlank c = false := fun c member =>
    (plain.chars c member).1
  have shown : (Bytes.ofText text).all Http.isVisible = true := Http.isVisible_of_plain plain
  refine ⟨fun carried => ?_, fun other word foreign carried => ?_⟩
  · have whole : (Bytes.ofText (Text.trim s ++ " " ++ text)).all Http.isVisible =
        (Bytes.ofText (Text.trim s)).all Http.isVisible := by
      rw [Bytes.ofText_append, Bytes.ofText_append, List.all_append, List.all_append, shown]
      simp [show (Bytes.ofText " ").all Http.isVisible = true by decide]
    rw [token?_of_lookup carried, whole]
    have bears := bears_behind written filled visible
    split
    next sendable =>
      -- No other token of the value has the same bytes.
      rw [← Option.map_some, (Option.map_injective Bytes.ofText_injective).eq_iff,
        headerToken?_eq_some_iff]
      simp [bears, sendable]
    next unsendable => simp [unsendable]
  · rw [token?_of_lookup carried, headerToken?_of_other word foreign filled visible]
    split <;> rfl

end Schemes

end Transport

namespace SessionConfig

open Transport

/-- **Header schemes.** For every validated configuration, a request that has a value in the
configured header is searched there. A token is found in the value just where it bears one, and is
that one, as long as the scheme is a single word. So that is what all values are read as iff no
scheme of several words is configured, or one that no header's text can have in it. An issued token
behind the scheme is found just in the other cases, and is not found behind any other word.

- `sign?`: stands for signing under the factory's key, which some algorithms do at random -/
theorem headers_are_read_iff {config : SessionConfig} (valid : config.validate = .ok ()) :
    ∃ name, config.headerName = .ok name ∧
      let scheme := config.headerScheme.filter (!Text.isBlankText ·)
      let transport := ofHeader name config.headerScheme
      (∀ (exchange : Exchange) (value : String), exchange.header? name = some value →
        (Text.isBlankText value = false → select config exchange = .ok transport) ∧
        (∀ token, transport.token? exchange = some (Bytes.ofText token) ↔
          Bears scheme value token ∧ ∀ s ∈ scheme, ¬ Divided s) ∧
        ∀ session, transport.load exchange session =
          match transport.token? exchange with
          | none => .ok none
          | some token =>
            ((session.load token).map some).mapError (·.withContext s!"{name} header")) ∧
      ((∀ (exchange : Exchange) (value token : String), exchange.header? name = some value →
          (transport.token? exchange = some (Bytes.ofText token) ↔ Bears scheme value token)) ↔
        ∀ s ∈ scheme, Divided s → (Bytes.ofText (Text.trim s)).all Http.isVisible = false) ∧
      ∀ files sessions, Sessions.ofConfig config files = .ok sessions →
        ∀ sign? data source token,
          ((sessions.factory.backend.withSign sign?).save data).outcome source = .ok token →
          ∃ text, Bytes.ofText text = token ∧ ∀ s ∈ scheme, ∀ exchange : Exchange,
            (exchange.headers.lookup name = some (Bytes.ofText (Text.trim s ++ " " ++ text)) →
              (transport.token? exchange = some token ↔
                ¬ Divided s ∧ (Bytes.ofText (Text.trim s)).all Http.isVisible = true)) ∧
            ∀ other : String, (∀ c ∈ other.toList, Text.isBlank c = false) →
              Text.sameIgnoringCase other (Text.trim s) = false →
              exchange.headers.lookup name = some (Bytes.ofText (other ++ " " ++ text)) →
              transport.token? exchange = none := by
  obtain ⟨name, named⟩ := (SessionConfig.validated valid).header
  refine ⟨name, named, ?_⟩
  intro scheme transport
  have found (exchange : Exchange) (value token : String)
      (carried : exchange.header? name = some value) :
      transport.token? exchange = some (Bytes.ofText token) ↔
        headerToken? scheme value = some token := by
    have read : transport.token? exchange = (headerToken? scheme value).map Bytes.ofText := by
      show (Transport.header name scheme).token? exchange = _
      rw [token?, carried, Option.bind_some]
    rw [read, ← Option.map_some, (Option.map_injective Bytes.ofText_injective).eq_iff]
  refine ⟨fun exchange value carried => ⟨select_of_present named carried, fun token => ?_,
    Transport.load_eq transport exchange⟩, ?_,
    fun files sessions made sign? data source token saved => ?_⟩
  · rw [found exchange value token carried, headerToken?_eq_some_iff]
  · rw [← reads_bearers_iff]
    constructor
    · intro reads value token shown
      have carried := header?_of_single name shown
      rw [← found _ value token carried]
      exact reads _ value token carried
    · intro reads exchange value token carried
      rw [found exchange value token carried]
      obtain ⟨bytes, -, shown⟩ := Option.bind_eq_some_iff.mp carried
      exact reads value token (Http.visible_of_visibleText? shown)
  · obtain ⟨-, f, built, emits, rfl⟩ := Sessions.ofConfig_eq_ok made
    have promised : (f.backend.withSign sign?).EmitsText :=
      Backend.emitsText_withSign (Backend.emitsText_of_ofSettings built emits)
    obtain ⟨text, -, plain, rfl⟩ := Backend.toText?_of_save promised saved
    have filled : text ≠ "" := by
      rintro rfl
      exact Backend.ne_nil_of_save promised saved rfl
    refine ⟨text, rfl, fun s given exchange => ?_⟩
    obtain ⟨configured, written⟩ := Option.mem_filter_iff.mp given
    have same : transport = .header name (some s) := congrArg (Transport.header name) given
    rw [same]
    exact token?_of_issued filled plain (by simpa using written)

/-- A configuration with any scheme in front of its tokens. -/
def schemed (scheme : String) : SessionConfig :=
  { Http.minuteConfig "/" with headerScheme := some scheme }

/-- A scheme in other letters, with blanks around all there is. -/
theorem headers_are_read_iff_respelled :
    let config := schemed " bearer"
    config.validate = .ok () ∧ ∃ name, config.headerName = .ok name ∧
      (ofHeader name config.headerScheme).token?
        (.ofRequest [(name, Bytes.ofText "BEARER  abc ")]) = some (Bytes.ofText "abc") := by
  have valid : (schemed " bearer").validate = .ok () := by rfl
  obtain ⟨name, named, reads, -⟩ := headers_are_read_iff valid
  have carried := header?_of_single name (show (Bytes.ofText "BEARER  abc ").all _ = true by decide)
  have bears : Bears (some " bearer") "BEARER  abc " "abc" :=
    @Bears.schemed " bearer" "BEARER  abc " "BEARER" " abc" (by decide) (by decide) (by decide)
  have single : ¬ Divided " bearer" := by
    rw [Divided]
    decide
  exact ⟨valid, name, named, ((reads _ _ carried).2.1 "abc").mpr
    ⟨bears, fun s given => by cases given; exact single⟩⟩

/-- **A scheme of two words.** The configuration is accepted, and a token behind the scheme is not
found. -/
theorem two_word_scheme_is_lost :
    let config := schemed "Api Key"
    let exchange := Exchange.ofRequest [("authorization", Bytes.ofText "Api Key abc")]
    let transport := ofHeader "authorization" config.headerScheme
    config.validate = .ok () ∧ exchange.header? "authorization" = some "Api Key abc" ∧
      Bears config.headerScheme "Api Key abc" "abc" ∧
      select config exchange = .ok transport ∧ transport.token? exchange = none ∧
      ∀ session, transport.load exchange session = .ok none := by
  have valid : (schemed "Api Key").validate = .ok () := by rfl
  have named : (schemed "Api Key").headerName = .ok "authorization" := by rfl
  intro config exchange transport
  have carried : exchange.header? "authorization" = some "Api Key abc" :=
    header?_of_single _ (by decide)
  have unfound : transport.token? exchange = none := by decide +kernel
  refine ⟨valid, carried, ?_, select_of_present named carried (by decide), unfound,
    fun session => ?_⟩
  · exact @Bears.schemed "Api Key" "Api Key abc" "Api Key" "abc" (by decide) (by decide) (by decide)
  · rw [Transport.load_eq, unfound]

end SessionConfig

end SealedTokens
