import Mathlib.Data.List.TakeWhile
import SealedTokens.Proofs.CalendarLimits
import SealedTokens.Proofs.NeighbouringCookies
import SealedTokens.Proofs.Resigning
import SealedTokens.Proofs.SessionWindows
/-!
# Names of session cookies

The name of the session cookie is written as it is configured, and read as cookies are: cut at the
first semicolon and the first equals sign, trimmed, and percent-decoded. A configuration is accepted
with any name that is not blank, so with names for which the two differ, and then no session is ever
loaded from the cookie that it was saved in.

## Main results

- `Http.Returnable`: the names that are read as they are written
- `Http.returnable_of_names`: there are no others
- `Transport.cookie_is_read_back_iff`: which configurations read back what they wrote
- `Transport.accepted_name_loses_session`: accepted ones that do not

## Proof strategy

Cutting, trimming and decoding make a text shorter or leave it as it is. So a name that comes out of
all three is one that none of them has changed.
-/
namespace SealedTokens

namespace Http

/-- A name that is read from a cookie as it was written to it. -/
structure Returnable (name : String) : Prop where
  nonempty : name ≠ ""
  unmarked : '=' ∉ name.toList ∧ ';' ∉ name.toList
  visible : (Bytes.ofText name).all isVisible = true
  trimmed : Text.trim name = name
  decodes : percentDecode (Bytes.ofText name) = Bytes.ofText name

instance (name : String) : Decidable (Returnable name) :=
  decidable_of_iff (name ≠ "" ∧ ('=' ∉ name.toList ∧ ';' ∉ name.toList) ∧
      (Bytes.ofText name).all isVisible = true ∧ Text.trim name = name ∧
      percentDecode (Bytes.ofText name) = Bytes.ofText name)
    ⟨fun ⟨a, b, c, d, e⟩ => ⟨a, b, c, d, e⟩, fun ⟨a, b, c, d, e⟩ => ⟨a, b, c, d, e⟩⟩

/-- What a client sends back of a cookie: its line up to the first semicolon. -/
def sentBack (line : String) : String := String.ofList (line.toList.takeWhile (· ≠ ';'))

theorem semicolon_not_mem_sentBack (line : String) : ';' ∉ (sentBack line).toList := by
  rw [sentBack, String.toList_ofList]
  intro member
  exact absurd (List.mem_takeWhile_imp member) (by decide)

/-- What is taken up to a mark does not hang on what follows the mark. -/
theorem takeWhile_append_mark {mark : Char} (front back : List Char) :
    (front ++ mark :: back).takeWhile (· ≠ mark) = front.takeWhile (· ≠ mark) := by
  induction front with
  | nil => simp
  | cons c front ih =>
    rw [List.cons_append, List.takeWhile_cons, List.takeWhile_cons, ih]

section Name

variable {name value : String}

/-- What is sent back of a cookie is its pair, up to a semicolon in it. -/
theorem toList_sentBack (c : SetCookie) : (sentBack c.line).toList =
    (c.name.toList ++ '=' :: c.value.toList).takeWhile (· ≠ ';') := by
  have spelled : c.line.toList = (c.name.toList ++ '=' :: c.value.toList) ++
      ';' :: (' ' :: ("; ".intercalate c.attributes).toList) := by
    have pair : s!"{c.name}={c.value}".toList = c.name.toList ++ '=' :: c.value.toList :=
      toList_cookie c.name c.value
    -- There are attributes: the path, at least.
    obtain ⟨first, rest, attributes⟩ : ∃ first rest, c.attributes = first :: rest := by
      refine List.exists_cons_of_ne_nil ?_
      simp [SetCookie.attributes]
    rw [SetCookie.line, attributes, intercalate_cons_cons, String.toList_append, pair,
      String.toList_append]
    rfl
  rw [sentBack, String.toList_ofList, spelled, takeWhile_append_mark]

/-- **Only these.** What is sent back is a cookie of the name only if the name is returnable. -/
theorem returnable_of_names {piece : List Char}
    (sent : piece = (name.toList ++ '=' :: value.toList).takeWhile (· ≠ ';'))
    (visible : (Bytes.ofText (String.ofList piece)).all isVisible = true)
    (named : Names name piece) : Returnable name := by
  let inner := piece.takeWhile (· ≠ '=')
  have inPiece : inner <+: piece := List.takeWhile_prefix _
  have inName : inner <+: name.toList := by
    have cut : inner = (name.toList.takeWhile (· ≠ '=')).takeWhile (· ≠ ';') := by
      show piece.takeWhile (· ≠ '=') = _
      rw [sent, ← takeWhile_append_mark name.toList value.toList, List.takeWhile_takeWhile,
        List.takeWhile_takeWhile]
      simp only [and_comm]
    rw [cut]
    exact (List.takeWhile_prefix _).trans (List.takeWhile_prefix _)
  obtain ⟨filled, decoded⟩ := decoded?_of_names named
  have shorter := @trimChars_sublist [] (by simp) inner
  rw [List.nil_append] at shorter
  -- None of the three steps has changed the name.
  have trimmed : Text.trimChars inner = name.toList :=
    eq_of_decoded? decoded (shorter.trans inName.sublist)
  have whole : inner = name.toList := inName.sublist.antisymm (trimmed ▸ shorter)
  constructor
  · rintro rfl
    exact filled trimmed
  · constructor
    · rw [← whole]
      intro member
      exact absurd (List.mem_takeWhile_imp member) (by decide)
    · rw [← whole]
      intro member
      have sent' : ';' ∈ (name.toList ++ '=' :: value.toList).takeWhile (· ≠ ';') :=
        sent ▸ inPiece.subset member
      exact absurd (List.mem_takeWhile_imp sent') (by decide)
  · rw [List.all_eq_true] at visible ⊢
    intro b member
    rw [Bytes.ofText_eq_flatMap, ← whole] at member
    apply visible
    rw [Bytes.ofText_eq_flatMap, String.toList_ofList]
    exact (inPiece.sublist.flatMap _).subset member
  · rw [Text.trim, ← whole, trimmed, String.ofList_toList]
  · have bytes := Bytes.ofText_of_toText? (trimmed ▸ decoded)
    rw [String.ofList_toList] at bytes
    exact bytes.symm

theorem named?_of_returnable (returnable : Returnable name) (plain : PlainValue value) :
    named? name (name.toList ++ '=' :: value.toList) = some ⟨name, value⟩ := by
  have trimmed : Text.trimChars name.toList = name.toList := by
    have same := congrArg String.toList returnable.trimmed
    rwa [Text.trim, String.toList_ofList] at same
  have filled : name.toList.isEmpty = false := by
    rw [List.isEmpty_eq_false_iff]
    exact fun empty => returnable.nonempty (String.toList_eq_nil_iff.mp empty)
  have read := @ofPiece?_of_plain [] name.toList (by simp) returnable.unmarked.1 value plain
  rw [List.nil_append, trimmed, filled, Cookie.decoded?_of_plain returnable.decodes] at read
  rw [named?, read, if_neg Bool.false_ne_true, Option.map_some, Option.filter_some,
    if_pos (beq_self_eq_true name)]

end Name

end Http

open Http

/-- What is found of a cookie that is sent back: the cookie, or nothing at all. -/
theorem Exchange.cookie?_of_sentBack {exchange : Exchange} {c : SetCookie}
    (plain : PlainValue c.value)
    (only : exchange.headers.all "cookie" = [Bytes.ofText (sentBack c.line)]) :
    exchange.cookie? c.name = if Returnable c.name then some ⟨c.name, c.value⟩ else none := by
  have sent := toList_sentBack c
  rw [cookie?_eq, cookiePieces_of_text (semicolon_not_mem_sentBack _) only]
  by_cases returnable : Returnable c.name
  · -- Without a semicolon in the name, the whole pair is sent back.
    have unbroken : ∀ d ∈ c.name.toList ++ '=' :: c.value.toList, decide (d ≠ ';') = true := by
      rw [List.forall_mem_append, List.forall_mem_cons]
      refine ⟨fun d member => decide_eq_true ?_, by decide, fun d member => decide_eq_true ?_⟩
      · rintro rfl
        exact returnable.unmarked.2 member
      · exact (plain.chars d member).2.2
    rw [List.takeWhile_eq_self_iff.mpr unbroken] at sent
    have visible : (Bytes.ofText (sentBack c.line)).all isVisible = true := by
      have whole : sentBack c.line = c.name ++ "=" ++ c.value :=
        String.toList_inj.mp (sent.trans (toList_cookie c.name c.value).symm)
      have sign : (Bytes.ofText "=").all isVisible = true := by decide
      rw [whole, Bytes.ofText_append, Bytes.ofText_append, List.all_append, List.all_append,
        returnable.visible, sign, isVisible_of_plain plain]
      rfl
    rw [if_pos visible, if_pos returnable, find?_cons, sent, named?_of_returnable returnable plain]
    rfl
  · rw [if_neg returnable]
    split
    next visible =>
      refine find?_of_unnamed ?_
      rw [List.forall_mem_singleton]
      intro named
      rw [← @String.ofList_toList (sentBack c.line)] at visible
      exact returnable (returnable_of_names sent visible named)
    next => rfl

/-! ### Saving and loading -/

/-- A state that takes at most a mebibyte is within every limit. -/
theorem Backend.not_oversized_of_small {s : Settings} {f : Factory}
    (built : Factory.ofSettings s = .ok f) {data : Data}
    (small : (s.serializer.marshal data).length ≤ Lz4.maxLength) :
    ¬ f.backend.Oversized data := by
  obtain ⟨-, sealer, -, isSealed⟩ | ⟨-, signer, -, isSigned⟩ := Factory.backend_of_ofSettings built
  · rw [isSealed]
    exact fun oversized => oversized fun _ => small
  · rw [isSigned]
    exact fun oversized => oversized

theorem Payload.addressable_of_small {data : Data}
    (small : (SerializerKind.compact.marshal data).length ≤ Lz4.maxLength) :
    data.payload.Addressable := by
  intro entry member
  have inside := Data.length_le_length_write member
  have limit : Lz4.maxLength < 2 ^ 64 := by decide
  exact Nat.lt_of_le_of_lt (Nat.le_trans inside small) limit

/-- The state of a session that was reached is carried as it is, unless it is sealed and an end of
its window is no time that a clock shows. -/
theorem Sessions.Placed.precise_eq_iff {f : Factory} {clocks : Set Instant}
    {handles : Set Sessions} {session : Session} (placed : Placed f clocks handles session) :
    f.backend.precise session.data = session.data ↔
      (f.backend.kind = .secretBox → session.data.OnClock) := by
  obtain ⟨s, -, start, -, stop, -, view, seen, after, before⟩ := placed.window
  have after : session.data.header.validAfter = view start := after
  have before : session.data.header.validBefore = view stop := before
  rw [Backend.precise_eq_iff]
  cases isBackend : f.backend with
  | sealed codec => exact ⟨fun carries _ => carries, fun shown => shown rfl⟩
  | signed signer =>
    -- Every view of signed claims is of whole seconds.
    have whole (t : Instant) : (view t).IsWhole := by
      rw [isBackend] at seen
      simp only [Backend.views, List.mem_cons, List.not_mem_nil, or_false] at seen
      rcases seen with rfl | rfl <;> exact Instant.isWhole_wholeSeconds t
    refine iff_of_true ?_ fun sealing => by cases sealing
    show session.data.header.validAfter.IsWhole ∧ session.data.header.validBefore.IsWhole
    rw [after, before]
    exact ⟨whole start, whole stop⟩

namespace Transport

/-- **Reading back.** An accepted configuration, and a session that its factory's handles reach,
with at most a mebibyte of state, which is saved in a cookie. A client sends the cookie back, alone.
If the cookie's name is returnable, then any session of the factory that loads it has the state that
was saved, as tokens tell it; with any other name there is nothing to load. What tokens tell is the
state itself, unless it is sealed and an end of its window is no time that a clock shows.

- `sign?`: stands for signing under the factory's key, which some algorithms do at random
- `honest`: signatures verify, which is asked of signed containers only -/
theorem cookie_is_read_back_iff {config : SessionConfig} {files : Files} {sessions : Sessions}
    (made : Sessions.ofConfig config files = .ok sessions) {sign? : Bytes → Option Bytes}
    (honest : ∀ signer, sessions.factory.backend.withSign sign? = .signed signer → signer.Honest)
    {session : Session}
    (reached : Sessions.Reaches .univ {s | s.factory = sessions.factory} session)
    (small : (sessions.factory.settings.serializer.marshal session.data).length ≤ Lz4.maxLength)
    {policy : SameSitePolicy} {exchange written : Exchange} {source : Entropy}
    (saved : ((Transport.cookie config.cookie policy).save exchange
      (session.withSign sign?)).outcome source = .ok written)
    {reader : Session} (own : reader.container.backend = sessions.factory.backend) :
    (sessions.factory.backend.precise session.data = session.data ↔
      (sessions.factory.backend.kind = .secretBox → session.data.OnClock)) ∧
    ∃ c, written.cookies = exchange.cookies ++ [c] ∧ ∀ next : Exchange,
      next.headers.all "cookie" = [Bytes.ofText (sentBack c.line)] →
      (Transport.cookie config.cookie policy).load next reader =
        .ok (if Returnable config.cookie.name then
          some (reader.withData (sessions.factory.backend.precise session.data)) else none) := by
  obtain ⟨-, f, built, emits, rfl⟩ := Sessions.ofConfig_eq_ok made
  have placed := reached.placed built fun s same => same
  obtain ⟨token, c, sealed, cookie, rfl⟩ := save_cookie_eq_ok saved
  obtain ⟨name, value⟩ := cookieOf_eq_ok cookie
  refine ⟨placed.precise_eq_iff, c, rfl, fun next only => ?_⟩
  have backend : (session.withSign sign?).container.backend = f.backend.withSign sign? :=
    congrArg (·.withSign sign?) placed.backend
  have sealed : ((f.backend.withSign sign?).save session.data).outcome source =
      .ok (Bytes.ofText c.value) := by
    rw [value, ← backend]
    exact sealed
  -- The token is a plain value, and it is loaded as the state.
  have promised := Backend.emitsText_of_ofSettings built emits
  obtain ⟨_, isText, plain, -⟩ :=
    Backend.toText?_of_save (Backend.emitsText_withSign promised) sealed
  rw [Bytes.toText?_ofText] at isText
  cases isText
  have honours := Factory.honours_of_save built honest
    (fun compact => Payload.addressable_of_small (compact ▸ small)) sealed
  have loaded : reader.load (Bytes.ofText c.value) =
      .ok (reader.withData (f.backend.precise session.data)) := by
    rw [Session.load_eq, own, honours.reads (Backend.not_oversized_of_small built small)]
    rfl
  have found := Exchange.cookie?_of_sentBack plain only
  rw [name] at found
  by_cases returnable : Returnable config.cookie.name
  · rw [if_pos returnable] at found ⊢
    simp only [load, found, loaded]
    rfl
  · rw [if_neg returnable] at found ⊢
    exact load_cookie_eq_none.mpr found

/-- What saving answers, where nothing keeps a session from being saved. -/
theorem exists_outcome_save_cookie {config : CookieConfig} {policy : SameSitePolicy}
    {exchange : Exchange} {session : Session} {source : Entropy}
    (emits : session.container.backend.EmitsText) (signs : session.container.backend.Signs)
    (unlimited : source.limit = none) (years : Expressible session.header.validBefore) :
    ∃ c, ((Transport.cookie config policy).save exchange session).outcome source =
        .ok (exchange.setCookie c) ∧ c.name = config.name ∧ PlainValue c.value ∧
      (Presentable config.name → Presentable config.path →
        (∀ d, domain? config exchange = some d → Presentable d) → Presentable c.line) := by
  obtain ⟨value, next, ran, -, plain, -⟩ :=
    @exists_save_cookie config policy exchange session source emits signs unlimited years
  exact ⟨_, congrArg Prod.fst ran, rfl, plain, fun name path domain =>
    presentable_cookie name plain path domain _ _⟩

/-- A configuration with another name for the cookie. -/
def namedConfig (name : String) : SessionConfig := { minuteConfig "/" with cookie := { name } }

/-- Of the cookie, validation looks at what its own check finds. -/
theorem validate_of_cookie (config : SessionConfig) {cookie : CookieConfig}
    (same : cookie.validate = config.cookie.validate) :
    { config with cookie }.validate = config.validate := by
  unfold SessionConfig.validate
  rw [same]
  rfl

/-- Any name is accepted that is not blank. -/
theorem ofConfig_named {name : String} (visible : Text.isBlankText name = false) :
    Sessions.ofConfig (namedConfig name) (fun _ => .error "") = .ok (minuteSessions []) := by
  have default : Sessions.ofConfig (minuteConfig "/") (fun _ => .error "") =
    .ok (minuteSessions []) := by rfl
  have checked : (namedConfig name).cookie.validate = (minuteConfig "/").cookie.validate := by
    have other : Text.isBlankText (minuteConfig "/").cookie.name = false := by decide
    have visible : Text.isBlankText (namedConfig name).cookie.name = false := visible
    have policy (c : CookieConfig) (usual : c.sameSite = "default") : c.policy = .ok .default := by
      have named : Registry.find? "default" = some SameSitePolicy.default := by rfl
      unfold CookieConfig.policy
      simp only [usual, named]
    unfold CookieConfig.validate
    rw [other, visible, policy (namedConfig name).cookie rfl, policy (minuteConfig "/").cookie rfl]
  have valid : (namedConfig name).validate = (minuteConfig "/").validate :=
    validate_of_cookie (minuteConfig "/") checked
  rw [← default]
  unfold Sessions.ofConfig
  rw [valid]
  rfl

/-- A new session is saved in a cookie of the name, which a header can set if it can have the name
in it. -/
theorem exists_saved_named (name : String) : ∃ c : SetCookie,
    ((Transport.cookie (namedConfig name).cookie .default).save {}
      (freshSession .epoch oneMinute)).outcome (.repeating [0]) = .ok (Exchange.setCookie {} c) ∧
      c.name = name ∧ PlainValue c.value ∧ (Presentable name → Presentable c.line) := by
  have undomained : domain? (namedConfig name).cookie {} = none := by rfl
  have nothing : ∀ d, domain? (namedConfig name).cookie {} = some d → Presentable d := by
    rw [undomained]
    exact fun d named => by cases named
  obtain ⟨c, saved, named, plain, line⟩ := @exists_outcome_save_cookie (namedConfig name).cookie
    .default {} (freshSession .epoch oneMinute) (.repeating [0]) trivial (fun _ => rfl) rfl
    (show _ ∧ _ by decide)
  have path : Presentable "/" := by decide
  exact ⟨c, saved, named, plain, fun presentable => line presentable path nothing⟩

/-- The default name: a new session is saved in a cookie and loaded from it. -/
theorem cookie_is_read_back_iff_default :
    let config := namedConfig "_cachet"
    let session := freshSession .epoch oneMinute
    Sessions.ofConfig config (fun _ => .error "") = .ok (minuteSessions []) ∧ ∃ written c,
      ((Transport.cookie config.cookie .default).save {} session).outcome (.repeating [0]) =
        .ok written ∧ written.cookies = [c] ∧ ∀ next : Exchange,
        next.headers.all "cookie" = [Bytes.ofText (sentBack c.line)] →
        (Transport.cookie config.cookie .default).load next session = .ok (some session) := by
  intro config session
  have made : Sessions.ofConfig config (fun _ => .error "") = .ok (minuteSessions []) :=
    ofConfig_named (by decide)
  have created : (minuteSessions []).createAt .epoch .epoch = .ok session :=
    Sessions.createAt_of_no_options rfl (show windowEnd _ _ = .ok oneMinute by decide)
  have reached : Sessions.Reaches .univ {s | s.factory = (minuteSessions []).factory} session :=
    .created rfl (Set.mem_univ _) (Set.mem_univ _) created
  obtain ⟨c, saved, -⟩ := exists_saved_named "_cachet"
  -- The default algorithm signs as it always does.
  let sign? := (Signer.hmac .hs256 .sha256 [107]).sign?
  have same : session.withSign sign? = session := rfl
  have honest : ∀ signer, (minuteSessions []).factory.backend.withSign sign? = .signed signer →
      signer.Honest := by
    intro signer isSigned
    cases isSigned
    exact Signer.honest_hmac _ _ _
  have saved' : ((Transport.cookie config.cookie .default).save {} (session.withSign sign?)).outcome
      (.repeating [0]) = .ok (Exchange.setCookie {} c) := by
    rw [same]
    exact saved
  obtain ⟨precise, c', cookies, reads⟩ := @cookie_is_read_back_iff config _ _ made sign? honest
    session reached (by decide +kernel) .default {} _ _ saved' session rfl
  have returnable : Returnable config.cookie.name := by decide
  refine ⟨made, _, c', saved, cookies, fun next only => ?_⟩
  rw [reads next only, if_pos returnable, precise.mpr fun sealing => by cases sealing]
  rfl

/-- A name is accepted, and a new session is saved in a cookie of the name that a response can set,
but no client that sends the cookie back has its session loaded. -/
def LosesSession (name : String) : Prop :=
  let config := namedConfig name
  let session := freshSession .epoch oneMinute
  Sessions.ofConfig config (fun _ => .error "") = .ok (minuteSessions []) ∧ ∃ written c,
    ((Transport.cookie config.cookie .default).save {} session).outcome (.repeating [0]) =
      .ok written ∧ written.cookies = [c] ∧ Presentable c.line ∧ ∀ next : Exchange,
      next.headers.all "cookie" = [Bytes.ofText (sentBack c.line)] →
      (Transport.cookie config.cookie .default).load next session = .ok none

theorem losesSession_of_not_returnable {name : String} (visible : Text.isBlankText name = false)
    (presentable : Presentable name) (changed : ¬ Returnable name) : LosesSession name := by
  obtain ⟨c, saved, named, plain, line⟩ := exists_saved_named name
  refine ⟨ofConfig_named visible, _, c, saved, rfl, line presentable, fun next only => ?_⟩
  have found := Exchange.cookie?_of_sentBack plain only
  rw [named, if_neg changed] at found
  exact load_cookie_eq_none.mpr found

/-- **Accepted and lost.** The first name is taken for a cookie `a`, and the other loses its
blank. -/
theorem accepted_name_loses_session : LosesSession "a=b" ∧ LosesSession "_cachet " := by
  constructor
  · exact losesSession_of_not_returnable (by decide) (by decide) (by decide)
  · exact losesSession_of_not_returnable (by decide) (by decide) (by decide)

end Transport

end SealedTokens
