import SealedTokens.Proofs.KeepAlive
import SealedTokens.Proofs.ReturnedCookies
import SealedTokens.Proofs.SavedTokens
/-!
# Neighbouring cookies

A request brings the session cookie among the cookies of others. These are passed over one by one if
they cannot be read, unless their bytes are none of visible ASCII: then the whole line is passed
over, and the session cookie with it. A name with a percent sign may be read as another, and then
its cookie is not found at all.

## Main results

- `Http.splitOn_asciiText`: a line is cut where its bytes are
- `Http.named?_pair`: what a pair is read as, with any token as its name
- `Exchange.cookie?_of_carried`: the cookie that is found beside others
- `Transport.neighbours_hide_iff`: when other cookies hide the session cookie

## Proof strategy

The pieces of all lines are searched in their order. The others are called differently, so they can
be dropped from the search on both sides, and what is left is the one piece in question.
-/
namespace SealedTokens

namespace Http

/-! ### Lines of bytes -/

/-- A line of bytes is cut into the same pieces as its characters. -/
theorem splitOn_asciiText (line : Bytes) : (Bytes.asciiText line).toList.splitOn ';' =
    (line.splitOn 59).map fun piece => (Bytes.asciiText piece).toList := by
  have separator (b : UInt8) : (Char.ofNat b.toNat == ';') = (b == 59) := by
    have all : ∀ n < 256, (Char.ofNat n == ';') = (UInt8.ofNat n == 59) := by decide +kernel
    rw [all b.toNat b.toNat_lt, UInt8.ofNat_toNat]
  simp only [Bytes.asciiText, String.toList_ofList]
  induction line with
  | nil => rfl
  | cons b line ih =>
    rw [List.map_cons, List.splitOn_cons_eq_if_modifyHead, List.splitOn_cons_eq_if_modifyHead,
      separator b, ih]
    -- A semicolon starts a piece, and any other byte belongs to the one that follows it.
    cases b == 59 with
    | true => rfl
    | false =>
      obtain ⟨first, rest, pieces⟩ := List.exists_cons_of_ne_nil (List.splitOn_ne_nil 59 line)
      rw [pieces]
      rfl

theorem cookiePieces_append (headers more : Headers) :
    cookiePieces (headers ++ more) = cookiePieces headers ++ cookiePieces more := by
  simp only [cookiePieces_eq, List.flatMap_append]

theorem linePieces_cookie (line : Bytes) : linePieces ("cookie", line) =
    if line.all isVisible then (line.splitOn 59).map fun piece => (Bytes.asciiText piece).toList
    else [] := by
  have named : (("cookie", line) : String × Bytes).1 == "cookie" := beq_self_eq_true _
  rw [linePieces, if_pos named, visibleText?]
  split
  · exact splitOn_asciiText line
  · rfl

/-- A request that carries a cookie in one of its lines, with blanks around it, and others before
and after it, there and in further lines. The others are called differently, as far as they can be
read. -/
structure Carries (headers : Headers) (name value : String) (line : Bytes) : Prop where
  lines : ∃ before after, headers = before ++ ("cookie", line) :: after ∧
    ∀ piece ∈ cookiePieces (before ++ after), ¬ Names name piece
  pieces : ∃ front left right back,
    line.splitOn 59 = front ++ (left ++ Bytes.ofText (name ++ "=" ++ value) ++ right) :: back ∧
    (∀ b ∈ left ++ right, b = 32 ∨ b = 9) ∧
    ∀ piece ∈ front ++ back, ¬ Names name (Bytes.asciiText piece).toList

/-! ### The pair in question -/

section Pair

variable {name value : String}

/-- A pair is a cookie of the name in front of it if decoding leaves this alone. -/
theorem named?_pair (token : isToken name = true) (plainValue : PlainValue value)
    {left right : List Char} (before : ∀ c ∈ left, Text.isBlank c = true)
    (after : ∀ c ∈ right, Text.isBlank c = true) :
    named? name (left ++ (name ++ "=" ++ value).toList ++ right) =
      if percentDecode (Bytes.ofText name) = Bytes.ofText name then some ⟨name, value⟩
      else none := by
  rw [named?, Cookie.ofPiece?_of_token token plainValue before after]
  by_cases plain : percentDecode (Bytes.ofText name) = Bytes.ofText name
  · rw [if_pos plain, Cookie.decoded?_of_plain plain, Option.map_some, Option.filter_some,
      if_pos (beq_self_eq_true name)]
  · rw [if_neg plain]
    cases decoded : Cookie.decoded? name.toList with
    | none => rfl
    | some text =>
      -- The text is another, since its bytes are.
      have bytes := Bytes.ofText_of_toText? decoded
      rw [String.ofList_toList] at bytes
      have other : ¬ (text == name) = true := by
        intro same
        rw [beq_iff_eq.mp same] at bytes
        exact plain bytes.symm
      rw [Option.map_some, Option.filter_some, if_neg other]

/-- A piece of bytes with blanks around a pair, as characters. -/
theorem asciiText_around {left right : Bytes} (blank : ∀ b ∈ left ++ right, b = 32 ∨ b = 9)
    (token : isToken name = true) (plainValue : PlainValue value) : ∃ before after : List Char,
      (Bytes.asciiText (left ++ Bytes.ofText (name ++ "=" ++ value) ++ right)).toList =
        before ++ (name ++ "=" ++ value).toList ++ after ∧
      (∀ c ∈ before, Text.isBlank c = true) ∧ ∀ c ∈ after, Text.isBlank c = true := by
  have ascii := ascii_of_visible (isVisible_pair token plainValue)
  have blanks {bytes : Bytes} (blank : ∀ b ∈ bytes, b = 32 ∨ b = 9) :
      ∀ c ∈ bytes.map fun b => Char.ofNat b.toNat, Text.isBlank c = true := by
    refine List.forall_mem_map.mpr fun b member => ?_
    obtain rfl | rfl := blank b member <;> decide
  obtain ⟨blankLeft, blankRight⟩ := List.forall_mem_append.mp blank
  refine ⟨_, _, ?_, blanks blankLeft, blanks blankRight⟩
  rw [toList_of_ascii ascii, Bytes.asciiText, String.toList_ofList, List.map_append,
    List.map_append]

end Pair

/-! ### One neighbour -/

/-- Whatever is written under another name is called differently, if decoding leaves that name
alone. -/
theorem not_names_of_other {other name : String}
    (plain : percentDecode (Bytes.ofText other) = Bytes.ofText other) (differ : other ≠ name)
    {piece : List Char} (written : Text.trimChars (piece.takeWhile (· ≠ '=')) = other.toList) :
    ¬ Names name piece := by
  intro named
  obtain ⟨-, decoded⟩ := decoded?_of_names named
  rw [written, Cookie.decoded?_of_plain plain] at decoded
  exact differ (Option.some.inj decoded)

/-- A line with a cookie of another name in front, whose value may be any bytes. -/
def neighboured (bytes : Bytes) (value : String) : Bytes :=
  [116, 61] ++ bytes ++ 59 :: 32 :: Bytes.ofText ("_cachet" ++ "=" ++ value)

theorem carries_neighboured {bytes : Bytes} (clear : 59 ∉ bytes) {value : String}
    (plainValue : PlainValue value) :
    Carries [("cookie", neighboured bytes value)] "_cachet" value (neighboured bytes value) := by
  have token : isToken "_cachet" = true := by decide
  constructor
  · exact ⟨[], [], rfl, fun piece member => by cases member⟩
  · refine ⟨[[116, 61] ++ bytes], [32], [], [], ?_, List.forall_mem_singleton.mpr (.inl rfl), ?_⟩
    · have front : 59 ∉ [116, 61] ++ bytes := by simpa using clear
      have back : 59 ∉ 32 :: Bytes.ofText ("_cachet" ++ "=" ++ value) := by
        rw [Bytes.ofText_append, Bytes.ofText_append]
        simp only [List.mem_cons, List.mem_append, not_or]
        refine ⟨by decide, ⟨?_, ?_⟩, fun member => (plainValue 59 member).2.2.2 rfl⟩
        · exact fun member => (bytes_of_isToken token 59 member).2.2.1 rfl
        · exact fun member => absurd (List.mem_singleton.mp member) (by decide)
      rw [neighboured, List.splitOn_append_cons_self, List.splitOn_eq_singleton front,
        List.splitOn_eq_singleton back, List.append_nil]
      rfl
    · rw [List.append_nil, List.forall_mem_singleton]
      -- It is called `t`.
      refine @not_names_of_other "t" "_cachet" (by decide) (by decide) _ ?_
      rw [Bytes.asciiText, String.toList_ofList]
      rfl

/-! ### The search -/

section Search

variable {name : String} {front pieces back : List (List Char)}

/-- The first cookie of a name among pieces. -/
def firstNamed? (name : String) (pieces : List (List Char)) : Option Cookie :=
  (pieces.filterMap Cookie.ofPiece?).find? fun c => c.name == name

theorem firstNamed?_cons (piece : List Char) : firstNamed? name (piece :: pieces) =
    (named? name piece).or (firstNamed? name pieces) :=
  find?_cons name piece pieces

/-- Pieces that are called differently do not matter, before or after the others. -/
theorem firstNamed?_among (before : ∀ piece ∈ front, ¬ Names name piece)
    (after : ∀ piece ∈ back, ¬ Names name piece) :
    firstNamed? name (front ++ pieces ++ back) = firstNamed? name pieces := by
  unfold firstNamed?
  rw [List.filterMap_append, List.filterMap_append, List.find?_append, List.find?_append,
    Exchange.find?_of_unnamed before, Exchange.find?_of_unnamed after, Option.none_or,
    Option.or_none]

end Search

end Http

open Http

namespace Exchange

variable {name value : String}

/-- What is found beside others: the cookie, if its line is readable and its name is read as it was
written. -/
theorem cookie?_of_carried {exchange : Exchange} {line : Bytes} (token : isToken name = true)
    (plainValue : PlainValue value) (carried : Carries exchange.headers name value line) :
    exchange.cookie? name =
      if line.all isVisible ∧ percentDecode (Bytes.ofText name) = Bytes.ofText name then
        some ⟨name, value⟩
      else none := by
  obtain ⟨⟨before, after, headers, apart⟩, front, left, right, back, split, blank, unnamed⟩ :=
    carried
  rw [cookiePieces_append, List.forall_mem_append] at apart
  rw [List.forall_mem_append] at unnamed
  -- Of all lines, only the one in question counts.
  have lines : cookiePieces exchange.headers =
      cookiePieces before ++ linePieces ("cookie", line) ++ cookiePieces after := by
    rw [headers, cookiePieces_append, cookiePieces_eq (("cookie", line) :: after),
      List.flatMap_cons, ← cookiePieces_eq, List.append_assoc]
  have found : exchange.cookie? name = firstNamed? name (linePieces ("cookie", line)) := by
    rw [cookie?_eq, lines]
    exact firstNamed?_among apart.1 apart.2
  rw [found, linePieces_cookie]
  by_cases readable : line.all isVisible = true
  · -- And of its pieces, only the pair.
    let text (piece : Bytes) : List Char := (Bytes.asciiText piece).toList
    have passed {pieces : List Bytes} (unnamed : ∀ piece ∈ pieces, ¬ Names name (text piece)) :
        ∀ piece ∈ pieces.map text, ¬ Names name piece := List.forall_mem_map.mpr unnamed
    obtain ⟨spaceBefore, spaceAfter, piece, blankBefore, blankAfter⟩ :=
      asciiText_around blank token plainValue
    have own : (line.splitOn 59).map text = front.map text ++
        [spaceBefore ++ (name ++ "=" ++ value).toList ++ spaceAfter] ++ back.map text := by
      rw [split, List.map_append, List.map_cons, ← piece, List.append_assoc (front.map text),
        List.singleton_append]
    rw [if_pos readable, own, firstNamed?_among (passed unnamed.1) (passed unnamed.2),
      firstNamed?_cons, named?_pair token plainValue blankBefore blankAfter]
    simp only [readable, true_and]
    exact Option.or_none
  · rw [if_neg readable, if_neg fun both => readable both.1]
    rfl

/-- What is found alone: the cookie, if its name is read as it was written. -/
theorem cookie?_of_pair {exchange : Exchange} (token : isToken name = true)
    (plainValue : PlainValue value)
    (only : exchange.headers.all "cookie" = [Bytes.ofText (name ++ "=" ++ value)]) :
    exchange.cookie? name =
      if percentDecode (Bytes.ofText name) = Bytes.ofText name then some ⟨name, value⟩
      else none := by
  have nothing : ∀ c ∈ ([] : List Char), Text.isBlank c = true := by simp
  have pair := named?_pair token plainValue nothing nothing
  rw [List.nil_append, List.append_nil] at pair
  have found : exchange.cookie? name = firstNamed? name [(name ++ "=" ++ value).toList] := by
    rw [cookie?_eq, cookiePieces_of_pair token plainValue only]
    rfl
  rw [found, firstNamed?_cons, pair]
  exact Option.or_none

end Exchange

namespace Transport

variable {config : CookieConfig} {policy : SameSitePolicy} {exchange exchange' : Exchange}
  {session : Session}

/-- Requests with the same cookie are loaded alike. -/
theorem load_of_same_cookie (same : exchange.cookie? config.name = exchange'.cookie? config.name) :
    (Transport.cookie config policy).load exchange session =
      (Transport.cookie config policy).load exchange' session := by
  unfold load
  simp only [same]

/-- No session is loaded only if there is no cookie. -/
theorem load_cookie_eq_none :
    (Transport.cookie config policy).load exchange session = .ok none ↔
      exchange.cookie? config.name = none := by
  cases found : exchange.cookie? config.name with
  | none => simp only [load, found]
  | some c =>
    simp only [load, found, reduceCtorEq, iff_false]
    cases session.load (Bytes.ofText c.value) <;> exact fun none => by cases none

/-- **Neighbours.** The name of the session cookie is a token, and a request carries the pair that
the server once set, among cookies of other names in any lines. The session cookie is found iff

- each byte of its line is visible ASCII, and
- percent decoding leaves its name alone.

Otherwise none is found, and the session is loaded as from the pair alone iff the line is readable
or the pair alone is not found either. -/
theorem neighbours_hide_iff (token : isToken config.name = true) {backend : Backend}
    (emits : backend.EmitsText) {data : Data} {source : Entropy} {value : String}
    (issued : (backend.save data).outcome source = .ok (Bytes.ofText value))
    {exchange alone : Exchange} {line : Bytes}
    (carried : Carries exchange.headers config.name value line)
    (only : alone.headers.all "cookie" = [Bytes.ofText (config.name ++ "=" ++ value)]) :
    let readable := line.all isVisible = true
    let plain := percentDecode (Bytes.ofText config.name) = Bytes.ofText config.name
    (exchange.cookie? config.name = some ⟨config.name, value⟩ ↔ readable ∧ plain) ∧
    (exchange.cookie? config.name = none ↔ ¬ (readable ∧ plain)) ∧
    ∀ policy session, (Transport.cookie config policy).load exchange session =
      (Transport.cookie config policy).load alone session ↔ readable ∨ ¬ plain := by
  intro readable plain
  obtain ⟨_, isText, plainValue, -⟩ := Backend.toText?_of_save emits issued
  rw [Bytes.toText?_ofText] at isText
  cases isText
  have beside := Exchange.cookie?_of_carried token plainValue carried
  have byItself := Exchange.cookie?_of_pair token plainValue only
  refine ⟨?_, ?_, fun policy session => ?_⟩
  · rw [beside]
    split
    next both => exact ⟨fun _ => both, fun _ => rfl⟩
    next either => exact ⟨fun found => absurd found (by simp), fun both => absurd both either⟩
  · rw [beside]
    split
    next both => exact ⟨fun found => absurd found (by simp), fun hidden => absurd both hidden⟩
    next either => exact ⟨fun _ => either, fun _ => rfl⟩
  · constructor
    · -- Where the line is not readable nothing is loaded, so nothing is from the pair alone.
      intro same
      by_contra hidden
      obtain ⟨unreadable, decodes⟩ := not_or.mp hidden
      have decodes : plain := Classical.not_not.mp decodes
      have unreadable : ¬ readable := unreadable
      rw [if_neg fun both => unreadable both.1] at beside
      rw [load_cookie_eq_none.mpr beside] at same
      have missing := load_cookie_eq_none.mp same.symm
      rw [byItself, if_pos decodes] at missing
      cases missing
    · intro either
      apply load_of_same_cookie
      rw [beside, byItself]
      by_cases decodes : plain
      · have visible : readable := either.resolve_right (not_not_intro decodes)
        rw [if_pos ⟨visible, decodes⟩, if_pos decodes]
      · rw [if_neg fun both => decodes both.2, if_neg decodes]

/-- A neighbour in ASCII, and the default configuration. -/
theorem neighbours_hide_iff_ascii :
    let config : CookieConfig := {}
    let session := freshSession .epoch oneMinute
    ∃ value, (session.container.backend.save session.data).outcome (.repeating [0]) =
        .ok (Bytes.ofText value) ∧
      let exchange := Exchange.ofRequest [("cookie", neighboured [100] value)]
      let alone := Exchange.ofRequest [("cookie", Bytes.ofText (config.name ++ "=" ++ value))]
      exchange.cookie? config.name = some ⟨config.name, value⟩ ∧
        (Transport.cookie config .default).load exchange session =
          (Transport.cookie config .default).load alone session := by
  intro config session
  obtain ⟨value, -, -, -, plainValue, issued⟩ := @exists_save_cookie config .default {} session
    (.repeating [0]) trivial (fun _ => rfl) rfl (by decide)
  have token : isToken config.name = true := by decide
  let exchange := Exchange.ofRequest [("cookie", neighboured [100] value)]
  let alone := Exchange.ofRequest [("cookie", Bytes.ofText (config.name ++ "=" ++ value))]
  have carried : Carries exchange.headers config.name value (neighboured [100] value) :=
    carries_neighboured (by decide) plainValue
  have readable : (neighboured [100] value).all isVisible = true := by
    have pair : (Bytes.ofText ("_cachet" ++ "=" ++ value)).all isVisible = true :=
      isVisible_pair token plainValue
    simp only [neighboured, List.all_append, List.all_cons, pair]
    decide
  have plain : percentDecode (Bytes.ofText config.name) = Bytes.ofText config.name := by decide
  obtain ⟨found, -, loads⟩ := @neighbours_hide_iff config token session.container.backend trivial
    session.data _ value issued exchange alone _ carried rfl
  exact ⟨value, issued, found.mpr ⟨readable, plain⟩, (loads .default session).mpr (.inl readable)⟩

/-- **Hidden.** A neighbour whose value has one accented letter: the session cookie behind it is not
found, and the session is not loaded, though it is from the same cookie alone. -/
theorem accented_neighbour_hides_session :
    let config : CookieConfig := {}
    let session := freshSession .epoch oneMinute
    ∃ value, (session.container.backend.save session.data).outcome (.repeating [0]) =
        .ok (Bytes.ofText value) ∧
      let line := neighboured [195, 187] value
      let exchange := Exchange.ofRequest [("cookie", line)]
      let alone := Exchange.ofRequest [("cookie", Bytes.ofText (config.name ++ "=" ++ value))]
      Carries exchange.headers config.name value line ∧
        exchange.cookie? config.name = none ∧
        (Transport.cookie config .default).load exchange session = .ok none ∧
        (Transport.cookie config .default).load alone session = .ok (some session) := by
  intro config session
  obtain ⟨value, -, -, -, plainValue, issued⟩ := @exists_save_cookie config .default {} session
    (.repeating [0]) trivial (fun _ => rfl) rfl (by decide)
  have token : isToken config.name = true := by decide
  let exchange := Exchange.ofRequest [("cookie", neighboured [195, 187] value)]
  let alone := Exchange.ofRequest [("cookie", Bytes.ofText (config.name ++ "=" ++ value))]
  have carried : Carries exchange.headers config.name value (neighboured [195, 187] value) :=
    carries_neighboured (by decide) plainValue
  -- The two bytes of the letter are not ASCII.
  have unreadable : (neighboured [195, 187] value).all isVisible = false := by
    simp only [neighboured, List.all_append]
    rw [show List.all [195, 187] isVisible = false by decide, Bool.and_false, Bool.false_and]
  have hidden : exchange.cookie? config.name = none := by
    rw [Exchange.cookie?_of_carried token plainValue carried, if_neg]
    rw [unreadable]
    exact fun both => by cases both.1
  have found : alone.cookie? config.name = some ⟨config.name, value⟩ := by
    rw [@Exchange.cookie?_of_pair _ _ alone token plainValue rfl, if_pos (by decide)]
  have loaded : session.load (Bytes.ofText value) = .ok session := by
    have honours : session.container.backend.Honours session.data (Bytes.ofText value) :=
      Backend.honours_signed (Signer.honest_hmac _ _ _) issued
    rw [Session.load_eq, honours.reads fun oversized => oversized]
    rfl
  refine ⟨value, issued, carried, hidden, load_cookie_eq_none.mpr hidden, ?_⟩
  show (Transport.cookie config .default).load alone session = _
  simp only [load, found, loaded]
  rfl

end Transport

end SealedTokens
