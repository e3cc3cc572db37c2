import Mathlib.Data.List.Flatten
import Mathlib.Data.List.Forall2
import SealedTokens.Proofs.CookieTransport
/-!
# Returned cookies

Two requests that differ in nothing but the tokens of one cookie, and there the tokens are loaded
alike. All that is found in the one is found in the other: the headers that carry no cookies, and
the cookie, up to how it is spelled. The name of the cookie may be any text, so it need not be
returned as one: a name with a semicolon falls apart, and one with an equals sign is cut short.

## Main results

- `Http.text?_of_alike`: a header that is not for cookies
- `Http.cookiePieces_of_alike`: the pieces of the cookie headers
- `Exchange.cookie?_of_alike`: the cookie
-/
namespace SealedTokens

namespace Http

/-! ### Headers with cookies -/

/-- Values of a cookie that are loaded alike, both of them more than equals signs. -/
structure SameSession (backend : Backend) (value value' : String) : Prop where
  plain : PlainValue value
  plain' : PlainValue value'
  symbol : ∃ c ∈ value.toList, c ≠ '='
  symbol' : ∃ c ∈ value'.toList, c ≠ '='
  loads : backend.load (Bytes.ofText value) = backend.load (Bytes.ofText value')

/-- Texts of a cookie each that are the same, or that spell the same session. -/
inductive AlikeText (backend : Backend) (name : String) : String → String → Prop
  | same (other value : String) :
      AlikeText backend name (other ++ "=" ++ value) (other ++ "=" ++ value)
  | session {value value' : String} (same : SameSession backend value value') :
      AlikeText backend name (name ++ "=" ++ value) (name ++ "=" ++ value')

/-- A header with several cookies. -/
def cookieLine (texts : List String) : String × Bytes :=
  ("cookie", Bytes.ofText ("; ".intercalate texts))

inductive AlikeLine (backend : Backend) (name : String) : String × Bytes → String × Bytes → Prop
  | same (line : String × Bytes) : AlikeLine backend name line line
  | cookies {texts texts' : List String}
      (alike : List.Forall₂ (AlikeText backend name) texts texts') :
      AlikeLine backend name (cookieLine texts) (cookieLine texts')

/-- Headers that differ in the tokens of a cookie only. -/
def AlikeHeaders (backend : Backend) (name : String) : Headers → Headers → Prop :=
  List.Forall₂ (AlikeLine backend name)

section Alike

variable {backend : Backend} {name : String} {headers headers' : Headers}

/-- Only headers for cookies differ. -/
theorem text?_of_alike (alike : AlikeHeaders backend name headers headers') {header : String}
    (other : header ≠ "cookie") : headers.text? header = headers'.text? header := by
  have same : headers.lookup header = headers'.lookup header := by
    induction alike with
    | nil => rfl
    | cons line rest ih =>
      cases line with
      | same line =>
        rw [List.lookup_cons, List.lookup_cons, ih]
      | cookies texts =>
        have passed : (header == "cookie") = false := beq_eq_false_iff_ne.mpr other
        simp only [cookieLine, List.lookup_cons, passed]
        exact ih
  rw [Headers.text?, Headers.text?, same]

/-! ### Pieces -/

/-- Pieces of cookie headers that are the same, or end in an equals sign and a token each. What is
in front of these is the name, or the end of it after its last semicolon, with blanks before. -/
inductive AlikePiece (backend : Backend) (name : String) : List Char → List Char → Prop
  | same (piece : List Char) : AlikePiece backend name piece piece
  | session {left inner : List Char} {value value' : String}
      (blank : ∀ c ∈ left, Text.isBlank c = true) (inside : inner <:+ name.toList)
      (same : SameSession backend value value') :
      AlikePiece backend name (left ++ inner ++ '=' :: value.toList)
        (left ++ inner ++ '=' :: value'.toList)

theorem AlikePiece.blank {piece piece' : List Char} (alike : AlikePiece backend name piece piece') :
    AlikePiece backend name (' ' :: piece) (' ' :: piece') := by
  cases alike with
  | same piece => exact .same _
  | session blank inside same =>
    rename_i left inner value value'
    have blank' : ∀ c ∈ ' ' :: left, Text.isBlank c = true :=
      List.forall_mem_cons.mpr ⟨by decide, blank⟩
    exact .session blank' inside same

theorem alike_self (pieces : List (List Char)) :
    List.Forall₂ (AlikePiece backend name) pieces pieces :=
  List.forall₂_same.mpr fun piece _ => .same piece

/-- A blank in front goes to the first piece. -/
theorem pieces_after_blank {pieces pieces' : List (List Char)}
    (alike : List.Forall₂ (AlikePiece backend name) pieces pieces') :
    List.Forall₂ (AlikePiece backend name) (pieces.modifyHead (' ' :: ·))
      (pieces'.modifyHead (' ' :: ·)) := by
  cases alike with
  | nil => exact .nil
  | cons first rest => exact .cons first.blank rest

theorem splitOn_append (front back : List Char) :
    (front ++ ';' :: back).splitOn ';' = front.splitOn ';' ++ back.splitOn ';' :=
  List.splitOnP_append_cons front back (beq_self_eq_true ';')

theorem splitOn_blank (text : List Char) :
    (' ' :: text).splitOn ';' = (text.splitOn ';').modifyHead (' ' :: ·) :=
  (List.splitOnP_cons_eq_if_modifyHead _ _).trans (if_neg (by decide))

/-- A text has no semicolon, or it has a last one. -/
theorem last_semicolon (text : List Char) :
    ';' ∉ text ∨ ∃ front inner, text = front ++ ';' :: inner ∧ ';' ∉ inner := by
  by_cases member : ';' ∈ text
  · obtain ⟨after, before, reversed, clear⟩ :=
      List.eq_append_cons_of_mem (List.mem_reverse.mpr member)
    refine .inr ⟨before.reverse, after.reverse, ?_, by simpa using clear⟩
    rw [← List.reverse_reverse text, reversed]
    simp
  · exact .inl member

theorem toList_cookie (name value : String) :
    (name ++ "=" ++ value).toList = name.toList ++ '=' :: value.toList := by
  simp [String.toList_append]

theorem pieces_of_alike_text {text text' : String} (alike : AlikeText backend name text text') :
    List.Forall₂ (AlikePiece backend name) (text.toList.splitOn ';')
      (text'.toList.splitOn ';') := by
  cases alike with
  | same text => exact alike_self _
  | session same =>
    rename_i value value'
    have unbroken {inner : List Char} (clear : ';' ∉ inner) {value : String}
        (plain : PlainValue value) : (inner ++ '=' :: value.toList).splitOn ';' =
          [inner ++ '=' :: value.toList] := by
      refine List.splitOn_eq_singleton fun member => ?_
      rcases List.mem_append.mp member with inName | inValue
      · exact clear inName
      · rcases List.mem_cons.mp inValue with equals | inValue
        · cases equals
        · exact (plain.chars _ inValue).2.2 rfl
    have last {inner : List Char} (inside : inner <:+ name.toList) :
        AlikePiece backend name (inner ++ '=' :: value.toList) (inner ++ '=' :: value'.toList) :=
      @AlikePiece.session backend name [] inner _ _ (by simp) inside same
    rw [toList_cookie, toList_cookie]
    -- The token is in the last piece, whose name is what comes after the last semicolon.
    obtain clear | ⟨front, inner, split, clear⟩ := last_semicolon name.toList
    · rw [unbroken clear same.plain, unbroken clear same.plain']
      exact .cons (last (List.suffix_refl _)) .nil
    · have inside : inner <:+ name.toList := ⟨front ++ [';'], by rw [split]; simp⟩
      rw [split, List.append_assoc, List.append_assoc, List.cons_append, List.cons_append,
        splitOn_append, splitOn_append, unbroken clear same.plain, unbroken clear same.plain']
      exact List.rel_append (alike_self _) (.cons (last inside) .nil)

theorem intercalate_cons_cons (text next : String) (texts : List String) :
    "; ".intercalate (text :: next :: texts) =
      text ++ ("; " ++ "; ".intercalate (next :: texts)) := by
  refine String.toList_inj.mp ?_
  simp only [String.toList_intercalate, String.toList_append, List.map_cons,
    List.intercalate_cons_cons, List.append_assoc]

theorem intercalate_singleton (text : String) : "; ".intercalate [text] = text := by
  refine String.toList_inj.mp ?_
  simp only [String.toList_intercalate, List.map_cons, List.map_nil, List.intercalate_singleton]

/-- A text behind others begins with a blank. -/
theorem splitOn_intercalate_cons (text next : String) (texts : List String) :
    ("; ".intercalate (text :: next :: texts)).toList.splitOn ';' =
      text.toList.splitOn ';' ++
        (("; ".intercalate (next :: texts)).toList.splitOn ';').modifyHead (' ' :: ·) := by
  rw [intercalate_cons_cons, String.toList_append, String.toList_append, ← splitOn_blank,
    ← splitOn_append]
  rfl

theorem pieces_of_alike_texts {texts texts' : List String}
    (alike : List.Forall₂ (AlikeText backend name) texts texts') :
    List.Forall₂ (AlikePiece backend name) (("; ".intercalate texts).toList.splitOn ';')
      (("; ".intercalate texts').toList.splitOn ';') := by
  induction alike with
  | nil => exact alike_self _
  | cons first rest ih =>
    cases rest with
    | nil =>
      rw [intercalate_singleton, intercalate_singleton]
      exact pieces_of_alike_text first
    | cons second rest =>
      rw [splitOn_intercalate_cons, splitOn_intercalate_cons]
      exact List.rel_append (pieces_of_alike_text first) (pieces_after_blank ih)

/-! ### Lines -/

theorem isVisible_of_plain {value : String} (plain : PlainValue value) :
    (Bytes.ofText value).all isVisible = true := by
  refine List.all_eq_true.mpr fun b member => ?_
  exact isVisible_of_range (plain b member).1 (plain b member).2.1

theorem visible_of_alike_text {text text' : String} (alike : AlikeText backend name text text') :
    (Bytes.ofText text).all isVisible = (Bytes.ofText text').all isVisible := by
  cases alike with
  | same text => rfl
  | session same =>
    simp only [Bytes.ofText_append, List.all_append, isVisible_of_plain same.plain,
      isVisible_of_plain same.plain']

theorem visible_of_alike_texts {texts texts' : List String}
    (alike : List.Forall₂ (AlikeText backend name) texts texts') :
    (Bytes.ofText ("; ".intercalate texts)).all isVisible =
      (Bytes.ofText ("; ".intercalate texts')).all isVisible := by
  induction alike with
  | nil => rfl
  | cons first rest ih =>
    cases rest with
    | nil =>
      rw [intercalate_singleton, intercalate_singleton]
      exact visible_of_alike_text first
    | cons second rest =>
      simp only [intercalate_cons_cons, Bytes.ofText_append, List.all_append,
        visible_of_alike_text first] at ih ⊢
      rw [ih]

/-- The pieces of one header; only headers for cookies have any. -/
def linePieces (line : String × Bytes) : List (List Char) :=
  if line.1 == "cookie" then ((visibleText? line.2).map fun text => text.toList.splitOn ';').getD []
  else []

theorem cookiePieces_eq (headers : Headers) :
    cookiePieces headers = headers.flatMap linePieces := by
  induction headers with
  | nil => rfl
  | cons line headers ih =>
    rw [List.flatMap_cons, ← ih]
    unfold cookiePieces linePieces Headers.all
    rw [List.filter_cons]
    split
    · rw [List.map_cons, List.filterMap_cons]
      cases visibleText? line.2 <;> rfl
    · rfl

theorem pieces_of_alike_line {line line' : String × Bytes}
    (alike : AlikeLine backend name line line') :
    List.Forall₂ (AlikePiece backend name) (linePieces line) (linePieces line') := by
  cases alike with
  | same line => exact alike_self _
  | cookies texts =>
    rename_i first second
    have read (texts : List String) : linePieces (cookieLine texts) =
        if (Bytes.ofText ("; ".intercalate texts)).all isVisible then
          ("; ".intercalate texts).toList.splitOn ';' else [] := by
      have named : (cookieLine texts).1 == "cookie" := beq_self_eq_true _
      rw [linePieces, if_pos named, cookieLine, visibleText?_ofText]
      split <;> rfl
    rw [read, read, visible_of_alike_texts texts]
    split
    · exact pieces_of_alike_texts texts
    · exact .nil

theorem cookiePieces_of_alike (alike : AlikeHeaders backend name headers headers') :
    List.Forall₂ (AlikePiece backend name) (cookiePieces headers) (cookiePieces headers') := by
  rw [cookiePieces_eq, cookiePieces_eq]
  induction alike with
  | nil => exact .nil
  | cons line rest ih => exact List.rel_append (pieces_of_alike_line line) ih

/-! ### What is found -/

theorem length_percentDecodeFrom_le (text done : Bytes) :
    (percentDecodeFrom text done).length ≤ done.length + text.length := by
  fun_induction percentDecodeFrom text done with
  | case1 done => simp
  | case2 done a b rest x y first second ih =>
    simp only [List.length_cons] at ih ⊢
    omega
  | case3 done a b rest undigits ih =>
    simp only [List.length_cons] at ih ⊢
    omega
  | case4 done b rest other ih =>
    simp only [List.length_cons] at ih ⊢
    omega

/-- Decoding makes no text longer. -/
theorem length_of_decoded? {chars : List Char} {text : String}
    (decoded : Cookie.decoded? chars = some text) :
    (Bytes.ofText text).length ≤ (chars.flatMap String.utf8EncodeChar).length := by
  have bytes := Bytes.ofText_of_toText? decoded
  have bound := length_percentDecodeFrom_le (Bytes.ofText (String.ofList chars)) []
  rw [bytes]
  rw [Bytes.ofText_eq_flatMap, String.toList_ofList, List.length_nil, Nat.zero_add] at bound
  rw [Bytes.ofText_eq_flatMap, String.toList_ofList]
  exact bound

theorem trimChars_sublist {left : List Char} (blank : ∀ c ∈ left, Text.isBlank c = true)
    (text : List Char) : List.Sublist (Text.trimChars (left ++ text)) text := by
  have opened : (left ++ text).dropWhile Text.isBlank = text.dropWhile Text.isBlank :=
    List.dropWhile_append_of_pos blank
  rw [Text.trimChars, opened]
  have closed := List.dropWhile_sublist Text.isBlank (l := (text.dropWhile Text.isBlank).reverse)
  exact (List.reverse_sublist.mp (by simpa using closed)).trans (List.dropWhile_sublist _)

theorem clear_of_blank {left : List Char} (blank : ∀ c ∈ left, Text.isBlank c = true) :
    '=' ∉ left := fun member => absurd (blank _ member) (by decide)

/-- What a name is decoded from is the name itself, if it is a part of it. -/
theorem eq_of_decoded? {chars : List Char} (decoded : Cookie.decoded? chars = some name)
    (inside : List.Sublist chars name.toList) : chars = name.toList := by
  have long := length_of_decoded? decoded
  rw [Bytes.ofText_eq_flatMap] at long
  -- A part that takes as many bytes as the whole is the whole.
  have bytes := (inside.flatMap String.utf8EncodeChar).eq_of_length_le long
  have same : Bytes.ofText (String.ofList chars) = Bytes.ofText name := by
    rw [Bytes.ofText_eq_flatMap, Bytes.ofText_eq_flatMap, String.toList_ofList, bytes]
  rw [← Bytes.ofText_injective same, String.toList_ofList]

/-- The name of a cookie is what its piece has before the first equals sign. -/
theorem decoded?_of_names {piece : List Char} (named : Names name piece) :
    let written := Text.trimChars (piece.takeWhile (· ≠ '='))
    written ≠ [] ∧ Cookie.decoded? written = some name := by
  intro written
  obtain ⟨value, read⟩ := named
  unfold Cookie.ofPiece? at read
  simp only at read
  split at read
  · cases read
  · split at read
    · cases read
    next filled =>
      obtain ⟨text, decoded, read⟩ := Option.bind_eq_some_iff.mp read
      obtain ⟨_, -, read⟩ := Option.bind_eq_some_iff.mp read
      cases read
      exact ⟨fun empty => filled (List.isEmpty_iff.mpr empty), decoded⟩

/-- A name with an equals sign is cut short, so that the piece is no cookie of it. -/
theorem unnamed_of_equals {left inner : List Char} (blank : ∀ c ∈ left, Text.isBlank c = true)
    (inside : inner <:+ name.toList) (equals : '=' ∈ inner) (back : List Char) :
    ¬ Names name (left ++ inner ++ '=' :: back) := by
  intro named
  obtain ⟨front, rest, rfl, clear⟩ := List.eq_append_cons_of_mem equals
  have clear' : '=' ∉ left ++ front := fun member =>
    (List.mem_append.mp member).elim (clear_of_blank blank) clear
  have cut := (cut_at_mark clear' (rest ++ '=' :: back)).1
  obtain ⟨-, decoded⟩ := decoded?_of_names named
  rw [show left ++ (front ++ '=' :: rest) ++ '=' :: back =
    left ++ front ++ '=' :: (rest ++ '=' :: back) by simp, cut] at decoded
  -- What is decoded is no longer than the part of the name before its first equals sign.
  have part := trimChars_sublist blank front
  have inFront : List.Sublist front (front ++ '=' :: rest) := List.sublist_append_left _ _
  have whole := eq_of_decoded? decoded ((part.trans inFront).trans inside.sublist)
  have short := part.length_le
  have long := inside.sublist.length_le
  rw [whole] at short
  simp only [List.length_append, List.length_cons] at long
  omega

/-- Any other name is read, and the value is what comes after the equals sign. -/
theorem ofPiece?_of_plain {left inner : List Char} (blank : ∀ c ∈ left, Text.isBlank c = true)
    (clear : '=' ∉ inner) {value : String} (plain : PlainValue value) :
    Cookie.ofPiece? (left ++ inner ++ '=' :: value.toList) =
      if (Text.trimChars (left ++ inner)).isEmpty then none
      else (Cookie.decoded? (Text.trimChars (left ++ inner))).map fun text => ⟨text, value⟩ := by
  have clear' : '=' ∉ left ++ inner := fun member =>
    (List.mem_append.mp member).elim (clear_of_blank blank) clear
  have cut := cut_at_mark clear' value.toList
  have nothing : ∀ c ∈ ([] : List Char), Text.isBlank c = true := by simp
  have trimmed := Text.trimChars_around nothing (fun c member => (plain.chars c member).1) nothing
  rw [List.nil_append, List.append_nil] at trimmed
  rw [Cookie.ofPiece?, cut.1, cut.2]
  simp only [trimmed, Cookie.decoded?_of_plain plain.decodes]
  split
  · rfl
  · cases Cookie.decoded? (Text.trimChars (left ++ inner)) <;> rfl

/-- The cookie of the name that a piece is, if it is one. -/
def named? (name : String) (piece : List Char) : Option Cookie :=
  (Cookie.ofPiece? piece).filter fun c => c.name == name

theorem named?_of_unnamed {piece : List Char} (unnamed : ¬ Names name piece) :
    named? name piece = none := by
  rw [named?, Option.filter_eq_none_iff]
  intro c read same
  exact unnamed ⟨c.value, by rw [read, ← beq_iff_eq.mp same]⟩

theorem named?_of_alike {piece piece' : List Char} (alike : AlikePiece backend name piece piece') :
    (named? name piece).map (fun c => backend.load (Bytes.ofText c.value)) =
      (named? name piece').map fun c => backend.load (Bytes.ofText c.value) := by
  cases alike with
  | same piece => rfl
  | session blank inside same =>
    rename_i left inner value value'
    by_cases equals : '=' ∈ inner
    · rw [named?_of_unnamed (unnamed_of_equals blank inside equals _),
        named?_of_unnamed (unnamed_of_equals blank inside equals _)]
    · rw [named?, named?, ofPiece?_of_plain blank equals same.plain,
        ofPiece?_of_plain blank equals same.plain']
      split
      · rfl
      · cases Cookie.decoded? (Text.trimChars (left ++ inner)) with
        | none => rfl
        | some text =>
          simp only [Option.map_some, Option.filter_some]
          by_cases own : (text == name) = true
          · rw [if_pos own, if_pos own, Option.map_some, Option.map_some, same.loads]
          · rw [if_neg own, if_neg own]

theorem find?_cons (name : String) (piece : List Char) (pieces : List (List Char)) :
    ((piece :: pieces).filterMap Cookie.ofPiece?).find? (fun c => c.name == name) =
      (named? name piece).or
        ((pieces.filterMap Cookie.ofPiece?).find? fun c => c.name == name) := by
  unfold named?
  rw [List.filterMap_cons]
  cases Cookie.ofPiece? piece with
  | none => rfl
  | some c =>
    rw [List.find?_cons, Option.filter_some]
    cases c.name == name <;> rfl

end Alike

end Http

/-- What is found in the one request is loaded as what is found in the other. -/
theorem Exchange.cookie?_of_alike {backend : Backend} {name : String}
    {exchange exchange' : Exchange}
    (alike : Http.AlikeHeaders backend name exchange.headers exchange'.headers) :
    (exchange.cookie? name).map (fun c => backend.load (Bytes.ofText c.value)) =
      (exchange'.cookie? name).map fun c => backend.load (Bytes.ofText c.value) := by
  rw [cookie?_eq, cookie?_eq]
  have pieces := Http.cookiePieces_of_alike alike
  generalize Http.cookiePieces exchange.headers = first at pieces ⊢
  generalize Http.cookiePieces exchange'.headers = second at pieces ⊢
  induction pieces with
  | nil => rfl
  | cons piece rest ih =>
    rw [Http.find?_cons, Http.find?_cons, Option.map_or, Option.map_or, Http.named?_of_alike piece,
      ih]

end SealedTokens
