import SealedTokens.Http.Uri
import SealedTokens.Proofs.Outcomes
import SealedTokens.Proofs.Texts
/-!
# Request targets

A target that names a path is read back from its own text. Such targets come in two forms, which
`Uri.NamesPath` describes together: a path alone, or a path behind a scheme and an authority.

## Main results

- `Uri.namesPath_of_ofText`: what is read and has a path is such a target
- `Uri.ofText_text`: such a target is read back from its text
-/
namespace SealedTokens.Http

/-! ### Path and query -/

namespace PathAndQuery

/-- Which characters a path and a query may have. -/
structure Spelled (t : PathAndQuery) : Prop where
  path : ∀ c ∈ t.path, Uri.isPathChar c = true
  query : ∀ query, t.query = some query → ∀ c ∈ query, Uri.isQueryChar c = true

/-- A path that starts with nothing but a slash is read with its query as it was written. -/
theorem ofChars_spelled {t : PathAndQuery} (spelled : t.Spelled)
    (slash : t.path.head?.any (· ≠ '/') = false) : ofChars (t.path ++ t.queryText) = .ok t := by
  obtain ⟨path, query⟩ := t
  -- No mark that ends a part stands in the part.
  have pathPlain : ∀ c ∈ path, c ≠ '#' ∧ c ≠ '?' := by
    intro c member
    have ok := spelled.path c member
    constructor <;> (rintro rfl; cases ok)
  have queryPlain : ∀ c ∈ queryText ⟨path, query⟩, c ≠ '#' := by
    cases query with
    | none => simp [queryText]
    | some query =>
      simp only [queryText, List.forall_mem_cons]
      refine ⟨by decide, fun c member => ?_⟩
      have ok := spelled.query query rfl c member
      rintro rfl
      cases ok
  have kept : (path ++ queryText ⟨path, query⟩).takeWhile (· ≠ '#') =
      path ++ queryText ⟨path, query⟩ := by
    have whole := takeWhile_run (fun c member => decide_eq_true
      ((List.mem_append.mp member).elim (fun inside => (pathPlain c inside).1) (queryPlain c)))
      (.nil fun c : Char => decide (c ≠ '#'))
    rwa [List.append_nil] at whole
  have run : ∀ c ∈ path, decide (c ≠ '?') = true := fun c member =>
    decide_eq_true (pathPlain c member).2
  have stops : Stops (fun c : Char => decide (c ≠ '?')) (queryText ⟨path, query⟩) := by
    cases query with
    | none => exact .nil _
    | some query => exact .cons (by decide)
  have first : path.head?.any (· ≠ '/') = false := slash
  have allPath : path.all Uri.isPathChar = true := List.all_eq_true.mpr spelled.path
  rw [ofChars, kept, takeWhile_run run stops, dropWhile_run run stops]
  simp only [allPath, first, Bool.not_true, Bool.false_eq_true, Bool.and_false, ite_false]
  cases query with
  | none => rfl
  | some query =>
    have allQuery : query.all Uri.isQueryChar = true :=
      List.all_eq_true.mpr (spelled.query query rfl)
    simp only [queryText, allQuery, ite_true]
    rfl

theorem ofChars_text {t : PathAndQuery} (spelled : t.Spelled) (slash : t.path.head? = some '/') :
    ofChars (t.path ++ t.queryText) = .ok t := ofChars_spelled spelled (by rw [slash]; rfl)

/-- What is read is spelled as it may be, and its path is what stands first. -/
theorem of_ofChars {text : List Char} {t : PathAndQuery} (read : ofChars text = .ok t) :
    t.Spelled ∧ t.path = (text.takeWhile (· ≠ '#')).takeWhile (· ≠ '?') := by
  unfold ofChars at read
  simp only at read
  split at read
  · cases read
  next pathOk =>
  have pathOk : ((text.takeWhile (· ≠ '#')).takeWhile (· ≠ '?')).all Uri.isPathChar = true := by
    simpa using pathOk
  split at read
  · cases read
  next =>
  split at read
  · cases read
    exact ⟨⟨List.all_eq_true.mp pathOk, fun query same => by cases same⟩, rfl⟩
  next rest _ =>
  split at read
  next queryOk =>
    cases read
    refine ⟨⟨List.all_eq_true.mp pathOk, fun query same => ?_⟩, rfl⟩
    cases same
    exact List.all_eq_true.mp queryOk
  next => cases read

/-- A text that starts with a slash, or with what ends an authority, has a path from a slash on
or no path. -/
theorem path_of_ofChars {text : List Char} {t : PathAndQuery} (read : ofChars text = .ok t)
    (ends : Stops (fun c => !Uri.endsAuthority c) text) :
    t.path.head? = some '/' ∨ t.path = [] ∧ text.head? ≠ some '/' := by
  rw [(of_ofChars read).2]
  cases text with
  | nil => exact .inr ⟨rfl, by simp⟩
  | cons c text =>
    have ends : Uri.endsAuthority c = true := by simpa using ends c rfl
    simp only [Uri.endsAuthority, Bool.or_eq_true, decide_eq_true_eq] at ends
    obtain (rfl | rfl) | rfl := ends
    · exact .inl (by simp)
    · exact .inr ⟨by simp, by simp⟩
    · exact .inr ⟨by simp, by simp⟩

end PathAndQuery

/-! ### Schemes -/

namespace Uri

/-- What may stand before two slashes; the common schemes only in lower case. -/
structure IsScheme (scheme : List Char) : Prop where
  chars : ∀ c ∈ scheme, isSchemeChar c = true
  short : scheme.length ≤ 64
  http : scheme.map Char.toLower = "http".toList → scheme = "http".toList
  https : scheme.map Char.toLower = "https".toList → scheme = "https".toList

/-- Whether a text starts with a name and two slashes is a question about its scheme. -/
theorem prefix_lower_iff {scheme : List Char} (chars : ∀ c ∈ scheme, isSchemeChar c = true)
    {name : List Char} (plain : name.all (· ≠ ':') = true) (rest : List Char) :
    (name ++ "://".toList).isPrefixOf ((scheme ++ "://".toList ++ rest).map Char.toLower) = true ↔
      scheme.map Char.toLower = name := by
  have lower : (scheme ++ "://".toList ++ rest).map Char.toLower =
      scheme.map Char.toLower ++ ("://".toList ++ rest.map Char.toLower) := by
    rw [List.map_append, List.map_append, List.append_assoc]
    rfl
  have before : ∀ c ∈ scheme.map Char.toLower, decide (c ≠ ':') = true := by
    intro c member
    obtain ⟨a, inside, rfl⟩ := List.mem_map.mp member
    refine decide_eq_true fun same => ?_
    have ok := chars a inside
    rw [Text.eq_of_toLower_eq (by decide) same] at ok
    cases ok
  have colon (more : List Char) : Stops (fun c : Char => decide (c ≠ ':')) ("://".toList ++ more) :=
    .cons (by decide)
  rw [List.isPrefixOf_iff_prefix, lower]
  constructor
  · rintro ⟨more, same⟩
    -- Up to the first colon, both sides are the scheme.
    have front := congrArg (List.takeWhile fun c : Char => decide (c ≠ ':')) same
    rw [List.append_assoc, takeWhile_run (List.all_eq_true.mp plain) (colon more),
      takeWhile_run before (colon _)] at front
    exact front.symm
  · rintro rfl
    rw [← List.append_assoc]
    exact List.prefix_append _ _

theorem httpPrefix : "http://".toList = "http".toList ++ "://".toList := rfl

theorem httpsPrefix : "https://".toList = "https".toList ++ "://".toList := rfl

theorem plain_http : "http".toList.all (· ≠ ':') = true := by decide

theorem plain_https : "https".toList.all (· ≠ ':') = true := by decide

theorem isScheme_http : IsScheme "http".toList where
  chars := List.all_eq_true.mp (by decide)
  short := by decide
  http _ := rfl
  https := by decide

theorem isScheme_https : IsScheme "https".toList where
  chars := List.all_eq_true.mp (by decide)
  short := by decide
  http := by decide
  https _ := rfl

theorem isScheme_of_splitScheme {text scheme rest : List Char}
    (read : splitScheme text = .ok (some scheme, rest)) : IsScheme scheme := by
  unfold splitScheme at read
  simp only at read
  split at read
  · cases read
    exact isScheme_http
  next noHttp =>
  split at read
  · cases read
    exact isScheme_https
  next noHttps =>
  split at read
  next after rest' found =>
    split at read
    · cases read
    next =>
    split at read
    · cases read
    next short =>
    cases read
    have chars := List.all_eq_true.mp (List.all_takeWhile (p := isSchemeChar) (l := text))
    have whole : text = text.takeWhile isSchemeChar ++ "://".toList ++ rest := by
      rw [List.append_assoc]
      exact (List.takeWhile_append_dropWhile.symm.trans (by rw [found]; rfl))
    -- A common scheme was not found, so this one is none in any case.
    rw [whole, httpPrefix, prefix_lower_iff chars plain_http] at noHttp
    rw [whole, httpsPrefix, prefix_lower_iff chars plain_https] at noHttps
    exact ⟨chars, Nat.not_lt.mp short, fun same => absurd same noHttp,
      fun same => absurd same noHttps⟩
  next => cases read

/-! ### Targets with a path -/

/-- What may stand between two slashes and a path. -/
structure IsAuthority (authority : List Char) : Prop where
  nonempty : authority ≠ []
  whole : ∀ c ∈ authority, endsAuthority c = false
  checked : checkAuthority authority = .ok ()

/-- A target that names a path: the path alone, or behind a scheme and an authority. -/
structure NamesPath (uri : Uri) : Prop where
  host : (uri.scheme = none ∧ uri.authority = []) ∨
    ∃ scheme, uri.scheme = some scheme ∧ IsScheme scheme ∧ IsAuthority uri.authority
  slash : uri.path.head? = some '/'
  spelled : uri.target.Spelled

theorem path_of_slash {uri : Uri} (slash : uri.target.path.head? = some '/') :
    uri.path = uri.target.path := by
  obtain ⟨more, written⟩ := List.head?_eq_some_iff.mp slash
  simp [path, written]

theorem namesPath_of_ofFullChars {text scheme : List Char} {uri : Uri}
    (read : ofFullChars text = .ok uri) (absolute : uri.scheme = some scheme) : uri.NamesPath := by
  obtain ⟨⟨found, rest⟩, front, read⟩ := bind_eq_ok.mp read
  obtain ⟨_, checked, read⟩ := bind_eq_ok.mp read
  simp only at read checked
  cases found with
  | none =>
    -- An authority alone has no scheme.
    simp only at read
    split at read
    · cases read
      cases absolute
    · cases read
  | some scheme' =>
    simp only at read
    split at read
    · cases read
    next nonempty =>
    obtain ⟨target, inside, made⟩ := bind_eq_ok.mp read
    cases made
    cases absolute
    have whole := List.all_eq_true.mp
      (List.all_takeWhile (p := fun c => !endsAuthority c) (l := rest))
    have authority : IsAuthority (rest.takeWhile fun c => !endsAuthority c) :=
      ⟨by simpa using nonempty, fun c member => by simpa using whole c member, checked⟩
    refine ⟨.inr ⟨scheme, rfl, isScheme_of_splitScheme front, authority⟩, ?_,
      (PathAndQuery.of_ofChars inside).1⟩
    have ends : Stops (fun c => !endsAuthority c) (rest.dropWhile fun c => !endsAuthority c) :=
      stops_dropWhile _ rest
    rcases PathAndQuery.path_of_ofChars inside ends with slash | ⟨none, -⟩
    · rwa [path_of_slash slash]
    · simp [Uri.path, none]

/-- What is read is a target with a path, if it has a scheme or starts with a slash. -/
theorem namesPath_of_ofText {text : String} {uri : Uri} (read : ofText text = .ok uri)
    (form : uri.scheme.isSome = true ∨ text.toList.head? = some '/') : uri.NamesPath := by
  unfold ofText at read
  split at read
  · cases read
  split at read
  · cases read
  -- The asterisk has no scheme and no slash.
  next asterisk =>
    cases read
    rw [asterisk] at form
    rcases form with form | form <;> cases form
  · cases read
  · cases read
  next rest slashed =>
    cases inside : PathAndQuery.ofChars ('/' :: rest) with
    | error fault =>
      rw [inside] at read
      cases read
    | ok target =>
      rw [inside] at read
      cases read
      have ends : Stops (fun c => !endsAuthority c) ('/' :: rest) := .cons (by decide)
      have slash : target.path.head? = some '/' :=
        (PathAndQuery.path_of_ofChars inside ends).resolve_right fun none => none.2 rfl
      exact ⟨.inl ⟨rfl, rfl⟩, by rwa [path_of_slash slash], (PathAndQuery.of_ofChars inside).1⟩
  next chars _ _ _ _ notSlash =>
    rcases form with absolute | slashed
    · obtain ⟨scheme, absolute⟩ := Option.isSome_iff_exists.mp absolute
      exact namesPath_of_ofFullChars read absolute
    · obtain ⟨more, written⟩ := List.head?_eq_some_iff.mp slashed
      exact absurd written (notSlash more)

end Uri

end SealedTokens.Http
