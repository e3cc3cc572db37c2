import SealedTokens.Proofs.SignedTargets
/-!
# Subjects of targets

What a token for a target is bound to says which path the target has and which values stand under
each name of its query, and it says nothing else.

## Main result

`CsrfTarget.subject_canonical_form`: two targets have the same subject exactly if their paths are
the same and so are the values of each name but the token's.

## Proof strategy

A subject is the text of a target: the one with the path and with the pairs written out in order
(`CsrfTarget.canonical`). Reading gives that target back, so the subject determines the path and
the sorted pairs, and with them the values of each name. Conversely, two lists that agree on every
name are rearrangements of each other, and sorting does not see those.
-/
namespace SealedTokens

open Http

/-! ### Targets that were read -/

namespace Http

/-- What some text is read as. There is no other way to a path and a query. -/
def PathAndQuery.Readable (t : PathAndQuery) : Prop := ∃ text, ofChars text = .ok t

/-- The path is absent, or it starts with a slash, or it is the asterisk alone. -/
theorem PathAndQuery.Readable.forms {t : PathAndQuery} (readable : t.Readable) :
    t.path = [] ∨ t.path.head? = some '/' ∨ t = ⟨['*'], none⟩ := by
  obtain ⟨text, read⟩ := readable
  have path := (of_ofChars read).2
  unfold ofChars at read
  simp only at read
  split at read
  · cases read
  split at read
  · cases read
  next form =>
  rw [Bool.and_eq_true, not_and_or] at form
  rcases form with asterisk | slashed
  · -- Nothing stands behind the asterisk.
    have kept : text.takeWhile (· ≠ '#') = ['*'] := by simpa using asterisk
    rw [kept] at read
    cases read
    exact .inr (.inr rfl)
  · rw [← path] at slashed
    cases first : t.path with
    | nil => exact .inl rfl
    | cons c more =>
      rw [first] at slashed
      have same : c = '/' := by simpa using slashed
      exact .inr (.inl (by rw [same, List.head?_cons]))

theorem Uri.NamesPath.readable {uri : Uri} (valid : uri.NamesPath) : uri.target.Readable := by
  refine ⟨_, PathAndQuery.ofChars_spelled valid.spelled ?_⟩
  have slash := valid.slash
  rw [path] at slash
  split at slash
  next none =>
    rw [List.isEmpty_iff.mp (Bool.and_eq_true_iff.mp none).1]
    rfl
  next => rw [slash]; rfl

theorem Uri.readable_of_ofText {text : String} {uri : Uri} (read : ofText text = .ok uri) :
    uri.target.Readable := by
  unfold ofText at read
  split at read
  · cases read
  split at read
  · cases read
  · cases read
    exact ⟨['*'], rfl⟩
  · cases read
  · cases read
  next rest slashed =>
    cases inside : PathAndQuery.ofChars ('/' :: rest) with
    | error fault =>
      rw [inside] at read
      cases read
    | ok target =>
      rw [inside] at read
      cases read
      exact ⟨_, inside⟩
  · obtain ⟨⟨found, rest⟩, -, read⟩ := bind_eq_ok.mp read
    obtain ⟨_, -, read⟩ := bind_eq_ok.mp read
    simp only at read
    cases found with
    | none =>
      -- An authority alone has neither path nor query.
      simp only at read
      split at read
      · cases read
        exact ⟨[], rfl⟩
      · cases read
    | some scheme =>
      simp only at read
      split at read
      · cases read
      obtain ⟨target, inside, made⟩ := bind_eq_ok.mp read
      cases made
      exact ⟨_, inside⟩

end Http

namespace CsrfTarget

/-! ### Values of a name -/

/-- The values that stand under a name, in the order they stand in. -/
def values (uri : Uri) (name : String) : List String :=
  ((queryPairs uri).filter (·.1 = name)).map Prod.snd

theorem filter_eq_map_values (uri : Uri) (name : String) :
    (queryPairs uri).filter (·.1 = name) = (values uri name).map fun value => (name, value) := by
  rw [values, List.map_map]
  refine (List.map_id _).symm.trans (List.map_congr_left fun pair member => ?_)
  have same : pair.1 = name := of_decide_eq_true (List.mem_filter.mp member).2
  rw [← same]
  rfl

/-- Of the pairs that a token does not replace, a name has those that it has in the query. -/
theorem filter_otherPairs (uri : Uri) {parameter name : String} (other : name ≠ parameter) :
    (otherPairs uri parameter).filter (·.1 = name) = (queryPairs uri).filter (·.1 = name) := by
  rw [otherPairs, List.filter_filter]
  refine List.filter_congr fun pair _ => ?_
  by_cases same : pair.1 = name
  · simp [same, other]
  · simp [same]

theorem filter_otherPairs_self (uri : Uri) (parameter : String) :
    (otherPairs uri parameter).filter (·.1 = parameter) = [] := by
  rw [otherPairs, List.filter_filter, List.filter_eq_nil_iff]
  simp

/-- Lists of pairs that agree on every name are rearrangements of each other. -/
theorem Rearranged.of_order {a b : List FormPair}
    (order : ∀ name, a.filter (·.1 = name) = b.filter (·.1 = name)) : Rearranged a b where
  order := order
  perm := by
    -- A pair occurs as often as it does among the pairs of its name.
    refine List.perm_iff_count.mpr fun pair => ?_
    have kept (list : List FormPair) : (list.filter (·.1 = pair.1)).count pair = list.count pair :=
      List.count_filter (by simp)
    rw [← kept a, ← kept b, order]

/-- The other pairs are the same up to their order exactly if the values of the other names are. -/
theorem rearranged_otherPairs_iff {u v : Uri} {parameter : String} :
    Rearranged (otherPairs u parameter) (otherPairs v parameter) ↔
      ∀ name, name ≠ parameter → values u name = values v name := by
  constructor
  · intro arranged name other
    have order := arranged.order name
    rw [filter_otherPairs u other, filter_otherPairs v other] at order
    rw [values, values, order]
  · intro same
    refine .of_order fun name => ?_
    by_cases own : name = parameter
    · rw [own, filter_otherPairs_self, filter_otherPairs_self]
    · rw [filter_otherPairs u own, filter_otherPairs v own, filter_eq_map_values,
        filter_eq_map_values, same name own]

/-! ### The target that a subject writes -/

/-- The target whose text is the subject: no host, and the other pairs written out in order. -/
def canonical (uri : Uri) (parameter : String) : Uri :=
  { target := ⟨path uri,
      if (sorted (otherPairs uri parameter)).isEmpty then none
      else some (Form.encodePairs (sorted (otherPairs uri parameter)))⟩ }

theorem toList_subject (uri : Uri) (parameter : String) : (subject uri parameter).toList =
    (canonical uri parameter).target.path ++ (canonical uri parameter).target.queryText := by
  rw [subject, String.toList_ofList, withQuery, canonical]
  split
  · simp [PathAndQuery.queryText]
  · rfl

theorem queryPairs_canonical (uri : Uri) (parameter : String) :
    queryPairs (canonical uri parameter) = sorted (otherPairs uri parameter) := by
  rw [queryPairs, canonical]
  split
  next written =>
    split at written
    · cases written
    · cases written
      exact Form.decodePairs_encodePairs _
  next written =>
    split at written
    next empty => exact (List.isEmpty_iff.mp empty).symm
    · cases written

/-- The path of a target is never empty here. -/
theorem path_canonical (uri : Uri) (parameter : String) :
    path (canonical uri parameter) = path uri := by
  have nonempty : (path uri).isEmpty = false := by
    rw [path]
    split
    · rfl
    next some => simpa using some
  have kept : (canonical uri parameter).path = path uri := by
    rw [Uri.path, canonical]
    simp only [nonempty, Bool.false_and, Bool.false_eq_true, ite_false]
  rw [path, kept, nonempty]
  rfl

/-- What a token is bound to depends on the path and the query alone. -/
theorem subject_of_target {u v : Uri} (same : u.target = v.target) (parameter : String) :
    subject u parameter = subject v parameter := by
  have paths : path u = path v := by
    simp only [path, Uri.path, same]
    split <;> split <;> simp_all
  rw [subject, subject, paths, otherPairs, otherPairs, queryPairs, queryPairs, same]

theorem subject_canonical (uri : Uri) (parameter : String) :
    subject (canonical uri parameter) parameter = subject uri parameter := by
  have arranged := (rearranged_sorted (otherPairs uri parameter)).filter
    fun pair => pair.1 != parameter
  have others : (otherPairs uri parameter).filter (fun pair => pair.1 != parameter) =
      otherPairs uri parameter := by
    rw [otherPairs, List.filter_filter]
    simp
  rw [others, ← queryPairs_canonical] at arranged
  rw [subject, subject, path_canonical, otherPairs, sorted_eq_of_rearranged arranged]

theorem canonical_asterisk {uri : Uri} (asterisk : uri.target = ⟨['*'], none⟩)
    (parameter : String) : canonical uri parameter = { target := ⟨['*'], none⟩ } := by
  have none : otherPairs uri parameter = [] := by
    rw [otherPairs, queryPairs, asterisk]
    rfl
  have written : path uri = ['*'] := by simp [path, Uri.path, asterisk]
  simp [canonical, none, written, sorted]

section Readable

variable {uri : Uri} (readable : uri.target.Readable) (parameter : String)

include readable

/-- The path starts with a slash; only the asterisk, which no query follows, does not. -/
theorem path_forms : (path uri).head? = some '/' ∨ uri.target = ⟨['*'], none⟩ := by
  rcases readable.forms with none | slash | asterisk
  · refine .inl ?_
    have written : uri.path = [] ∨ uri.path = ['/'] := by
      rw [Uri.path, none]
      split <;> simp
    rcases written with written | written <;> rw [path, written] <;> rfl
  · refine .inl ?_
    obtain ⟨more, written⟩ := List.head?_eq_some_iff.mp slash
    rw [path, Uri.path_of_slash slash, written]
    rfl
  · exact .inr asterisk

theorem spelled_canonical : (canonical uri parameter).target.Spelled := by
  obtain ⟨text, read⟩ := readable
  have spelled := (PathAndQuery.of_ofChars read).1
  refine ⟨fun c member => ?_, fun query written c member => ?_⟩
  · have member : c ∈ path uri := member
    have slash : Uri.isPathChar '/' = true := by decide
    have inPath (inside : c ∈ uri.path) : Uri.isPathChar c = true := by
      rw [Uri.path] at inside
      split at inside
      · exact List.mem_singleton.mp inside ▸ slash
      · exact spelled.path c inside
    rw [path] at member
    split at member
    · exact List.mem_singleton.mp member ▸ slash
    · exact inPath member
  · rw [canonical] at written
    simp only at written
    split at written
    · cases written
    · cases written
      exact (Form.of_mem_encodePairs member).1

/-- A subject is read as the target that it writes. -/
theorem ofChars_subject : PathAndQuery.ofChars (subject uri parameter).toList =
    .ok (canonical uri parameter).target := by
  rw [toList_subject]
  rcases path_forms readable with slash | asterisk
  · exact PathAndQuery.ofChars_text (spelled_canonical readable parameter) slash
  · rw [canonical_asterisk asterisk parameter]
    rfl

/-- Where a subject is a target, it is the one that it writes. -/
theorem target_of_ofText_subject {w : Uri} (read : Uri.ofText (subject uri parameter) = .ok w) :
    w.target = (canonical uri parameter).target := by
  have inside := ofChars_subject readable parameter
  have first : (subject uri parameter).toList.head? = some '/' ∨
      (subject uri parameter).toList = ['*'] := by
    rw [toList_subject]
    rcases path_forms readable with slash | asterisk
    · obtain ⟨more, written⟩ := List.head?_eq_some_iff.mp slash
      exact .inl (by simp [canonical, written])
    · rw [canonical_asterisk asterisk parameter]
      exact .inr rfl
  unfold Uri.ofText at read
  split at read
  · cases read
  split at read
  · cases read
  next asterisk =>
    cases read
    rw [asterisk] at inside
    exact Except.ok.inj inside
  · cases read
  · cases read
  next rest slashed =>
    rw [← slashed, inside] at read
    cases read
    rfl
  next notAsterisk _ _ notSlash =>
    -- No subject has an authority in front.
    rcases first with slash | asterisk
    · obtain ⟨more, written⟩ := List.head?_eq_some_iff.mp slash
      exact absurd written (notSlash more)
    · exact absurd asterisk notAsterisk

end Readable

/-! ### Main result -/

/-- Two targets have the same subject exactly if their paths are the same and their other pairs
are, up to the order between names. -/
theorem subject_eq_iff {u v : Uri} (hu : u.target.Readable) (hv : v.target.Readable)
    {parameter : String} : subject u parameter = subject v parameter ↔
      path u = path v ∧ Rearranged (otherPairs u parameter) (otherPairs v parameter) := by
  constructor
  · intro same
    -- Both subjects are read as the same target.
    have read := ofChars_subject hu parameter
    rw [same, ofChars_subject hv parameter] at read
    have target : (canonical v parameter).target = (canonical u parameter).target :=
      Except.ok.inj read
    refine ⟨(congrArg PathAndQuery.path target).symm, ?_⟩
    have pairs : sorted (otherPairs v parameter) = sorted (otherPairs u parameter) := by
      rw [← queryPairs_canonical, ← queryPairs_canonical, queryPairs, queryPairs, target]
    exact ((rearranged_sorted _).symm.trans (pairs ▸ .refl _)).trans (rearranged_sorted _)
  · rintro ⟨paths, arranged⟩
    rw [subject, subject, paths, sorted_eq_of_rearranged arranged]

/-- **Subjects.** Two targets have the same subject exactly if their paths are the same, where an
absent path is a slash, and the same values stand under each name but the token's, in the same
order. So the scheme and the authority do not matter, nor do the order between names, the spelling
of what is encoded and the pairs of the token's name. A subject that is a target has itself as its
subject. -/
theorem subject_canonical_form {u v : Uri} (hu : u.target.Readable) (hv : v.target.Readable)
    (parameter : String) :
    (subject u parameter = subject v parameter ↔
      path u = path v ∧ ∀ name, name ≠ parameter → values u name = values v name) ∧
    (u.target = v.target → subject u parameter = subject v parameter) ∧
    (path u = path v → Rearranged (otherPairs u parameter) (otherPairs v parameter) →
      subject u parameter = subject v parameter) ∧
    ∀ w, Uri.ofText (subject u parameter) = .ok w → subject w parameter = subject u parameter := by
  refine ⟨?_, fun same => subject_of_target same parameter,
    fun paths arranged => (subject_eq_iff hu hv).mpr ⟨paths, arranged⟩, fun w read => ?_⟩
  · rw [subject_eq_iff hu hv, rearranged_otherPairs_iff]
  · rw [subject_of_target (target_of_ofText_subject hu parameter read) parameter,
      subject_canonical]

/-- Another host, another order and another spelling. -/
theorem subject_canonical_form_respelled :
    let u : Uri := ⟨some "https".toList, "shop".toList,
      ⟨[], some "b=%31&csrf=old&a=1&&a=+".toList⟩⟩
    let v : Uri := { target := ⟨"/".toList, some "a=%31&a=%20&b=1".toList⟩ }
    Uri.ofText "https://shop?b=%31&csrf=old&a=1&&a=+" = .ok u ∧
      Uri.ofText "/?a=%31&a=%20&b=1" = .ok v ∧ subject u "csrf" = subject v "csrf" ∧
      ∀ name, name ≠ "csrf" → values u name = values v name := by
  intro u v
  have readU : Uri.ofText "https://shop?b=%31&csrf=old&a=1&&a=+" = .ok u := by decide
  have readV : Uri.ofText "/?a=%31&a=%20&b=1" = .ok v := by decide
  have pairsU : queryPairs u = [("b", "1"), ("csrf", "old"), ("a", "1"), ("a", " ")] := by decide
  have pairsV : queryPairs v = [("a", "1"), ("a", " "), ("b", "1")] := by decide
  have same (name : String) (other : name ≠ "csrf") : values u name = values v name := by
    rw [values, values, pairsU, pairsV]
    by_cases first : "a" = name
    · subst first
      rfl
    · simp [List.filter_cons, first, other.symm]
  have form := (subject_canonical_form (Uri.readable_of_ofText readU) (Uri.readable_of_ofText readV)
    "csrf").1
  exact ⟨readU, readV, form.mpr ⟨by decide, same⟩, same⟩

end CsrfTarget

end SealedTokens
