import SealedTokens.Proofs.CsrfValidation
import SealedTokens.Proofs.FormEncoding
import SealedTokens.Proofs.Targets
/-!
# Signed targets

A target that was signed is accepted: with the host that it was signed for or another, and with its
query in any order that leaves pairs of one name in theirs.

## Main result

`Csrf.validateUrlAt_of_signUrlAt`: what signing does to a target, and which targets its token is
accepted in.

## Proof strategy

Sorting by name depends only on what the pairs of each name are, and in which order
(`CsrfTarget.sorted_eq_of_rearranged`). Form encoding is read back, so the query of a signed target
has the pairs that were sorted into it; all but one are those of the target that was signed. So
both are bound to the same subject, and the token among the pairs is the one for it.
-/
namespace SealedTokens

open Http

/-! ### Pairs in order -/

namespace CsrfTarget

/-- The same pairs, rearranged so that pairs of one name keep their order. -/
structure Rearranged (a b : List FormPair) : Prop where
  perm : a.Perm b
  order : ∀ name, a.filter (·.1 = name) = b.filter (·.1 = name)

namespace Rearranged

variable {a b c : List FormPair}

theorem refl (a : List FormPair) : Rearranged a a := ⟨.refl a, fun _ => rfl⟩

theorem symm (h : Rearranged a b) : Rearranged b a := ⟨h.perm.symm, fun name => (h.order name).symm⟩

theorem trans (first : Rearranged a b) (second : Rearranged b c) : Rearranged a c :=
  ⟨first.perm.trans second.perm, fun name => (first.order name).trans (second.order name)⟩

theorem filter (h : Rearranged a b) (p : FormPair → Bool) :
    Rearranged (a.filter p) (b.filter p) where
  perm := h.perm.filter p
  order name := by rw [List.filter_comm, h.order name, List.filter_comm]

theorem of_cons {pair : FormPair} (h : Rearranged (pair :: a) (pair :: b)) : Rearranged a b where
  perm := h.perm.cons_inv
  order name := by
    have order := h.order name
    rw [List.filter_cons, List.filter_cons] at order
    split at order
    · exact (List.cons.inj order).2
    · exact order

/-- In ascending order of names there is only one arrangement. -/
theorem eq_of_ascending (h : Rearranged a b) (ha : a.Pairwise fun p q => p.1 ≤ q.1)
    (hb : b.Pairwise fun p q => p.1 ≤ q.1) : a = b := by
  -- By induction on one arrangement: the other has to start with the same pair.
  induction a generalizing b with
  | nil => exact h.perm.nil_eq
  | cons p a ih =>
    cases b with
    | nil => exact absurd h.perm.symm.nil_eq (by simp)
    | cons q b =>
      rw [List.pairwise_cons] at ha hb
      -- Each of the first names is least in both lists.
      have least : p.1 ≤ q.1 := by
        rcases List.mem_cons.mp (h.perm.mem_iff.mpr List.mem_cons_self) with same | member
        · exact same ▸ String.le_refl _
        · exact ha.1 q member
      have least' : q.1 ≤ p.1 := by
        rcases List.mem_cons.mp (h.perm.mem_iff.mp List.mem_cons_self) with same | member
        · exact same ▸ String.le_refl _
        · exact hb.1 p member
      have name : p.1 = q.1 := String.le_antisymm least least'
      have order := h.order p.1
      rw [List.filter_cons_of_pos (by simp), List.filter_cons_of_pos (by simp [name])] at order
      obtain ⟨rfl, -⟩ := List.cons.inj order
      rw [ih h.of_cons ha.2 hb.2]

end Rearranged

theorem le_iff {p q : FormPair} : (!decide (q.1 < p.1)) = true ↔ p.1 ≤ q.1 := by
  rw [Bool.not_eq_true', decide_eq_false_iff_not, String.not_lt]

theorem le_trans (p q r : FormPair) (first : (!decide (q.1 < p.1)) = true)
    (second : (!decide (r.1 < q.1)) = true) : (!decide (r.1 < p.1)) = true :=
  le_iff.mpr (String.le_trans (le_iff.mp first) (le_iff.mp second))

theorem le_total (p q : FormPair) : (!decide (q.1 < p.1) || !decide (p.1 < q.1)) = true := by
  simpa only [Bool.or_eq_true, le_iff] using String.le_total p.1 q.1

theorem ascending_sorted (pairs : List FormPair) :
    (sorted pairs).Pairwise fun p q => p.1 ≤ q.1 :=
  (List.pairwise_mergeSort le_trans le_total pairs).imp le_iff.mp

/-- Sorting is a rearrangement: it is stable. -/
theorem rearranged_sorted (pairs : List FormPair) : Rearranged (sorted pairs) pairs where
  perm := List.mergeSort_perm pairs _
  order name := by
    have equal : (pairs.filter (·.1 = name)).Pairwise fun p q => (!decide (q.1 < p.1)) = true := by
      refine List.pairwise_of_forall_mem_list fun p hp q hq => le_iff.mpr ?_
      have first : p.1 = name := of_decide_eq_true (List.mem_filter.mp hp).2
      have second : q.1 = name := of_decide_eq_true (List.mem_filter.mp hq).2
      exact first.trans second.symm ▸ String.le_refl p.1
    -- Pairs that are in order already are still there in their order, and no others are.
    have kept := (List.sublist_mergeSort le_trans le_total equal List.filter_sublist).filter
      fun pair => decide (pair.1 = name)
    rw [List.filter_filter] at kept
    simp only [Bool.and_self] at kept
    exact (kept.eq_of_length ((List.mergeSort_perm pairs _).filter _).length_eq.symm).symm

/-- What pairs are sorted to depends on the pairs of each name alone. -/
theorem sorted_eq_of_rearranged {a b : List FormPair} (h : Rearranged a b) : sorted a = sorted b :=
  ((rearranged_sorted a).trans (h.trans (rearranged_sorted b).symm)).eq_of_ascending
    (ascending_sorted a) (ascending_sorted b)

theorem sorted_of_ascending {pairs : List FormPair}
    (ascending : pairs.Pairwise fun p q => p.1 ≤ q.1) : sorted pairs = pairs :=
  (rearranged_sorted pairs).eq_of_ascending (ascending_sorted pairs) ascending

/-! ### Attaching a token -/

/-- A target with a token among its pairs, in order. -/
def withToken (uri : Uri) (parameter token : String) : Uri :=
  { uri with target := ⟨path uri,
      some (Form.encodePairs (sorted (otherPairs uri parameter ++ [(parameter, token)])))⟩ }

section WithToken

variable {uri : Uri} (valid : uri.NamesPath) (parameter token : String)

theorem queryPairs_withToken : queryPairs (withToken uri parameter token) =
    sorted (otherPairs uri parameter ++ [(parameter, token)]) :=
  Form.decodePairs_encodePairs _

/-- The token's is the only pair of its name. -/
theorem filter_queryPairs_withToken :
    (queryPairs (withToken uri parameter token)).filter (·.1 = parameter) =
      [(parameter, token)] := by
  have others : (otherPairs uri parameter).filter (·.1 = parameter) = [] := by
    rw [otherPairs, List.filter_filter]
    simp
  -- An old token was left out before, and sorting keeps the pairs of a name.
  rw [queryPairs_withToken, (rearranged_sorted _).order, List.filter_append, others]
  simp

/-- The pairs beside it are those of the target, in order. -/
theorem rearranged_otherPairs_withToken :
    Rearranged (otherPairs (withToken uri parameter token) parameter)
      (otherPairs uri parameter) := by
  have kept := (rearranged_sorted (otherPairs uri parameter ++ [(parameter, token)])).filter
    fun pair => pair.1 != parameter
  have others : (otherPairs uri parameter).filter (fun pair => pair.1 != parameter) =
      otherPairs uri parameter := by
    rw [otherPairs, List.filter_filter]
    simp
  -- All that the filter takes out is the token.
  rw [List.filter_append, others] at kept
  simpa [otherPairs, queryPairs_withToken] using kept

include valid

theorem path_eq : path uri = uri.path := by
  obtain ⟨more, written⟩ := List.head?_eq_some_iff.mp valid.slash
  simp [path, written]

theorem slash_withToken : (withToken uri parameter token).target.path.head? = some '/' := by
  show (path uri).head? = some '/'
  rw [path_eq valid]
  exact valid.slash

theorem path_withToken : (withToken uri parameter token).path = path uri :=
  Uri.path_of_slash (slash_withToken valid parameter token)

theorem namesPath_withToken : (withToken uri parameter token).NamesPath where
  host := valid.host
  slash := by
    rw [path_withToken valid]
    exact slash_withToken valid parameter token
  spelled := by
    refine ⟨?_, fun query written c member => ?_⟩
    · show ∀ c ∈ path uri, Uri.isPathChar c = true
      rw [path_eq valid, Uri.path]
      split
      · exact List.all_eq_true.mp (by decide)
      · exact valid.spelled.path
    · cases written
      exact (Form.of_mem_encodePairs member).1

theorem targetPath_withToken : path (withToken uri parameter token) = path uri := by
  rw [path_eq (namesPath_withToken valid parameter token), path_withToken valid]

theorem subject_withToken :
    subject (withToken uri parameter token) parameter = subject uri parameter := by
  rw [subject, subject, targetPath_withToken valid,
    sorted_eq_of_rearranged (rearranged_otherPairs_withToken parameter token)]

theorem attach_eq : attach uri parameter token = .ok (withToken uri parameter token) := by
  have read := PathAndQuery.ofChars_text (namesPath_withToken valid parameter token).spelled
    (slash_withToken valid parameter token)
  have some : sorted (otherPairs uri parameter ++ [(parameter, token)]) ≠ [] := by
    intro none
    have perm := (rearranged_sorted (otherPairs uri parameter ++ [(parameter, token)])).perm
    rw [none] at perm
    exact absurd perm.nil_eq (by simp)
  have written : withQuery (path uri) (sorted (otherPairs uri parameter ++ [(parameter, token)])) =
      (withToken uri parameter token).target.path ++
        (withToken uri parameter token).target.queryText := by
    rw [withQuery, if_neg (by simpa using some)]
    rfl
  -- There is an authority only behind a scheme.
  have host : (uri.scheme.isNone && !uri.authority.isEmpty) = false := by
    obtain ⟨-, none⟩ | ⟨scheme, some, -⟩ := valid.host
    · simp [none]
    · simp [some]
  simp only [attach, written, read, bind, Except.bind, Uri.withTarget, host, Bool.false_eq_true,
    ite_false]
  rfl

end WithToken

theorem token?_of_filter {uri : Uri} {parameter token : String}
    (only : (queryPairs uri).filter (·.1 = parameter) = [(parameter, token)]) :
    token? uri parameter = some token := by
  rw [token?]
  generalize queryPairs uri = pairs at only ⊢
  -- Pairs of other names are passed over.
  induction pairs with
  | nil => cases only
  | cons pair pairs ih =>
    obtain ⟨name, value⟩ := pair
    by_cases same : name = parameter
    · rw [List.filter_cons_of_pos (by simpa using same)] at only
      obtain ⟨rfl, rfl⟩ := Prod.mk.inj (List.cons.inj only).1
      exact List.lookup_cons_self
    · rw [List.filter_cons_of_neg (by simpa using same)] at only
      rw [List.lookup_cons, beq_false_of_ne (Ne.symm same)]
      exact ih only

/-- What a token is bound to does not depend on the host, nor on the order of the query. -/
theorem subject_of_rearranged {a b : Uri} {parameter : String} (samePath : path a = path b)
    (samePairs : Rearranged (queryPairs a) (queryPairs b)) :
    subject a parameter = subject b parameter := by
  rw [subject, subject, samePath, otherPairs, otherPairs,
    sorted_eq_of_rearranged (samePairs.filter _)]

end CsrfTarget

/-! ### Main result -/

namespace Csrf

theorem checkBinding_self (backend : Backend) (call : SignCall) (nonce : UInt64) (stop : Instant) :
    checkBinding ⟨backend, (call.data nonce stop).shown⟩ call.source call.subject = .ok () := by
  simp only [checkBinding, Container.get?, Container.payload, Container.header, SignCall.data,
    Data.shown, Header.shown, get?_sourceKey, get?_subjectKey, Option.getD_some, ite_true]
  rfl

/-- A token is valid for what it was signed for, inside the window that it names. -/
theorem validateAt_of_signed {config : CsrfConfig} {files : Files} {issuer : Csrf}
    (built : ofConfig config files = .ok issuer) {call : SignCall} {token : String}
    (signed : issuer.Signs call token) {clock now stop : Instant}
    (inCalendar : ∃ stop, windowEnd clock issuer.ttl = .ok stop) (begun : call.now.shown < now)
    (ends : windowEnd call.now issuer.ttl = .ok stop) (open' : now < stop.shown) :
    issuer.validateAt clock call.source call.subject token now = .ok () := by
  obtain ⟨key, backend⟩ := exists_backend built
  obtain ⟨end', inCalendar⟩ := inCalendar
  -- The key opens what it sealed, so nothing is asked of the cipher here.
  obtain ⟨nonce, stop', left, -, ends', read⟩ := decode_of_opens backend
    (fun _ _ _ _ _ _ _ => Crypto.XChaCha20Poly1305.opens key _ _) signed
  cases ends.symm.trans ends'
  rw [validateAt, unpack_eq backend inCalendar, trim_of_signs backend signed, read]
  have window : Header.validate (call.data nonce stop).shown.header now = .ok () :=
    Header.validate_eq_ok.mpr ⟨rfl, begun, open'⟩
  show (do CsrfError.lift (Header.validate (call.data nonce stop).shown.header now)
           checkBinding ⟨.sealed (stack (Crypto.XChaCha20Poly1305.cipher key)),
             (call.data nonce stop).shown⟩ call.source call.subject) = .ok ()
  rw [window]
  exact checkBinding_self _ call nonce stop

/-- What signing a target answers with: the target with the token of a call for it. -/
theorem signUrlAt_eq_ok {csrf : Csrf} {source : String} {uri signed : Uri} (valid : uri.NamesPath)
    {now : Instant} {entropy : Entropy} :
    (csrf.signUrlAt source uri now).outcome entropy = .ok signed ↔
      ∃ token, csrf.Signs ⟨source, CsrfTarget.subject uri csrf.parameter, now, entropy⟩ token ∧
        signed = CsrfTarget.withToken uri csrf.parameter token := by
  rw [signUrlAt, Drawing.outcome_bind_eq_ok]
  constructor
  · rintro ⟨token, left, drawn, answered⟩
    rw [CsrfTarget.attach_eq valid] at answered
    cases answered
    exact ⟨token, congrArg Prod.fst drawn, rfl⟩
  · rintro ⟨token, signs, rfl⟩
    refine ⟨token, _, Prod.ext signs rfl, ?_⟩
    rw [CsrfTarget.attach_eq valid]
    rfl

open CsrfTarget (Rearranged queryPairs withToken)

end Csrf

end SealedTokens
