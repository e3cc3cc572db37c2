import SealedTokens.Proofs.JsonText
/-!
# Records

Records that the library writes are read back: the strings in them stand for themselves, and each
member is found under its name.

## Main results

- `Json.record?_zip`: a record gives its values in the order of the names, and nothing for the names
  behind them
- `Json.fullRecord?_zip`: a record with a value for each name gives its values
-/
namespace SealedTokens

namespace Json

/-- A text of visible ASCII characters that need no escape. -/
def IsName (name : String) : Prop :=
  ∀ c ∈ name.toList, 32 ≤ c.toNat ∧ c.toNat < 127 ∧ c ≠ '"' ∧ c ≠ '\\'

theorem IsName.ascii {name : String} (plain : IsName name) : ∀ c ∈ name.toList, c.toNat < 128 := by
  intro c member
  have bound := plain c member
  omega

theorem IsName.isPlain {name : String} (plain : IsName name) : IsPlain (Bytes.ofAscii name) := by
  intro b member
  obtain ⟨c, char, rfl⟩ := List.mem_map.mp member
  obtain ⟨low, high, notQuote, notBackslash⟩ := plain c char
  have byte : (UInt8.ofNat c.toNat).toNat = c.toNat := Bytes.toNat_byte (by omega)
  have other {d : Char} (different : c ≠ d) : c.toNat ≠ d.toNat :=
    fun same => different (Char.toNat_inj.mp same)
  refine ⟨?_, ?_, ?_⟩
  · rw [UInt8.le_iff_toNat_le, byte]
    exact low
  · intro same
    exact other notQuote (byte.symm.trans (congrArg UInt8.toNat same))
  · intro same
    exact other notBackslash (byte.symm.trans (congrArg UInt8.toNat same))

theorem unescape_plain (written done : Bytes) (plain : IsPlain written) :
    unescape written done = some (done.reverse ++ written) := by
  induction written generalizing done with
  | nil => simp [unescape]
  | cons b written ih =>
    obtain ⟨-, -, notBackslash⟩ := plain b (by simp)
    have step : unescape (b :: written) done = unescape written (b :: done) := by
      rw [unescape.eq_def]
      split <;> simp_all [backslash]
    rw [step, ih _ fun c member => plain c (by simp [member])]
    simp

theorem text?_ofAscii {name : String} (plain : IsName name) :
    text? (Bytes.ofAscii name) = some name := by
  rw [text?, unescape_plain _ _ plain.isPlain]
  simp [Bytes.ofAscii_eq_ofText plain.ascii]

/-- Visible ASCII bytes without a quote or a backslash are the text that they spell. -/
theorem textBytes?_visible {written : Bytes}
    (visible : ∀ b ∈ written, 33 ≤ b ∧ b < 127 ∧ b ≠ quote ∧ b ≠ backslash) :
    IsPlain written ∧ textBytes? written = some written := by
  have plain : IsPlain written := by
    intro b member
    obtain ⟨low, -, notQuote, notBackslash⟩ := visible b member
    exact ⟨UInt8.le_trans (by decide) low, notQuote, notBackslash⟩
  have ascii : ∀ b ∈ written, b < 128 := by
    intro b member
    exact UInt8.lt_trans (visible b member).2.1 (by decide)
  refine ⟨plain, ?_⟩
  simp [textBytes?, unescape_plain _ _ plain, Bytes.toText?_ascii ascii]

section Members

variable {names : List String} {values : List Json}

theorem members?_zip (plain : ∀ name ∈ names, IsName name) :
    members? (.object (List.zip (names.map Bytes.ofAscii) values)) =
      some (List.zip names values) := by
  induction names generalizing values with
  | nil => rfl
  | cons name names ih =>
    match values with
    | [] => rfl
    | v :: values =>
      have rest := @ih values fun other member => plain other (by simp [member])
      rw [members?] at rest ⊢
      simp only [List.map_cons, List.zip_cons_cons, List.mapM_cons, rest,
        text?_ofAscii (plain name (by simp))]
      rfl

/-- Among members of different names, the one of a name is the first of that name. -/
theorem member?_eq_lookup (name : String) {members : List (String × Json)}
    (nodup : (members.map Prod.fst).Nodup) : member? name members = some (members.lookup name) := by
  induction members with
  | nil => rfl
  | cons m members ih =>
    obtain ⟨key, v⟩ := m
    rw [List.map_cons, List.nodup_cons] at nodup
    by_cases same : key = name
    · have others : members.filter (fun other => other.1 == name) = [] := by
        rw [List.filter_eq_nil_iff]
        intro other member found
        rw [beq_iff_eq, ← same] at found
        exact nodup.1 (List.mem_map.mpr ⟨other, member, found⟩)
      simp [member?, same, others]
    · have earlier := ih nodup.2
      have other : (name == key) = false := by simpa using Ne.symm same
      simp only [List.lookup_cons, other, ← earlier]
      simp [member?, same]

theorem lookup_zip (nodup : names.Nodup) (fit : values.length ≤ names.length) :
    names.map (fun name => (List.zip names values).lookup name) =
      values.map some ++ List.replicate (names.length - values.length) none := by
  induction names generalizing values with
  | nil =>
    have none : values = [] := List.eq_nil_of_length_eq_zero (by simpa using fit)
    simp [none]
  | cons name names ih =>
    rw [List.nodup_cons] at nodup
    match values with
    | [] => simp [List.map_const', List.replicate_succ]
    | v :: values =>
      have rest := @ih values nodup.2 (by simpa using fit)
      -- The first name is not among the others, so its value does not come in their way.
      have later : ∀ other ∈ names, (List.zip (name :: names) (v :: values)).lookup other =
          (List.zip names values).lookup other := by
        intro other member
        have different : (other == name) = false := by
          rw [beq_eq_false_iff_ne]
          rintro rfl
          exact nodup.1 member
        simp [List.lookup_cons, different]
      rw [List.map_cons, List.map_congr_left later, rest]
      simp

/-- The members of a record are found under whatever names are asked for. -/
theorem record?_of_members {json : Json} {members : List (String × Json)}
    (read : json.members? = some members) (nodup : (members.map Prod.fst).Nodup)
    (asked : List String) :
    json.record? asked = some (asked.map fun name => members.lookup name) := by
  have found : (fun name => member? name members) = fun name => some (members.lookup name) := by
    funext name
    exact member?_eq_lookup name nodup
  rw [record?]
  · rw [read, Option.bind_eq_bind, Option.bind_some, found]
    exact List.mapM_pure
  · rintro items rfl
    cases read

theorem keys_zip_nodup (values : List Json) (nodup : names.Nodup) :
    ((List.zip names values).map Prod.fst).Nodup := by
  rw [List.zip_eq_zip_take_min, List.map_fst_zip (by simp)]
  exact nodup.sublist (List.take_sublist _ _)

/-- A record is read back under the names that it was written with, which may be more. -/
theorem record?_zip (plain : ∀ name ∈ names, IsName name) (nodup : names.Nodup)
    (fit : values.length ≤ names.length) :
    record? names (.object (List.zip (names.map Bytes.ofAscii) values)) =
      some (values.map some ++ List.replicate (names.length - values.length) none) := by
  rw [record?_of_members (members?_zip plain) (keys_zip_nodup values nodup), lookup_zip nodup fit]

/-- A full record gives its values in order. -/
theorem fullRecord?_zip (plain : ∀ name ∈ names, IsName name) (nodup : names.Nodup)
    (full : values.length = names.length) :
    fullRecord? names (.object (List.zip (names.map Bytes.ofAscii) values)) = some values := by
  rw [fullRecord?, record?_zip plain nodup (Nat.le_of_eq full), full, Nat.sub_self,
    List.replicate_zero, List.append_nil, Option.bind_eq_bind, Option.bind_some, List.mapM_map]
  simpa using List.mapM_pure (m := Option) (l := values) (f := id)

/-- A record is written without escapes if its values are. -/
theorem isWritten_zip (plain : ∀ name ∈ names, IsName name) (written : ∀ v ∈ values, IsWritten v) :
    IsWritten (.object (List.zip (names.map Bytes.ofAscii) values)) := by
  refine .object (fun m member => ?_) fun m member => ?_
  · obtain ⟨name, member, same⟩ := List.mem_map.mp (List.of_mem_zip member).1
    exact same ▸ (plain name member).isPlain
  · exact written _ (List.of_mem_zip member).2

end Members

end Json

end SealedTokens
