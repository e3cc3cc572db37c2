import SealedTokens.Config.Path
/-!
# Members of tables and fields of records

What is read of a table in which one member was changed or added. A field can be given under several
spellings, and under one of them only.

## Main results

- `ConfigValue.lookup_modifyMember`: the members by name
- `ConfigValue.member?_modifyMember`: the field whose member was changed
- `ConfigValue.record?_modifyMember`: all fields, of which one was changed
-/
namespace SealedTokens

namespace ConfigValue

variable {name : String} {spellings : List String} {members : List (String × ConfigValue)}
  {found : Option ConfigValue} {f : ConfigValue → ConfigValue}

theorem filter_modifyMember_of_not {p : String → Bool} (other : p name = false)
    (f : ConfigValue → ConfigValue) (members : List (String × ConfigValue)) :
    (modifyMember name f members).filter (fun m => p m.1) = members.filter fun m => p m.1 := by
  induction members with
  | nil => simp only [modifyMember, List.filter_cons, other, Bool.false_eq_true, ite_false]
  | cons m rest ih =>
    obtain ⟨k, v⟩ := m
    rw [modifyMember]
    split
    next same =>
      simp only [List.filter_cons, beq_iff_eq.mp same, other, Bool.false_eq_true, ite_false]
    next => simp only [List.filter_cons, ih]

theorem filter_modifyMember {p : String → Bool} (own : p name = true)
    (f : ConfigValue → ConfigValue) (members : List (String × ConfigValue)) :
    (modifyMember name f members).filter (fun m => p m.1) =
      modifyMember name f (members.filter fun m => p m.1) := by
  induction members with
  | nil => simp only [modifyMember, List.filter_cons, own, ite_true, List.filter_nil]
  | cons m rest ih =>
    obtain ⟨k, v⟩ := m
    rw [modifyMember]
    split
    next same =>
      have kept : p k = true := by rw [beq_iff_eq.mp same, own]
      simp only [List.filter_cons, kept, ite_true, modifyMember, same]
    next different =>
      by_cases kept : p k = true
      · simp only [List.filter_cons, kept, ite_true, ih, modifyMember, different]
        rfl
      · simp only [List.filter_cons, kept, ih]
        rfl

theorem lookup_modifyMember (f : ConfigValue → ConfigValue) (members : List (String × ConfigValue))
    (name other : String) :
    (modifyMember name f members).lookup other =
      if other = name then some (f ((members.lookup name).getD .null)) else members.lookup other := by
  induction members with
  | nil =>
    by_cases own : other = name
    · simp [modifyMember, own]
    · simp [modifyMember, List.lookup_cons, own, beq_eq_false_iff_ne.mpr own]
  | cons m rest ih =>
    obtain ⟨k, v⟩ := m
    rw [modifyMember]
    by_cases here : k = name
    · subst here
      by_cases own : other = k
      · simp [own]
      · simp [List.lookup_cons, own, beq_eq_false_iff_ne.mpr own]
    · by_cases own : other = k
      · simp [here, own]
      · simp only [beq_eq_false_iff_ne.mpr here, List.lookup_cons, beq_eq_false_iff_ne.mpr own, ih,
          beq_eq_false_iff_ne.mpr (Ne.symm here), Bool.false_eq_true, ite_false]

/-- No member has one of the names. -/
def lacks (names : List String) (members : List (String × ConfigValue)) : Bool :=
  members.all fun m => !names.contains m.1

theorem lacks_iff : lacks (spellings.filter (· != name)) members = true ↔
    ∀ m ∈ members.filter (fun m => spellings.contains m.1), m.1 = name := by
  simp only [lacks, List.all_eq_true, List.mem_filter, List.contains_iff_mem, Bool.not_eq_true',
    ← Bool.not_eq_true, bne_iff_ne]
  grind

theorem lacks_modifyMember {names : List String} (other : name ∉ names)
    (f : ConfigValue → ConfigValue) (members : List (String × ConfigValue)) :
    lacks names (modifyMember name f members) = lacks names members := by
  induction members with
  | nil => simp [lacks, modifyMember, other]
  | cons m rest ih =>
    obtain ⟨k, v⟩ := m
    rw [modifyMember]
    split
    · rfl
    · exact congrArg (!names.contains k && ·) ih

theorem member?_modifyMember (own : name ∈ spellings)
    (read : member? spellings members = some found) (f : ConfigValue → ConfigValue) :
    member? spellings (modifyMember name f members) =
      if lacks (spellings.filter (· != name)) members then some (some (f (found.getD .null)))
      else none := by
  have kept : spellings.contains name = true := List.contains_iff_mem.mpr own
  have same : lacks (spellings.filter (· != name)) members = true ↔ _ := lacks_iff
  rw [member?] at read
  rw [member?, filter_modifyMember kept]
  -- At most one member gives the field, under this name or another one.
  generalize members.filter (fun m => spellings.contains m.1) = given at read same
  match given with
  | [] =>
    cases read
    rw [if_pos (same.mpr (by simp))]
    rfl
  | [(k, v)] =>
    cases read
    by_cases first : k = name
    · rw [if_pos (same.mpr (by simpa using first))]
      simp [modifyMember, first]
    · rw [if_neg fun all => first (same.mp all (k, v) (by simp))]
      simp [modifyMember, first]
  | _ :: _ :: _ => cases read

theorem member?_modifyMember_of_not (other : spellings.contains name = false)
    (f : ConfigValue → ConfigValue) :
    member? spellings (modifyMember name f members) = member? spellings members := by
  rw [member?, filter_modifyMember_of_not other, member?]

/-- Under a single spelling the member is the first one of that name. -/
theorem lookup_of_member? (given : member? [name] members = some found) :
    members.lookup name = found := by
  have single (k : String) : [name].contains k = (k == name) := by
    simp only [List.contains_cons, List.contains_nil, Bool.or_false]
  have none {l : List (String × ConfigValue)} (differ : ∀ m ∈ l, (name != m.1) = true) :
      l.filter (fun m => m.1 == name) = [] :=
    List.filter_eq_nil_iff.mpr fun m member same =>
      bne_iff_ne.mp (differ m member) (beq_iff_eq.mp same).symm
  simp only [member?, single] at given
  cases first : members.lookup name with
  | none =>
    rw [none (List.lookup_eq_none_iff.mp first)] at given
    exact Option.some.inj given
  | some v =>
    obtain ⟨before, after, rfl, differ⟩ := List.lookup_eq_some_iff.mp first
    rw [List.filter_append, none differ, List.nil_append] at given
    simp only [List.filter_cons, beq_self_eq_true, ite_true] at given
    split at given
    next empty => cases empty
    next m single =>
      obtain ⟨rfl, -⟩ := List.cons.inj single
      exact Option.some.inj given
    next => cases given

/-! ### Fields of records -/

/-- Whether a name is one of the field at an index, and of no other field. -/
def isField (name : String) : Nat → List (List String) → Bool
  | 0, spellings :: rest => spellings.contains name && rest.all (!·.contains name)
  | index + 1, spellings :: rest => !spellings.contains name && isField name index rest
  | _, [] => false

variable {dialect : Dialect} {fields : List (List String)} {values : List (Option ConfigValue)}

theorem record?_cons : record? dialect (spellings :: fields) (.table members) =
    (member? spellings members).bind fun value =>
      (record? dialect fields (.table members)).map (value :: ·) := by
  simp only [record?, List.mapM_cons]
  cases member? spellings members with
  | none => rfl
  | some value =>
    cases fields.mapM fun spellings => member? spellings members <;> rfl

theorem record?_modifyMember_of_not (other : fields.all (!·.contains name) = true)
    (f : ConfigValue → ConfigValue) :
    record? dialect fields (.table (modifyMember name f members)) =
      record? dialect fields (.table members) := by
  induction fields with
  | nil => rfl
  | cons spellings rest ih =>
    obtain ⟨first, rest'⟩ := Bool.and_eq_true_iff.mp other
    simp only [record?_cons, ih rest',
      member?_modifyMember_of_not ((Bool.not_eq_true' _).mp first)]

theorem record?_modifyMember {index : Nat} (own : isField name index fields = true)
    (accepted : record? dialect fields (.table members) = some values) :
    ∃ spellings found, fields[index]? = some spellings ∧ values[index]? = some found ∧
      member? spellings members = some found ∧ ∀ f,
      record? dialect fields (.table (modifyMember name f members)) =
        if lacks (spellings.filter (· != name)) members then
          some (values.set index (some (f (found.getD .null))))
        else none := by
  induction fields generalizing index values with
  | nil => cases index <;> cases own
  | cons spellings rest ih =>
    rw [record?_cons] at accepted
    obtain ⟨value, first, accepted⟩ := Option.bind_eq_some_iff.mp accepted
    obtain ⟨values, others, rfl⟩ := Option.map_eq_some_iff.mp accepted
    cases index with
    | zero =>
      obtain ⟨named, rest'⟩ := Bool.and_eq_true_iff.mp own
      refine ⟨spellings, value, rfl, rfl, first, fun f => ?_⟩
      simp only [record?_cons, record?_modifyMember_of_not rest', others,
        member?_modifyMember (List.contains_iff_mem.mp named) first]
      split <;> rfl
    | succ index =>
      obtain ⟨named, own⟩ := Bool.and_eq_true_iff.mp own
      obtain ⟨spelled, found, at', here, given, modified⟩ := ih own others
      refine ⟨spelled, found, at', here, given, fun f => ?_⟩
      simp only [record?_cons, member?_modifyMember_of_not ((Bool.not_eq_true' _).mp named), first,
        modified]
      split <;> rfl

end ConfigValue

end SealedTokens
