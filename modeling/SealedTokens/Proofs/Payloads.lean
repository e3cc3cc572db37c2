import SealedTokens.Proofs.Serials
/-!
# Payloads as maps

What a payload has under a key after it was changed. Of entries that are put in one after the other
the last one counts for its key, and a change shows in the payload unless it puts in what is there.

## Main results

- `Payload.get?_insert`, `Payload.get?_ofList`: what is under a key after entries were put in
- `Payload.insert_eq_self_iff`, `Payload.erase_ne_self`: when a change leaves a payload as it is
-/
namespace SealedTokens.Payload

variable {key : UInt32} {value : Bytes}

/-- Looking up decides by the key of the first entry. -/
theorem lookup_entry (key other : UInt32) (value : Bytes) (rest : List (UInt32 × Bytes)) :
    List.lookup other ((key, value) :: rest) =
      if other = key then some value else rest.lookup other := by
  rw [List.lookup_cons]
  split
  next same => rw [if_pos (beq_iff_eq.mp same)]
  next different => rw [if_neg (beq_eq_false_iff_ne.mp different)]

theorem lookup_insertEntry (key other : UInt32) (value : Bytes) (entries : List (UInt32 × Bytes)) :
    (insertEntry key value entries).lookup other =
      if other = key then some value else entries.lookup other := by
  induction entries with
  | nil => exact lookup_entry key other value []
  | cons entry rest ih =>
    obtain ⟨k, v⟩ := entry
    rw [insertEntry]
    split
    · rw [lookup_entry]
    split
    next same =>
      rw [lookup_entry, lookup_entry, same]
      split <;> rfl
    -- The entry goes further back, so the first one is found before it and has another key.
    next behind =>
      rw [lookup_entry, lookup_entry, ih]
      by_cases first : other = k
      · rw [if_pos first, if_pos first, if_neg fun own => behind (own.symm.trans first)]
      · rw [if_neg first, if_neg first]

theorem get?_insert (p : Payload) (key other : UInt32) (value : Bytes) :
    (p.insert key value).get? other = if other = key then some value else p.get? other :=
  lookup_insertEntry key other value p.entries

theorem get?_foldl_insert (entries : List (UInt32 × Bytes)) (p : Payload) (key : UInt32) :
    (entries.foldl (fun p entry => p.insert entry.1 entry.2) p).get? key =
      (entries.reverse.lookup key).or (p.get? key) := by
  -- By the order in which they are put in, so the last one is looked up first.
  induction entries generalizing p with
  | nil => rfl
  | cons entry rest ih =>
    rw [List.foldl_cons, ih, get?_insert, List.reverse_cons, List.lookup_append, Option.or_assoc,
      lookup_entry]
    split <;> rfl

/-- The last entry counts for its key. -/
theorem get?_ofList (entries : List (UInt32 × Bytes)) (key : UInt32) :
    (ofList entries).get? key = entries.reverse.lookup key := by
  have none : empty.get? key = none := rfl
  rw [ofList, get?_foldl_insert, none, Option.or_none]

/-- Putting in what is there changes nothing. -/
theorem insertEntry_of_lookup {entries : List (UInt32 × Bytes)}
    (sorted : entries.Pairwise (fun a b => a.1 < b.1)) (there : entries.lookup key = some value) :
    insertEntry key value entries = entries := by
  induction entries with
  | nil => cases there
  | cons entry rest ih =>
    obtain ⟨k, v⟩ := entry
    obtain ⟨above, sorted⟩ := List.pairwise_cons.mp sorted
    rw [lookup_entry] at there
    by_cases own : key = k
    · subst own
      rw [if_pos rfl] at there
      cases there
      rw [insertEntry, if_neg (UInt32.lt_irrefl key), if_pos rfl]
    · rw [if_neg own] at there
      have later : k < key := by
        obtain ⟨before, after, split⟩ := List.lookup_eq_some_iff.mp there
        exact above (key, value) (by simp [split])
      rw [insertEntry, if_neg (UInt32.not_lt.mpr (UInt32.le_of_lt later)), if_neg own,
        ih sorted there]

theorem insert_eq_self_iff {p : Payload} : p.insert key value = p ↔ p.get? key = some value := by
  constructor
  · intro same
    have found := p.get?_insert key key value
    rw [same, if_pos rfl] at found
    exact found
  · intro there
    exact ext (insertEntry_of_lookup p.sorted there)

theorem contains_erase (p : Payload) (key : UInt32) : (p.erase key).contains key = false := by
  have none : (p.entries.filter fun entry => entry.1 != key).lookup key = none := by
    refine List.lookup_eq_none_iff.mpr fun entry member => ?_
    exact bne_iff_ne.mpr (Ne.symm (bne_iff_ne.mp (List.mem_filter.mp member).2))
  rw [contains, get?, erase, none]
  rfl

/-- Erasing a key that is there shows. -/
theorem erase_ne_self {p : Payload} (there : p.contains key = true) : p.erase key ≠ p := by
  intro same
  have gone := p.contains_erase key
  rw [same, there] at gone
  cases gone

end SealedTokens.Payload
