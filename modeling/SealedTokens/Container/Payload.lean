import SealedTokens.Bytes
/-!
Payloads: byte strings under numeric keys, in ascending order of the keys, each key once.
-/
namespace SealedTokens

/-- What a container carries for its user. -/
structure Payload where
  entries : List (UInt32 × Bytes)
  sorted : entries.Pairwise (fun a b => a.1 < b.1)
  deriving DecidableEq

namespace Payload

/-- Puts an entry into its place in the order, over one with the same key. -/
def insertEntry (key : UInt32) (value : Bytes) : List (UInt32 × Bytes) → List (UInt32 × Bytes)
  | [] => [(key, value)]
  | (k, v) :: rest =>
    if key < k then (key, value) :: (k, v) :: rest
    else if key = k then (key, value) :: rest
    else (k, v) :: insertEntry key value rest

theorem mem_insertEntry {key : UInt32} {value : Bytes} {x : UInt32 × Bytes} :
    {entries : List (UInt32 × Bytes)} → x ∈ insertEntry key value entries →
      x = (key, value) ∨ x ∈ entries
  | [], h => by simpa [insertEntry] using h
  | (k, v) :: rest, h => by
    unfold insertEntry at h
    split at h
    · simpa using h
    · split at h
      · rcases List.mem_cons.1 h with h | h
        · exact .inl h
        · exact .inr (List.mem_cons_of_mem _ h)
      · rcases List.mem_cons.1 h with h | h
        · exact .inr (h ▸ List.mem_cons_self)
        · exact (mem_insertEntry h).imp id (List.mem_cons_of_mem _)

theorem insertEntry_sorted {key : UInt32} {value : Bytes} :
    {entries : List (UInt32 × Bytes)} → entries.Pairwise (fun a b => a.1 < b.1) →
      (insertEntry key value entries).Pairwise (fun a b => a.1 < b.1)
  | [], _ => by simp [insertEntry]
  | (k, v) :: rest, h => by
    have hrest := (List.pairwise_cons.1 h).2
    have hk := (List.pairwise_cons.1 h).1
    unfold insertEntry
    split
    · rename_i hlt
      refine List.pairwise_cons.2 ⟨fun x hx => ?_, h⟩
      rcases List.mem_cons.1 hx with rfl | hx
      · exact hlt
      · exact UInt32.lt_trans hlt (hk x hx)
    · split
      · rename_i heq
        exact List.pairwise_cons.2 ⟨fun x hx => heq ▸ hk x hx, hrest⟩
      · rename_i hlt hne
        refine List.pairwise_cons.2 ⟨fun x hx => ?_, insertEntry_sorted hrest⟩
        rcases mem_insertEntry hx with rfl | hx
        · exact UInt32.lt_of_le_of_ne (UInt32.not_lt.1 hlt) (Ne.symm hne)
        · exact hk x hx

def empty : Payload := ⟨[], .nil⟩

instance : Inhabited Payload := ⟨empty⟩

def get? (p : Payload) (key : UInt32) : Option Bytes := p.entries.lookup key

def contains (p : Payload) (key : UInt32) : Bool := (p.get? key).isSome

def insert (p : Payload) (key : UInt32) (value : Bytes) : Payload :=
  ⟨insertEntry key value p.entries, insertEntry_sorted p.sorted⟩

def erase (p : Payload) (key : UInt32) : Payload :=
  ⟨p.entries.filter fun entry => entry.1 != key, p.sorted.filter _⟩

def size (p : Payload) : Nat := p.entries.length

def isEmpty (p : Payload) : Bool := p.entries.isEmpty

/-- The payload of a list of entries, the last of which counts for each key. -/
def ofList (entries : List (UInt32 × Bytes)) : Payload :=
  entries.foldl (fun p entry => p.insert entry.1 entry.2) empty

def toList (p : Payload) : List (UInt32 × Bytes) := p.entries

end Payload

end SealedTokens
