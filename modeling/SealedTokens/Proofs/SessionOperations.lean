import SealedTokens.Proofs.SessionExposure
/-!
# Operations of services on their session

What a service can do with its session, one operation after the other, at the one instant that its
request is served at. The nonce counts the operations that had an effect, all but one kind: emptying
the payload is not counted.

## Main results

- `Session.progress_perform`, `Session.progress_run`: what one operation and what a whole run of
  them can have done
- `Session.counted_pos`: when a run of operations is counted at all
- `Session.Progress.nonce_ne`: the nonce shows an effect, unless there are too many for it
-/
namespace SealedTokens

/-- What a service can do with its session. -/
inductive SessionOperation where
  | get (key : UInt32)
  | getText (key : UInt32)
  | set (key : UInt32) (value : Bytes)
  | setText (key : UInt32) (value : String)
  | del (key : UInt32)
  | clean
  | touch
  | refresh

/-- Erasing a key that is not there erases nothing. -/
theorem Payload.erase_of_absent {p : Payload} {key : UInt32} (absent : p.contains key = false) :
    p.erase key = p := by
  have none : p.entries.lookup key = none := by
    simpa [contains, get?] using absent
  have kept : p.entries.filter (fun entry => entry.1 != key) = p.entries := by
    refine List.filter_eq_self.mpr fun entry member => ?_
    have other := List.lookup_eq_none_iff.mp none entry member
    exact bne_iff_ne.mpr fun same => by simp [same] at other
  simp only [erase, kept]

namespace Session

/-- The session after an operation. -/
def perform (clock : Instant) (s : Session) : SessionOperation → Session
  | .get _ | .getText _ => s
  | .set key value => (s.set clock key value).2
  | .setText key value => (s.setText clock key value).2
  | .del key => (s.del clock key).2
  | .clean => s.clean
  | .touch => s.touch
  | .refresh => (s.refreshed clock ()).2

/-- The session after operations in order. -/
def run (clock : Instant) (s : Session) (operations : List SessionOperation) : Session :=
  operations.foldl (perform clock) s

/-- Whether an operation has an effect that is counted: it writes, moves the window, touches, or
removes a key that is there. -/
def counts (s : Session) : SessionOperation → Bool
  | .set .. | .setText .. | .touch | .refresh => true
  | .del key => s.payload.contains key
  | .get _ | .getText _ | .clean => false

/-- How many of the operations have an effect that is counted. -/
def counted (clock : Instant) (s : Session) : List SessionOperation → Nat
  | [] => 0
  | operation :: operations =>
    (s.counts operation).toNat + (s.perform clock operation).counted clock operations

/-- What operations at `start` can have done to a session. The nonce went up by `count`; the window
is as it was, or goes from `start` to `stop`. If the nonce did not go up, the state is as it was, up
to a payload that was emptied, which only happens if `cleaned`. -/
structure Progress (start stop : Instant) (cleaned : Prop) (count : Nat) (s s' : Session) :
    Prop where
  sessions : s'.sessions = s.sessions
  validators : s'.validators = s.validators
  backend : s'.container.backend = s.container.backend
  version : s'.header.version = s.header.version
  nonce : s'.header.nonce = s.header.nonce + UInt64.ofNat count
  window : s'.header.validAfter = s.header.validAfter ∧
      s'.header.validBefore = s.header.validBefore ∨
    s'.header.validAfter = s.container.backend.carried start ∧
      s'.header.validBefore = s.container.backend.carried stop
  idle : count = 0 → s'.header = s.header ∧ (s'.payload = s.payload ∨ cleaned ∧ s'.payload = .empty)

section Progress

variable {start stop : Instant} {cleaned : Prop} {s s' s'' : Session}

theorem Progress.refl (s : Session) : Progress start stop cleaned 0 s s where
  sessions := rfl
  validators := rfl
  backend := rfl
  version := rfl
  nonce := (UInt64.add_zero _).symm
  window := .inl ⟨rfl, rfl⟩
  idle _ := ⟨rfl, .inl rfl⟩

theorem Progress.trans {first second : Nat} (p : Progress start stop cleaned first s s')
    (q : Progress start stop cleaned second s' s'') :
    Progress start stop cleaned (first + second) s s'' where
  sessions := q.sessions.trans p.sessions
  validators := q.validators.trans p.validators
  backend := q.backend.trans p.backend
  version := q.version.trans p.version
  nonce := by rw [q.nonce, p.nonce, UInt64.add_assoc, ← UInt64.ofNat_add]
  window := by
    obtain ⟨after, before⟩ | ⟨after, before⟩ := q.window
    · rw [after, before]
      exact p.window
    · rw [after, before, p.backend]
      exact .inr ⟨rfl, rfl⟩
  idle none := by
    -- Neither part counted, and the second one may have emptied what the first one left.
    obtain ⟨header, payload⟩ := p.idle (by omega)
    obtain ⟨header', payload'⟩ := q.idle (by omega)
    refine ⟨header'.trans header, ?_⟩
    obtain payload' | emptied := payload'
    · rw [payload']
      exact payload
    · exact .inr emptied

theorem Progress.mono {count : Nat} {cleaned' : Prop} (weaker : cleaned → cleaned')
    (p : Progress start stop cleaned count s s') : Progress start stop cleaned' count s s' :=
  { p with idle := fun none => (p.idle none).imp id (Or.imp id (And.imp weaker id)) }

/-- Whatever was written before, moving the window counts once. -/
theorem progress_moved (s : Session) (payload : Payload) :
    Progress start stop cleaned 1 s ((s.withData ⟨s.header, payload⟩).moved start stop) where
  sessions := rfl
  validators := rfl
  backend := rfl
  version := rfl
  nonce := rfl
  window := .inr ⟨rfl, rfl⟩
  idle none := by cases none

/-- The nonce shows that something was done, up to a whole turn of it. -/
theorem Progress.nonce_ne {count : Nat} (p : Progress start stop cleaned count s s')
    (positive : 0 < count) (few : count < 2 ^ 64) : s'.header.nonce ≠ s.header.nonce := by
  intro same
  have sum := congrArg UInt64.toNat (p.nonce.symm.trans same)
  have bound := s.header.nonce.toNat_lt
  rw [UInt64.toNat_add, UInt64.toNat_ofNat', Nat.mod_eq_of_lt few] at sum
  omega

/-! ### One operation -/

theorem del_of_contains {key : UInt32} (found : s.payload.contains key = true) :
    s.del start key =
      (s.withData ⟨s.header, s.payload.erase key⟩).refreshed start true := by
  have there : (s.container.del key).1 = true := found
  rw [del]
  simp only [there, ite_true]
  rfl

/-- Removing a key that is not there removes nothing. -/
theorem del_of_not_contains {key : UInt32} (absent : s.payload.contains key = false) :
    s.del start key = (.ok false, s) := by
  have same : s.container.data.payload.erase key = s.container.data.payload :=
    Payload.erase_of_absent absent
  have nothing : s.container.del key = (false, s.container) := by
    rw [Container.del, Container.mapPayload, same]
    exact Prod.ext absent rfl
  rw [del, nothing]
  rfl

/-- A write is followed by a move of the window, which cannot fail if the window ends inside the
calendar. -/
theorem refreshed_snd {α : Type} {result : α} (s : Session)
    (ends : windowEnd start s.sessions.maxAge = .ok stop) :
    (s.refreshed start result).2 = s.moved start stop := by
  rw [refreshed_of_ok (refreshAt_eq_ok.mpr ⟨stop, ends, rfl⟩)]

theorem progress_refreshed {α : Type} {result : α} (s : Session) (payload : Payload)
    (ends : windowEnd start s.sessions.maxAge = .ok stop) : Progress start stop cleaned 1 s
      ((s.withData ⟨s.header, payload⟩).refreshed start result).2 := by
  rw [refreshed_snd (s.withData ⟨s.header, payload⟩) ends]
  exact progress_moved s payload

/-- What an operation does, and that it counts only where `counts` says so. -/
theorem progress_perform (s : Session) (ends : windowEnd start s.sessions.maxAge = .ok stop)
    (operation : SessionOperation) : Progress start stop (operation = .clean)
      (s.counts operation).toNat s (s.perform start operation) := by
  -- Writing and removing refresh, and so count; touching counts alone, and emptying does not.
  cases operation with
  | get key => exact .refl s
  | getText key => exact .refl s
  | set key value => exact progress_refreshed s (s.payload.insert key value) ends
  | setText key value =>
    exact progress_refreshed s (s.payload.insert key (Bytes.ofText value)) ends
  | del key =>
    cases found : s.payload.contains key with
    | true =>
      rw [perform, counts, found, del_of_contains found]
      exact progress_refreshed s (s.payload.erase key) ends
    | false =>
      rw [perform, counts, found, del_of_not_contains found]
      exact .refl s
  | clean =>
    exact { (Progress.refl s : Progress start stop False 0 s s) with
      idle := fun _ => ⟨rfl, .inr ⟨rfl, rfl⟩⟩ }
  | touch =>
    exact { (Progress.refl s : Progress start stop False 0 s s) with
      nonce := rfl
      idle := fun none => by cases none }
  | refresh => exact progress_refreshed s s.payload ends

/-! ### A run of operations -/

theorem progress_run (s : Session) (ends : windowEnd start s.sessions.maxAge = .ok stop)
    (operations : List SessionOperation) : Progress start stop (.clean ∈ operations)
      (s.counted start operations) s (s.run start operations) := by
  -- By the order in which they are done: the policy is kept, so every window ends at `stop`.
  induction operations generalizing s with
  | nil => exact .refl s
  | cons operation operations ih =>
    have p := progress_perform s ends operation
    rw [← p.sessions] at ends
    have q := ih _ ends
    refine (p.mono ?_).trans (q.mono (List.mem_cons_of_mem _))
    rintro rfl
    exact List.mem_cons_self

theorem counted_le (s : Session) (operations : List SessionOperation) :
    s.counted start operations ≤ operations.length := by
  induction operations generalizing s with
  | nil => exact Nat.le_refl 0
  | cons operation operations ih =>
    have one := Bool.toNat_le (s.counts operation)
    have rest := ih (s.perform start operation)
    rw [counted, List.length_cons]
    omega

theorem exists_progress_run (s : Session) (ends : windowEnd start s.sessions.maxAge = .ok stop)
    (operations : List SessionOperation) :
    ∃ count ≤ operations.length,
      Progress start stop (.clean ∈ operations) count s (s.run start operations) :=
  ⟨_, counted_le s operations, progress_run s ends operations⟩

/-- Something is counted if an operation is that had an effect when its turn came. -/
theorem counted_pos {s : Session} {operations : List SessionOperation} :
    0 < s.counted start operations ↔ ∃ before operation after,
      operations = before ++ operation :: after ∧
        (s.run start before).counts operation = true := by
  induction operations generalizing s with
  | nil =>
    refine ⟨fun positive => absurd positive (Nat.lt_irrefl 0), ?_⟩
    rintro ⟨before, operation, after, split, -⟩
    cases before <;> cases split
  | cons first operations ih =>
    rw [counted]
    cases effect : s.counts first with
    | true =>
      refine ⟨fun _ => ⟨[], first, operations, rfl, effect⟩, fun _ => ?_⟩
      rw [Bool.toNat_true]
      omega
    | false =>
      rw [Bool.toNat_false, Nat.zero_add, ih]
      constructor
      · rintro ⟨before, operation, after, rfl, effective⟩
        exact ⟨first :: before, operation, after, rfl, effective⟩
      -- The first operation had no effect, so it is not the one that had.
      · rintro ⟨before, operation, after, split, effective⟩
        cases before with
        | nil =>
          cases split
          exact absurd effective (Bool.eq_false_iff.mp effect)
        | cons _ before =>
          cases split
          exact ⟨before, operation, after, rfl, effective⟩

end Progress

end Session

end SealedTokens
