import Mathlib.Tactic.Ring
import SealedTokens.Lz4.Matcher
/-!
# The matcher

The plan that the matcher finds fits its text. How well the table and the strides work has no part
in this: a copy is only taken from a place in front of it after its first bytes were compared, and
it is only made longer byte by byte.

## Main result

`plan_fits`: the plan of a text fits it.

## Proof strategy

One step of the matcher searches for a place (`search_sound`), goes back from it
(`extendBack_sound`) and on from it (`agreement_sound`); together they are one copy
(`copy_sound`). The plan is an induction on the steps. Its invariant is that every slot of the table
points before the position where the next search starts, and that no copy starts before the
literals in front of it.
-/
namespace SealedTokens.Lz4.Matcher

/-! ### Words and runs of bytes that agree -/

theorem byteAt_packed (text : Bytes) (i : Nat) : byteAt text.packed i = text[i]?.getD 0 := by
  unfold byteAt
  split
  next inside =>
    have inside' : i < text.length := inside
    rw [List.getElem?_eq_getElem inside']
    rfl
  next outside =>
    have outside' : text.length ≤ i := Nat.not_lt.mp outside
    rw [List.getElem?_eq_none outside']
    rfl

theorem word32_toNat (text : ByteArray) (i : Nat) :
    (word32 text i).toNat = (byteAt text i).toNat + 256 * (byteAt text (i + 1)).toNat +
      65536 * (byteAt text (i + 2)).toNat + 16777216 * (byteAt text (i + 3)).toNat := by
  have h0 := (byteAt text i).toNat_lt
  have h1 := (byteAt text (i + 1)).toNat_lt
  have h2 := (byteAt text (i + 2)).toNat_lt
  have h3 := (byteAt text (i + 3)).toNat_lt
  -- Bytes that are shifted past each other share no bit, so joining them is adding them.
  have join (low high shift : Nat) (small : low < 2 ^ shift) :
      low ||| high <<< shift = low + high * 2 ^ shift := by
    rw [Nat.or_comm, ← Nat.shiftLeft_add_eq_or_of_lt small, Nat.shiftLeft_eq, Nat.add_comm]
  have shifted (b : UInt8) (shift : UInt32) (small : shift.toNat ≤ 24) :
      (b.toUInt32 <<< shift).toNat = b.toNat <<< shift.toNat := by
    have byte := b.toNat_lt
    have bound : b.toNat * 2 ^ shift.toNat < 2 ^ 32 := by
      calc b.toNat * 2 ^ shift.toNat < 2 ^ 8 * 2 ^ shift.toNat :=
            Nat.mul_lt_mul_of_pos_right byte (Nat.two_pow_pos _)
        _ = 2 ^ (8 + shift.toNat) := (Nat.pow_add 2 8 shift.toNat).symm
        _ ≤ 2 ^ 32 := Nat.pow_le_pow_right (by decide) (by omega)
    rw [UInt32.toNat_shiftLeft, UInt8.toNat_toUInt32,
      Nat.mod_eq_of_lt (by omega : shift.toNat < 32), Nat.shiftLeft_eq, Nat.mod_eq_of_lt bound]
  unfold word32
  rw [UInt32.toNat_or, UInt32.toNat_or, UInt32.toNat_or, shifted _ 8 (by decide),
    shifted _ 16 (by decide), shifted _ 24 (by decide), UInt8.toNat_toUInt32]
  show _ ||| _ <<< 8 ||| _ <<< 16 ||| _ <<< 24 = _
  rw [join _ _ 8 (by omega), join _ _ 16 (by omega), join _ _ 24 (by omega)]
  omega

/-- The bytes from `i` on agree with those from `j` on for a length of `n`. -/
def Agree (text : ByteArray) (i j n : Nat) : Prop :=
  ∀ k < n, byteAt text (i + k) = byteAt text (j + k)

theorem Agree.append {text : ByteArray} {i j m n : Nat} (first : Agree text i j m)
    (second : Agree text (i + m) (j + m) n) : Agree text i j (m + n) := by
  intro k inside
  by_cases early : k < m
  · exact first k early
  · have same := second (k - m) (by omega)
    rwa [show i + m + (k - m) = i + k by omega, show j + m + (k - m) = j + k by omega] at same

theorem Agree.shorten {text : ByteArray} {i j m n : Nat} (agree : Agree text i j n) (le : m ≤ n) :
    Agree text i j m := fun k inside => agree k (Nat.lt_of_lt_of_le inside le)

theorem agree_of_word32 {text : ByteArray} {i j : Nat} (same : word32 text i = word32 text j) :
    Agree text i j 4 := by
  have value := congrArg UInt32.toNat same
  have hi (k : Nat) := (byteAt text (i + k)).toNat_lt
  have hj (k : Nat) := (byteAt text (j + k)).toNat_lt
  rw [word32_toNat, word32_toNat] at value
  intro k inside
  have i0 := hi 0; have i1 := hi 1; have i2 := hi 2; have i3 := hi 3
  have j0 := hj 0; have j1 := hj 1; have j2 := hj 2; have j3 := hj 3
  rw [Nat.add_zero] at i0 j0
  apply UInt8.toNat_inj.mp
  -- Both words are sums with the same weights, and bytes are the digits of such a sum.
  match k, inside with
  | 0, _ => simp only [Nat.add_zero]; omega
  | 1, _ => omega
  | 2, _ => omega
  | 3, _ => omega

/-! ### The table -/

/-- Every slot points before a position. -/
def Table.Below (table : Table) (pos : Nat) : Prop := ∀ i, table.get i < pos

theorem Table.Below.mono {table : Table} {pos later : Nat} (below : table.Below pos)
    (le : pos ≤ later) : table.Below later := fun i => Nat.lt_of_lt_of_le (below i) le

theorem Table.Below.set {table : Table} {pos i v : Nat} (below : table.Below pos)
    (small : v < pos) : Table.Below (table.setIfInBounds i v) pos := by
  intro k
  have earlier := below k
  unfold Table.get at earlier ⊢
  rw [Array.getElem?_setIfInBounds]
  split
  · split
    · exact small
    · exact Nat.lt_of_le_of_lt (Nat.zero_le v) small
  · exact earlier

theorem Table.below_empty : Table.empty.Below 1 := by
  intro i
  unfold Table.get Table.empty
  rw [Array.getElem?_replicate]
  split <;> simp

/-! ### One copy -/

/-- What a search finds: a place in front of it, within reach, where four bytes agree. -/
structure Found.Sound (text : ByteArray) (next : Nat) (found : Found) : Prop where
  forward : next ≤ found.pos
  room : found.pos + 12 ≤ text.size
  behind : found.earlier < found.pos
  reach : found.pos - found.earlier ≤ 65535
  agree : Agree text found.earlier found.pos 4

theorem search_sound (text : ByteArray) (fuel next count : Nat) (table table' : Table)
    (found : Found) (below : table.Below next) (positive : 0 < next) (stride : 32 ≤ count)
    (result : search text fuel next count table = (some found, table')) :
    found.Sound text next ∧ table'.Below (found.pos + 1) := by
  induction fuel generalizing next count table with
  | zero => simp [search] at result
  | succ fuel ih =>
    -- A position is entered before it is left, so the table stays below the one after it.
    have updated : Table.Below (table.setIfInBounds (slot text next) next) (next + 1) :=
      (below.mono (Nat.le_succ next)).set (Nat.lt_succ_self next)
    have step : 1 ≤ count / 32 := (Nat.le_div_iff_mul_le (by decide)).mpr (by omega)
    simp only [search] at result
    split at result
    · simp at result
    next inside =>
      split at result
      next hit =>
        rw [Bool.and_eq_true, decide_eq_true_eq, beq_iff_eq] at hit
        cases result
        exact ⟨⟨Nat.le_refl _, Nat.not_lt.mp inside, below _, hit.1, agree_of_word32 hit.2⟩,
          updated⟩
      next miss =>
        obtain ⟨sound, below'⟩ := ih _ _ _ (updated.mono (by omega)) (by omega) (by omega) result
        have forward := Nat.le_trans (Nat.le_add_right next _) sound.forward
        exact ⟨{ sound with forward }, below'⟩

/-- Going back keeps the distance and adds only bytes that agree. -/
theorem extendBack_sound (text : ByteArray) (floor earlier pos : Nat) (above : floor ≤ pos)
    (behind : earlier ≤ pos) :
    ∃ back, (extendBack text floor earlier pos).earlier + back = earlier ∧
      (extendBack text floor earlier pos).pos + back = pos ∧
      floor ≤ (extendBack text floor earlier pos).pos ∧
      Agree text (extendBack text floor earlier pos).earlier
        (extendBack text floor earlier pos).pos back := by
  have stay (e p : Nat) : Agree text e p 0 := fun _ inside => absurd inside (Nat.not_lt_zero _)
  induction earlier generalizing pos with
  | zero => exact ⟨0, rfl, rfl, above, stay 0 pos⟩
  | succ earlier ih =>
    rw [extendBack]
    split
    next same =>
      rw [Bool.and_eq_true, decide_eq_true_eq, beq_iff_eq] at same
      obtain ⟨back, left, right, bounded, agree⟩ := ih (pos - 1) (by omega) (by omega)
      refine ⟨back + 1, by omega, by omega, bounded, agree.append fun k inside => ?_⟩
      rw [left, right, show k = 0 by omega]
      exact same.2
    · exact ⟨0, rfl, rfl, above, stay (earlier + 1) pos⟩

/-- Going on adds only bytes that agree and stays below the limit. -/
theorem agreement_sound (text : ByteArray) (limit fuel earlier pos count : Nat) :
    ∃ more, agreement text limit fuel earlier pos count = count + more ∧
      Agree text earlier pos more ∧ (more = 0 ∨ pos + more ≤ limit) := by
  have stay : Agree text earlier pos 0 := fun _ inside => absurd inside (Nat.not_lt_zero _)
  induction fuel generalizing earlier pos count with
  | zero => exact ⟨0, rfl, stay, .inl rfl⟩
  | succ fuel ih =>
    rw [agreement]
    split
    next same =>
      rw [Bool.and_eq_true, decide_eq_true_eq, beq_iff_eq] at same
      obtain ⟨more, value, agree, bounded⟩ := ih (earlier + 1) (pos + 1) (count + 1)
        fun _ inside => absurd inside (Nat.not_lt_zero _)
      refine ⟨1 + more, by omega, Agree.append (fun k inside => ?_) agree, .inr (by omega)⟩
      rw [show k = 0 by omega]
      exact same.2
    · exact ⟨0, rfl, stay, .inl rfl⟩

theorem Agree.getElem? {text : Bytes} {i j n k : Nat} (agree : Agree text.packed i j n)
    (inside : k < n) (before : i ≤ j) (room : j + n ≤ text.length) :
    text[j + k]? = text[i + k]? := by
  have same := agree k inside
  rw [byteAt_packed, byteAt_packed] at same
  rw [List.getElem?_eq_getElem (show j + k < text.length by omega)] at same ⊢
  rw [List.getElem?_eq_getElem (show i + k < text.length by omega)] at same ⊢
  exact congrArg some same.symm

/-- Going on passes over all the bytes that agree below the limit. -/
theorem le_agreement (text : ByteArray) (limit fuel earlier pos count n : Nat) (enough : n ≤ fuel)
    (agree : Agree text earlier pos n) (room : pos + n ≤ limit) :
    count + n ≤ agreement text limit fuel earlier pos count := by
  induction fuel generalizing earlier pos count n with
  | zero => simp [agreement, Nat.le_zero.mp enough]
  | succ fuel ih =>
    match n with
    | 0 =>
      obtain ⟨more, value, -⟩ := agreement_sound text limit (fuel + 1) earlier pos count
      omega
    | n + 1 =>
      have first : byteAt text earlier = byteAt text pos := agree 0 (Nat.succ_pos n)
      have rest : Agree text (earlier + 1) (pos + 1) n := by
        intro k inside
        have same := agree (k + 1) (by omega)
        rwa [← Nat.add_assoc, ← Nat.add_assoc, Nat.add_right_comm, Nat.add_right_comm pos] at same
      have below : pos < limit := by omega
      rw [agreement, first]
      simp only [below, decide_true, beq_self_eq_true, Bool.and_self, ite_true]
      have later := ih (earlier + 1) (pos + 1) (count + 1) n (by omega) rest (by omega)
      omega

/-- One copy, from where it starts to as far as it goes: it passes the place where it was found. -/
theorem copy_sound {text : ByteArray} {next literal : Nat} {found : Found}
    (sound : found.Sound text next) (above : literal ≤ next) :
    let start := extendBack text literal found.earlier found.pos
    let extra := agreement text (text.size - 6) text.size (start.earlier + minMatch)
      (start.pos + minMatch) 0
    literal ≤ start.pos ∧ start.earlier < start.pos ∧ start.pos - start.earlier ≤ 65535 ∧
      found.pos < start.pos + minMatch + extra ∧ start.pos + (minMatch + extra) ≤ text.size ∧
      Agree text start.earlier start.pos (minMatch + extra) := by
  intro start extra
  obtain ⟨forward, room, behind, reach, words⟩ := sound
  obtain ⟨back, left, right, bounded, backward⟩ := extendBack_sound text literal found.earlier
    found.pos (by omega) (by omega)
  obtain ⟨more, value, onward, below⟩ := agreement_sound text (text.size - 6) text.size
    (start.earlier + minMatch) (start.pos + minMatch) 0
  have four : minMatch = 4 := rfl
  have left : start.earlier + back = found.earlier := left
  have right : start.pos + back = found.pos := right
  have whole : extra = 0 + more := value
  have known : Agree text start.earlier start.pos (back + 4) := by
    refine backward.append ?_
    rw [left, right]
    exact words
  -- What is known to agree reaches past the place where it was found, and going on reaches its end.
  have passed : back ≤ extra := by
    have ahead : Agree text (start.earlier + minMatch) (start.pos + minMatch) back := by
      intro k inside
      have same := known (4 + k) (by omega)
      rwa [← Nat.add_assoc, ← Nat.add_assoc] at same
    have least : 0 + back ≤ extra := le_agreement text (text.size - 6) text.size
      (start.earlier + minMatch) (start.pos + minMatch) 0 back (by omega) ahead (by omega)
    omega
  refine ⟨bounded, by omega, by omega, by omega, by omega, ?_⟩
  rw [whole, Nat.zero_add]
  exact (known.shorten (by omega)).append onward

/-! ### The plan -/

theorem steps_done (text : ByteArray) (fuel next literal : Nat) (table : Table) (done : Plan) :
    steps text fuel next literal table done =
      done.reverse ++ steps text fuel next literal table [] := by
  induction fuel generalizing next literal table done with
  | zero => simp [steps]
  | succ fuel ih =>
    simp only [steps]
    split
    · simp
    · rw [ih, ih _ _ _ [_]]
      simp

theorem steps_fits (text : Bytes) (fuel next literal : Nat) (table : Table)
    (below : table.Below next) (positive : 0 < next) (above : literal ≤ next)
    (inside : literal ≤ text.length) :
    Plan.Fits text literal (steps text.packed fuel next literal table []) := by
  induction fuel generalizing next literal table with
  | zero => exact inside
  | succ fuel ih =>
    rw [steps]
    split
    · exact inside
    next found table' result =>
      -- The copy passes the place where it was found, hence every slot of the table.
      obtain ⟨sound, below'⟩ := search_sound _ _ _ _ _ _ _ below positive (by decide) result
      obtain ⟨bounded, behind, reach, passed, room, agree⟩ := copy_sound sound above
      have size : text.packed.size = text.length := rfl
      dsimp only
      rw [steps_done]
      generalize extendBack text.packed literal found.earlier found.pos = start at *
      generalize agreement text.packed (text.packed.size - 6) text.packed.size
        (start.earlier + minMatch) (start.pos + minMatch) 0 = extra at *
      have rest := ih (start.pos + minMatch + extra) (start.pos + minMatch + extra)
        (table'.setIfInBounds (slot text.packed (start.pos + minMatch + extra - 2))
          (start.pos + minMatch + extra - 2))
        ((below'.mono passed).set (by omega)) (by omega) (Nat.le_refl _) (by omega)
      have here : literal + (start.pos - literal) = start.pos := by omega
      simp only [List.reverse_singleton, List.singleton_append, Plan.Fits, here]
      refine ⟨by omega, by omega, reach, by omega, fun i inside => ?_, ?_⟩
      · rw [show start.pos + i - (start.pos - start.earlier) = start.earlier + i by omega]
        exact agree.getElem? inside (Nat.le_of_lt behind) (by omega)
      · rw [← Nat.add_assoc]
        exact rest

/-- **Soundness of the matcher.** The plan of a text fits it. -/
theorem plan_fits (text : Bytes) : Plan.Fits text 0 (plan text) := by
  unfold plan
  split
  · exact Nat.zero_le _
  · exact steps_fits text _ _ _ _ (Table.below_empty.set (by decide)) (by decide) (by decide)
      (Nat.zero_le _)

end SealedTokens.Lz4.Matcher
