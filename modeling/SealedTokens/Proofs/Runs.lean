/-!
# Runs

A run of elements that pass a test is taken off the front of a list whole, if what follows it
does not pass.
-/
namespace SealedTokens

variable {α : Type}

/-- What stands first in a list, if anything does, fails a test. -/
def Stops (p : α → Bool) (rest : List α) : Prop := ∀ a, rest.head? = some a → p a = false

theorem Stops.nil (p : α → Bool) : Stops p [] := by simp [Stops]

theorem Stops.cons {p : α → Bool} {a : α} {rest : List α} (h : p a = false) :
    Stops p (a :: rest) := by
  intro b first
  cases first
  exact h

theorem stops_dropWhile (p : α → Bool) (text : List α) : Stops p (text.dropWhile p) := by
  intro a first
  simpa [first] using List.head?_dropWhile_not p text

theorem Stops.takeWhile_eq_nil {p : α → Bool} {rest : List α} (stops : Stops p rest) :
    rest.takeWhile p = [] := by
  cases rest with
  | nil => rfl
  | cons a rest => simp [stops a rfl]

theorem Stops.dropWhile_eq {p : α → Bool} {rest : List α} (stops : Stops p rest) :
    rest.dropWhile p = rest := by
  cases rest with
  | nil => rfl
  | cons a rest => simp [stops a rfl]

theorem takeWhile_run {p : α → Bool} {run rest : List α} (all : ∀ a ∈ run, p a = true)
    (stops : Stops p rest) : (run ++ rest).takeWhile p = run := by
  rw [List.takeWhile_append_of_pos all, stops.takeWhile_eq_nil, List.append_nil]

theorem dropWhile_run {p : α → Bool} {run rest : List α} (all : ∀ a ∈ run, p a = true)
    (stops : Stops p rest) : (run ++ rest).dropWhile p = rest := by
  rw [List.dropWhile_append_of_pos all, stops.dropWhile_eq]

section Marks

variable [DecidableEq α] {mark : α} {front : List α}

theorem passes_of_notMem (clear : mark ∉ front) : ∀ a ∈ front, decide (a ≠ mark) = true :=
  fun _ member => decide_eq_true fun same => clear (same ▸ member)

/-- The first mark is where a list is cut. -/
theorem cut_at_mark (clear : mark ∉ front) (back : List α) :
    (front ++ mark :: back).takeWhile (· ≠ mark) = front ∧
      (front ++ mark :: back).dropWhile (· ≠ mark) = mark :: back := by
  have stops : Stops (fun a => decide (a ≠ mark)) (mark :: back) := .cons (by simp)
  exact ⟨takeWhile_run (passes_of_notMem clear) stops, dropWhile_run (passes_of_notMem clear) stops⟩

end Marks

end SealedTokens
