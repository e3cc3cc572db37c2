import SealedTokens.Entropy
/-!
# Outcomes

Outcomes of computations: what a step in front of others has to return for the whole to succeed or
to fail, and what a computation returns that draws from a source.
-/
namespace SealedTokens

section Steps

variable {ε α β : Type} {step : Except ε α} {next : α → Except ε β}

theorem bind_eq_ok {b : β} : step >>= next = .ok b ↔ ∃ a, step = .ok a ∧ next a = .ok b := by
  cases step with
  | error e =>
    refine ⟨fun returned => ?_, fun ⟨a, returned, _⟩ => ?_⟩ <;> cases returned
  | ok a =>
    refine ⟨fun returned => ⟨a, rfl, returned⟩, fun ⟨a', same, returned⟩ => ?_⟩
    cases same
    exact returned

theorem bind_eq_error {e : ε} : step >>= next = .error e ↔
    step = .error e ∨ ∃ a, step = .ok a ∧ next a = .error e := by
  cases step with
  | error e' =>
    refine ⟨fun failed => ?_, ?_⟩
    · cases failed
      exact .inl rfl
    · rintro (same | ⟨a, returned, -⟩)
      · cases same
        rfl
      · cases returned
  | ok a =>
    refine ⟨fun failed => .inr ⟨a, rfl, failed⟩, ?_⟩
    rintro (failed | ⟨a', same, failed⟩)
    · cases failed
    · cases same
      exact failed

theorem mapError_eq_ok {δ : Type} {wrap : ε → δ} {a : α} :
    step.mapError wrap = .ok a ↔ step = .ok a := by
  cases step <;> constructor <;> intro same <;> cases same <;> rfl

end Steps

/-- What every step of a fold keeps is kept by the fold. -/
theorem foldlM_invariant {ε α β : Type} {P : β → Prop} {f : β → α → Except ε β}
    (step : ∀ b a b', P b → f b a = .ok b' → P b') {items : List α} {first last : β}
    (start : P first) (folded : items.foldlM f first = .ok last) : P last := by
  induction items generalizing first with
  | nil =>
    cases folded
    exact start
  | cons a items ih =>
    rw [List.foldlM_cons] at folded
    obtain ⟨next, one, rest⟩ := bind_eq_ok.mp folded
    exact ih (step first a next start one) rest

/-- A fold succeeds if every step does from where the steps before it lead. -/
theorem exists_foldlM {ε α β : Type} {P : β → Prop} {f : β → α → Except ε β}
    (step : ∀ b a, P b → ∃ b', f b a = .ok b' ∧ P b') (items : List α) {first : β}
    (start : P first) : ∃ last, items.foldlM f first = .ok last := by
  induction items generalizing first with
  | nil => exact ⟨first, rfl⟩
  | cons a items ih =>
    obtain ⟨next, one, kept⟩ := step first a start
    obtain ⟨last, rest⟩ := ih kept
    exact ⟨last, bind_eq_ok.mpr ⟨next, one, rest⟩⟩

namespace ContainerError

/-- An error about the form of a token. -/
def IsFormat (e : ContainerError) : Prop := ∃ message, e.cause = .format message

/-- An error about who made a token. -/
def IsDecrypt (e : ContainerError) : Prop := ∃ message, e.cause = .decrypt message

theorem IsFormat.isFormatOrDecrypt {e : ContainerError} (isFormat : e.IsFormat) :
    e.isFormatOrDecrypt = true := by
  obtain ⟨message, cause⟩ := isFormat
  rw [ContainerError.isFormatOrDecrypt, cause]

theorem IsDecrypt.isFormatOrDecrypt {e : ContainerError} (isDecrypt : e.IsDecrypt) :
    e.isFormatOrDecrypt = true := by
  obtain ⟨message, cause⟩ := isDecrypt
  rw [ContainerError.isFormatOrDecrypt, cause]

end ContainerError

/-- The result of a computation that draws from a source. -/
def Drawing.outcome {ε α : Type} (action : Drawing ε α) (source : Entropy) : Except ε α :=
  (action.run.run source).1

namespace Drawing

variable {ε δ α β : Type}

theorem run_bind (action : Drawing ε α) (next : α → Drawing ε β) (source : Entropy) :
    (action >>= next).run.run source =
      match action.run.run source with
      | (.error e, source') => (.error e, source')
      | (.ok a, source') => (next a).run.run source' := by
  rw [ExceptT.run_bind, StateT.run_bind]
  rcases action.run.run source with ⟨_ | a, source'⟩ <;> rfl

theorem outcome_map (action : Drawing ε α) (f : α → β) (source : Entropy) :
    Drawing.outcome (action >>= fun a => pure (f a)) source = (action.outcome source).map f := by
  unfold outcome
  rw [run_bind]
  rcases action.run.run source with ⟨_ | a, next⟩ <;> rfl

theorem outcome_bind_eq_ok {action : Drawing ε α} {next : α → Drawing ε β} {source : Entropy}
    {b : β} : Drawing.outcome (action >>= next) source = .ok b ↔
      ∃ a source', action.run.run source = (.ok a, source') ∧ (next a).outcome source' = .ok b := by
  unfold outcome
  rw [run_bind]
  rcases action.run.run source with ⟨_ | a, source'⟩
  · refine ⟨fun failed => ?_, fun ⟨_, _, failed, _⟩ => ?_⟩ <;> cases failed
  · refine ⟨fun returned => ⟨a, source', rfl, returned⟩, ?_⟩
    rintro ⟨_, _, same, returned⟩
    cases same
    exact returned

theorem outcome_bind_eq_error {action : Drawing ε α} {next : α → Drawing ε β} {source : Entropy}
    {e : ε} : Drawing.outcome (action >>= next) source = .error e ↔
      action.outcome source = .error e ∨
        ∃ a source', action.run.run source = (.ok a, source') ∧
          (next a).outcome source' = .error e := by
  unfold outcome
  rw [run_bind]
  rcases action.run.run source with ⟨e' | a, source'⟩
  · constructor
    · intro failed
      cases failed
      exact .inl rfl
    · rintro (failed | ⟨_, _, returned, _⟩)
      · cases failed
        rfl
      · cases returned
  · refine ⟨fun failed => .inr ⟨a, source', rfl, failed⟩, ?_⟩
    rintro (failed | ⟨_, _, same, failed⟩)
    · cases failed
    · cases same
      exact failed

theorem run_adapt (action : Drawing ε α) (f : ε → δ) (source : Entropy) :
    (action.adapt f).run.run source =
      ((action.run.run source).1.mapError f, (action.run.run source).2) := by
  rfl

theorem run_adapt_eq_ok {action : Drawing ε α} {f : ε → δ} {source source' : Entropy} {a : α} :
    (action.adapt f).run.run source = (.ok a, source') ↔
      action.run.run source = (.ok a, source') := by
  rw [run_adapt]
  rcases action.run.run source with ⟨_ | a', next⟩ <;>
    constructor <;> intro same <;> cases same <;> rfl

theorem outcome_adapt_eq_error {action : Drawing ε α} {f : ε → δ} {source : Entropy} {e : δ} :
    Drawing.outcome (action.adapt f) source = .error e ↔
      ∃ cause, action.outcome source = .error cause ∧ e = f cause := by
  unfold outcome
  rw [run_adapt]
  rcases action.run.run source with ⟨cause | a, next⟩
  · constructor
    · intro failed
      cases failed
      exact ⟨cause, rfl, rfl⟩
    · rintro ⟨_, same, rfl⟩
      cases same
      rfl
  · constructor
    · intro failed
      cases failed
    · rintro ⟨_, same, -⟩
      cases same

/-- Whatever a computation draws, the source is limited afterwards as it was before. -/
def Steady (action : Drawing ε α) : Prop :=
  ∀ source, (action.run.run source).2.limit = source.limit

theorem steady_pure (a : α) : Steady (pure a : Drawing ε α) := fun _ => rfl

theorem steady_throw (e : ε) : Steady (throw e : Drawing ε α) := fun _ => rfl

theorem Steady.bind {action : Drawing ε α} {next : α → Drawing ε β} (first : Steady action)
    (rest : ∀ a, Steady (next a)) : Steady (action >>= next) := by
  intro source
  have kept := first source
  rw [run_bind]
  rcases ran : action.run.run source with ⟨e | a, source'⟩ <;> rw [ran] at kept
  · exact kept
  · exact (rest a source').trans kept

theorem Steady.adapt {action : Drawing ε α} (steady : Steady action) (f : ε → δ) :
    Steady (action.adapt f) := steady

end Drawing

namespace Entropy

theorem length_draw {length : Nat} {source : Entropy} {bytes : Bytes}
    (drawn : (source.draw length).1 = some bytes) : bytes.length = length := by
  unfold draw at drawn
  split at drawn
  · cases drawn
  · cases drawn
    simp

theorem run_fill (length : Nat) (source : Entropy) :
    (fill length).run.run source =
      match source.draw length with
      | (some bytes, next) => (.ok bytes, next)
      | (none, next) => (.error (.internal "rng unavailable"), next) := by
  unfold fill
  rw [Drawing.run_bind]
  have taken : ((modifyGet (draw length) : Drawing ContainerError (Option Bytes)).run.run source) =
      (.ok (source.draw length).1, (source.draw length).2) := rfl
  rw [taken]
  rcases source.draw length with ⟨_ | bytes, next⟩ <;> rfl

theorem limit_draw (length : Nat) (source : Entropy) :
    (source.draw length).2.limit = source.limit := by
  unfold draw
  split <;> rfl

theorem steady_fill (length : Nat) : Drawing.Steady (fill length) := by
  intro source
  have drawn := limit_draw length source
  rw [run_fill]
  rcases ran : source.draw length with ⟨_ | bytes, next⟩ <;> rw [ran] at drawn <;> exact drawn

end Entropy

end SealedTokens
