import SealedTokens.Csrf.Error
import SealedTokens.Proofs.Outcomes
import SealedTokens.Session.Error
/-!
# Errors about the configuration

Some computations have one way to fail: there is a result if a condition holds, and an error about
the configuration if it does not.

## Main results

- `HangsOn`: a result that is there if and only if a condition holds, and an error of a given kind
  otherwise
- `HangsOn.bind`, `HangsOn.andThen`: what follows such a step always succeeds, or is one itself
-/
namespace SealedTokens

/-- An error about the configuration. -/
def ContainerError.IsConfiguration (e : ContainerError) : Prop :=
  ∃ message, e.cause = .configuration message

/-- A container's error about the configuration, in a session. -/
def SessionError.IsConfiguration (e : SessionError) : Prop :=
  ∃ source, e.cause = .container source ∧ source.IsConfiguration

/-- A container's error about the configuration, in an anti-forgery token. -/
def CsrfError.IsConfiguration (e : CsrfError) : Prop :=
  ∃ source, e.cause = .container source ∧ source.IsConfiguration

/-- There is a result if the condition holds, and an error of the kind if it does not. -/
structure HangsOn {ε α : Type} (condition : Prop) (kind : ε → Prop) (result : Except ε α) :
    Prop where
  returns : condition → ∃ a, result = .ok a
  fails : ¬ condition → ∃ e, result = .error e ∧ kind e

namespace HangsOn

variable {ε δ α β : Type} {condition condition' : Prop} {kind : ε → Prop} {step : Except ε α}
  {next : α → Except ε β}

theorem of_ok {a : α} (holds : condition) : HangsOn condition kind (.ok a : Except ε α) where
  returns _ := ⟨a, rfl⟩
  fails lacks := absurd holds lacks

theorem of_error {e : ε} (lacks : ¬ condition) (isKind : kind e) :
    HangsOn condition kind (.error e : Except ε α) where
  returns holds := absurd holds lacks
  fails _ := ⟨e, rfl, isKind⟩

theorem of_iff (hangs : HangsOn condition kind step) (same : condition ↔ condition') :
    HangsOn condition' kind step where
  returns holds := hangs.returns (same.mpr holds)
  fails lacks := hangs.fails fun holds => lacks (same.mp holds)

theorem of_eq_ok (hangs : HangsOn condition kind step) {a : α} (returned : step = .ok a) :
    condition := by
  refine Classical.byContradiction fun lacks => ?_
  obtain ⟨e, failed, -⟩ := hangs.fails lacks
  cases returned.symm.trans failed

theorem of_eq_error (hangs : HangsOn condition kind step) {e : ε} (failed : step = .error e) :
    ¬ condition ∧ kind e := by
  have lacks : ¬ condition := by
    intro holds
    obtain ⟨a, returned⟩ := hangs.returns holds
    cases failed.symm.trans returned
  obtain ⟨e', failed', isKind⟩ := hangs.fails lacks
  cases failed.symm.trans failed'
  exact ⟨lacks, isKind⟩

/-- What hangs on a condition hangs on it where that matters. -/
theorem when {matters : Prop} (hangs : HangsOn condition kind step) (holds : matters) :
    HangsOn (matters → condition) kind step :=
  hangs.of_iff ⟨fun condition _ => condition, fun follows => follows holds⟩

/-- What always succeeds may follow. -/
theorem bind (hangs : HangsOn condition kind step)
    (goes : condition → ∀ a, step = .ok a → ∃ b, next a = .ok b) :
    HangsOn condition kind (step >>= next) where
  returns holds := by
    obtain ⟨a, returned⟩ := hangs.returns holds
    obtain ⟨b, returned'⟩ := goes holds a returned
    exact ⟨b, bind_eq_ok.mpr ⟨a, returned, returned'⟩⟩
  fails lacks := by
    obtain ⟨e, failed, isKind⟩ := hangs.fails lacks
    exact ⟨e, bind_eq_error.mpr (.inl failed), isKind⟩

/-- What hangs on a further condition may follow. -/
theorem andThen (hangs : HangsOn condition kind step)
    (follows : ∀ a, HangsOn condition' kind (next a)) :
    HangsOn (condition ∧ condition') kind (step >>= next) where
  returns := by
    rintro ⟨holds, holds'⟩
    obtain ⟨a, returned⟩ := hangs.returns holds
    obtain ⟨b, returned'⟩ := (follows a).returns holds'
    exact ⟨b, bind_eq_ok.mpr ⟨a, returned, returned'⟩⟩
  fails lacks := by
    by_cases holds : condition
    · obtain ⟨a, returned⟩ := hangs.returns holds
      obtain ⟨e, failed, isKind⟩ := (follows a).fails fun holds' => lacks ⟨holds, holds'⟩
      exact ⟨e, bind_eq_error.mpr (.inr ⟨a, returned, failed⟩), isKind⟩
    · obtain ⟨e, failed, isKind⟩ := hangs.fails holds
      exact ⟨e, bind_eq_error.mpr (.inl failed), isKind⟩

/-- An error may be wrapped. -/
theorem mapError {kind' : δ → Prop} {wrap : ε → δ} (hangs : HangsOn condition kind step)
    (wraps : ∀ e, kind e → kind' (wrap e)) : HangsOn condition kind' (step.mapError wrap) where
  returns holds := by
    obtain ⟨a, rfl⟩ := hangs.returns holds
    exact ⟨a, rfl⟩
  fails lacks := by
    obtain ⟨e, rfl, isKind⟩ := hangs.fails lacks
    exact ⟨wrap e, rfl, wraps e isKind⟩

theorem map (hangs : HangsOn condition kind step) (f : α → β) :
    HangsOn condition kind (step.map f) where
  returns holds := by
    obtain ⟨a, rfl⟩ := hangs.returns holds
    exact ⟨f a, rfl⟩
  fails lacks := by
    obtain ⟨e, rfl, isKind⟩ := hangs.fails lacks
    exact ⟨e, rfl, isKind⟩

end HangsOn

/-- A container's step in a session hangs on what it hangs on by itself. -/
theorem SessionError.hangsOn_lift {α : Type} {condition : Prop} {step : Except ContainerError α}
    (hangs : HangsOn condition ContainerError.IsConfiguration step) :
    HangsOn condition SessionError.IsConfiguration (SessionError.lift step) :=
  hangs.mapError fun e isConfiguration => ⟨e, rfl, isConfiguration⟩

end SealedTokens
