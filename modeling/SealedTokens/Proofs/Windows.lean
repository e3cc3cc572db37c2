import SealedTokens.Container.Basic
import SealedTokens.Proofs.Instants
/-!
# Windows

Where a window ends, and how long an instant stays inside a window that is moved in time.

## Main results

- `windowEnd_eq_ok`: the end of a window of a second or more
- `windowEnd_carried`: what tokens carry of a window is a window again
- `lt_of_recent`: who comes back soon enough comes back before the window ends
-/
namespace SealedTokens

/-! ### Ends of windows -/

theorem windowEnd_eq_ok {start stop : Instant} {ttl : Span} : windowEnd start ttl = .ok stop ↔
    ttl.exceeds longestShift = false ∧ start.add? ttl = some stop := by
  unfold windowEnd
  simp only
  split
  next long => simp [long]
  next short =>
    cases start.add? ttl <;> simp [Bool.eq_false_iff.mpr short]

/-- The whole calendar is shorter than what it can be moved by. -/
theorem windowEnd_of_add? {start stop : Instant} {ttl : Span} (ends : start.add? ttl = some stop) :
    windowEnd start ttl = .ok stop := by
  refine windowEnd_eq_ok.mpr ⟨?_, ends⟩
  rw [Bool.eq_false_iff, ne_eq, Span.exceeds_iff]
  have long : longestShift.toNanos = 9223372036854775807000000 := rfl
  have low := start.in_calendar
  have high := stop.in_calendar
  have fraction := ttl.nanos_lt
  simp only [Span.toNanos] at long ⊢
  -- Inside a leap second the span has no seconds, and elsewhere they lead from one second of the
  -- calendar to another.
  unfold Instant.add? at ends
  split at ends
  next inside => omega
  next outside =>
    obtain ⟨-, secs, -⟩ := Instant.at?_eq_some.mp ends
    omega

namespace Header

theorem validate_eq_ok {h : Header} {now : Instant} : h.validate now = .ok () ↔
    h.version = currentVersion ∧ h.validAfter < now ∧ now < h.validBefore := by
  unfold validate
  rw [← Instant.not_le, ← Instant.not_le]
  constructor
  · intro valid
    split at valid
    · cases valid
    next version =>
      split at valid
      · cases valid
      next begun =>
        split at valid
        · cases valid
        next open' => exact ⟨Decidable.not_not.mp version, begun, open'⟩
  · rintro ⟨version, begun, open'⟩
    simp only [version, begun, open', ne_eq, not_true_eq_false, ite_false]

theorem validate_eq_error {h : Header} {now : Instant} {e : ContainerError}
    (refused : h.validate now = .error e) :
    h.version ≠ currentVersion ∨ now ≤ h.validAfter ∨ h.validBefore ≤ now := by
  unfold validate at refused
  split at refused
  next version => exact .inl version
  · split at refused
    next early => exact .inr (.inl early)
    · split at refused
      next late => exact .inr (.inr late)
      · cases refused

end Header

/-! ### Windows that move -/

/-- What is left of a span once another one is taken off. -/
def Span.less (a b : Span) : Span := .ofNanos (a.toNanos - b.toNanos)

/-- At `last` the window that starts at `start` is not older than `refresh`. -/
def Recent (refresh : Span) (start last : Instant) : Prop :=
  ∀ due, windowEnd start refresh = .ok due → last ≤ due

section Moving

variable {start last now stop deadline : Instant} {maxAge refresh : Span}

theorem Span.secs_le_of_lt {a b : Span} (less : a.toNanos < b.toNanos) : a.secs ≤ b.secs := by
  have fractionA := a.nanos_lt
  have fractionB := b.nanos_lt
  simp only [toNanos] at less
  omega

theorem windowEnd_long (long : 1 ≤ maxAge.secs) : windowEnd start maxAge = .ok stop ↔
    maxAge.exceeds longestShift = false ∧ stop.nanos < 1000000000 ∧
      stop.count = start.count + maxAge.toNanos := by
  rw [windowEnd_eq_ok, Instant.add?_eq_some long]

/-- A shorter span leads less far, so it stays in the calendar. -/
theorem exists_windowEnd (long : 1 ≤ refresh.secs) (less : refresh.toNanos < maxAge.toNanos)
    (ends : windowEnd start maxAge = .ok stop) : ∃ due, windowEnd start refresh = .ok due := by
  obtain ⟨fits, fraction, sum⟩ :=
    (windowEnd_long (Nat.le_trans long (Span.secs_le_of_lt less))).mp ends
  have short : refresh.exceeds longestShift = false := by
    rw [Bool.eq_false_iff, ne_eq, Span.exceeds_iff] at fits ⊢
    omega
  -- The earlier end lies between the start and the later end, which are both in the calendar.
  let n : Int := start.count + refresh.toNanos
  have low : -8334601228800 ≤ n / 1000000000 := by
    have bound := start.in_calendar.1
    simp only [n, Instant.count]
    omega
  have high : n / 1000000000 ≤ 8210266876799 := by
    have bound := stop.in_calendar.2
    simp only [n, Instant.count] at sum ⊢
    omega
  refine ⟨⟨n / 1000000000, (n % 1000000000).toNat, ⟨low, high⟩, by omega⟩,
    (windowEnd_long long).mpr ⟨short, by simp only; omega, ?_⟩⟩
  simp only [Instant.count, n]
  omega

theorem Backend.secs_carried (backend : Backend) (t : Instant) :
    (backend.carried t).secs = t.secs := by
  cases backend <;> rfl

/-- Tokens that carry seconds carry the end of a window of whole seconds with its start. -/
theorem windowEnd_carried (backend : Backend) (long : 1 ≤ maxAge.secs)
    (whole : backend.kind = .jwt → maxAge.nanos = 0) (ends : windowEnd start maxAge = .ok stop) :
    windowEnd (backend.carried start) maxAge = .ok (backend.carried stop) := by
  cases backend with
  | sealed codec => exact ends
  | signed signer =>
    have whole : maxAge.nanos = 0 := whole rfl
    obtain ⟨fits, fraction, sum⟩ := (windowEnd_long long).mp ends
    refine (windowEnd_long long).mpr ⟨fits, ?_, ?_⟩
    · show (0 : Nat) < 1000000000
      decide
    · simp only [Instant.count, Span.toNanos, whole, Backend.carried, Instant.wholeSeconds] at sum ⊢
      omega

/-- A window is recent when it was just moved. -/
theorem recent_carried (backend : Backend) (long : 1 ≤ refresh.secs) (now : Instant) :
    Recent refresh (backend.carried now) now := by
  intro due ends
  obtain ⟨-, fraction, sum⟩ := (windowEnd_long long).mp ends
  have second := backend.secs_carried now
  have span := refresh.nanos_lt
  -- A second later, no fraction of this second counts.
  refine Instant.le_iff.mpr (.inl ?_)
  simp only [Instant.count, Span.toNanos, second] at sum
  omega

/-- Who was there when the window was recent, and comes back before the rest of the window is over,
finds it open. -/
theorem lt_of_recent (second : 1 ≤ refresh.secs) (less : refresh.toNanos < maxAge.toNanos)
    (ends : windowEnd start maxAge = .ok stop) (recent : Recent refresh start last)
    (back : windowEnd last (maxAge.less refresh) = .ok deadline) (soon : now < deadline) :
    now < stop := by
  have long := Nat.le_trans second (Span.secs_le_of_lt less)
  obtain ⟨due, dueEnds⟩ := exists_windowEnd second less ends
  obtain ⟨-, stopFraction, stopCount⟩ := (windowEnd_long long).mp ends
  obtain ⟨-, dueFraction, dueCount⟩ := (windowEnd_long second).mp dueEnds
  have last_le := recent due dueEnds
  have rest : (maxAge.less refresh).toNanos = maxAge.toNanos - refresh.toNanos :=
    Span.toNanos_ofNanos _
  obtain ⟨fraction, count⟩ | ⟨leap, same⟩ := Instant.add?_cases (windowEnd_eq_ok.mp back).2
  -- The deadline is as far behind the end as `last` is behind the instant when the window is due.
  · have lastCount := Instant.count_le_of_le last_le dueFraction
    refine Instant.lt_of_lt_of_le soon (Instant.le_of_count_le fraction stopFraction ?_)
    omega
  -- Inside a leap second no fraction leads beyond it, and the window ends later.
  · have earlier : last.secs < due.secs := by
      rw [Instant.le_iff] at last_le
      omega
    have later : due.secs ≤ stop.secs := by
      have apart : due.count < stop.count := by omega
      simp only [Instant.count] at apart
      omega
    rw [Instant.lt_iff] at soon ⊢
    omega

end Moving

end SealedTokens
