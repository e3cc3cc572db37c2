import SealedTokens.Time.Instant
/-!
# Instants

The order of instants, the spans between them, and what writing an instant keeps of it.

## Main results

- `Instant.add?_eq_some`, `Instant.later_of_add?`: where a span leads
- `Instant.lt_of_add?`, `Instant.exists_between`: which spans lead later, and which leave room
- `Instant.onClock_of_add?`, `Instant.onClock_of_at?`: clocks show what they lead to
- `Instant.shown_eq_iff`, `Instant.le_shown`: writing moves only what no clock shows, and that later
- `Instant.shown_lt_of_add?`, `Instant.exists_between_shown`: which spans are left when both ends of
  them are written

Instants are ordered by the second first and by the fraction next, and a leap second has a fraction
of a second or more. Moving an instant by a second or more leads out of a leap second, and is then
an addition of nanoseconds (`Instant.count`).
-/
namespace SealedTokens

namespace Instant

variable {a b c : Instant}

theorem lt_iff : a < b ↔ a.secs < b.secs ∨ a.secs = b.secs ∧ a.nanos < b.nanos := by
  show a.before b = true ↔ _
  simp [before]

theorem not_le : ¬ a ≤ b ↔ b < a := by
  show ¬ b.before a = false ↔ b.before a = true
  rw [Bool.not_eq_false]

theorem le_iff : a ≤ b ↔ a.secs < b.secs ∨ a.secs = b.secs ∧ a.nanos ≤ b.nanos := by
  rw [← Decidable.not_not (p := a ≤ b), not_le, lt_iff]
  omega

theorem le_refl (a : Instant) : a ≤ a := le_iff.mpr (.inr ⟨rfl, Nat.le_refl _⟩)

theorem le_of_lt (before : a < b) : a ≤ b := by
  rw [lt_iff] at before
  rw [le_iff]
  omega

theorem lt_of_le_of_lt (first : a ≤ b) (second : b < c) : a < c := by
  rw [le_iff] at first
  rw [lt_iff] at second ⊢
  omega

theorem lt_of_lt_of_le (first : a < b) (second : b ≤ c) : a < c := by
  rw [le_iff] at second
  rw [lt_iff] at first ⊢
  omega

theorem le_trans (first : a ≤ b) (second : b ≤ c) : a ≤ c := by
  rw [le_iff] at first second ⊢
  omega

theorem wholeSeconds_le (t : Instant) : t.wholeSeconds ≤ t :=
  le_iff.mpr (.inr ⟨rfl, Nat.zero_le _⟩)

/-- Nanoseconds since 1970, where a leap second counts as the second that it extends. -/
def count (t : Instant) : Int := t.secs * 1000000000 + (t.nanos % 1000000000 : Nat)

theorem count_le_of_le (before : a ≤ b) (fraction : b.nanos < 1000000000) : a.count ≤ b.count := by
  rw [le_iff] at before
  simp only [count]
  omega

/-- Outside leap seconds the count decides. -/
theorem le_of_count_le (fractionA : a.nanos < 1000000000) (fractionB : b.nanos < 1000000000)
    (less : a.count ≤ b.count) : a ≤ b := by
  rw [le_iff]
  simp only [count] at less
  omega

theorem at?_eq_some {secs : Int} {nanos : Nat} {t : Instant} :
    at? secs nanos = some t ↔ t.OnClock ∧ t.secs = secs ∧ t.nanos = nanos := by
  unfold at? OnClock
  constructor
  · intro made
    split at made
    next inside =>
      cases made
      exact ⟨inside.2.imp_right And.right, rfl, rfl⟩
    · cases made
  · rintro ⟨shown, rfl, rfl⟩
    exact dif_pos ⟨t.in_calendar, shown.imp_right fun last => ⟨t.nanos_valid, last⟩⟩

/-- A span of a second or more adds its nanoseconds. -/
theorem add?_eq_some {span : Span} (long : 1 ≤ span.secs) :
    a.add? span = some b ↔ b.nanos < 1000000000 ∧ b.count = a.count + span.toNanos := by
  have fraction := span.nanos_lt
  have out : ¬ (a.nanos ≥ 1000000000 ∧ span.secs = 0 ∧ a.nanos + span.nanos < 2000000000) := by
    omega
  rw [add?, dif_neg out, at?_eq_some]
  simp only [OnClock, count, Span.toNanos]
  omega

/-- A shorter span does so as well, or does not lead out of a leap second. -/
theorem add?_cases {span : Span} (made : a.add? span = some b) :
    b.nanos < 1000000000 ∧ b.count = a.count + span.toNanos ∨
      1000000000 ≤ a.nanos ∧ b.secs = a.secs := by
  have fraction := span.nanos_lt
  unfold add? at made
  split at made
  next inside =>
    cases made
    exact .inr ⟨inside.1, rfl⟩
  next outside =>
    obtain ⟨-, secs, nanos⟩ := at?_eq_some.mp made
    refine .inl ?_
    simp only [count, Span.toNanos]
    omega

/-- A span leads to a later second, unless it is a fraction that is added to this one's. -/
theorem later_of_add? {span : Span} (made : a.add? span = some b) :
    a.secs < b.secs ∨ span.secs = 0 ∧ b.secs = a.secs ∧ b.nanos = a.nanos + span.nanos := by
  have fraction := span.nanos_lt
  have valid := a.nanos_valid
  unfold add? at made
  split at made
  next inside =>
    cases made
    exact .inr ⟨inside.2.1, rfl, rfl⟩
  next outside =>
    obtain ⟨-, secs, nanos⟩ := at?_eq_some.mp made
    omega

theorem le_of_add? {span : Span} (made : a.add? span = some b) : a ≤ b := by
  have later := later_of_add? made
  rw [le_iff]
  omega

/-- Two instants are apart if the span between them is not zero. -/
theorem lt_of_add? {span : Span} (positive : 0 < span.toNanos) (made : a.add? span = some b) :
    a < b := by
  have later := later_of_add? made
  rw [lt_iff]
  simp only [Span.toNanos] at positive
  omega

/-- Strictly between two instants there is another one if they are two nanoseconds apart. -/
theorem exists_between {span : Span} (two : 2 ≤ span.toNanos) (made : a.add? span = some b) :
    ∃ t, a < t ∧ t < b := by
  have validA := a.nanos_valid
  have validB := b.nanos_valid
  simp only [Span.toNanos] at two
  have next : a.nanos < a.nanos + 1 := Nat.lt_succ_self _
  obtain later | ⟨none, same, nanos⟩ := later_of_add? made
  · by_cases room : a.nanos + 1 < 2000000000
    · exact ⟨⟨a.secs, a.nanos + 1, a.in_calendar, room⟩, lt_iff.mpr (.inr ⟨rfl, next⟩),
        lt_iff.mpr (.inl later)⟩
    -- The second is over after one more nanosecond, and the next one begins before `b`.
    · have first := a.in_calendar
      have last := b.in_calendar
      refine ⟨⟨a.secs + 1, 0, by omega, by decide⟩, lt_iff.mpr (.inl (Int.lt_succ _)),
        lt_iff.mpr ?_⟩
      obtain ⟨fraction, sum⟩ | ⟨-, same⟩ := add?_cases made
      · simp only [count, Span.toNanos] at sum ⊢
        omega
      · omega
  · have less : a.nanos + 1 < b.nanos := by omega
    exact ⟨⟨a.secs, a.nanos + 1, a.in_calendar, by omega⟩, lt_iff.mpr (.inr ⟨rfl, next⟩),
      lt_iff.mpr (.inr ⟨same.symm, less⟩)⟩

/-! ### What clocks show -/

theorem onClock_of_at? {secs : Int} {nanos : Nat} {t : Instant} (made : at? secs nanos = some t) :
    t.OnClock :=
  (at?_eq_some.mp made).1

/-- From a time that a clock shows, a span leads to one. -/
theorem onClock_of_add? {span : Span} (clock : a.OnClock) (made : a.add? span = some b) :
    b.OnClock := by
  unfold add? at made
  split at made
  next inside =>
    cases made
    simp only [OnClock] at clock ⊢
    omega
  next outside => exact onClock_of_at? made

theorem shown_of_onClock {t : Instant} (clock : t.OnClock) : t.shown = t := dif_pos clock

theorem shown_of_not_onClock {t : Instant} (hidden : ¬ t.OnClock) :
    t.shown.secs = t.secs + 1 ∧ t.shown.nanos = t.nanos - 1000000000 := by
  rw [shown, dif_neg hidden]
  exact ⟨rfl, rfl⟩

theorem onClock_shown (t : Instant) : t.shown.OnClock := by
  by_cases clock : t.OnClock
  · rw [shown_of_onClock clock]
    exact clock
  · have valid := t.nanos_valid
    obtain ⟨-, nanos⟩ := shown_of_not_onClock clock
    simp only [OnClock, nanos]
    omega

/-- Writing keeps an instant exactly if a clock shows it. -/
theorem shown_eq_iff {t : Instant} : t.shown = t ↔ t.OnClock := by
  refine ⟨fun same => ?_, shown_of_onClock⟩
  rw [← same]
  exact onClock_shown t

example : shown ⟨4, 1333333333, by decide, by decide⟩ = ⟨5, 333333333, by decide, by decide⟩ := by
  decide

theorem shown_shown (t : Instant) : t.shown.shown = t.shown := shown_of_onClock (onClock_shown t)

theorem le_shown (t : Instant) : t ≤ t.shown := by
  by_cases clock : t.OnClock
  · rw [shown_of_onClock clock]
    exact le_refl t
  · refine le_iff.mpr (.inl ?_)
    rw [(shown_of_not_onClock clock).1]
    exact Int.lt_succ _

theorem secs_shown (t : Instant) : t.secs ≤ t.shown.secs ∧ t.shown.secs ≤ t.secs + 1 := by
  by_cases clock : t.OnClock
  · rw [shown_of_onClock clock]
    omega
  · have next := (shown_of_not_onClock clock).1
    omega

/-- From a time that no clock shows, a span of a second or more leads to one that a clock shows, so
that writing both takes a second off the span. -/
theorem count_of_add?_hidden {span : Span} (hidden : ¬ a.OnClock) (long : 1 ≤ span.secs)
    (made : a.add? span = some b) :
    a.shown.nanos < 1000000000 ∧ b.nanos < 1000000000 ∧
      b.count + 1000000000 = a.shown.count + span.toNanos := by
  have valid := a.nanos_valid
  obtain ⟨secs, nanos⟩ := shown_of_not_onClock hidden
  obtain ⟨fraction, sum⟩ := (add?_eq_some long).mp made
  refine ⟨by omega, fraction, ?_⟩
  simp only [OnClock] at hidden
  simp only [count, secs, nanos] at sum ⊢
  omega

/-- The written ends of a span are apart if a clock shows where it starts, or if it is longer than
the second that writing may take off it. -/
theorem shown_lt_of_add? {span : Span}
    (long : a.OnClock ∧ 1 ≤ span.toNanos ∨ 1000000001 ≤ span.toNanos)
    (made : a.add? span = some b) : a.shown < b.shown := by
  have fraction := span.nanos_lt
  by_cases clock : a.OnClock
  · rw [shown_of_onClock clock, shown_of_onClock (onClock_of_add? clock made)]
    exact lt_of_add? (by omega) made
  · have long := long.resolve_left fun shown => clock shown.1
    have second : 1 ≤ span.secs := by
      simp only [Span.toNanos] at long
      omega
    obtain ⟨fraction, fraction', sum⟩ := count_of_add?_hidden clock second made
    rw [shown_of_onClock (show b.OnClock from .inl fraction'), lt_iff]
    simp only [count] at sum
    omega

/-- With a nanosecond more there is room between them. -/
theorem exists_between_shown {span : Span}
    (long : a.OnClock ∧ 2 ≤ span.toNanos ∨ 1000000002 ≤ span.toNanos)
    (made : a.add? span = some b) : ∃ t, a.shown < t ∧ t < b.shown := by
  have fraction := span.nanos_lt
  by_cases clock : a.OnClock
  · rw [shown_of_onClock clock, shown_of_onClock (onClock_of_add? clock made)]
    exact exists_between (by omega) made
  · have long := long.resolve_left fun shown => clock shown.1
    have second : 1 ≤ span.secs := by
      simp only [Span.toNanos] at long
      omega
    obtain ⟨fraction, fraction', sum⟩ := count_of_add?_hidden clock second made
    rw [shown_of_onClock (show b.OnClock from .inl fraction')]
    refine ⟨⟨a.shown.secs, a.shown.nanos + 1, a.shown.in_calendar, by omega⟩,
      lt_iff.mpr (.inr ⟨rfl, Nat.lt_succ_self _⟩), lt_iff.mpr ?_⟩
    simp only [count] at sum ⊢
    omega

end Instant

end SealedTokens
