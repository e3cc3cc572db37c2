import SealedTokens.Proofs.CalendarLimits
import SealedTokens.Proofs.Payloads
/-!
# Sessions that were just created

What a session is right after it was created for an instant. The options are applied at the clock
reading, and those that put an entry into the payload write to the session as a service does. So
they move its window to the clock reading, whatever instant the session was created for.

## Main results

- `Session.foldlM_apply_eq_ok`: what a list of options makes of a session
- `Sessions.createAt_eq_ok_iff`: the fresh session, in closed form
- `Sessions.fresh_window_iff`: whose window it has
- `Sessions.seeded_window_is_moved`: a session created for an instant that is not in its window

## Proof strategy

Of the options only those with an entry touch the state. The first of them moves the window, and the
others move it to the same place again; so the header depends on how many there are, and the payload
on the entries alone.
-/
namespace SealedTokens

/-- The entry that an option puts into the payload. -/
def SessionOption.seed? : SessionOption → Option (UInt32 × Bytes)
  | .payload key value => some (key, value)
  | .validator _ => none

/-- The validator that an option adds. -/
def SessionOption.validator? : SessionOption → Option Validator
  | .validator check => some check
  | .payload _ _ => none

/-- What becomes of a header when so many entries are written at an instant. -/
inductive Header.Dated (clock : Instant) (maxAge : Span) (backend : Backend) (first : Header) :
    Nat → Header → Prop where
  | unwritten : Dated clock maxAge backend first 0 first
  | written {stop : Instant} (ends : windowEnd clock maxAge = .ok stop) (more : Nat) :
    Dated clock maxAge backend first (more + 1) ⟨first.version,
      first.nonce + UInt64.ofNat (more + 1), backend.carried clock, backend.carried stop⟩

namespace Header

variable {clock : Instant} {maxAge : Span} {backend : Backend} {first header : Header} {count : Nat}

/-- The first entry of several moves the window to where the others leave it. -/
theorem dated_succ :
    first.Dated clock maxAge backend (count + 1) header ↔
      ∃ stop, windowEnd clock maxAge = .ok stop ∧ Dated clock maxAge backend
        ⟨first.version, first.nonce + 1, backend.carried clock, backend.carried stop⟩ count header := by
  have counted (n : Nat) : first.nonce + 1 + UInt64.ofNat n = first.nonce + UInt64.ofNat (n + 1) := by
    rw [UInt64.add_assoc, Nat.add_comm n 1, UInt64.ofNat_add]
    rfl
  constructor
  · rintro ⟨⟩
    rename_i stop ends
    refine ⟨stop, ends, ?_⟩
    cases count with
    | zero => exact .unwritten
    | succ more =>
      rw [← counted]
      exact .written ends more
  · rintro ⟨stop, ends, dated⟩
    cases dated with
    | unwritten => exact .written ends 0
    | written ends' more =>
      rw [counted]
      exact .written ends' (more + 1)

theorem exists_dated_iff :
    (∃ header, first.Dated clock maxAge backend count header) ↔ count = 0 ∨ Fits clock maxAge := by
  constructor
  · rintro ⟨_, unwritten | ⟨ends, more⟩⟩
    · exact .inl rfl
    · exact .inr ⟨_, (windowEnd_eq_ok.mp ends).2⟩
  · rintro (rfl | ⟨stop, ends⟩)
    · exact ⟨first, .unwritten⟩
    · cases count with
      | zero => exact ⟨first, .unwritten⟩
      | succ more => exact ⟨_, .written (windowEnd_of_add? ends) more⟩

theorem Dated.nonce_eq (dated : first.Dated clock maxAge backend count header) :
    header.nonce = first.nonce + UInt64.ofNat count := by
  cases dated with
  | unwritten => exact (UInt64.add_zero _).symm
  | written ends more => rfl

end Header

/-! ### Options -/

namespace Session

variable {s next session : Session} {clock : Instant} {options : List SessionOption}
  {header : Header}

/-- The session with a header, with the entries of options in its payload, and with their
validators behind those that it has. -/
def furnished (s : Session) (options : List SessionOption) (header : Header) : Session :=
  ⟨s.sessions, ⟨s.container.backend, ⟨header, (options.filterMap SessionOption.seed?).foldl
    (fun p entry => p.insert entry.1 entry.2) s.payload⟩⟩,
    s.validators ++ options.filterMap SessionOption.validator?⟩

theorem furnished_nil : s.furnished [] s.header = s := by
  show (⟨s.sessions, s.container, s.validators ++ []⟩ : Session) = s
  rw [List.append_nil]

theorem furnished_validator {check : Validator} :
    { s with validators := s.validators ++ [check] }.furnished options header =
      s.furnished (.validator check :: options) header := by
  have one : (SessionOption.validator check :: options).filterMap SessionOption.validator? =
    [check] ++ options.filterMap SessionOption.validator? := rfl
  rw [furnished, furnished, List.append_assoc, one]
  rfl

/-- An entry is written as a service writes it. -/
theorem apply_payload_eq_ok {key : UInt32} {value : Bytes} :
    s.apply clock (.payload key value) = .ok next ↔
      ∃ stop, windowEnd clock s.sessions.maxAge = .ok stop ∧
        next = (s.withData ⟨s.header, s.payload.insert key value⟩).moved clock stop := by
  let edited := s.withData ⟨s.header, s.payload.insert key value⟩
  have refreshes : edited.refreshAt clock = .ok next ↔ _ := refreshAt_eq_ok
  refine Iff.trans ?_ refreshes
  have written : s.set clock key value = edited.refreshed clock () := rfl
  rw [apply, written]
  cases moving : edited.refreshAt clock with
  | ok moved => rw [refreshed_of_ok moving]
  | error e => simp only [refreshed_of_error moving, reduceCtorEq]

/-- Options that are applied one after the other. -/
theorem foldlM_apply_eq_ok :
    options.foldlM (fun session option => session.apply clock option) s = .ok session ↔
      ∃ header, s.header.Dated clock s.sessions.maxAge s.container.backend
          (options.filterMap SessionOption.seed?).length header ∧
        session = s.furnished options header := by
  induction options generalizing s with
  | nil =>
    constructor
    · rintro ⟨⟩
      exact ⟨_, .unwritten, furnished_nil.symm⟩
    · rintro ⟨header, dated, rfl⟩
      cases dated
      exact congrArg Except.ok furnished_nil.symm
  | cons option options ih =>
    rw [List.foldlM_cons, bind_eq_ok]
    cases option with
    | validator check =>
      -- The state is as it was.
      constructor
      · rintro ⟨next, ⟨⟩, rest⟩
        obtain ⟨header, dated, rfl⟩ := ih.mp rest
        exact ⟨header, dated, furnished_validator⟩
      · rintro ⟨header, dated, rfl⟩
        exact ⟨_, rfl, ih.mpr ⟨header, dated, furnished_validator.symm⟩⟩
    | payload key value =>
      have one : (SessionOption.payload key value :: options).filterMap SessionOption.seed? =
        (key, value) :: options.filterMap SessionOption.seed? := rfl
      rw [one, List.length_cons]
      constructor
      · rintro ⟨next, applied, rest⟩
        obtain ⟨stop, ends, rfl⟩ := apply_payload_eq_ok.mp applied
        obtain ⟨header, dated, rfl⟩ := ih.mp rest
        exact ⟨header, Header.dated_succ.mpr ⟨stop, ends, dated⟩, rfl⟩
      · rintro ⟨header, dated, rfl⟩
        obtain ⟨stop, ends, dated⟩ := Header.dated_succ.mp dated
        exact ⟨_, apply_payload_eq_ok.mpr ⟨stop, ends, rfl⟩, ih.mpr ⟨header, dated, rfl⟩⟩

end Session

/-! ### Fresh sessions -/

namespace Sessions

variable {s : Sessions} {clock now first : Instant} {session : Session}

/-- The entries that the options put into every new session, in their order. -/
def seeds (s : Sessions) : List (UInt32 × Bytes) := s.options.filterMap SessionOption.seed?

/-- The window that starts at an instant, as precise as tokens are, if the calendar has its end. -/
def windowFrom? (s : Sessions) (start : Instant) : Option (Instant × Instant) :=
  (start.add? s.maxAge).map fun stop =>
    (s.factory.backend.carried start, s.factory.backend.carried stop)

/-- The header of a container that was just created. -/
def firstHeader (s : Sessions) (start stop : Instant) : Header :=
  ⟨Header.currentVersion, 0, s.factory.backend.carried start, s.factory.backend.carried stop⟩

theorem createAt_eq_ok_iff :
    s.createAt clock now = .ok session ↔
      ∃ stop, windowEnd now s.maxAge = .ok stop ∧ ∃ header,
        (s.firstHeader now stop).Dated clock s.maxAge s.factory.backend s.seeds.length header ∧
        session = s.holding ⟨header, .ofList s.seeds⟩ := by
  unfold createAt
  rw [bind_eq_ok]
  constructor
  · rintro ⟨container, made, applied⟩
    obtain ⟨stop, ends, rfl⟩ := Container.create_eq_ok.mp (SessionError.lift_eq_ok.mp made)
    obtain ⟨header, dated, rfl⟩ := Session.foldlM_apply_eq_ok.mp applied
    exact ⟨stop, ends, header, dated, rfl⟩
  · rintro ⟨stop, ends, header, dated, rfl⟩
    have made : s.factory.create now s.maxAge .empty = .ok _ :=
      Container.create_eq_ok.mpr ⟨stop, ends, rfl⟩
    exact ⟨_, SessionError.lift_eq_ok.mpr made,
      Session.foldlM_apply_eq_ok.mpr ⟨header, dated, rfl⟩⟩

theorem exists_createAt_iff (ends : now.add? s.maxAge = some first) :
    (∃ session, s.createAt clock now = .ok session) ↔ s.seeds = [] ∨ Fits clock s.maxAge := by
  have dated : (∃ header, (s.firstHeader now first).Dated clock s.maxAge s.factory.backend
      s.seeds.length header) ↔ s.seeds.length = 0 ∨ Fits clock s.maxAge := Header.exists_dated_iff
  rw [← List.length_eq_zero_iff, ← dated]
  constructor
  · rintro ⟨session, created⟩
    obtain ⟨stop, ends', header, dated, -⟩ := createAt_eq_ok_iff.mp created
    cases ends.symm.trans (windowEnd_eq_ok.mp ends').2
    exact ⟨header, dated⟩
  · rintro ⟨header, dated⟩
    exact ⟨_, createAt_eq_ok_iff.mpr ⟨first, windowEnd_of_add? ends, header, dated, rfl⟩⟩

/-- Entries date the window by the clock. -/
theorem windowFrom?_of_createAt (created : s.createAt clock now = .ok session) :
    s.windowFrom? (if s.seeds = [] then now else clock) =
      some (session.header.validAfter, session.header.validBefore) := by
  have placed {start stop : Instant} (ends : windowEnd start s.maxAge = .ok stop) :
      s.windowFrom? start =
        some (s.factory.backend.carried start, s.factory.backend.carried stop) := by
    rw [windowFrom?, (windowEnd_eq_ok.mp ends).2, Option.map_some]
  obtain ⟨stop, ends, header, dated, rfl⟩ := createAt_eq_ok_iff.mp created
  cases seeds : s.seeds with
  | nil =>
    rw [seeds] at dated
    cases dated
    exact placed ends
  | cons entry more =>
    rw [seeds] at dated
    cases dated with
    | written ends' _ => exact placed ends'

/-- **The window of a fresh session.** Sessions are created for an instant from which the calendar
has room; with entries among the options it needs to have room from the clock reading on, too. The
payload is what the options put in, the last entry counting for its key, and the nonce counts the
entries. Without entries the window starts at the instant that the session is created for. With them
it starts at the clock reading; so it is the right one only if that has the same window. -/
theorem fresh_window_iff (ends : now.add? s.maxAge = some first) :
    ((∃ session, s.createAt clock now = .ok session) ↔ s.seeds = [] ∨ Fits clock s.maxAge) ∧
    ∀ session, s.createAt clock now = .ok session →
      let window := (session.header.validAfter, session.header.validBefore)
      (∀ key, session.payload.get? key = s.seeds.reverse.lookup key) ∧
      session.header.nonce = UInt64.ofNat s.seeds.length ∧ session.validators = s.validators ∧
      s.windowFrom? (if s.seeds = [] then now else clock) = some window ∧
      (window = (s.factory.backend.carried now, s.factory.backend.carried first) ↔
        s.seeds = [] ∨ s.windowFrom? clock = s.windowFrom? now) := by
  refine ⟨exists_createAt_iff ends, ?_⟩
  intro session created window
  have dates := windowFrom?_of_createAt created
  have wanted : s.windowFrom? now =
      some (s.factory.backend.carried now, s.factory.backend.carried first) := by
    rw [windowFrom?, ends, Option.map_some]
  obtain ⟨stop, -, header, dated, rfl⟩ := createAt_eq_ok_iff.mp created
  refine ⟨Payload.get?_ofList s.seeds, ?_, rfl, dates, ?_⟩
  · exact dated.nonce_eq.trans (UInt64.zero_add _)
  · rw [← Option.some_inj, ← wanted, ← dates]
    by_cases none : s.seeds = []
    · simp only [none, ite_true, true_or]
    · simp only [none, ite_false, false_or]

/-- A minute from the instant that the session is created for, as there is a validator only. -/
theorem fresh_window_iff_validated :
    let s := (Http.minuteSessions []).withOptions [.validator fun _ => .ok ()]
    let now : Instant := ⟨1600000000, 0, by decide, by decide⟩
    now.add? s.maxAge = some ⟨1600000060, 0, by decide, by decide⟩ ∧
      ∃ session, s.createAt .epoch now = .ok session ∧
        (session.header.validAfter, session.header.validBefore) =
          (now, ⟨1600000060, 0, by decide, by decide⟩) := by
  intro s now
  have ends : now.add? s.maxAge = some ⟨1600000060, 0, by decide, by decide⟩ := by decide
  obtain ⟨creates, windows⟩ := fresh_window_iff ends
  obtain ⟨session, created⟩ : ∃ session, s.createAt .epoch now = .ok session :=
    creates.mpr (.inl rfl)
  obtain ⟨-, -, -, -, same⟩ := windows session created
  exact ⟨ends, session, created, same.mpr (.inl rfl)⟩

/-- **Created for another time.** A session with an entry is created for an instant in 2020, while
the clock shows 2023. Its window is one of 2023. -/
theorem seeded_window_is_moved :
    let s := (Http.minuteSessions []).withOptions [.payload 7 [1]]
    let now : Instant := ⟨1600000000, 0, by decide, by decide⟩
    let clock : Instant := ⟨1700000000, 0, by decide, by decide⟩
    now.add? s.maxAge = some ⟨1600000060, 0, by decide, by decide⟩ ∧
      ∃ session, s.createAt clock now = .ok session ∧ session.header.validAfter = clock ∧
        now < session.header.validAfter := by
  intro s now clock
  have ends : now.add? s.maxAge = some ⟨1600000060, 0, by decide, by decide⟩ := by decide
  have moves : clock.add? s.maxAge = some ⟨1700000060, 0, by decide, by decide⟩ := by decide
  have created := createAt_eq_ok_iff.mpr ⟨_, windowEnd_of_add? ends, _,
    .written (windowEnd_of_add? moves) 0, rfl⟩
  refine ⟨ends, _, created, rfl, ?_⟩
  show now < clock
  decide

end Sessions

end SealedTokens
