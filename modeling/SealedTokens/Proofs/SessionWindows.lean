import SealedTokens.Proofs.KeepAlive
import SealedTokens.Proofs.SavedTokens
/-!
# Windows of sessions

The window of a session is placed when the session is created and again when it is refreshed, and a
token brings it back as precisely as tokens are. Handles only ask that their spans are not zero.
Signed tokens count in seconds, so a span below a second leaves them a window without an instant.
Sealed ones name the ends of a window as a clock would show them: an end that no clock shows comes
back as the following second, which may take a second off the span. And since a window is open at
both ends, one nanosecond is never enough.

## Main results

- `Sessions.Reaches.placed`: the window of every session that can be reached
- `Sessions.windows_hold_iff`: for which handles every such window has its ends in order, and for
  which there is an instant inside, at any instants and at those that clocks show
- `Sessions.window_of_half_second_is_empty`: an accepted handle with a session that is never valid
- `Session.refresh_clears_need`: what a refresh does, and for how long none is needed after it
- `Session.refresh_is_due_early`: a refresh that is needed before the interval is over

## Proof strategy

`Placed` says of a session that its window is one that a handle places, as a container has it or as
tokens tell it. Every operation keeps this, failed ones included, and a token that was saved is
loaded as its own state (`Factory.eq_of_load_saved`); both together are the induction over what can
be reached.
-/
namespace SealedTokens

/-! ### Windows as tokens carry them -/

namespace Backend

variable {backend : Backend} {start stop : Instant} {span : Span}

/-- The ways in which a window is seen: as a container has it, or as tokens tell it. -/
def views (backend : Backend) : List (Instant → Instant) := [backend.carried, backend.told]

variable {view : Instant → Instant}

/-- What tokens tell of a window that was seen already. -/
theorem told_of_view (member : view ∈ backend.views) (t : Instant) :
    backend.told (view t) = backend.told t := by
  simp only [views, List.mem_cons, List.not_mem_nil, or_false] at member
  rcases member with rfl | rfl
  · exact backend.told_carried t
  · exact backend.told_told t

theorem secs_of_view (member : view ∈ backend.views) (t : Instant) :
    (view t).secs = t.secs ∨ (view t).secs = t.shown.secs := by
  simp only [views, List.mem_cons, List.not_mem_nil, or_false] at member
  rcases member with rfl | rfl
  · exact .inl (backend.secs_carried t)
  · cases backend with
    | sealed codec => exact .inr rfl
    | signed signer => exact .inl rfl

theorem later_of_second (second : 1 ≤ span.secs) (ends : start.add? span = some stop) :
    start.wholeSeconds < stop.wholeSeconds := by
  refine Instant.lt_iff.mpr (.inl ?_)
  show start.secs < stop.secs
  have either := Instant.later_of_add? ends
  omega

theorem view_lt (member : view ∈ backend.views) (second : backend.kind = .jwt → 1 ≤ span.secs)
    (long : backend.kind = .secretBox →
      start.OnClock ∧ 1 ≤ span.toNanos ∨ 1000000001 ≤ span.toNanos)
    (ends : start.add? span = some stop) : view start < view stop := by
  simp only [views, List.mem_cons, List.not_mem_nil, or_false] at member
  cases backend with
  | sealed codec =>
    have long := long rfl
    rcases member with rfl | rfl
    · exact Instant.lt_of_add? (by omega) ends
    · exact Instant.shown_lt_of_add? long ends
  | signed signer => rcases member with rfl | rfl <;> exact later_of_second (second rfl) ends

theorem exists_between_views (member : view ∈ backend.views)
    (second : backend.kind = .jwt → 1 ≤ span.secs)
    (long : backend.kind = .secretBox →
      start.OnClock ∧ 2 ≤ span.toNanos ∨ 1000000002 ≤ span.toNanos)
    (ends : start.add? span = some stop) : ∃ t, view start < t ∧ t < view stop := by
  simp only [views, List.mem_cons, List.not_mem_nil, or_false] at member
  cases backend with
  | sealed codec =>
    have long := long rfl
    rcases member with rfl | rfl
    · exact Instant.exists_between (by omega) ends
    · exact Instant.exists_between_shown long ends
  | signed signer =>
    -- Two whole seconds are far enough apart.
    have later : start.secs < stop.secs := by
      have either := Instant.later_of_add? ends
      have second : 1 ≤ span.secs := second rfl
      omega
    refine ⟨⟨start.secs, 1, start.in_calendar, by decide⟩, ?_⟩
    rcases member with rfl | rfl <;>
      exact ⟨Instant.lt_iff.mpr (.inr ⟨rfl, Nat.zero_lt_one⟩), Instant.lt_iff.mpr (.inl later)⟩

/-- A window that starts now is recent, if tokens can tell the interval from nothing. -/
theorem recent_from_now (second : backend.kind = .jwt → 1 ≤ span.secs) (now : Instant) :
    Recent span (backend.carried now) now := by
  cases backend with
  | sealed codec =>
    intro due ends
    exact Instant.le_of_add? (windowEnd_eq_ok.mp ends).2
  | signed signer => exact recent_carried (.signed signer) (second rfl) now

end Backend

/-! ### Sessions that can be reached -/

namespace Sessions

/-- Sessions as callers have them: of a factory, with two spans that are accepted, and with any
options. -/
def Accepted (f : Factory) (s : Sessions) : Prop :=
  ∃ base, create f s.maxAge s.refresh = .ok base ∧ s = base.withOptions s.options

/-- The sessions that can be reached from some handles at some clock readings: created by one of
them, worked on, or loaded from the token that another one was saved as. An operation that fails may
have written already, and a token that is not loaded changes nothing.

- `sign?`: stands for signing under the factory's key, which some algorithms do at random -/
inductive Reaches (clocks : Set Instant) (handles : Set Sessions) : Session → Prop
  | created {s : Sessions} {clock now : Instant} {session : Session} (member : s ∈ handles)
      (read : clock ∈ clocks) (start : now ∈ clocks) (made : s.createAt clock now = .ok session) :
      Reaches clocks handles session
  | performed {session : Session} {clock : Instant} (reached : Reaches clocks handles session)
      (read : clock ∈ clocks) (operation : SessionOperation) :
      Reaches clocks handles (session.perform clock operation)
  | loaded {session saver next : Session} {sign? : Bytes → Option Bytes} {source : Entropy}
      {token : Bytes} (reached : Reaches clocks handles session)
      (other : Reaches clocks handles saver)
      (saved : (saver.container.withSign sign?).save.outcome source = .ok token)
      (returned : session.load token = .ok next) : Reaches clocks handles next

variable {f : Factory} {clocks : Set Instant} {handles : Set Sessions} {s : Sessions}
  {session : Session} {clock : Instant}

theorem accepted_iff : s.Accepted f ↔
    s.factory = f ∧ s.maxAge.isZero = false ∧ s.refresh.isZero = false := by
  unfold Accepted create
  constructor
  · rintro ⟨base, made, same⟩
    split at made
    · cases made
    next positive =>
      cases made
      refine ⟨?_, by simpa using positive⟩
      rw [same]
      rfl
  · rintro ⟨rfl, maxAge, refresh⟩
    exact ⟨⟨s.factory, s.maxAge, s.refresh, []⟩, by simp [maxAge, refresh], rfl⟩

theorem Accepted.positive (accepted : s.Accepted f) : 0 < s.maxAge.toNanos := by
  have some := (accepted_iff.mp accepted).2.1
  simp only [Span.isZero, Bool.and_eq_false_iff, beq_eq_false_iff_ne] at some
  simp only [Span.toNanos]
  omega

/-! ### The window of a session -/

/-- A session of the handles whose window is one that a handle places at one of the readings. -/
structure Placed (f : Factory) (clocks : Set Instant) (handles : Set Sessions)
    (session : Session) : Prop where
  handle : session.sessions ∈ handles
  backend : session.container.backend = f.backend
  version : session.header.version = Header.currentVersion
  window : ∃ s ∈ handles, ∃ start ∈ clocks, ∃ stop, windowEnd start s.maxAge = .ok stop ∧
    ∃ view ∈ f.backend.views, session.header.validAfter = view start ∧
      session.header.validBefore = view stop

/-- What is written besides the window does not matter to it. -/
theorem Placed.withData (placed : Placed f clocks handles session) (nonce : UInt64)
    (payload : Payload) :
    Placed f clocks handles (session.withData ⟨{ session.header with nonce }, payload⟩) :=
  ⟨placed.handle, placed.backend, placed.version, placed.window⟩

theorem Placed.moved {stop : Instant} (placed : Placed f clocks handles session)
    (read : clock ∈ clocks) (ends : windowEnd clock session.sessions.maxAge = .ok stop) :
    Placed f clocks handles (session.moved clock stop) where
  handle := placed.handle
  backend := placed.backend
  version := placed.version
  window := by
    refine ⟨session.sessions, placed.handle, clock, read, stop, ends, f.backend.carried,
      List.mem_cons_self, ?_, ?_⟩
    all_goals
      rw [← placed.backend]
      rfl

theorem Placed.refreshed {α : Type} (placed : Placed f clocks handles session)
    (read : clock ∈ clocks) (result : α) :
    Placed f clocks handles (session.refreshed clock result).2 := by
  cases refreshes : session.refreshAt clock with
  | error e =>
    rw [Session.refreshed_of_error refreshes]
    exact placed
  | ok next =>
    obtain ⟨stop, ends, rfl⟩ := Session.refreshAt_eq_ok.mp refreshes
    rw [Session.refreshed_of_ok refreshes]
    exact placed.moved read ends

/-- The step of the invariant. -/
theorem Placed.perform (placed : Placed f clocks handles session) (read : clock ∈ clocks)
    (operation : SessionOperation) :
    Placed f clocks handles (session.perform clock operation) := by
  have written (nonce : UInt64) (payload : Payload) := placed.withData nonce payload
  -- Only a refresh places a window, at the end of the operations that write or remove.
  cases operation with
  | get key => exact placed
  | getText key => exact placed
  | set key value =>
    exact (written session.header.nonce (session.payload.insert key value)).refreshed read ()
  | setText key value =>
    exact (written session.header.nonce
      (session.payload.insert key (Bytes.ofText value))).refreshed read ()
  | del key =>
    cases found : session.payload.contains key with
    | true =>
      rw [Session.perform, Session.del_of_contains found]
      exact (written session.header.nonce (session.payload.erase key)).refreshed read true
    | false =>
      rw [Session.perform, Session.del_of_not_contains found]
      exact placed
  | clean => exact written session.header.nonce .empty
  | touch => exact written (session.header.nonce + 1) session.payload
  | refresh => exact placed.refreshed read ()

theorem Placed.apply {next : Session} {option : SessionOption}
    (placed : Placed f clocks handles session) (read : clock ∈ clocks)
    (applied : session.apply clock option = .ok next) : Placed f clocks handles next := by
  cases option with
  | validator check =>
    cases applied
    exact ⟨placed.handle, placed.backend, placed.version, placed.window⟩
  | payload key value =>
    -- An option that writes is a write, and does not fail here.
    have performed : Placed f clocks handles (session.set clock key value).2 :=
      placed.perform read (.set key value)
    rw [Session.apply] at applied
    rcases written : session.set clock key value with ⟨e | _, after⟩ <;>
      rw [written] at applied performed <;> cases applied
    exact performed

theorem placed_createAt {now : Instant} (own : s.factory = f) (member : s ∈ handles)
    (read : clock ∈ clocks) (start : now ∈ clocks) (made : s.createAt clock now = .ok session) :
    Placed f clocks handles session := by
  obtain ⟨container, created, applied⟩ := bind_eq_ok.mp made
  obtain ⟨stop, ends, rfl⟩ := Container.create_eq_ok.mp (SessionError.lift_eq_ok.mp created)
  subst own
  exact foldlM_invariant (P := Placed s.factory clocks handles)
    (fun _ _ _ placed applied => placed.apply read applied)
    ⟨member, rfl, rfl, s, member, now, start, stop, ends, _, List.mem_cons_self, rfl, rfl⟩ applied

/-- A token brings back the window that its session had. -/
theorem Placed.load {saver next : Session} {sign? : Bytes → Option Bytes} {source : Entropy}
    {token : Bytes} (built : Factory.ofSettings f.settings = .ok f)
    (placed : Placed f clocks handles session) (other : Placed f clocks handles saver)
    (saved : (saver.container.withSign sign?).save.outcome source = .ok token)
    (returned : session.load token = .ok next) : Placed f clocks handles next := by
  unfold Container.save Container.withSign at saved
  rw [other.backend] at saved
  rw [Session.load_eq, placed.backend] at returned
  cases read : f.backend.load token with
  | error e =>
    rw [read] at returned
    cases returned
  | ok data =>
    rw [read] at returned
    cases returned
    have same := Factory.eq_of_load_saved built saved read
    obtain ⟨s, member, start, read', stop, ends, view, seen, after, before⟩ := other.window
    refine ⟨placed.handle, placed.backend, ?_, s, member, start, read', stop, ends, f.backend.told,
      List.mem_cons_of_mem _ List.mem_cons_self, ?_, ?_⟩
    · rw [same]
      exact other.version
    -- However the ends were seen before, the token tells the same of them.
    · rw [same, ← Backend.told_of_view seen start, ← after]
      rfl
    · rw [same, ← Backend.told_of_view seen stop, ← before]
      rfl

/-- The window of every session that can be reached. -/
theorem Reaches.placed (built : Factory.ofSettings f.settings = .ok f)
    (own : ∀ s ∈ handles, s.factory = f) (reached : Reaches clocks handles session) :
    Placed f clocks handles session := by
  -- By how the session is reached; loading joins the histories of two sessions.
  induction reached with
  | created member read start made => exact placed_createAt (own _ member) member read start made
  | performed reached read operation ih => exact ih.perform read operation
  | loaded reached other saved returned ih other_ih => exact ih.load built other_ih saved returned

/-! ### Spans that are too short -/

/-- A handle reaches a session without entries whose window it has just placed. -/
theorem exists_reaches {start stop : Instant} (own : s.factory = f) (member : s ∈ handles)
    (read : start ∈ clocks) (ends : windowEnd start s.maxAge = .ok stop) :
    ∃ session, Reaches clocks handles session ∧ session.container.backend = f.backend ∧
      session.payload = .empty ∧ session.header.validAfter = f.backend.carried start ∧
      session.header.validBefore = f.backend.carried stop := by
  obtain ⟨fresh, made⟩ := exists_createAt ends
  have reached : Reaches clocks handles fresh := .created member read read made
  obtain ⟨sessions, backend, -⟩ := createAt_eq_ok made
  have ends' : windowEnd start (fresh.perform start .clean).sessions.maxAge = .ok stop := by
    rw [← ends, ← sessions]
    rfl
  refine ⟨_, (reached.performed read .clean).performed read .refresh, ?_⟩
  have refreshed : (fresh.perform start .clean).perform start .refresh =
      (fresh.perform start .clean).moved start stop := Session.refreshed_snd _ ends'
  rw [refreshed, ← own, ← backend]
  exact ⟨rfl, rfl, rfl, rfl⟩

/-- And the session that its token is loaded as. -/
theorem exists_reaches_told {start stop : Instant} (built : Factory.ofSettings f.settings = .ok f)
    (sealing : f.backend.kind = .secretBox) (own : s.factory = f) (member : s ∈ handles)
    (read : start ∈ clocks) (ends : windowEnd start s.maxAge = .ok stop) :
    ∃ session, Reaches clocks handles session ∧ session.header.validAfter = start.shown ∧
      session.header.validBefore = stop.shown := by
  obtain ⟨session, reached, backend, nothing, after, before⟩ :=
    exists_reaches own member read ends
  cases isBackend : f.backend with
  | signed signer =>
    rw [isBackend] at sealing
    cases sealing
  | sealed codec =>
    have signs : f.backend.Signs := by
      rw [isBackend]
      trivial
    have honest : ∀ signer, f.backend = .signed signer → signer.Honest := by
      rw [isBackend]
      rintro signer ⟨⟩
    -- A sealed session is saved without a signature, whoever could make one.
    have unsigned : f.backend = f.backend.withSign fun _ => none := by
      rw [isBackend]
      rfl
    let source : Entropy := .repeating [0]
    obtain ⟨token, _, ran, -⟩ := Backend.exists_save signs (show source.limit = none from rfl)
      session.container.data
    have saved : (f.backend.save session.container.data).outcome source = .ok token :=
      congrArg Prod.fst ran
    have returned := Factory.load_precise_of_save built unsigned honest
      (f.settings.holds_of_empty nothing) saved
    have loaded : session.load token =
        .ok (session.withData (f.backend.precise session.container.data)) := by
      rw [Session.load_eq, backend, returned]
      rfl
    have signed : (session.container.withSign fun _ => none).save.outcome source = .ok token := by
      rw [← saved, unsigned, ← backend]
      rfl
    refine ⟨_, .loaded reached reached signed loaded, ?_, ?_⟩
    · show f.backend.told session.header.validAfter = _
      rw [after, Backend.told_carried, isBackend]
      rfl
    · show f.backend.told session.header.validBefore = _
      rw [before, Backend.told_carried, isBackend]
      rfl

/-! ### The main theorem -/

/-- Every window that can be reached has its ends in order. -/
def Ordered (clocks : Set Instant) (handles : Set Sessions) : Prop :=
  ∀ session, Reaches clocks handles session →
    session.header.validAfter < session.header.validBefore

/-- Every session that can be reached has an instant at which its container is valid. -/
def Valid (clocks : Set Instant) (handles : Set Sessions) : Prop :=
  ∀ session, Reaches clocks handles session → ∃ now, session.container.validate now = .ok ()

/-- The maximal ages of handles are not below what tokens can tell: a second for signed claims, and
a number of nanoseconds for sealed states. -/
def Lasting (f : Factory) (handles : Set Sessions) (nanos : Nat) : Prop :=
  ∀ s ∈ handles, (f.backend.kind = .jwt → 1 ≤ s.maxAge.secs) ∧
    (f.backend.kind = .secretBox → nanos ≤ s.maxAge.toNanos)

section Holding

variable (built : Factory.ofSettings f.settings = .ok f) (own : ∀ s ∈ handles, s.factory = f)
  {nanos : Nat}

include built own

theorem ordered_of_lasting (lasting : Lasting f handles nanos)
    (long : ∀ start ∈ clocks, start.OnClock ∧ 1 ≤ nanos ∨ 1000000001 ≤ nanos) :
    Ordered clocks handles := by
  intro session reached
  obtain ⟨-, -, -, s, member, start, read, stop, ends, view, seen, after, before⟩ :=
    reached.placed built own
  obtain ⟨second, enough⟩ := lasting s member
  rw [after, before]
  refine Backend.view_lt seen second (fun sealing => ?_) (windowEnd_eq_ok.mp ends).2
  have enough := enough sealing
  exact (long start read).imp (fun clock => ⟨clock.1, by omega⟩) fun _ => by omega

theorem valid_of_lasting (lasting : Lasting f handles nanos)
    (long : ∀ start ∈ clocks, start.OnClock ∧ 2 ≤ nanos ∨ 1000000002 ≤ nanos) :
    Valid clocks handles := by
  intro session reached
  obtain ⟨-, -, version, s, member, start, read, stop, ends, view, seen, after, before⟩ :=
    reached.placed built own
  obtain ⟨second, enough⟩ := lasting s member
  have long (sealing : f.backend.kind = .secretBox) :
      start.OnClock ∧ 2 ≤ s.maxAge.toNanos ∨ 1000000002 ≤ s.maxAge.toNanos := by
    have enough := enough sealing
    exact (long start read).imp (fun clock => ⟨clock.1, by omega⟩) fun _ => by omega
  obtain ⟨now, first, last⟩ :=
    Backend.exists_between_views seen second long (windowEnd_eq_ok.mp ends).2
  rw [← after] at first
  rw [← before] at last
  exact ⟨now, Header.validate_eq_ok.mpr ⟨version, first, last⟩⟩

end Holding

/-- An instant inside keeps the ends apart. -/
theorem Valid.ordered (valid : Valid clocks handles) : Ordered clocks handles := by
  intro session reached
  obtain ⟨now, checked⟩ := valid session reached
  obtain ⟨-, first, last⟩ := Header.validate_eq_ok.mp checked
  exact Instant.lt_of_lt_of_le first (Instant.le_of_lt last)

/-- A span below a second leads from the epoch to a fraction of its first second. -/
theorem windowEnd_epoch {span : Span} (short : span.secs = 0) :
    windowEnd .epoch span = .ok ⟨0, span.nanos, by decide, by have := span.nanos_lt; omega⟩ := by
  have fraction := span.nanos_lt
  refine windowEnd_of_add? ?_
  unfold Instant.add?
  rw [dif_neg (by simp [Instant.epoch]), Instant.at?_eq_some]
  simp only [Instant.OnClock, Instant.epoch, short]
  omega

/-- A time that no clock shows: the second after the epoch, as a leap second of the epoch. -/
def hidden (extra : Nat) (fraction : extra < 1000000000) : Instant :=
  ⟨0, 1000000000 + extra, Instant.epoch.in_calendar, by omega⟩

theorem shown_hidden {extra : Nat} (fraction : extra < 1000000000) :
    (hidden extra fraction).shown = ⟨1, extra, by decide, by omega⟩ := by
  have unseen : ¬ (hidden extra fraction).OnClock := by
    simp only [Instant.OnClock, hidden]
    omega
  rw [Instant.shown, dif_neg unseen]
  simp only [hidden, Nat.add_sub_cancel_left, zero_add]

/-- A span that leads out of the leap second counts from the epoch. -/
theorem windowEnd_hidden {span : Span} {extra : Nat} (fraction : extra < 1000000000)
    (leaves : 1000000000 ≤ extra + span.toNanos) (short : span.toNanos ≤ 1000000001) :
    ∃ stop : Instant, windowEnd (hidden extra fraction) span = .ok stop ∧
      stop.nanos < 1000000000 ∧ stop.count = extra + span.toNanos := by
  have below := span.nanos_lt
  have inside : (extra + span.toNanos) / 1000000000 ≤ 3 := by omega
  refine ⟨⟨((extra + span.toNanos) / 1000000000 : Nat), (extra + span.toNanos) % 1000000000,
    by omega, by omega⟩, windowEnd_of_add? ?_, Nat.mod_lt _ (by decide), ?_⟩
  · simp only [Span.toNanos] at leaves short inside ⊢
    unfold Instant.add?
    rw [dif_neg (by simp only [hidden]; omega), Instant.at?_eq_some]
    simp only [Instant.OnClock, hidden]
    omega
  · simp only [Instant.count]
    omega

section Failing

variable (own : s.factory = f) (member : s ∈ handles)

include own member

/-- Tokens that count in seconds have no window below a second. -/
theorem second_of_ordered (ordered : Ordered clocks handles) (read : Instant.epoch ∈ clocks)
    (kind : f.backend.kind = .jwt) : 1 ≤ s.maxAge.secs := by
  by_contra below
  have short : s.maxAge.secs = 0 := by omega
  obtain ⟨session, reached, -, -, after, before⟩ :=
    exists_reaches own member read (windowEnd_epoch short)
  have less := ordered session reached
  rw [after, before] at less
  cases isBackend : f.backend with
  | sealed codec =>
    rw [isBackend] at kind
    cases kind
  | signed signer =>
    rw [isBackend] at less
    simp only [Backend.carried, Instant.wholeSeconds, Instant.lt_iff, Instant.epoch] at less
    omega

/-- A window of one nanosecond is open at both ends. -/
theorem two_of_valid (valid : Valid clocks handles) (read : Instant.epoch ∈ clocks)
    (kind : f.backend.kind = .secretBox) : 2 ≤ s.maxAge.toNanos := by
  by_contra below
  simp only [Span.toNanos] at below
  have short : s.maxAge.secs = 0 := by omega
  obtain ⟨session, reached, -, -, after, before⟩ :=
    exists_reaches own member read (windowEnd_epoch short)
  obtain ⟨now, checked⟩ := valid session reached
  obtain ⟨-, first, last⟩ := Header.validate_eq_ok.mp checked
  have first : session.header.validAfter < now := first
  have last : now < session.header.validBefore := last
  rw [after] at first
  rw [before] at last
  cases isBackend : f.backend with
  | signed signer =>
    rw [isBackend] at kind
    cases kind
  | sealed codec =>
    rw [isBackend] at first last
    simp only [Backend.carried, Instant.lt_iff, Instant.epoch] at first last
    omega

variable (built : Factory.ofSettings f.settings = .ok f) (kind : f.backend.kind = .secretBox)

include built kind

/-- Where a window starts at the last nanosecond of a leap second that no clock shows, writing takes
a second off it. -/
theorem long_of_ordered (ordered : Ordered .univ handles) (positive : 0 < s.maxAge.toNanos) :
    1000000001 ≤ s.maxAge.toNanos := by
  by_contra below
  have last : 999999999 < 1000000000 := by decide
  obtain ⟨stop, ends, fraction, count⟩ :=
    @windowEnd_hidden s.maxAge _ last (by omega) (by omega)
  obtain ⟨session, reached, after, before⟩ :=
    exists_reaches_told built kind own member (Set.mem_univ _) ends
  have less := ordered session reached
  rw [after, before, shown_hidden, Instant.shown_of_onClock (show stop.OnClock from .inl fraction),
    Instant.lt_iff] at less
  simp only [Instant.count] at count
  simp only at less
  omega

/-- With one nanosecond more, the window has its ends in order and nothing between them. -/
theorem longer_of_valid (valid : Valid .univ handles) (positive : 0 < s.maxAge.toNanos) :
    1000000002 ≤ s.maxAge.toNanos := by
  have long := long_of_ordered own member built kind valid.ordered positive
  by_contra below
  have first : 0 < 1000000000 := by decide
  obtain ⟨stop, ends, fraction, count⟩ :=
    @windowEnd_hidden s.maxAge _ first (by omega) (by omega)
  obtain ⟨session, reached, after, before⟩ :=
    exists_reaches_told built kind own member (Set.mem_univ _) ends
  obtain ⟨now, checked⟩ := valid session reached
  obtain ⟨-, later, earlier⟩ := Header.validate_eq_ok.mp checked
  have later : session.header.validAfter < now := later
  have earlier : now < session.header.validBefore := earlier
  rw [after, shown_hidden, Instant.lt_iff] at later
  rw [before, Instant.shown_of_onClock (show stop.OnClock from .inl fraction),
    Instant.lt_iff] at earlier
  simp only [Instant.count] at count
  simp only at later
  omega

end Failing

/-- **Windows that hold.** Take any handles of one factory that are accepted, with any options, and
any session that can be reached from them: created at any instant, worked on, refreshed, or loaded
from the token of another one. Its window has its ends in order, and there is an instant at which
its container is valid, if the maximal age is long enough: a second under signed claims, and under
a sealed state what writing may take off, which is nothing if clocks show all the instants and a
second otherwise, and one or two nanoseconds more. The bounds are exact: any handle below them
reaches a session that fails. -/
theorem windows_hold_iff (built : Factory.ofSettings f.settings = .ok f)
    (accepted : ∀ s ∈ handles, s.Accepted f) :
    (Ordered .univ handles ↔ Lasting f handles 1000000001) ∧
      (Valid .univ handles ↔ Lasting f handles 1000000002) ∧
      (Ordered {t | t.OnClock} handles ↔ Lasting f handles 1) ∧
      (Valid {t | t.OnClock} handles ↔ Lasting f handles 2) := by
  have own : ∀ s ∈ handles, s.factory = f := fun s member =>
    (accepted_iff.mp (accepted s member)).1
  have positive : ∀ s ∈ handles, 0 < s.maxAge.toNanos := fun s member =>
    (accepted s member).positive
  have read : Instant.epoch ∈ {t : Instant | t.OnClock} := show Instant.epoch.OnClock by decide
  refine ⟨⟨fun ordered s member => ⟨?_, fun kind => ?_⟩, fun lasting => ?_⟩,
    ⟨fun valid s member => ⟨?_, fun kind => ?_⟩, fun lasting => ?_⟩,
    ⟨fun ordered s member => ⟨?_, fun kind => ?_⟩, fun lasting => ?_⟩,
    fun valid s member => ⟨?_, fun kind => ?_⟩, fun lasting => ?_⟩
  · exact second_of_ordered (own s member) member ordered (Set.mem_univ _)
  · exact long_of_ordered (own s member) member built kind ordered (positive s member)
  · exact ordered_of_lasting built own lasting fun _ _ => .inr (by decide)
  · exact second_of_ordered (own s member) member valid.ordered (Set.mem_univ _)
  · exact longer_of_valid (own s member) member built kind valid (positive s member)
  · exact valid_of_lasting built own lasting fun _ _ => .inr (by decide)
  · exact second_of_ordered (own s member) member ordered read
  · exact positive s member
  · exact ordered_of_lasting built own lasting fun _ shown => .inl ⟨shown, by decide⟩
  · exact second_of_ordered (own s member) member valid.ordered read
  · exact two_of_valid (own s member) member valid read kind
  · exact valid_of_lasting built own lasting fun _ shown => .inl ⟨shown, by decide⟩

/-- The handle of signed claims whose sessions last a minute. -/
theorem windows_hold_iff_minute :
    let f := (Http.minuteSessions []).factory
    Factory.ofSettings f.settings = .ok f ∧ (Http.minuteSessions []).Accepted f ∧
      Ordered .univ {Http.minuteSessions []} ∧ Valid .univ {Http.minuteSessions []} := by
  intro f
  have built : Factory.ofSettings f.settings = .ok f := by rfl
  have accepted : (Http.minuteSessions []).Accepted f :=
    accepted_iff.mpr ⟨rfl, by decide, by decide⟩
  have all : ∀ s ∈ ({Http.minuteSessions []} : Set Sessions), s.Accepted f := by
    rintro s rfl
    exact accepted
  have lasting (nanos : Nat) : Lasting f {Http.minuteSessions []} nanos := by
    rintro s rfl
    exact ⟨fun _ => by decide, fun sealing => by cases sealing⟩
  obtain ⟨ordered, valid, -⟩ := windows_hold_iff built all
  exact ⟨built, accepted, ordered.mpr (lasting _), valid.mpr (lasting _)⟩

/-- **Half a second.** A handle of signed claims whose sessions last half a second is accepted, and
a session that it has just created is not valid at any instant: its window ends where it starts. -/
theorem window_of_half_second_is_empty :
    let f := (Http.minuteSessions []).factory
    let half : Span := ⟨0, 500000000, by decide⟩
    let start : Instant := ⟨1700000000, 0, by decide, by decide⟩
    ∃ s session, Factory.ofSettings f.settings = .ok f ∧ create f half (.ofSecs 10) = .ok s ∧
      s.createAt start start = .ok session ∧ session.header.validAfter = start ∧
      session.header.validBefore = start ∧ ∀ now, session.validateAt now ≠ .ok () := by
  intro f half start
  let s : Sessions := ⟨f, half, .ofSecs 10, []⟩
  have built : Factory.ofSettings f.settings = .ok f := by rfl
  have made : create f half (.ofSecs 10) = .ok s := rfl
  have ends : windowEnd start s.maxAge =
      .ok ⟨1700000000, 500000000, by decide, by decide⟩ := by decide
  have created : s.createAt start start = .ok _ := createAt_of_no_options rfl ends
  refine ⟨s, _, built, made, created, rfl, rfl, fun now valid => ?_⟩
  obtain ⟨_, checked, -⟩ := bind_eq_ok.mp valid
  obtain ⟨-, first, last⟩ := Header.validate_eq_ok.mp (SessionError.lift_eq_ok.mp checked)
  -- No instant is both later and earlier than one.
  have apart : start < start := Instant.lt_of_lt_of_le first (Instant.le_of_lt last)
  exact absurd apart (by decide)

end Sessions

/-! ### Refreshing -/

namespace Session

/-- **A refresh clears the need for one.** Whatever state a session is in, a refresh succeeds if a
window that starts now ends inside the calendar. It adds one to the nonce and leaves the payload
alone. If the refresh interval is not below what tokens can tell, no refresh is needed now or at any
instant before, nor until the interval is over, counted from now as tokens carry it. -/
theorem refresh_clears_need {s : Session} {now stop : Instant}
    (ends : now.add? s.sessions.maxAge = some stop) :
    ∃ next, s.refreshAt now = .ok next ∧ next.header.nonce = s.header.nonce + 1 ∧
      next.payload = s.payload ∧
      ((s.container.backend.kind = .jwt → 1 ≤ s.sessions.refresh.secs) →
        (∀ t, t ≤ now → next.refreshRequiredAt t = false) ∧
        ∀ t, (∀ due, (s.container.backend.carried now).add? s.sessions.refresh = some due →
          t ≤ due) → next.refreshRequiredAt t = false) := by
  refine ⟨s.moved now stop, refreshAt_eq_ok.mpr ⟨stop, windowEnd_of_add? ends, rfl⟩, rfl, rfl,
    fun second => ⟨fun t early => ?_, fun t early => ?_⟩⟩
  all_goals rw [refreshRequiredAt_eq_false]
  · intro due dueEnds
    exact Instant.le_trans early (Backend.recent_from_now second now due dueEnds)
  · intro due dueEnds
    exact early due (windowEnd_eq_ok.mp dueEnds).2

/-- A session of signed claims that is refreshed in the middle of a second. The interval of ten
seconds is counted from the start of that second. -/
theorem refresh_clears_need_minute :
    let s := Http.freshSession .epoch Http.oneMinute
    let now : Instant := ⟨0, 700000000, by decide, by decide⟩
    let due : Instant := ⟨10, 0, by decide, by decide⟩
    now.add? s.sessions.maxAge = some ⟨60, 700000000, by decide, by decide⟩ ∧
      ∃ next, s.refreshAt now = .ok next ∧ next.header.nonce = 1 ∧ next.payload = .empty ∧
        next.refreshRequiredAt now = false ∧ next.refreshRequiredAt due = false := by
  intro s now due
  have ends : now.add? s.sessions.maxAge = some ⟨60, 700000000, by decide, by decide⟩ := by decide
  obtain ⟨next, refreshes, nonce, payload, cleared⟩ := refresh_clears_need ends
  obtain ⟨before, after⟩ := cleared fun _ => by decide
  refine ⟨ends, next, refreshes, nonce, payload, before now (Instant.le_refl now),
    after due fun other dueEnds => ?_⟩
  have counted : (s.container.backend.carried now).add? s.sessions.refresh = some due := by decide
  cases counted.symm.trans dueEnds
  exact Instant.le_refl due

/-- **Due early.** After a refresh of signed claims in the middle of a second, the next one is
needed before the interval is over, counted from the refresh. -/
theorem refresh_is_due_early :
    let f := (Http.minuteSessions []).factory
    let now : Instant := ⟨0, 700000000, by decide, by decide⟩
    let later : Instant := ⟨10, 500000000, by decide, by decide⟩
    ∃ s session next due, Factory.ofSettings f.settings = .ok f ∧
      Sessions.create f (.ofSecs 60) (.ofSecs 10) = .ok s ∧ s.createAt now now = .ok session ∧
      session.refreshAt now = .ok next ∧ now.add? s.refresh = some due ∧ later ≤ due ∧
      next.refreshRequiredAt later = true := by
  intro f now later
  let stop : Instant := ⟨60, 700000000, by decide, by decide⟩
  have built : Factory.ofSettings f.settings = .ok f := by rfl
  have ends : windowEnd now (Http.minuteSessions []).maxAge = .ok stop := by decide
  have created : (Http.minuteSessions []).createAt now now = .ok (Http.freshSession now stop) :=
    Sessions.createAt_of_no_options rfl ends
  have refreshes : (Http.freshSession now stop).refreshAt now =
      .ok ((Http.freshSession now stop).moved now stop) := refreshAt_eq_ok.mpr ⟨stop, ends, rfl⟩
  exact ⟨_, _, _, ⟨10, 700000000, by decide, by decide⟩, built, rfl, created, refreshes, by decide,
    by decide, by decide⟩

end Session

end SealedTokens
