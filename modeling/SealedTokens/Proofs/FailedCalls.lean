import SealedTokens.Proofs.CalendarLimits
import SealedTokens.Proofs.Payloads
/-!
# Calls that fail

What a session is after a call to it that failed. Reading a token and moving the window are all or
nothing. Writing edits the payload first and moves the window then, and when the window cannot be
moved, the edit stays.

## Main results

- `Session.payload_perform`, `Session.payload_run`: operations edit the payload in any case
- `Session.perform_of_error`: what an operation leaves that failed
- `Session.failed_call_changes_iff`: which failed calls have changed something
- `Session.failed_write_is_kept`: a text that was refused, and is there

## Proof strategy

The payload that an operation leaves is a function of the payload alone (`Payload.edit`), whatever
the clock says. The window is moved last or not at all, so a failed operation has done its edit and
nothing else; and an edit shows unless it writes what is there.
-/
namespace SealedTokens

/-- What becomes of a payload by an operation on its session. -/
def Payload.edit (p : Payload) : SessionOperation → Payload
  | .set key value => p.insert key value
  | .setText key value => p.insert key (Bytes.ofText value)
  | .del key => p.erase key
  | .clean => .empty
  | .get _ | .getText _ | .touch | .refresh => p

/-- A call to a session: a token is read into it, or it is worked on. -/
inductive SessionCall where
  | load (token : Bytes)
  | operate (clock : Instant) (operation : SessionOperation)

namespace Session

variable {s : Session} {clock : Instant} {operation : SessionOperation}

/-- What a call answers, and the session that it leaves. -/
def attempt (s : Session) : SessionCall → Except SessionError Unit × Session
  | .load token =>
    match s.load token with
    | .ok loaded => (.ok (), loaded)
    | .error e => (.error e, s)
  | .operate clock operation => (s.answer clock operation, s.perform clock operation)

/-- The payload that a call leaves when it fails. -/
def leftPayload (s : Session) : SessionCall → Payload
  | .load _ => s.payload
  | .operate _ operation => s.payload.edit operation

/-- A call that writes something new while the calendar has no room for the window. -/
def HalfDone (s : Session) : SessionCall → Prop
  | .operate clock (.set key value) =>
    ¬ Fits clock s.sessions.maxAge ∧ s.payload.get? key ≠ some value
  | .operate clock (.setText key value) =>
    ¬ Fits clock s.sessions.maxAge ∧ s.payload.get? key ≠ some (Bytes.ofText value)
  | .operate clock (.del key) =>
    ¬ Fits clock s.sessions.maxAge ∧ s.payload.contains key = true
  | .operate _ (.get _) | .operate _ (.getText _) | .operate _ .clean | .operate _ .touch
  | .operate _ .refresh | .load _ => False

/-! ### The payload -/

/-- Moving the window, or failing to, keeps the payload. -/
theorem payload_refreshed {α : Type} (s : Session) (clock : Instant) (result : α) :
    (s.refreshed clock result).2.payload = s.payload := by
  cases moving : s.refreshAt clock with
  | error e => rw [refreshed_of_error moving]
  | ok next =>
    obtain ⟨stop, -, rfl⟩ := refreshAt_eq_ok.mp moving
    rw [refreshed_of_ok moving]
    rfl

/-- An operation edits the payload whether it fails or not. -/
theorem payload_perform (s : Session) (clock : Instant) (operation : SessionOperation) :
    (s.perform clock operation).payload = s.payload.edit operation := by
  cases operation with
  | set key value => exact payload_refreshed (s.withData ⟨s.header, s.payload.insert key value⟩) ..
  | setText key value =>
    exact payload_refreshed (s.withData ⟨s.header, s.payload.insert key (Bytes.ofText value)⟩) ..
  | del key =>
    cases found : s.payload.contains key with
    | true =>
      rw [perform, del_of_contains found]
      exact payload_refreshed (s.withData ⟨s.header, s.payload.erase key⟩) ..
    | false =>
      rw [perform, del_of_not_contains found]
      exact (Payload.erase_of_absent found).symm
  | refresh => exact payload_refreshed s ..
  | get key => rfl
  | getText key => rfl
  | clean => rfl
  | touch => rfl

/-- Edits add up over a run of operations, the failed ones among them. -/
theorem payload_run (s : Session) (clock : Instant) (operations : List SessionOperation) :
    (s.run clock operations).payload = operations.foldl Payload.edit s.payload := by
  induction operations generalizing s with
  | nil => rfl
  | cons operation operations ih =>
    rw [List.foldl_cons, ← payload_perform s clock operation]
    exact ih (s.perform clock operation)

/-! ### Failed calls -/

theorem answer_eq_error_iff :
    (∃ e, s.answer clock operation = .error e) ↔
      s.moves operation = true ∧ ¬ Fits clock s.sessions.maxAge := by
  have hangs := s.hangsOn_answer clock operation
  constructor
  · rintro ⟨e, failed⟩
    refine Classical.not_imp.mp fun follows => ?_
    obtain ⟨a, returned⟩ := hangs.returns follows
    cases returned.symm.trans failed
  · intro lacks
    obtain ⟨e, failed, -⟩ := hangs.fails (Classical.not_imp.mpr lacks)
    exact ⟨e, failed⟩

/-- Where the calendar has no room, the last step of an operation leaves what came before. -/
theorem refreshed_of_not_fits {α : Type} {s : Session} {result : α}
    (lacks : ¬ Fits clock s.sessions.maxAge) : (s.refreshed clock result).2 = s := by
  obtain ⟨e, failed, -⟩ := (s.hangsOn_refreshAt clock).fails lacks
  rw [refreshed_of_error failed]

/-- An operation that failed has edited the payload, and done nothing else. -/
theorem perform_of_error {e : SessionError} (failed : s.answer clock operation = .error e) :
    s.perform clock operation = s.withData ⟨s.header, s.payload.edit operation⟩ := by
  obtain ⟨moves, lacks⟩ := answer_eq_error_iff.mp ⟨e, failed⟩
  have stays {α : Type} (payload : Payload) (result : α) :
      ((s.withData ⟨s.header, payload⟩).refreshed clock result).2 =
        s.withData ⟨s.header, payload⟩ := refreshed_of_not_fits lacks
  -- Of the operations that can fail, all but the last one write first.
  cases operation with
  | set key value => exact stays (s.payload.insert key value) ()
  | setText key value => exact stays (s.payload.insert key (Bytes.ofText value)) ()
  | del key =>
    rw [perform, del_of_contains moves]
    exact stays (s.payload.erase key) true
  | refresh => exact stays s.payload ()
  | get key => cases moves
  | getText key => cases moves
  | clean => cases moves
  | touch => cases moves

theorem attempt_of_error {call : SessionCall} {e : SessionError}
    (failed : (s.attempt call).1 = .error e) :
    (s.attempt call).2 = s.withData ⟨s.header, s.leftPayload call⟩ := by
  cases call with
  | operate clock operation => exact perform_of_error failed
  | load token =>
    cases reads : s.load token with
    | error e => rw [attempt, reads]; rfl
    | ok loaded =>
      rw [attempt, reads] at failed
      cases failed

/-- Whether a failing operation shows hangs on what it writes. -/
theorem halfDone_operate_iff :
    s.HalfDone (.operate clock operation) ↔
      (s.moves operation = true ∧ ¬ Fits clock s.sessions.maxAge) ∧
        s.payload.edit operation ≠ s.payload := by
  cases operation with
  | set key value => simp [HalfDone, moves, Payload.edit, Payload.insert_eq_self_iff]
  | setText key value => simp [HalfDone, moves, Payload.edit, Payload.insert_eq_self_iff]
  | del key =>
    simp only [HalfDone, moves, Payload.edit]
    constructor
    · rintro ⟨lacks, found⟩
      exact ⟨⟨found, lacks⟩, Payload.erase_ne_self found⟩
    · rintro ⟨⟨found, lacks⟩, -⟩
      exact ⟨lacks, found⟩
  | refresh => simp [HalfDone, Payload.edit]
  | get key => simp [HalfDone, moves]
  | getText key => simp [HalfDone, moves]
  | clean => simp [HalfDone, moves]
  | touch => simp [HalfDone, moves]

/-- **Half-done calls.** A call that fails leaves the session with its header, its policy and its
validators. The payload is the one before the call, too, if a token was read or the window was to be
moved, and the edited one otherwise. So a failed call has changed the session exactly if it writes
something new, at a clock reading from which the calendar has no room for the window. -/
theorem failed_call_changes_iff (s : Session) (call : SessionCall) :
    (∀ e, (s.attempt call).1 = .error e →
      (s.attempt call).2 = s.withData ⟨s.header, s.leftPayload call⟩) ∧
    ((∃ e, (s.attempt call).1 = .error e ∧ (s.attempt call).2.data ≠ s.data) ↔ s.HalfDone call) := by
  refine ⟨fun e failed => attempt_of_error failed, ?_⟩
  have shows {e : SessionError} (failed : (s.attempt call).1 = .error e) :
      (s.attempt call).2.data ≠ s.data ↔ s.leftPayload call ≠ s.payload := by
    rw [attempt_of_error failed]
    refine not_congr ⟨fun same => congrArg Data.payload same, fun same => ?_⟩
    show (⟨s.header, s.leftPayload call⟩ : Data) = s.data
    rw [same]
    rfl
  cases call with
  | load token =>
    refine ⟨?_, False.elim⟩
    rintro ⟨e, failed, changed⟩
    exact (shows failed).mp changed rfl
  | operate clock operation =>
    rw [halfDone_operate_iff, ← answer_eq_error_iff]
    constructor
    · rintro ⟨e, failed, changed⟩
      exact ⟨⟨e, failed⟩, (shows failed).mp changed⟩
    · rintro ⟨⟨e, failed⟩, changed⟩
      exact ⟨e, failed, (shows failed).mpr changed⟩

/-- **Refused, and kept.** The calendar has room for a window of 261000 years that starts 253500
years ago, and none for one that starts now. So a session of that age cannot be written to; the text
is in it all the same. -/
theorem failed_write_is_kept :
    let long : Instant := ⟨-8000000000000, 0, by decide, by decide⟩
    let clock : Instant := ⟨1700000000, 0, by decide, by decide⟩
    let sessions := { Http.minuteSessions [] with maxAge := .ofSecs 8236533600000 }
    ∃ session e, sessions.createAt long long = .ok session ∧
      (session.attempt (.operate clock (.setText 1 "alice"))).1 = .error e ∧
      session.getText? 1 = none ∧
      (session.attempt (.operate clock (.setText 1 "alice"))).2.getText? 1 = some "alice" := by
  intro long clock sessions
  let stop : Instant := ⟨236533600000, 0, by decide, by decide⟩
  have ends : long.add? sessions.maxAge = some stop := by decide
  obtain ⟨session, created, absent, own⟩ : ∃ session, sessions.createAt long long = .ok session ∧
      session.getText? 1 = none ∧ session.sessions = sessions :=
    ⟨_, Sessions.createAt_of_no_options rfl (windowEnd_of_add? ends), rfl, rfl⟩
  have none : clock.add? sessions.maxAge = none := by decide
  have lacks : ¬ Fits clock session.sessions.maxAge := by
    rw [own]
    rintro ⟨stop, ends⟩
    cases none.symm.trans ends
  have refused : ∃ e, session.answer clock (.setText 1 "alice") = .error e :=
    answer_eq_error_iff.mpr ⟨rfl, lacks⟩
  obtain ⟨e, failed⟩ := refused
  refine ⟨session, e, created, failed, absent, ?_⟩
  show ((session.perform clock (.setText 1 "alice")).payload.get? 1).map Text.lossy = some "alice"
  rw [payload_perform, Payload.edit, Payload.get?_insert, if_pos rfl, Option.map_some,
    Text.lossy_ofText]

end Session

end SealedTokens
