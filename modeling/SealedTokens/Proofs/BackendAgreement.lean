import SealedTokens.Proofs.RoundTrip
/-!
# Agreement of the backends

A container of signed claims and a sealed one that are created alike and put through the same steps
have the same state, up to the fractions of a second that signed claims do not carry.

## Main results

- `Factory.backends_agree`: after any steps, the signed container has the state of the sealed one
  with both ends of the window cut to whole seconds
- `Factory.backends_part`: two runs that part, by a lifetime of a second and a half and by an
  instant that no clock shows

## Proof strategy

The relation between the two (`Container.Agree`) holds after creation and is kept by every step.
Only a refresh touches the window, and it cuts both ends for the signed container. Saving and
loading into another container gives back what the token tells of the container that was saved
(`Container.reload_eq`). That is the container itself as long as clocks show both ends of its
window, and then it keeps any relation at all.
-/
namespace SealedTokens

namespace Data

/-- The state with both ends of its window cut to whole seconds. -/
def wholeSeconds (d : Data) : Data :=
  { d with header := { d.header with validAfter := d.header.validAfter.wholeSeconds
                                     validBefore := d.header.validBefore.wholeSeconds } }

/-- The window has no fractions of a second. -/
def IsWhole (d : Data) : Prop := d.header.validAfter.IsWhole ∧ d.header.validBefore.IsWhole

theorem isWhole_wholeSeconds (d : Data) : d.wholeSeconds.IsWhole := ⟨rfl, rfl⟩

theorem wholeSeconds_of_isWhole {d : Data} (whole : d.IsWhole) : d.wholeSeconds = d := by
  have cut {t : Instant} (whole : t.IsWhole) : t.wholeSeconds = t := by
    obtain ⟨secs, nanos, inCalendar, valid⟩ := t
    cases whole
    rfl
  obtain ⟨⟨version, nonce, validAfter, validBefore⟩, payload⟩ := d
  simp only [wholeSeconds, cut whole.1, cut whole.2]

end Data

namespace Payload

theorem addressable_insert {p : Payload} (addressable : p.Addressable) {key : UInt32}
    {value : Bytes} (small : value.length < 2 ^ 64) : (p.insert key value).Addressable := by
  intro entry member
  rcases mem_insertEntry member with rfl | member
  · exact small
  · exact addressable entry member

theorem addressable_erase {p : Payload} (addressable : p.Addressable) (key : UInt32) :
    (p.erase key).Addressable :=
  fun entry member => addressable entry (List.mem_filter.mp member).1

end Payload

namespace Container

/-! ### Steps -/

/-- What is done to a container while it is in use. -/
inductive Step where
  | set (key : UInt32) (value : Bytes)
  | del (key : UInt32)
  | clean
  | touch (nonce : UInt64)
  | refresh (validAfter validBefore : Instant)
  /-- Saved with some randomness and some way to sign, and loaded into a container made anew. -/
  | reload (entropy : Entropy) (sign? : Bytes → Option Bytes) (start : Instant) (ttl : Span)
      (payload : Payload)

/-- The container made anew, once it has loaded what this one is saved as. -/
def reload (c : Container) (entropy : Entropy) (sign? : Bytes → Option Bytes) (start : Instant)
    (ttl : Span) (payload : Payload) : Except ContainerError Container := do
  let token ← (c.withSign sign?).save.outcome entropy
  (← create c.backend start ttl payload).load token

/-- The container after a step. It stays in use if it cannot be saved or no other one is made. -/
def step (c : Container) : Step → Container
  | .set key value => c.set key value
  | .del key => (c.del key).2
  | .clean => c.clean
  | .touch nonce => c.touch nonce
  | .refresh validAfter validBefore => c.refresh validAfter validBefore
  | .reload entropy sign? start ttl payload =>
    match c.reload entropy sign? start ttl payload with
    | .ok loaded => loaded
    | .error _ => c

/-- The container after steps in order. -/
def steps (c : Container) (list : List Step) : Container := list.foldl step c

/-- What a step relies on: that byte strings have a length of 64 bits, and that the signatures of
the backend verify. -/
def Step.Lawful (backend : Backend) : Step → Prop
  | .set _ value => value.length < 2 ^ 64
  | .reload _ sign? _ _ _ =>
    ∀ signer, backend.withSign sign? = .signed signer → signer.Honest
  | _ => True

/-- The ends of the window that a step sets are of a class of instants. -/
def Step.Names (P : Instant → Prop) : Step → Prop
  | .refresh validAfter validBefore => P validAfter ∧ P validBefore
  | _ => True

/-- The step saves and loads. -/
def Step.IsReload : Step → Prop
  | .reload .. => True
  | _ => False

/-! ### Saving and loading -/

/-- What a container is saved as is its own state again. -/
def Returns (c : Container) (sign? : Bytes → Option Bytes) : Prop :=
  ∀ entropy token, (c.withSign sign?).save.outcome entropy = .ok token →
    c.backend.load token = .ok c.data

section Reload

variable {c : Container} {sign? : Bytes → Option Bytes} (entropy : Entropy) (start : Instant)
  (ttl : Span) (payload : Payload)

/-- A container that was saved and loaded has the state that its token is loaded as. -/
theorem reload_eq {token : Bytes} {fresh : Container} {data : Data}
    (saved : (c.withSign sign?).save.outcome entropy = .ok token)
    (created : create c.backend start ttl payload = .ok fresh)
    (returned : c.backend.load token = .ok data) :
    c.reload entropy sign? start ttl payload = .ok { c with data } := by
  obtain ⟨stop, -, rfl⟩ := create_eq_ok.mp created
  rw [reload, saved, created]
  show Container.load _ token = .ok { c with data }
  rw [load_eq, returned]
  rfl

theorem step_reload_eq {token : Bytes} {fresh : Container} {data : Data}
    (saved : (c.withSign sign?).save.outcome entropy = .ok token)
    (created : create c.backend start ttl payload = .ok fresh)
    (returned : c.backend.load token = .ok data) :
    c.step (.reload entropy sign? start ttl payload) = { c with data } := by
  simp only [step, reload_eq entropy start ttl payload saved created returned]

theorem step_reload (returns : c.Returns sign?) :
    c.step (.reload entropy sign? start ttl payload) = c := by
  simp only [step]
  cases reloaded : c.reload entropy sign? start ttl payload with
  | error e => rfl
  | ok loaded =>
    -- That it was loaded says that it was saved, and that there was another one.
    obtain ⟨token, saved, rest⟩ := bind_eq_ok.mp reloaded
    obtain ⟨fresh, created, -⟩ := bind_eq_ok.mp rest
    have same := reload_eq entropy start ttl payload saved created (returns entropy token saved)
    cases same.symm.trans reloaded
    rfl

end Reload

/-! ### Agreement -/

/-- A sealed container and one of signed claims with the same state, up to fractions of a second. -/
structure Agree (codec : Codec) (signer : Signer) (a b : Container) : Prop where
  sealed : a.backend = .sealed codec
  signed : b.backend = .signed signer
  addressable : a.payload.Addressable
  data : b.data = a.data.wholeSeconds

section Agree

variable {codec : Codec} {signer : Signer} {a b : Container}

theorem Agree.isWhole (agree : Agree codec signer a b) : b.data.IsWhole :=
  agree.data ▸ a.data.isWhole_wholeSeconds

theorem Agree.mapPayload (agree : Agree codec signer a b) (change : Payload → Payload)
    (addressable : (change a.payload).Addressable) :
    Agree codec signer (a.mapPayload change) (b.mapPayload change) := by
  refine ⟨agree.sealed, agree.signed, addressable, ?_⟩
  rw [Container.mapPayload, agree.data]
  rfl

/-- A change of the header that is the same up to the fractions of a second. -/
theorem Agree.mapHeader (agree : Agree codec signer a b) (change change' : Header → Header)
    (same : change' a.data.wholeSeconds.header = (a.mapHeader change).data.wholeSeconds.header) :
    Agree codec signer (a.mapHeader change) (b.mapHeader change') := by
  refine ⟨agree.sealed, agree.signed, agree.addressable, ?_⟩
  rw [Container.mapHeader, agree.data, same]
  rfl

theorem Agree.sealed_returns (agree : Agree codec signer a b)
    (opens : ∀ nonce content, codec.sealer.Opens nonce content) (plain : codec.compressor = .nop)
    (clock : a.data.OnClock) (sign? : Bytes → Option Bytes) : a.Returns sign? := by
  intro entropy token saved
  rw [save, withSign, agree.sealed] at saved
  have returned := Backend.load_of_save_sealed opens (fun _ => agree.addressable)
    (fun lz4 => by cases plain.symm.trans lz4) saved
  have carried : (Backend.sealed codec).Carries a.data := clock
  rw [agree.sealed, ← Backend.precise_eq_iff.mpr carried]
  exact returned

theorem Agree.signed_returns (agree : Agree codec signer a b) {sign? : Bytes → Option Bytes}
    (honest : Signer.Honest { signer with sign? }) : b.Returns sign? := by
  intro entropy token saved
  rw [save, withSign, agree.signed] at saved
  have returned := Backend.load_of_save_signed honest saved
  have carried : (Backend.signed signer).Carries b.data := agree.isWhole
  rw [agree.signed, ← Backend.load_withSign _ sign?, ← Backend.precise_eq_iff.mpr carried]
  exact returned

/-- Both are created, or both fail with the same error. -/
theorem map_create (codec : Codec) (signer : Signer) (start : Instant) (ttl : Span)
    (payload : Payload) : (create (.signed signer) start ttl payload).map (·.data) =
      (create (.sealed codec) start ttl payload).map (·.data.wholeSeconds) := by
  unfold create Header.create
  cases windowEnd start ttl <;> rfl

theorem agree_create {start : Instant} {ttl : Span} {payload : Payload}
    (addressable : payload.Addressable)
    (sealed : create (.sealed codec) start ttl payload = .ok a)
    (signed : create (.signed signer) start ttl payload = .ok b) : Agree codec signer a b := by
  have same := map_create codec signer start ttl payload
  rw [sealed, signed] at same
  obtain ⟨_, -, rfl⟩ := create_eq_ok.mp sealed
  obtain ⟨_, -, rfl⟩ := create_eq_ok.mp signed
  exact ⟨rfl, rfl, addressable, Except.ok.inj same⟩

/-- The step lemma: whatever is done to both, they agree afterwards. -/
theorem agree_step (opens : ∀ nonce content, codec.sealer.Opens nonce content)
    (plain : codec.compressor = .nop) (agree : Agree codec signer a b) {step : Step}
    (lawful : step.Lawful (.signed signer)) (clock : step.IsReload → a.data.OnClock) :
    Agree codec signer (a.step step) (b.step step) := by
  cases step with
  | reload entropy sign? start ttl payload =>
    -- Each of them is the container that it was, whether or not it could be saved.
    rw [step_reload _ _ _ _ (agree.sealed_returns opens plain (clock trivial) sign?),
      step_reload _ _ _ _ (agree.signed_returns (lawful _ rfl))]
    exact agree
  | set key value =>
    exact agree.mapPayload (fun p => p.insert key value)
      (Payload.addressable_insert agree.addressable lawful)
  | del key =>
    exact agree.mapPayload (fun p => p.erase key) (Payload.addressable_erase agree.addressable key)
  | clean => exact agree.mapPayload (fun _ => .empty) fun entry member => by cases member
  | touch nonce =>
    let touched (h : Header) := h.touch nonce
    exact agree.mapHeader touched touched rfl
  | refresh validAfter validBefore =>
    let moved (backend : Backend) (h : Header) :=
      h.refresh (backend.carried validAfter) (backend.carried validBefore)
    refine agree.mapHeader (moved a.backend) (moved b.backend) ?_
    -- What the signed container cuts off the instants is what the relation cuts off.
    simp only [moved, agree.sealed, agree.signed]
    rfl

/-- What clocks show, or a narrower class of instants: both ends of a window stay in it if every
window that is set has its ends there. -/
theorem ends_step {P : Instant → Prop} (clock : ∀ t, P t → t.OnClock)
    (opens : ∀ nonce content, codec.sealer.Opens nonce content) (plain : codec.compressor = .nop)
    (agree : Agree codec signer a b) (ends : P a.header.validAfter ∧ P a.header.validBefore)
    {step : Step} (names : step.Names P) :
    P (a.step step).header.validAfter ∧ P (a.step step).header.validBefore := by
  cases step with
  | refresh validAfter validBefore =>
    obtain ⟨_, data⟩ := a
    cases agree.sealed
    exact names
  | reload entropy sign? start ttl payload =>
    have shown : a.data.OnClock := ⟨clock _ ends.1, clock _ ends.2⟩
    rw [step_reload _ _ _ _ (agree.sealed_returns opens plain shown sign?)]
    exact ends
  | _ => exact ends

theorem ends_steps {P : Instant → Prop} (clock : ∀ t, P t → t.OnClock)
    (opens : ∀ nonce content, codec.sealer.Opens nonce content) (plain : codec.compressor = .nop)
    (agree : Agree codec signer a b) (ends : P a.header.validAfter ∧ P a.header.validBefore)
    {list : List Step} (lawful : ∀ step ∈ list, step.Lawful (.signed signer))
    (names : ∀ step ∈ list, step.Names P) :
    P (a.steps list).header.validAfter ∧ P (a.steps list).header.validBefore := by
  induction list generalizing a b with
  | nil => exact ends
  | cons step list ih =>
    rw [List.forall_mem_cons] at lawful names
    exact ih (agree_step opens plain agree lawful.1 fun _ => ⟨clock _ ends.1, clock _ ends.2⟩)
      (ends_step clock opens plain agree ends names.1) lawful.2 names.2

/-- The run lemma. Only what is reloaded has to be at instants that clocks show. -/
theorem agree_steps (opens : ∀ nonce content, codec.sealer.Opens nonce content)
    (plain : codec.compressor = .nop) (agree : Agree codec signer a b) {list : List Step}
    (lawful : ∀ step ∈ list, step.Lawful (.signed signer))
    (clock : (∃ step ∈ list, step.IsReload) →
      a.data.OnClock ∧ ∀ step ∈ list, step.Names Instant.OnClock) :
    Agree codec signer (a.steps list) (b.steps list) := by
  induction list generalizing a b with
  | nil => exact agree
  | cons step list ih =>
    rw [List.forall_mem_cons] at lawful
    refine ih (agree_step opens plain agree lawful.1 fun reloads => ?_) lawful.2
      fun ⟨later, member, reloads⟩ => ?_
    · exact (clock ⟨step, List.mem_cons_self, reloads⟩).1
    · obtain ⟨shown, names⟩ := clock ⟨later, List.mem_cons_of_mem _ member, reloads⟩
      rw [List.forall_mem_cons] at names
      exact ⟨ends_step (fun _ => id) opens plain agree shown names.1, names.2⟩

end Agree

end Container

/-! ### Main result -/

/-- **Agreement of the backends.** A sealing factory that does not compress and one of signed claims
create containers alike, or fail alike. After any steps, the state of the signed container is that
of the sealed one with both ends of the window cut to whole seconds. So both give the same answers
about entries, nonce and version, and where no end of a window has a fraction they are valid at the
same instants and fail with the same errors elsewhere. Neither of them is lost by a reload: what it
is saved as is loaded.

- `addressable`: the byte strings of the payload have a length of 64 bits
- `lawful`: so have those that are set, and the signatures made for reloads verify
- `clock`: if anything is reloaded, clocks show the instants that are given to the containers -/
theorem Factory.backends_agree {s t : Settings} {f g : Factory} (sealing : ofSettings s = .ok f)
    (signing : ofSettings t = .ok g) (isSealed : s.kind = .secretBox)
    (plain : s.compressor = .nop) (isSigned : t.kind = .jwt) (start : Instant) (ttl : Span)
    (payload : Payload) (addressable : payload.Addressable) (list : List Container.Step)
    (lawful : ∀ step ∈ list, step.Lawful g.backend)
    (clock : (∃ step ∈ list, step.IsReload) →
      start.OnClock ∧ ∀ step ∈ list, step.Names Instant.OnClock) :
    (g.create start ttl payload).map (·.data) =
      (f.create start ttl payload).map (·.data.wholeSeconds) ∧
    ∀ a b, f.create start ttl payload = .ok a → g.create start ttl payload = .ok b →
      let a' := a.steps list
      let b' := b.steps list
      b'.data = a'.data.wholeSeconds ∧
      (∀ key, b'.get? key = a'.get? key ∧ (b'.del key).1 = (a'.del key).1) ∧
      b'.payload = a'.payload ∧ b'.header.nonce = a'.header.nonce ∧
      b'.header.version = a'.header.version ∧
      (start.IsWhole → (∀ stop, windowEnd start ttl = .ok stop → stop.IsWhole) →
        (∀ step ∈ list, step.Names Instant.IsWhole) → ∀ now, b'.validate now = a'.validate now) ∧
      ∀ sign?,
        (start.OnClock → (∀ step ∈ list, step.Names Instant.OnClock) → a'.Returns sign?) ∧
        ((∀ signer, g.backend.withSign sign? = .signed signer → signer.Honest) →
          b'.Returns sign?) := by
  obtain ⟨-, sealer, suits, sealed⟩ | ⟨isJwt, -⟩ := backend_of_ofSettings sealing
  swap
  · exact absurd (isJwt.symm.trans isSealed) (by decide)
  obtain ⟨isBox, -⟩ | ⟨-, signer, -, signed⟩ := backend_of_ofSettings signing
  · exact absurd (isBox.symm.trans isSigned) (by decide)
  have opens := Sealer.opens_of_create suits
  simp only [create, sealed, signed] at lawful ⊢
  refine ⟨Container.map_create _ _ start ttl payload, fun a b created created' => ?_⟩
  -- The two agree when they are created, and every step keeps it.
  have first := Container.agree_create addressable created created'
  have shows (onClock : start.OnClock) : a.data.OnClock := by
    obtain ⟨stop, ends, rfl⟩ := Container.create_eq_ok.mp created
    exact ⟨onClock, onClock_of_windowEnd onClock ends⟩
  have agree := Container.agree_steps opens plain first lawful fun reloads =>
    ⟨shows (clock reloads).1, (clock reloads).2⟩
  have payloads : (b.steps list).payload = (a.steps list).payload := by
    rw [Container.payload, agree.data]
    rfl
  have headers : (b.steps list).header = (a.steps list).data.wholeSeconds.header := by
    rw [Container.header, agree.data]
  refine ⟨agree.data, fun key => ⟨?_, ?_⟩, payloads, by rw [headers]; rfl, by rw [headers]; rfl,
    fun whole wholeEnd wholeSteps now => ?_,
    fun sign? => ⟨fun onClock names => ?_, fun honest => ?_⟩⟩
  · rw [Container.get?, Container.get?, payloads]
  · rw [Container.del, Container.del, payloads]
  · -- Without fractions there is nothing to cut, and the two states are the same.
    obtain ⟨stop, ends, rfl⟩ := Container.create_eq_ok.mp created
    have isWhole := Container.ends_steps (fun _ => Instant.IsWhole.onClock) opens plain first
      ⟨whole, wholeEnd stop ends⟩ lawful wholeSteps
    have same := agree.data.trans (Data.wholeSeconds_of_isWhole isWhole)
    rw [Container.validate, Container.validate, Container.header, Container.header, same]
  · exact agree.sealed_returns opens plain (Container.ends_steps (fun _ => id) opens plain first
      (shows onClock) lawful names) sign?
  · exact agree.signed_returns (honest _ rfl)

/-- Two containers whose windows start inside a second, with a reload between two steps. -/
theorem Factory.backends_agree_reloaded :
    let s := { Settings.ofKind .secretBox (List.replicate 32 7) with compressor := .nop }
    let t := Settings.ofKind .jwt [7]
    let start : Instant := ⟨-1, 500000000, by decide, by decide⟩
    let list : List Container.Step := [.set 2 [1, 2, 3], .reload (Entropy.repeating [0])
      (Signer.hmac .hs256 .sha256 [7]).sign? start ⟨60, 0, by decide⟩ .empty, .touch 5]
    ∃ f g a b, ofSettings s = .ok f ∧ ofSettings t = .ok g ∧
      f.create start ⟨60, 0, by decide⟩ .empty = .ok a ∧
      g.create start ⟨60, 0, by decide⟩ .empty = .ok b ∧
      (b.steps list).data = (a.steps list).data.wholeSeconds := by
  intro s t start list
  let codec : Codec := ⟨.compact, .nop,
    .secretBox (Crypto.XChaCha20Poly1305.cipher (List.replicate 32 7)), .base64⟩
  let signer := Signer.hmac .hs256 .sha256 [7]
  have sealing : ofSettings s = .ok ⟨s, .sealed codec⟩ := rfl
  have signing : ofSettings t = .ok ⟨t, .signed signer⟩ := rfl
  have ends : windowEnd start ⟨60, 0, by decide⟩ =
      .ok ⟨59, 500000000, by decide, by decide⟩ := by decide
  have created (backend : Backend) :
      Container.create backend start ⟨60, 0, by decide⟩ .empty = .ok _ :=
    Container.create_eq_ok.mpr ⟨_, ends, rfl⟩
  have lawful : ∀ step ∈ list, step.Lawful (.signed signer) := by
    intro step member
    simp only [list, List.mem_cons, List.not_mem_nil, or_false] at member
    rcases member with rfl | rfl | rfl
    · show [1, 2, 3].length < 2 ^ 64
      decide
    · intro other same
      cases same
      exact Signer.honest_hmac _ _ _
    · trivial
  have shown : ∀ step ∈ list, step.Names Instant.OnClock := by
    intro step member
    simp only [list, List.mem_cons, List.not_mem_nil, or_false] at member
    rcases member with rfl | rfl | rfl <;> trivial
  have agreed := backends_agree sealing signing rfl rfl rfl start ⟨60, 0, by decide⟩ .empty
    (fun entry member => by cases member) list lawful fun _ => ⟨by decide, shown⟩
  exact ⟨_, _, _, _, sealing, signing, created _, created _,
    (agreed.2 _ _ (created _) (created _)).1⟩

/-- **Where the backends part.** Two pairs of containers whose windows start at the epoch. The first
pair lives for a second and a half: at the second 1 the sealed container is valid, and the signed
one, whose window ends there, is not. The windows of the second pair are moved to an instant inside
the second 4 that no clock shows, and both are saved and loaded: the text of a sealed token names
this instant by the second 5, and the claims of a signed one name the second 4. -/
theorem Factory.backends_part :
    let s := { Settings.ofKind .secretBox (List.replicate 32 7) with compressor := .nop }
    let t := Settings.ofKind .jwt [7]
    let hidden : Instant := ⟨4, 1333333333, by decide, by decide⟩
    let list : List Container.Step := [.refresh hidden hidden, .reload (Entropy.repeating [0])
      (Signer.hmac .hs256 .sha256 [7]).sign? .epoch ⟨60, 0, by decide⟩ .empty]
    ∃ f g, ofSettings s = .ok f ∧ ofSettings t = .ok g ∧
      (∃ a b, f.create .epoch ⟨1, 500000000, by decide⟩ .empty = .ok a ∧
        g.create .epoch ⟨1, 500000000, by decide⟩ .empty = .ok b ∧
        let now : Instant := ⟨1, 0, by decide, by decide⟩
        a.validate now = .ok () ∧ b.validate now ≠ .ok ()) ∧
      ∃ a b, f.create .epoch ⟨60, 0, by decide⟩ .empty = .ok a ∧
        g.create .epoch ⟨60, 0, by decide⟩ .empty = .ok b ∧
        (b.steps list).data ≠ (a.steps list).data.wholeSeconds := by
  intro s t hidden list
  let codec : Codec := ⟨.compact, .nop,
    .secretBox (Crypto.XChaCha20Poly1305.cipher (List.replicate 32 7)), .base64⟩
  let signer := Signer.hmac .hs256 .sha256 [7]
  -- The first pair: one window ends at the second 1, the other half a second later.
  have short : windowEnd .epoch ⟨1, 500000000, by decide⟩ =
      .ok ⟨1, 500000000, by decide, by decide⟩ := by decide
  have long : windowEnd .epoch ⟨60, 0, by decide⟩ = .ok ⟨60, 0, by decide, by decide⟩ := by decide
  have created (backend : Backend) {ttl : Span} {stop : Instant}
      (ends : windowEnd .epoch ttl = .ok stop) :
      Container.create backend .epoch ttl .empty = .ok _ :=
    Container.create_eq_ok.mpr ⟨_, ends, rfl⟩
  -- The second pair after the refresh, and what becomes of each state in a reload.
  let moved (backend : Backend) : Data :=
    ⟨⟨2, 1, backend.carried hidden, backend.carried hidden⟩, .empty⟩
  have drawn : codec.sealer.nonce? (Entropy.repeating [0]) = some (List.replicate 24 0) := by
    show ((Entropy.repeating [0]).draw 24).1 = _
    rfl
  have boxed : ((Backend.sealed codec).save (moved (.sealed codec))).outcome
      (Entropy.repeating [0]) = .ok _ := Codec.outcome_encode_eq_ok.mpr ⟨_, drawn, rfl⟩
  have opens (nonce content : Bytes) : codec.sealer.Opens nonce content :=
    Crypto.XChaCha20Poly1305.opens _ nonce content
  have opened := Backend.load_of_save_sealed opens (fun _ entry member => by cases member)
    (fun lz4 => by cases lz4) boxed
  obtain ⟨token, issued⟩ := Backend.exists_save_hmac .hs256 .sha256 [7] (moved (.signed signer))
    (Entropy.repeating [0])
  have read := Backend.load_of_save_signed (Signer.honest_hmac _ _ _) issued
  have run (backend : Backend) {c : Container} {token : Bytes} {data : Data}
      (refreshed : c.step (.refresh hidden hidden) = ⟨backend, moved backend⟩)
      (saved : ((⟨backend, moved backend⟩ : Container).withSign signer.sign?).save.outcome
        (Entropy.repeating [0]) = .ok token)
      (loaded : backend.load token = .ok data) : (c.steps list).data = data := by
    simp only [list, Container.steps, List.foldl_cons, List.foldl_nil, refreshed]
    rw [Container.step_reload_eq _ _ _ _ saved (created backend long) loaded]
  refine ⟨⟨s, .sealed codec⟩, ⟨t, .signed signer⟩, rfl, rfl,
    ⟨_, _, created _ short, created _ short, by decide, by decide⟩,
    _, _, created _ long, created _ long, fun same => ?_⟩
  rw [run (.signed signer) rfl issued read, run (.sealed codec) rfl boxed opened] at same
  exact absurd (congrArg (fun d => d.header.validAfter.secs) same) (by decide)

end SealedTokens
