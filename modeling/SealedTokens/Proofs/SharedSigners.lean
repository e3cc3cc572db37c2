import Mathlib.Data.List.Pairwise
import SealedTokens.Jwt.SignerCache
import SealedTokens.Proofs.Loading
/-!
# Shared signers

What a cache of signers answers to a run of calls. Each is answered as by building the signer anew,
errors included, except that calls for the same algorithm and the same key share one signer, which
is built once.

## Main results

- `SignerCache.answers_signer`: the step, one case for each thing that a call can come to
- `SignerCache.of_mem_serve`, `SignerCache.pairwise_serve`: what a run keeps, and how it grows
- `SignerCache.serves_transparently`: the whole of it

## Proof strategy

Every entry was made for a key of the run, and no two are for the same algorithm and the same digest
(`SignerCache.Sound`). So what is there is found, and a caller that looks later finds at least as
much. Entries are only ever appended, hence what two calls were answered can be compared in one
cache, the one that the later of them leaves.
-/
namespace SealedTokens

/-- A request for the signer of an algorithm and a key. -/
@[ext]
structure SignerCall where
  algorithm : SignatureAlgorithm
  key : Bytes

/-- What a call is told apart by. -/
def SignerCall.label (call : SignerCall) : SignatureAlgorithm × Bytes :=
  (call.algorithm, Crypto.Sha256.digest call.key)

/-- The entry of a signer that is made for a call. -/
def SignerCall.entry (call : SignerCall) (signer : Signer) : SignerCache.Entry :=
  ⟨call.algorithm, Crypto.Sha256.digest call.key, signer⟩

namespace SignerCache

def Entry.label (e : Entry) : SignatureAlgorithm × Bytes := (e.algorithm, e.keyDigest)

/-- What holds of a cache after calls with keys out of `keys`. -/
structure Sound (keys : Set Bytes) (cache : SignerCache) : Prop where
  made : ∀ e ∈ cache.entries, ∃ key ∈ keys, e.keyDigest = Crypto.Sha256.digest key ∧
    Signer.create e.algorithm key = .ok e.signer
  single : (cache.entries.map Entry.label).Nodup

theorem Sound.empty (keys : Set Bytes) : Sound keys {} :=
  ⟨fun _ member => absurd member List.not_mem_nil, List.nodup_nil⟩

variable {keys : Set Bytes} {cache seen : SignerCache} {call : SignerCall} {place : Nat}
  {signer : Signer}

/-! ### Looking up -/

theorem Entry.isFor_iff {e : Entry} :
    e.isFor call.algorithm (Crypto.Sha256.digest call.key) = true ↔ e.label = call.label := by
  simp [isFor, label, SignerCall.label]

/-- What stands in a cache stands there later. -/
theorem getElem?_of_earlier (earlier : seen.entries <+: cache.entries) {e : Entry}
    (held : seen.entries[place]? = some e) : cache.entries[place]? = some e := by
  obtain ⟨inside, rfl⟩ := List.getElem?_eq_some_iff.mp held
  exact List.prefix_iff_getElem?.mp earlier place inside

/-- What is found is there. -/
theorem getElem?_of_find? (found : cache.find? call.algorithm call.key = some (place, signer)) :
    cache.entries[place]? = some (call.entry signer) := by
  obtain ⟨p, first, rest⟩ := Option.bind_eq_some_iff.mp found
  obtain ⟨⟨algorithm, digest, signer'⟩, held, same⟩ := Option.bind_eq_some_iff.mp rest
  cases same
  obtain ⟨inside, matching, -⟩ := List.findIdx?_eq_some_iff_getElem.mp first
  rw [List.getElem?_eq_getElem inside, Option.some.injEq] at held
  rw [held, Entry.isFor_iff] at matching
  obtain ⟨rfl, rfl⟩ := Prod.mk.inj matching
  rw [List.getElem?_eq_getElem inside, held]
  rfl

/-- Nothing is found iff there is no entry for the call. -/
theorem find?_eq_none : cache.find? call.algorithm call.key = none ↔
    call.label ∉ cache.entries.map Entry.label := by
  constructor
  · intro absent member
    obtain ⟨e, inside, same⟩ := List.mem_map.mp member
    have matching := Entry.isFor_iff.mpr same
    cases first : cache.entries.findIdx? fun e =>
        e.isFor call.algorithm (Crypto.Sha256.digest call.key) with
    | none =>
      rw [List.findIdx?_eq_none_iff.mp first e inside] at matching
      cases matching
    | some p =>
      obtain ⟨within, -⟩ := List.findIdx?_eq_some_iff_getElem.mp first
      simp [find?, first, List.getElem?_eq_getElem within] at absent
  · intro absent
    have first : (cache.entries.findIdx? fun e =>
        e.isFor call.algorithm (Crypto.Sha256.digest call.key)) = none := by
      rw [List.findIdx?_eq_none_iff]
      intro e inside
      rw [Bool.eq_false_iff]
      intro matching
      exact absent (List.mem_map.mpr ⟨e, inside, Entry.isFor_iff.mp matching⟩)
    simp [find?, first]

/-- No two places have entries for one call. -/
theorem Sound.place_eq (sound : Sound keys cache) {p q : Nat} {e f : Entry}
    (first : cache.entries[p]? = some e) (second : cache.entries[q]? = some f)
    (same : e.label = f.label) : p = q := by
  have inside : p < (cache.entries.map Entry.label).length := by
    rw [List.length_map]
    exact (List.getElem?_eq_some_iff.mp first).1
  apply (List.getElem?_inj inside sound.single).mp
  rw [List.getElem?_map, List.getElem?_map, first, second, Option.map_some, Option.map_some, same]

/-- What is there is found. -/
theorem Sound.find?_of_getElem? (sound : Sound keys cache)
    (held : cache.entries[place]? = some (call.entry signer)) :
    cache.find? call.algorithm call.key = some (place, signer) := by
  cases found : cache.find? call.algorithm call.key with
  | none =>
    have member := List.mem_map_of_mem (f := Entry.label) (List.mem_of_getElem? held)
    exact absurd member (find?_eq_none.mp found)
  | some other =>
    have held' := getElem?_of_find? found
    obtain rfl := sound.place_eq held' held rfl
    rw [held', Option.some.injEq] at held
    obtain ⟨-, -, same⟩ := Entry.mk.inj held
    rw [← same]

/-- It makes no difference when a caller looked first: what is built in the meantime is found when
its turn comes. -/
theorem Sound.signerSince_eq (sound : Sound keys cache) (earlier : seen.entries <+: cache.entries) :
    seen.signerSince cache call.algorithm call.key = cache.build call.algorithm call.key := by
  unfold signerSince
  cases found : seen.find? call.algorithm call.key with
  | none => rfl
  | some it =>
    have found' := sound.find?_of_getElem?
      (getElem?_of_earlier earlier (getElem?_of_find? found))
    rw [build, found']

/-! ### One call -/

/-- What a call can come to: a signer that is there, one that is built and entered, or the error of
a key that does not suit. -/
inductive Answers (cache : SignerCache) (call : SignerCall) :
    Except ContainerError (Nat × Signer) → SignerCache → Prop
  | shared {place : Nat} {signer : Signer}
    (held : cache.entries[place]? = some (call.entry signer)) :
    Answers cache call (.ok (place, signer)) cache
  | built {signer : Signer} (absent : call.label ∉ cache.entries.map Entry.label)
    (created : Signer.create call.algorithm call.key = .ok signer) :
    Answers cache call (.ok (cache.entries.length, signer)) ⟨cache.entries ++ [call.entry signer]⟩
  | refused {e : ContainerError} (failed : Signer.create call.algorithm call.key = .error e) :
    Answers cache call (.error e) cache

theorem answers_build (cache : SignerCache) (call : SignerCall) :
    Answers cache call (cache.build call.algorithm call.key).1
      (cache.build call.algorithm call.key).2 := by
  unfold build
  split
  next found => exact .shared (getElem?_of_find? found)
  next absent =>
    split
    next created => exact .built (find?_eq_none.mp absent) created
    next failed => exact .refused failed

theorem answers_signer (cache : SignerCache) (call : SignerCall) :
    Answers cache call (cache.signer call.algorithm call.key).1
      (cache.signer call.algorithm call.key).2 := by
  unfold signer signerSince
  split
  next found => exact .shared (getElem?_of_find? found)
  · exact answers_build cache call

namespace Answers

variable {result : Except ContainerError (Nat × Signer)} {next : SignerCache}
  (answers : Answers cache call result next)

include answers

theorem grows : cache.entries <+: next.entries := by
  cases answers with
  | shared held => exact List.prefix_refl _
  | built absent created => exact List.prefix_append _ _
  | refused failed => exact List.prefix_refl _

theorem held (returned : result = .ok (place, signer)) :
    next.entries[place]? = some (call.entry signer) := by
  cases answers with
  | shared held =>
    cases returned
    exact held
  | built absent created =>
    cases returned
    exact List.getElem?_concat_length
  | refused failed => cases returned

theorem unchanged {e : ContainerError} (refused : result = .error e) : next = cache := by
  cases answers with
  | shared held => rfl
  | built absent created => cases refused
  | refused failed => rfl

/-- If no two keys have one digest, a call is answered as by building the signer anew. -/
theorem created (sound : Sound keys cache) (distinct : Set.InjOn Crypto.Sha256.digest keys)
    (within : call.key ∈ keys) :
    result.map Prod.snd = Signer.create call.algorithm call.key := by
  cases answers with
  | shared held =>
    obtain ⟨key, member, same, made⟩ := sound.made _ (List.mem_of_getElem? held)
    -- The entry was made for a key of the same digest, which is the key of the call.
    obtain rfl := distinct within member same
    exact made.symm
  | built absent created => exact created.symm
  | refused failed => exact failed.symm

theorem sound (sound : Sound keys cache) (within : call.key ∈ keys) : Sound keys next := by
  cases answers with
  | shared held => exact sound
  | built absent created =>
    constructor
    · intro e member
      rcases List.mem_append.mp member with old | new
      · exact sound.made e old
      · obtain rfl := List.mem_singleton.mp new
        exact ⟨call.key, within, rfl, created⟩
    · rw [List.map_append, List.nodup_append]
      refine ⟨sound.single, List.pairwise_singleton _ _, ?_⟩
      intro label old label' new same
      rw [same, List.mem_singleton.mp new] at old
      exact absent old
  | refused failed => exact sound

end Answers

end SignerCache

/-! ### Runs -/

/-- A call with the cache that it came to, what it was answered and the cache that it left. -/
structure ServedCall where
  call : SignerCall
  before : SignerCache
  result : Except ContainerError (Nat × Signer)
  after : SignerCache

namespace ServedCall

/-- A signer was built for a call: none was there, and the key suits. -/
def Built (s : ServedCall) : Prop :=
  s.before.find? s.call.algorithm s.call.key = none ∧
    ∃ signer, Signer.create s.call.algorithm s.call.key = .ok signer

/-- What holds of a call in a run with keys out of `keys`. -/
structure Lawful (keys : Set Bytes) (s : ServedCall) : Prop where
  sound : s.before.Sound keys
  within : s.call.key ∈ keys
  answered : s.before.signer s.call.algorithm s.call.key = (s.result, s.after)

variable {keys : Set Bytes} {s t : ServedCall}

theorem Lawful.answers (lawful : s.Lawful keys) : s.before.Answers s.call s.result s.after := by
  have answers := SignerCache.answers_signer s.before s.call
  rw [lawful.answered] at answers
  exact answers

/-- What is built for a call is not built again after it. -/
theorem Lawful.not_built_again (first : s.Lawful keys) (second : t.Lawful keys)
    (distinct : Set.InjOn Crypto.Sha256.digest keys)
    (earlier : s.after.entries <+: t.before.entries) (built : s.Built) (again : t.Built) :
    s.call ≠ t.call := by
  intro same
  obtain ⟨-, signer, suits⟩ := built
  obtain ⟨absent, -⟩ := again
  have created := first.answers.created first.sound distinct first.within
  cases returned : s.result with
  | error e =>
    rw [returned, suits] at created
    cases created
  | ok found =>
    -- The entry of the earlier call is still there when the later one comes.
    have held := SignerCache.getElem?_of_earlier earlier (first.answers.held returned)
    rw [same] at held
    rw [second.sound.find?_of_getElem? held] at absent
    cases absent

/-- A caller is answered the same if it looked first when an earlier call came to the cache. -/
theorem Lawful.signerSince_eq (first : s.Lawful keys) (second : t.Lawful keys)
    (earlier : s.after.entries <+: t.before.entries) :
    s.before.signerSince t.before t.call.algorithm t.call.key = (t.result, t.after) := by
  have before := first.answers.grows.trans earlier
  calc s.before.signerSince t.before t.call.algorithm t.call.key
      = t.before.build t.call.algorithm t.call.key := second.sound.signerSince_eq before
    _ = t.before.signer t.call.algorithm t.call.key :=
      (second.sound.signerSince_eq (List.prefix_refl _)).symm
    _ = (t.result, t.after) := second.answered

/-- Two calls have one place iff they are the same, as any later cache shows. -/
theorem Lawful.place_eq_iff {last : SignerCache} (first : s.Lawful keys) (second : t.Lawful keys)
    (distinct : Set.InjOn Crypto.Sha256.digest keys) (sound : last.Sound keys)
    (earlier : s.after.entries <+: last.entries) (earlier' : t.after.entries <+: last.entries)
    {p q : Nat} {a b : Signer} (returned : s.result = .ok (p, a))
    (returned' : t.result = .ok (q, b)) : p = q ↔ s.call = t.call := by
  have held := SignerCache.getElem?_of_earlier earlier (first.answers.held returned)
  have held' := SignerCache.getElem?_of_earlier earlier' (second.answers.held returned')
  constructor
  · intro same
    rw [same, held', Option.some.injEq] at held
    obtain ⟨algorithm, digest, -⟩ := SignerCache.Entry.mk.inj held
    exact SignerCall.ext algorithm.symm (distinct first.within second.within digest.symm)
  · intro same
    apply sound.place_eq held held'
    rw [same]
    rfl

end ServedCall

namespace SignerCache

variable {keys : Set Bytes}

/-- The run of some calls in order. -/
def serve : SignerCache → List SignerCall → List ServedCall
  | _, [] => []
  | cache, call :: calls =>
    let (result, next) := cache.signer call.algorithm call.key
    ⟨call, cache, result, next⟩ :: serve next calls

theorem map_call_serve (cache : SignerCache) (calls : List SignerCall) :
    (serve cache calls).map ServedCall.call = calls := by
  induction calls generalizing cache with
  | nil => rfl
  | cons call calls ih => rw [serve, List.map_cons, ih]

theorem earlier_of_mem_serve {cache : SignerCache} {calls : List SignerCall} {s : ServedCall}
    (member : s ∈ serve cache calls) : cache.entries <+: s.before.entries := by
  induction calls generalizing cache with
  | nil => exact absurd member List.not_mem_nil
  | cons call calls ih =>
    rcases List.mem_cons.mp member with rfl | later
    · exact List.prefix_refl _
    · exact (answers_signer cache call).grows.trans (ih later)

/-- What a call leaves is there for the calls after it. -/
theorem pairwise_serve (cache : SignerCache) (calls : List SignerCall) :
    (serve cache calls).Pairwise fun s t => s.after.entries <+: t.before.entries := by
  induction calls generalizing cache with
  | nil => exact List.Pairwise.nil
  | cons call calls ih =>
    exact List.pairwise_cons.mpr ⟨fun t later => earlier_of_mem_serve later, ih _⟩

/-- A run keeps its cache sound, and what its calls leave is there in the end. -/
theorem Sound.serve {cache : SignerCache} {calls : List SignerCall} (sound : Sound keys cache)
    (within : ∀ call ∈ calls, call.key ∈ keys) :
    (∀ s ∈ cache.serve calls, s.Lawful keys) ∧
      ∃ last, Sound keys last ∧ cache.entries <+: last.entries ∧
        ∀ s ∈ cache.serve calls, s.after.entries <+: last.entries := by
  induction calls generalizing cache with
  | nil =>
    exact ⟨fun s member => absurd member List.not_mem_nil, cache, sound, List.prefix_refl _,
      fun s member => absurd member List.not_mem_nil⟩
  | cons call calls ih =>
    have here : call.key ∈ keys := within call List.mem_cons_self
    have answers := answers_signer cache call
    obtain ⟨lawful, last, sound', grown, held⟩ := ih (answers.sound sound here)
      fun call member => within call (List.mem_cons_of_mem _ member)
    rw [SignerCache.serve]
    refine ⟨?_, last, sound', answers.grows.trans grown, ?_⟩
    · intro s member
      rcases List.mem_cons.mp member with rfl | member
      · exact ⟨sound, here, rfl⟩
      · exact lawful s member
    · intro s member
      rcases List.mem_cons.mp member with rfl | member
      · exact grown
      · exact held s member

/-- **A cache of signers is transparent.** In a run of calls on a fresh cache, each call is answered
with the signer that is built from its algorithm and key, or with the error of building it, which
leaves the cache as it was. The signer stands at its place in the cache, and two calls have the same
place iff they are for the same algorithm and key. For no algorithm and key is a signer built twice.
None of this changes if a caller looked first when an earlier call came to the cache.

- `distinct`: the digests of the keys in the run do not collide -/
theorem serves_transparently (calls : List SignerCall)
    (distinct : Set.InjOn Crypto.Sha256.digest {key | ∃ call ∈ calls, call.key = key}) :
    (serve {} calls).map ServedCall.call = calls ∧
    (∀ s ∈ serve {} calls,
      s.result.map Prod.snd = Signer.create s.call.algorithm s.call.key ∧
      (∀ e, s.result = .error e → s.after = s.before) ∧
      ∀ place signer, s.result = .ok (place, signer) → signer.algorithm = s.call.algorithm ∧
        s.after.entries[place]? = some (s.call.entry signer)) ∧
    (∀ s ∈ serve {} calls, ∀ t ∈ serve {} calls, ∀ p q a b,
      s.result = .ok (p, a) → t.result = .ok (q, b) → (p = q ↔ s.call = t.call)) ∧
    (serve {} calls).Pairwise fun s t =>
      (s.Built → t.Built → s.call ≠ t.call) ∧
      s.before.signerSince t.before t.call.algorithm t.call.key = (t.result, t.after) := by
  obtain ⟨lawful, last, sound, -, held⟩ := (Sound.empty _).serve fun call member =>
    show call.key ∈ {key | ∃ call ∈ calls, call.key = key} from ⟨call, member, rfl⟩
  refine ⟨map_call_serve {} calls, ?_, ?_, ?_⟩
  · intro s member
    have law := lawful s member
    have created := law.answers.created law.sound distinct law.within
    refine ⟨created, fun e refused => law.answers.unchanged refused, ?_⟩
    intro place signer returned
    rw [returned] at created
    exact ⟨Signer.algorithm_of_create created.symm, law.answers.held returned⟩
  · intro s first t second p q a b returned returned'
    exact (lawful s first).place_eq_iff (lawful t second) distinct sound (held s first)
      (held t second) returned returned'
  · apply (pairwise_serve {} calls).imp_of_mem
    intro s t first second earlier
    exact ⟨(lawful s first).not_built_again (lawful t second) distinct earlier,
      (lawful s first).signerSince_eq (lawful t second) earlier⟩

/-- A key with which one call fails and another succeeds, between two calls that share a signer. -/
theorem serves_transparently_repeated :
    let calls : List SignerCall :=
      [⟨.hs256, [1]⟩, ⟨.es512, [255]⟩, ⟨.hs256, [255]⟩, ⟨.hs256, [1]⟩]
    Set.InjOn Crypto.Sha256.digest {key | ∃ call ∈ calls, call.key = key} ∧
      (serve {} calls).map (fun s => s.result.map Prod.snd) =
        calls.map (fun call => Signer.create call.algorithm call.key) ∧
      (serve {} calls).map (fun s => (s.result.map Prod.fst).toOption) =
        [some 0, none, some 1, some 0] := by
  intro calls
  have apart : Crypto.Sha256.digest [1] ≠ Crypto.Sha256.digest [255] := by decide +kernel
  have distinct : Set.InjOn Crypto.Sha256.digest {key | ∃ call ∈ calls, call.key = key} := by
    have two : {key | ∃ call ∈ calls, call.key = key} ⊆ {[1], [255]} := by
      rintro _ ⟨call, member, rfl⟩
      revert call
      decide
    refine Set.InjOn.mono two ?_
    rintro _ (rfl | rfl) _ (rfl | rfl) same
    · rfl
    · exact absurd same apart
    · exact absurd same.symm apart
    · rfl
  obtain ⟨whole, each, -⟩ := serves_transparently calls distinct
  have suits (key : Bytes) : Signer.create .hs256 key = .ok (Signer.hmac .hs256 .sha256 key) := rfl
  -- For any two keys with two digests, so that no digest is computed here.
  have places (k l : Bytes) (apart : Crypto.Sha256.digest k ≠ Crypto.Sha256.digest l)
      {e : ContainerError} (unsuited : Signer.create .es512 l = .error e) :
      (serve {} [⟨.hs256, k⟩, ⟨.es512, l⟩, ⟨.hs256, l⟩, ⟨.hs256, k⟩]).map
          (fun s => (s.result.map Prod.fst).toOption) = [some 0, none, some 1, some 0] := by
    simp [serve, signer, signerSince, build, find?, Entry.isFor, List.findIdx?_cons, apart, suits,
      unsuited, Except.map, Except.toOption]
  refine ⟨distinct, ?_, places [1] [255] apart rfl⟩
  calc (serve {} calls).map (fun s => s.result.map Prod.snd)
      = (serve {} calls).map fun s => Signer.create s.call.algorithm s.call.key :=
        List.map_congr_left fun s member => (each s member).1
    _ = ((serve {} calls).map ServedCall.call).map
        fun call => Signer.create call.algorithm call.key := by rw [List.map_map]; rfl
    _ = calls.map fun call => Signer.create call.algorithm call.key := by rw [whole]

end SignerCache

end SealedTokens
