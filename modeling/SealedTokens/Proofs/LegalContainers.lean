import SealedTokens.Proofs.SectionChecks
/-!
# Legal container configurations

A container configuration is all text: five names, an algorithm, and a key or a file with one. Each
name is blank, and then the type has the say, or it has to be in its registry; the key has to be
given once; and signed claims take one stack only. What is legal is said here without the order in
which it is checked, and it is just what is accepted.

## Main results

- `Registry.find?_eq_some`: a name finds the one member that it names
- `ContainerConfig.stages_eq_ok`: the names that are resolved, and what they are resolved to
- `ContainerConfig.expand_eq_ok_iff`: accepted configurations are the legal ones
- `ContainerConfig.accepted_iff_legal`: the same with all that can go wrong, up to the factory

## Proof strategy

Expanding is a chain of steps, each of which returns iff something holds that can be said of the
configuration alone. The one thing that a step is given by those before it is the type, since the
defaults of the other names hang on it.
-/
namespace SealedTokens

/-! ### Names -/

namespace Registry

/-- A registry without two names that differ in their case only. -/
class Unambiguous (α : Type) [Registry α] : Prop where
  eq_of_same : ∀ a ∈ members (α := α), ∀ b ∈ members (α := α),
    Text.sameIgnoringCase (Registry.name a) (Registry.name b) = true → a = b

instance : Unambiguous ContainerKind := ⟨by decide⟩
instance : Unambiguous SerializerKind := ⟨by decide⟩
instance : Unambiguous CompressorKind := ⟨by decide⟩
instance : Unambiguous SealerKind := ⟨by decide⟩
instance : Unambiguous RepresenterKind := ⟨by decide⟩
instance : Unambiguous SignatureAlgorithm := ⟨by decide⟩

variable {α : Type} [Registry α]

/-- A text names a member in any case, and with blanks around it. -/
def Names (text : String) (m : α) : Prop :=
  m ∈ members (α := α) ∧ Text.sameIgnoringCase (Registry.name m) (Text.trim text) = true

theorem find?_eq_some [Unambiguous α] {text : String} {m : α} :
    find? text = some m ↔ Names text m := by
  let named (m : α) : Bool := Text.sameIgnoringCase (Registry.name m) (Text.trim text)
  have finds : find? text = (members (α := α)).find? named := rfl
  rw [finds]
  constructor
  · intro found
    have isNamed : named m = true := List.find?_some found
    exact ⟨List.mem_of_find?_eq_some found, isNamed⟩
  · rintro ⟨member, isNamed⟩
    have some_found : ((members (α := α)).find? named).isSome = true :=
      List.find?_isSome.mpr ⟨m, member, isNamed⟩
    obtain ⟨first, found⟩ := Option.isSome_iff_exists.mp some_found
    have isNamed' : named first = true := List.find?_some found
    simp only [named, Text.sameIgnoringCase, beq_iff_eq] at isNamed isNamed'
    -- What is found first has the same name, so it is the same.
    have same := Unambiguous.eq_of_same first (List.mem_of_find?_eq_some found) m member
      (beq_iff_eq.mpr (isNamed'.trans isNamed.symm))
    rw [found, same]

theorem resolve_eq_ok [Unambiguous α] {entity text : String} {m : α} :
    resolve entity text = .ok m ↔ Names text m := by
  rw [← find?_eq_some, resolve]
  cases find? (α := α) text with
  | none => simp
  | some first => simp

theorem isConfiguration_of_resolve {entity text : String} {e : ContainerError}
    (refused : (resolve entity text : Except ContainerError α) = .error e) :
    e.IsConfiguration := by
  unfold resolve at refused
  split at refused
  · cases refused
  · cases refused
    exact ⟨_, rfl⟩

end Registry

namespace ContainerConfig

/-- What a text selects from a registry: the default if it is blank, and the member that it names
if it is not. -/
inductive Selects {α : Type} [Registry α] (text : String) (default : α) : α → Prop
  | blank : Text.isBlankText text = true → Selects text default default
  | named {m : α} : Text.isBlankText text = false → Registry.Names text m → Selects text default m

section Choosing

variable {α : Type} [Registry α] {entity text : String} {default : α}

theorem choose_eq_ok [Registry.Unambiguous α] {m : α} :
    choose entity text default = .ok m ↔ Selects text default m := by
  cases blank : Text.isBlankText text with
  | true =>
    rw [choose, blank]
    constructor
    · intro chosen
      cases chosen
      exact .blank blank
    · rintro (_ | ⟨written, -⟩)
      · rfl
      · cases blank.symm.trans written
  | false =>
    have resolves : choose entity text default = Registry.resolve entity text := by
      rw [choose, blank]
      rfl
    rw [resolves, Registry.resolve_eq_ok]
    constructor
    · exact .named blank
    · rintro (isBlank | ⟨-, named⟩)
      · cases blank.symm.trans isBlank
      · exact named

theorem isConfiguration_of_choose {e : ContainerError}
    (refused : choose entity text default = .error e) : e.IsConfiguration := by
  unfold choose at refused
  split at refused
  · cases refused
  · exact Registry.isConfiguration_of_resolve refused

end Choosing

/-! ### Stages -/

variable {c : ContainerConfig} {files : Files} {s : Settings} {e : ContainerError}

/-- Settings with what the names of a configuration select. The type comes with defaults for the
other names. -/
structure Selected (c : ContainerConfig) (s : Settings) : Prop where
  kind : Selects c.kind .secretBox s.kind
  serializer : Selects c.serializer (Settings.ofKind s.kind []).serializer s.serializer
  compressor : Selects c.compressor (Settings.ofKind s.kind []).compressor s.compressor
  sealer : Selects c.sealer (Settings.ofKind s.kind []).sealer s.sealer
  representer : Selects c.representer (Settings.ofKind s.kind []).representer s.representer
  algorithm : Selects c.algorithm .hs256 s.algorithm

theorem stages_eq_ok : c.stages = .ok s ↔ c.Selected s ∧ s.key = [] := by
  constructor
  · intro staged
    obtain ⟨kind, first, staged⟩ := bind_eq_ok.mp staged
    obtain ⟨serializer, second, staged⟩ := bind_eq_ok.mp staged
    obtain ⟨compressor, third, staged⟩ := bind_eq_ok.mp staged
    obtain ⟨sealer, fourth, staged⟩ := bind_eq_ok.mp staged
    obtain ⟨representer, fifth, staged⟩ := bind_eq_ok.mp staged
    obtain ⟨algorithm, sixth, staged⟩ := bind_eq_ok.mp staged
    cases staged
    -- The usual settings of a type are of that type.
    cases kind <;>
      exact ⟨⟨choose_eq_ok.mp first, choose_eq_ok.mp second, choose_eq_ok.mp third,
        choose_eq_ok.mp fourth, choose_eq_ok.mp fifth, choose_eq_ok.mp sixth⟩, rfl⟩
  · rintro ⟨selected, empty⟩
    refine bind_eq_ok.mpr ⟨_, choose_eq_ok.mpr selected.kind, ?_⟩
    refine bind_eq_ok.mpr ⟨_, choose_eq_ok.mpr selected.serializer, ?_⟩
    refine bind_eq_ok.mpr ⟨_, choose_eq_ok.mpr selected.compressor, ?_⟩
    refine bind_eq_ok.mpr ⟨_, choose_eq_ok.mpr selected.sealer, ?_⟩
    refine bind_eq_ok.mpr ⟨_, choose_eq_ok.mpr selected.representer, ?_⟩
    have default : (Settings.ofKind s.kind []).algorithm = .hs256 := by cases s.kind <;> rfl
    refine bind_eq_ok.mpr ⟨s.algorithm, choose_eq_ok.mpr (default ▸ selected.algorithm), ?_⟩
    obtain ⟨kind, serializer, compressor, sealer, representer, algorithm, key⟩ := s
    cases kind <;> cases empty <;> rfl

theorem isConfiguration_of_stages (refused : c.stages = .error e) : e.IsConfiguration := by
  obtain refused | ⟨kind, -, refused⟩ := bind_eq_error.mp refused
  · exact isConfiguration_of_choose refused
  obtain refused | ⟨serializer, -, refused⟩ := bind_eq_error.mp refused
  · exact isConfiguration_of_choose refused
  obtain refused | ⟨compressor, -, refused⟩ := bind_eq_error.mp refused
  · exact isConfiguration_of_choose refused
  obtain refused | ⟨sealer, -, refused⟩ := bind_eq_error.mp refused
  · exact isConfiguration_of_choose refused
  obtain refused | ⟨representer, -, refused⟩ := bind_eq_error.mp refused
  · exact isConfiguration_of_choose refused
  obtain refused | ⟨algorithm, -, refused⟩ := bind_eq_error.mp refused
  · exact isConfiguration_of_choose refused
  · cases refused

/-! ### Keys -/

/-- The error for a key that is in a file which cannot be read. -/
inductive Unreadable (c : ContainerConfig) (files : Files) : ContainerError → Prop
  | file {path why : String} : c.keyFile = some path → path ≠ "" → IsLeftOut c.key →
      files path = .error why →
      Unreadable c files ⟨.io why, some s!"failed to load key-file: {path}"⟩

theorem error_of_loadKey (refused : c.loadKey files = .error e) :
    e.IsConfiguration ∨ c.Unreadable files e := by
  unfold loadKey at refused
  split at refused
  next =>
    cases refused
    exact .inl ⟨_, rfl⟩
  next =>
    cases refused
    exact .inl ⟨_, rfl⟩
  next => cases refused
  next path noInline file =>
    obtain ⟨given, filled⟩ := filter_eq_some.mp file
    split at refused
    next => cases refused
    next why read =>
      cases refused
      exact .inr (.file given filled (filter_of_isLeftOut.mp noInline) read)

/-! ### Legal configurations -/

/-- A legal configuration, and the settings that it stands for: each name selects something, there
is one key with at least one byte, and signed claims have their stack. -/
structure Legal (c : ContainerConfig) (files : Files) (s : Settings) : Prop
    extends c.Selected s where
  given : c.GivesKey files s.key
  filled : s.key ≠ []
  claims : s.kind = .jwt → s.ClaimsStack

theorem expand_eq_ok_iff : c.expand files = .ok s ↔ c.Legal files s := by
  constructor
  · intro expands
    obtain ⟨stages, staged, rest⟩ := bind_eq_ok.mp expands
    obtain ⟨key, loaded, -⟩ := bind_eq_ok.mp rest
    have given := loadKey_eq_ok.mp loaded
    obtain ⟨rfl, valid⟩ := expand_eq_ok staged given expands
    obtain ⟨selected, -⟩ := stages_eq_ok.mp staged
    -- Had the key no byte, or claims another stack, the last step would have failed.
    obtain ⟨filled, claims⟩ := (hangsOn_expand staged given).of_eq_ok expands
    refine ⟨⟨selected.kind, selected.serializer, selected.compressor, selected.sealer,
      selected.representer, selected.algorithm⟩, given, filled, fun isJwt => ?_⟩
    obtain ⟨one, two, three, four⟩ := claims isJwt
    exact ⟨one, two, three, four⟩
  · intro legal
    -- Without the key, the settings are what the names are resolved to.
    have staged : c.stages = .ok { s with key := [] } :=
      stages_eq_ok.mpr ⟨⟨legal.kind, legal.serializer, legal.compressor, legal.sealer,
        legal.representer, legal.algorithm⟩, rfl⟩
    have claims : s.kind = .jwt → ({ s with key := [] } : Settings).ClaimsStack := fun isJwt =>
      ⟨(legal.claims isJwt).serializer, (legal.claims isJwt).compressor,
        (legal.claims isJwt).sealer, (legal.claims isJwt).representer⟩
    obtain ⟨expanded, expands⟩ :=
      (hangsOn_expand staged legal.given).returns ⟨legal.filled, claims⟩
    rw [expands, (expand_eq_ok staged legal.given expands).1]

theorem error_of_expand (refused : c.expand files = .error e) :
    e.IsConfiguration ∨ c.Unreadable files e := by
  obtain refused | ⟨stages, -, refused⟩ := bind_eq_error.mp refused
  · exact .inl (isConfiguration_of_stages refused)
  obtain refused | ⟨key, -, refused⟩ := bind_eq_error.mp refused
  · exact error_of_loadKey refused
  obtain refused | ⟨_, -, refused⟩ := bind_eq_error.mp refused
  · obtain ⟨-, isConfiguration⟩ := (Settings.hangsOn_validate _).of_eq_error refused
    exact .inl isConfiguration
  · cases refused

/-- **Accepted is legal.** Whatever stands in its fields, a configuration is accepted iff it is
legal, and then the settings are the ones that it stands for, down to the bytes of its key.
Otherwise the configuration is to blame, or a key file that cannot be read. The settings have a
factory iff the key suits them, and if it does not, the configuration is to blame again. -/
theorem accepted_iff_legal (c : ContainerConfig) (files : Files) :
    (∀ s, c.expand files = .ok s ↔ c.Legal files s) ∧
    (∀ e, c.expand files = .error e → e.IsConfiguration ∨ c.Unreadable files e) ∧
    ∀ s, c.Legal files s →
      HangsOn (s.Suits s.key) ContainerError.IsConfiguration (Factory.ofSettings s) := by
  refine ⟨fun s => expand_eq_ok_iff, fun e => error_of_expand, fun s legal => ?_⟩
  obtain ⟨a, valid⟩ := (Settings.hangsOn_validate s).returns ⟨legal.filled, legal.claims⟩
  exact Factory.hangsOn_ofSettings valid

/-- Signed claims with names in capitals and with blanks around them, and the key in a file: with
the file there are settings and a factory, and without it the file is to blame. -/
theorem accepted_iff_legal_respelled :
    let c : ContainerConfig :=
      { kind := " JWT\n", compressor := "NOP", algorithm := "hs512", keyFile := some "/key" }
    let s : Settings := { Settings.ofKind .jwt [1] with algorithm := .hs512 }
    let files : Files := fun path => if path = "/key" then .ok [1] else .error "none"
    let missing : Files := fun _ => .error "none"
    (c.expand files = .ok s ∧ c.Legal files s ∧ ∃ f, Factory.ofSettings s = .ok f) ∧
    ∃ e, c.expand missing = .error e ∧ ¬ e.IsConfiguration ∧ c.Unreadable missing e := by
  intro c s files missing
  obtain ⟨accepted, -, factories⟩ := accepted_iff_legal c files
  have expands : c.expand files = .ok s := by decide +kernel
  have legal := (accepted s).mp expands
  have suits : s.Suits s.key := fun asymmetric => by cases asymmetric
  have fails : c.expand missing =
      .error ⟨.io "none", some "failed to load key-file: /key"⟩ := by decide +kernel
  have blameless : ¬ ContainerError.IsConfiguration
      ⟨.io "none", some "failed to load key-file: /key"⟩ := by
    rintro ⟨_, same⟩
    cases same
  exact ⟨⟨expands, legal, (factories s legal).returns suits⟩, _, fails, blameless,
    ((accepted_iff_legal c missing).2.1 _ fails).resolve_left blameless⟩

end ContainerConfig

end SealedTokens
