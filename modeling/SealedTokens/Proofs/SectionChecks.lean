import SealedTokens.Config.Service
import SealedTokens.Proofs.Availability
import SealedTokens.Proofs.ConfigurationErrors
import SealedTokens.Proofs.CsrfValidation
/-!
# What the check of the sections is worth

A service's configuration is checked before any key is loaded; the sessions and the anti-forgery
tokens are made from it later. Given a key that suits, nothing is left to go wrong for anti-forgery
tokens. For sessions two things are: that the key is empty, and that a stage is named which signed
claims do not admit, since the check resolves the names but does not ask whether they go together.

## Main results

- `ContainerConfig.loadKey_eq_ok`: the key is loaded if there is exactly one place to load it from
- `Settings.hangsOn_validate`: resolved settings go together unless signed claims have stages of
  their own
- `ContainerConfig.claimsStack_iff`: which names in a configuration give signed claims their stack
- `ServiceConfig.sections_build`: a configuration that was checked can be made into a service,
  up to these two things
- `ServiceConfig.checked_section_is_not_built`: a section that is checked and cannot be made

## Proof strategy

Making sessions repeats the check, which has succeeded, and then resolves the names, which the check
has done, loads the key, which is there, and asks what goes together. This is the one step left that
can fail (`HangsOn.bind`); all after it follows from the key that suits.
-/
namespace SealedTokens

/-! ### The key -/

namespace ContainerConfig

/-- A text that is not given, or given as empty. -/
def IsLeftOut (given : Option String) : Prop := given = none ∨ given = some ""

/-- The key that a configuration gives: inline or in a file that can be read, but not both. -/
inductive GivesKey (c : ContainerConfig) (files : Files) : Bytes → Prop
  | inline {text : String} : c.key = some text → text ≠ "" → IsLeftOut c.keyFile →
      GivesKey c files (Bytes.ofText text)
  | file {path : String} {key : Bytes} : c.keyFile = some path → path ≠ "" → IsLeftOut c.key →
      files path = .ok key → GivesKey c files key

theorem filter_of_isLeftOut {given : Option String} :
    given.filter (· ≠ "") = none ↔ IsLeftOut given := by
  unfold IsLeftOut
  cases given <;> simp [Option.filter]

theorem filter_eq_some {given : Option String} {text : String} :
    given.filter (· ≠ "") = some text ↔ given = some text ∧ text ≠ "" := by
  simp [Option.filter_eq_some_iff]

/-- A key is loaded from the one place that gives it, and from nowhere else. -/
theorem loadKey_eq_ok {c : ContainerConfig} {files : Files} {key : Bytes} :
    c.loadKey files = .ok key ↔ c.GivesKey files key := by
  constructor
  · intro loaded
    unfold loadKey at loaded
    split at loaded
    -- Two places are as wrong as none.
    next => cases loaded
    next => cases loaded
    next text inline noFile =>
      obtain ⟨given, filled⟩ := filter_eq_some.mp inline
      cases loaded
      exact .inline given filled (filter_of_isLeftOut.mp noFile)
    next path noInline file =>
      obtain ⟨given, filled⟩ := filter_eq_some.mp file
      split at loaded
      next content read =>
        cases loaded
        exact .file given filled (filter_of_isLeftOut.mp noInline) read
      next => cases loaded
  · rintro (⟨given, filled, left⟩ | ⟨given, filled, left, read⟩)
    · simp only [loadKey, filter_eq_some.mpr ⟨given, filled⟩, filter_of_isLeftOut.mpr left]
    · simp only [loadKey, filter_eq_some.mpr ⟨given, filled⟩, filter_of_isLeftOut.mpr left, read]

end ContainerConfig

/-! ### What goes together -/

namespace Settings

/-- The stages of signed claims: they are written as text, and that is all. -/
structure ClaimsStack (s : Settings) : Prop where
  serializer : s.serializer = .json
  compressor : s.compressor = .nop
  sealer : s.sealer = .nop
  representer : s.representer = .nop

/-- A key that suits the settings: a sealing stage wants it to be of one length; a signature
algorithm with a key pair wants the text of a private key of its own, and any other takes every
key. -/
def Suits (s : Settings) (key : Bytes) : Prop :=
  match s.kind with
  | .secretBox => s.sealer = .secretBox → key.length = Crypto.XChaCha20Poly1305.keyLength
  | .jwt => s.algorithm.isSymmetric = false →
      (Bytes.toText? key).isSome ∧ (Signer.ofKey? s.algorithm key).isSome

theorem hangsOn_requireStage {α : Type} [Registry α] [DecidableEq α] (stage : String)
    (found expected : α) (why : String) :
    HangsOn (found = expected) ContainerError.IsConfiguration
      (requireStage stage found expected why) := by
  unfold requireStage
  split
  next same => exact .of_ok same
  next differs => exact .of_error differs ⟨_, rfl⟩

/-- Settings go together if there is a key, and signed claims have their stages. -/
theorem hangsOn_validate (s : Settings) :
    HangsOn (s.key ≠ [] ∧ (s.kind = .jwt → s.ClaimsStack)) ContainerError.IsConfiguration
      s.validate := by
  unfold validate
  cases key : s.key with
  | nil => exact .of_error (fun holds => holds.1 rfl) ⟨_, rfl⟩
  | cons first rest =>
    cases kind : s.kind with
    | secretBox => exact .of_ok ⟨List.cons_ne_nil _ _, fun isJwt => by cases isJwt⟩
    | jwt =>
      -- The four stages are asked in turn.
      refine ((hangsOn_requireStage ..).andThen fun _ => (hangsOn_requireStage ..).andThen fun _ =>
        (hangsOn_requireStage ..).andThen fun _ => hangsOn_requireStage ..).of_iff ?_
      constructor
      · rintro ⟨serializer, compressor, sealer, representer⟩
        exact ⟨List.cons_ne_nil _ _, fun _ => ⟨serializer, compressor, sealer, representer⟩⟩
      · rintro ⟨-, stack⟩
        obtain ⟨serializer, compressor, sealer, representer⟩ := stack rfl
        exact ⟨serializer, compressor, sealer, representer⟩

end Settings

/-- A sealing stage hangs on the length of its key. -/
theorem Sealer.hangsOn_create (kind : SealerKind) (key : Bytes) :
    HangsOn (kind = .secretBox → key.length = Crypto.XChaCha20Poly1305.keyLength)
      ContainerError.IsConfiguration (create kind key) := by
  cases kind with
  | nop => exact .of_ok fun sealing => by cases sealing
  | secretBox =>
    by_cases long : key.length = Crypto.XChaCha20Poly1305.keyLength
    · have created : create .secretBox key = .ok _ := if_pos long
      rw [created]
      exact .of_ok fun _ => long
    · have refused : create .secretBox key = .error _ := if_neg long
      rw [refused]
      exact .of_error (fun suits => long (suits rfl)) ⟨_, rfl⟩

/-- A signer hangs on its key, if its algorithm has a key pair. -/
theorem Signer.hangsOn_create (algorithm : SignatureAlgorithm) (key : Bytes) :
    HangsOn (algorithm.isSymmetric = false →
        (Bytes.toText? key).isSome ∧ (ofKey? algorithm key).isSome)
      ContainerError.IsConfiguration (create algorithm key) := by
  unfold create
  cases symmetric : algorithm.isSymmetric with
  | true =>
    have own : ∃ signer, ofKey? algorithm key = some signer := by
      cases algorithm <;> first | exact ⟨_, rfl⟩ | cases symmetric
    obtain ⟨signer, made⟩ := own
    simp only [Bool.not_true, Bool.false_and, Bool.false_eq_true, ite_false, made]
    exact .of_ok fun asymmetric => by cases asymmetric
  | false =>
    cases read : Bytes.toText? key with
    | none => exact .of_error (fun suits => by cases (suits rfl).1) ⟨_, rfl⟩
    | some text =>
      cases made : ofKey? algorithm key with
      | none => exact .of_error (fun suits => by cases (suits rfl).2) ⟨_, rfl⟩
      | some signer => exact .of_ok fun _ => ⟨rfl, rfl⟩

namespace Factory

/-- Nothing but the key can keep settings from having a backend. -/
theorem hangsOn_backendOf (s : Settings) :
    HangsOn (s.Suits s.key) ContainerError.IsConfiguration (backendOf s) := by
  unfold Settings.Suits backendOf
  cases s.kind with
  | jwt => exact (Signer.hangsOn_create ..).map _
  | secretBox => exact ((Sealer.hangsOn_create ..).bind fun _ _ _ => ⟨_, rfl⟩).map _

theorem hangsOn_ofSettings {s : Settings} (valid : s.validate = .ok ()) :
    HangsOn (s.Suits s.key) ContainerError.IsConfiguration (ofSettings s) := by
  have builds : ofSettings s = backendOf s >>= fun backend => pure ⟨s, backend⟩ := by
    unfold ofSettings
    rw [valid]
    rfl
  rw [builds]
  exact (hangsOn_backendOf s).bind fun _ _ _ => ⟨_, rfl⟩

end Factory

namespace ContainerConfig

variable {c : ContainerConfig} {files : Files} {s : Settings} {key : Bytes}

/-- Expanding a configuration asks, at last, whether its settings go together. -/
theorem hangsOn_expand (staged : c.stages = .ok s) (given : c.GivesKey files key) :
    HangsOn (key ≠ [] ∧ (s.kind = .jwt → s.ClaimsStack)) ContainerError.IsConfiguration
      (c.expand files) := by
  have expands : c.expand files = do
      ({ s with key } : Settings).validate
      return { s with key } := by
    unfold expand
    rw [staged, loadKey_eq_ok.mpr given]
    rfl
  rw [expands]
  -- No stage is read off the key.
  have same : ({ s with key } : Settings).ClaimsStack ↔ s.ClaimsStack :=
    ⟨fun ⟨one, two, three, four⟩ => ⟨one, two, three, four⟩,
      fun ⟨one, two, three, four⟩ => ⟨one, two, three, four⟩⟩
  exact ((Settings.hangsOn_validate _).bind fun _ _ _ => ⟨_, rfl⟩).of_iff
    (and_congr_right fun _ => imp_congr_right fun _ => same)

theorem expand_eq_ok (staged : c.stages = .ok s) (given : c.GivesKey files key)
    {expanded : Settings} (expands : c.expand files = .ok expanded) :
    expanded = { s with key } ∧ expanded.validate = .ok () := by
  obtain ⟨s', staged', expands⟩ := bind_eq_ok.mp expands
  obtain ⟨key', loaded, expands⟩ := bind_eq_ok.mp expands
  obtain ⟨_, valid, expands⟩ := bind_eq_ok.mp expands
  cases staged.symm.trans staged'
  cases (loadKey_eq_ok.mpr given).symm.trans loaded
  cases expands
  exact ⟨rfl, valid⟩

/-! ### Names of stages -/

/-- A name that stands for the default: it is blank, or it is the name of the default. -/
def StandsFor {α : Type} [Registry α] (name : String) (default : α) : Prop :=
  Text.isBlankText name = true ∨ Registry.find? name = some default

theorem eq_default_iff {α : Type} [Registry α] {entity name : String} {default chosen : α}
    (chooses : choose entity name default = .ok chosen) :
    chosen = default ↔ StandsFor name default := by
  unfold choose at chooses
  unfold StandsFor
  split at chooses
  next blank =>
    cases chooses
    exact ⟨fun _ => .inl blank, fun _ => rfl⟩
  next written =>
    unfold Registry.resolve at chooses
    split at chooses
    next found =>
      cases chooses
      rw [found]
      exact ⟨fun same => .inr (congrArg some same), fun stands =>
        Option.some.inj (stands.resolve_left written)⟩
    next => cases chooses

/-- The four names stand for the stages of signed claims. -/
structure NamesClaims (c : ContainerConfig) : Prop where
  serializer : StandsFor c.serializer SerializerKind.json
  compressor : StandsFor c.compressor CompressorKind.nop
  sealer : StandsFor c.sealer SealerKind.nop
  representer : StandsFor c.representer RepresenterKind.nop

/-- Signed claims get their stages from the names that stand for them. -/
theorem claimsStack_iff (staged : c.stages = .ok s) (isJwt : s.kind = .jwt) :
    s.ClaimsStack ↔ c.NamesClaims := by
  obtain ⟨kind, -, staged⟩ := bind_eq_ok.mp staged
  obtain ⟨serializer, first, staged⟩ := bind_eq_ok.mp staged
  obtain ⟨compressor, second, staged⟩ := bind_eq_ok.mp staged
  obtain ⟨sealer, third, staged⟩ := bind_eq_ok.mp staged
  obtain ⟨representer, fourth, staged⟩ := bind_eq_ok.mp staged
  obtain ⟨algorithm, -, staged⟩ := bind_eq_ok.mp staged
  cases staged
  cases kind with
  | secretBox => cases isJwt
  | jwt =>
    constructor
    · rintro ⟨one, two, three, four⟩
      exact ⟨(eq_default_iff first).mp one, (eq_default_iff second).mp two,
        (eq_default_iff third).mp three, (eq_default_iff fourth).mp four⟩
    · rintro ⟨one, two, three, four⟩
      exact ⟨(eq_default_iff first).mpr one, (eq_default_iff second).mpr two,
        (eq_default_iff third).mpr three, (eq_default_iff fourth).mpr four⟩

end ContainerConfig

/-! ### Sections -/

section Sections

variable {files : Files} {s : Settings} {key : Bytes}

theorem Factory.hangsOn_ofConfig {c : ContainerConfig} (staged : c.stages = .ok s)
    (given : c.GivesKey files key) (suits : s.Suits key) :
    HangsOn (key ≠ [] ∧ (s.kind = .jwt → c.NamesClaims)) ContainerError.IsConfiguration
      (Factory.ofConfig c files) := by
  have names := and_congr_right fun _ : key ≠ [] => imp_congr_right (c.claimsStack_iff staged)
  refine ((c.hangsOn_expand staged given).of_iff names).bind fun _ expanded expands => ?_
  obtain ⟨rfl, valid⟩ := c.expand_eq_ok staged given expands
  exact (Factory.hangsOn_ofSettings valid).returns suits

/-- A section that was checked lacks no span. -/
theorem SessionConfig.maxAge_of_validate {config : SessionConfig}
    (valid : config.validate = .ok ()) : config.maxAge.isZero = false := by
  unfold validate at valid
  cases maxAge : config.maxAge.isZero with
  | false => rfl
  | true =>
    simp only [maxAge, ite_true] at valid
    cases valid

theorem Sessions.hangsOn_ofConfig {config : SessionConfig} (valid : config.validate = .ok ())
    (staged : config.container.stages = .ok s) (given : config.container.GivesKey files key)
    (suits : s.Suits key) :
    HangsOn (key ≠ [] ∧ (s.kind = .jwt → config.container.NamesClaims))
      SessionError.IsConfiguration (Sessions.ofConfig config files) := by
  have makes : ofConfig config files = SessionError.lift (Factory.ofConfig config.container files)
      >>= fun f => Sessions.create f config.maxAge config.refresh := by
    unfold ofConfig
    rw [valid]
    rfl
  rw [makes]
  refine (SessionError.hangsOn_lift (Factory.hangsOn_ofConfig staged given suits)).bind
    fun _ f _ => ⟨⟨f, config.maxAge, config.refresh, []⟩, ?_⟩
  have maxAge := SessionConfig.maxAge_of_validate valid
  have refresh := (SessionConfig.validated valid).refresh
  unfold create
  rw [maxAge, refresh]
  rfl

theorem CsrfConfig.exists_requiredMethods {config : CsrfConfig} (valid : config.validate = .ok ()) :
    ∃ methods, config.requiredMethods = .ok methods := by
  cases read : config.requiredMethods with
  | ok methods => exact ⟨methods, rfl⟩
  | error e =>
    unfold validate at valid
    -- Whichever check fails, the last one does at the latest.
    cases ttl : config.ttl.isZero <;> cases name : Text.isBlankText config.parameterName <;>
      simp only [ttl, name, read, Bool.false_eq_true, ite_true, ite_false] at valid <;> cases valid

/-- With a key of the right length, a section that was checked makes an issuer. -/
theorem Csrf.exists_ofConfig {config : CsrfConfig} (valid : config.validate = .ok ())
    (given : ContainerConfig.GivesKey { key := config.key, keyFile := config.keyFile } files key)
    (long : key.length = Crypto.XChaCha20Poly1305.keyLength) :
    ∃ issuer, Csrf.ofConfig config files = .ok issuer := by
  -- The section names no stage, so the settings are the usual ones and always go together.
  have staged := ContainerConfig.stages_unnamed config.key config.keyFile
  have filled : key ≠ [] := by
    rintro rfl
    cases long
  obtain ⟨settings, expands⟩ := (ContainerConfig.hangsOn_expand staged given).returns
    ⟨filled, fun isJwt => by cases isJwt⟩
  obtain ⟨same, settled⟩ := ContainerConfig.expand_eq_ok staged given expands
  have suits : settings.Suits settings.key := by
    rw [same]
    exact fun _ => long
  obtain ⟨factory, built⟩ := (Factory.hangsOn_ofSettings settled).returns suits
  obtain ⟨methods, required⟩ := CsrfConfig.exists_requiredMethods valid
  exact ⟨_, bind_eq_ok.mpr ⟨(), valid, bind_eq_ok.mpr ⟨settings, CsrfError.lift_eq_ok.mpr expands,
    bind_eq_ok.mpr ⟨_, CsrfError.lift_eq_ok.mpr built, bind_eq_ok.mpr ⟨methods, required, rfl⟩⟩⟩⟩⟩

end Sections

/-! ### Services -/

namespace ServiceConfig

variable {config : ServiceConfig} {files : Files} {key csrfKey : Bytes}

theorem sections_of_validate (checked : config.validate = .ok ()) :
    config.session.validate = .ok () ∧ config.csrf.validate = .ok () := by
  obtain ⟨-, -, checked⟩ := bind_eq_ok.mp checked
  obtain ⟨⟨⟩, session, csrf⟩ := bind_eq_ok.mp checked
  exact ⟨mapError_eq_ok.mp session, mapError_eq_ok.mp csrf⟩

/-- **Checked sections can be made.** The sections of a service are checked without their keys. If
the keys are there and suit, anti-forgery tokens can be made from their section, and sessions can be
made from theirs, if the key has a byte and, should the type be signed claims, the names of the
stages are blank or those of signed claims. Otherwise making them fails, and it is the configuration
that is blamed. -/
theorem sections_build (checked : config.validate = .ok ())
    (given : config.session.container.GivesKey files key)
    (suits : ∀ stages, config.session.container.stages = .ok stages → stages.Suits key)
    (csrfGiven : ContainerConfig.GivesKey
      { key := config.csrf.key, keyFile := config.csrf.keyFile } files csrfKey)
    (csrfSuits : csrfKey.length = Crypto.XChaCha20Poly1305.keyLength) :
    (∃ issuer, Csrf.ofConfig config.csrf files = .ok issuer) ∧
    ∃ stages, config.session.container.stages = .ok stages ∧
      HangsOn (key ≠ [] ∧ (stages.kind = .jwt → config.session.container.NamesClaims))
        SessionError.IsConfiguration (Sessions.ofConfig config.session files) := by
  obtain ⟨session, csrf⟩ := sections_of_validate checked
  obtain ⟨stages, staged, -⟩ := (SessionConfig.validated session).emits
  exact ⟨Csrf.exists_ofConfig csrf csrfGiven csrfSuits, stages, staged,
    Sessions.hangsOn_ofConfig session staged given (suits stages staged)⟩

/-- Signed claims whose stages are left to their defaults. -/
def claimsConfig : ServiceConfig :=
  { session := { container := { kind := "jwt", key := some "k" } }, csrf := Csrf.keyedConfig }

/-- With a key of one letter, both of its sections can be made. -/
theorem sections_build_claims :
    claimsConfig.validate = .ok () ∧
      (∃ issuer, Csrf.ofConfig claimsConfig.csrf (fun _ => .error "") = .ok issuer) ∧
      ∃ sessions, Sessions.ofConfig claimsConfig.session (fun _ => .error "") = .ok sessions := by
  have checked : claimsConfig.validate = .ok () := by rfl
  have staged : claimsConfig.session.container.stages = .ok (Settings.ofKind .jwt []) := by rfl
  have suits : ∀ stages, claimsConfig.session.container.stages = .ok stages →
      stages.Suits (Bytes.ofText "k") := by
    intro stages staged'
    cases staged.symm.trans staged'
    intro asymmetric
    cases asymmetric
  have given : claimsConfig.session.container.GivesKey (fun _ => .error "") (Bytes.ofText "k") :=
    .inline rfl (by decide) (.inl rfl)
  have blank : claimsConfig.session.container.NamesClaims :=
    ⟨.inl rfl, .inl rfl, .inl rfl, .inl rfl⟩
  obtain ⟨issuing, stages, -, hangs⟩ := sections_build checked given suits
    (.inline rfl (by decide) (.inl rfl)) (by decide)
  exact ⟨checked, issuing, hangs.returns ⟨by decide, fun _ => blank⟩⟩

/-- Signed claims with the name of a format that is not theirs. -/
def clashingConfig : ServiceConfig :=
  { session := { container := { kind := "jwt", serializer := "postcard", key := some "k" } }
    csrf := Csrf.keyedConfig }

/-- **Checked, and not built.** The check does not ask whether the names go together: signed claims
in a format that is not theirs pass it, with keys that suit, and there are no sessions. -/
theorem checked_section_is_not_built :
    clashingConfig.validate = .ok () ∧
    clashingConfig.session.container.GivesKey (fun _ => .error "") (Bytes.ofText "k") ∧
    (∃ stages, clashingConfig.session.container.stages = .ok stages ∧
      stages.Suits (Bytes.ofText "k")) ∧
    (∃ issuer, Csrf.ofConfig clashingConfig.csrf (fun _ => .error "") = .ok issuer) ∧
    ∃ e, Sessions.ofConfig clashingConfig.session (fun _ => .error "") = .error e ∧
      e.IsConfiguration := by
  have checked : clashingConfig.validate = .ok () := by rfl
  have staged : clashingConfig.session.container.stages =
    .ok { Settings.ofKind .jwt [] with serializer := .compact } := by rfl
  have suits : Settings.Suits { Settings.ofKind .jwt [] with serializer := .compact }
    (Bytes.ofText "k") := fun asymmetric => by cases asymmetric
  have given : clashingConfig.session.container.GivesKey (fun _ => .error "") (Bytes.ofText "k") :=
    .inline rfl (by decide) (.inl rfl)
  have clash : ¬ clashingConfig.session.container.NamesClaims := by
    rintro ⟨isBlank | isJson, -, -, -⟩
    · cases isBlank
    · cases isJson
  exact ⟨checked, given, ⟨_, staged, suits⟩, ⟨_, Csrf.ofConfig_keyed⟩,
    (Sessions.hangsOn_ofConfig (sections_of_validate checked).1 staged given suits).fails
      fun holds => clash (holds.2 rfl)⟩

end ServiceConfig

end SealedTokens
