import SealedTokens.Proofs.Outcomes
import SealedTokens.Proofs.TextSettings
import SealedTokens.Proofs.VariableTexts
/-!
# Environment variables over a file

What variables do to the configuration of a file. A variable names a setting and gives a text; what
arrives is the text, or how the truth or the number is written that the text is taken for.

## Main results

- `ServiceConfig.read_override`, `ServiceConfig.read_overrides`: the configuration with one variable
  over it, and with several
- `ServiceConfig.override_delivers_iff`: when a text arrives, and what it does to the rest
- `ServiceConfig.key_is_respelled`: a key that another key takes the place of

## Proof strategy

A variable sets the value at its path to what its text stands for, which is never a table
(`Environment.layOver_value`). Where the text ends up is told by
`ServiceConfig.setsIn_textSettings`, and that the next variable finds the sections as they have to be
by `TextSetting.holdsInside_modifyAt`.
-/
namespace SealedTokens

theorem Environment.members_append (first second : List (String × String)) :
    members (first ++ second) = members first ++ members second :=
  List.filterMap_append

/-! ### Paths -/

namespace ConfigPath

/-- Steps are read behind those that are there. -/
theorem reverse_prefix_of_readSteps {fuel : Nat} {chars : List Char} {done path : ConfigPath}
    (read : readSteps fuel chars done = some path) : done.reverse <+: path := by
  induction fuel generalizing chars done with
  | zero => cases read
  | succ fuel ih =>
    have further {step : ConfigStep} (longer : (step :: done).reverse <+: path) :
        done.reverse <+: path :=
      (List.reverse_cons ▸ List.prefix_append _ _).trans longer
    unfold readSteps at read
    split at read
    · cases read
      exact List.prefix_rfl
    · simp only at read
      split at read
      · cases read
      · exact further (ih read)
    · simp only at read
      split at read
      · exact further (ih read)
      · cases read
    · cases read

/-- A key starts with a name. -/
theorem exists_ofKey (key : String) : ∃ name rest, ofKey key = .name name :: rest := by
  unfold ofKey ofText?
  simp only
  split
  · exact ⟨key, [], rfl⟩
  · cases read : readSteps _ _ _ with
    | none => exact ⟨key, [], rfl⟩
    | some path =>
      obtain ⟨rest, rfl⟩ := reverse_prefix_of_readSteps read
      exact ⟨_, rest, rfl⟩

end ConfigPath

namespace ConfigValue

/-- Members laid over a table leave a table. -/
theorem exists_overlay (members source : List (String × ConfigValue)) :
    ∃ members', (table members).overlay source = .table members' := by
  unfold overlay
  induction source generalizing members with
  | nil => exact ⟨members, rfl⟩
  | cons entry source ih =>
    obtain ⟨key, value⟩ := entry
    obtain ⟨name, rest, path⟩ := ConfigPath.exists_ofKey key
    simp only [List.foldl_cons, path]
    exact ih _

end ConfigValue

/-! ### Variables of settings -/

namespace TextSetting

variable {α : Type}

/-- What a variable has to stand for to give a setting. -/
def key (x : TextSetting α) : String := ".".intercalate x.path

end TextSetting

namespace ServiceConfig

variable {extension : String} {file : Option String} {environment : List (String × String)}

/-- The name of the variable for a path. -/
def variableOf (path : List String) : String :=
  "CACHET__" ++ "__".intercalate (path.map fun name =>
    String.ofList (name.toList.map fun c => if c = '-' then '_' else c.toUpper))

theorem ofKey_key {x : TextSetting ServiceConfig} (member : x ∈ textSettings) :
    ConfigPath.ofKey x.key = x.steps := by
  have all : ∀ path ∈ textSettings.map TextSetting.path,
      ConfigPath.ofKey (".".intercalate path) = path.map .name := by decide +kernel
  exact all x.path (List.mem_map_of_mem member)

/-- Every setting has a variable. -/
theorem key?_variableOf {x : TextSetting ServiceConfig} (member : x ∈ textSettings) :
    Environment.key? (variableOf x.path) = some x.key := by
  have all : ∀ path ∈ textSettings.map TextSetting.path,
      Environment.key? (variableOf path) = some (".".intercalate path) := by decide +kernel
  exact all x.path (List.mem_map_of_mem member)

/-- What is read is a table, whatever the variables are. -/
theorem exists_layers {v : ConfigValue} (layered : layers extension file environment = .ok v) :
    ∃ root, v = .table root := by
  unfold layers at layered
  split at layered
  · cases layered
    obtain ⟨members, laid⟩ := ConfigValue.exists_overlay [] _
    rw [laid]
    exact ConfigValue.exists_overlay members _
  · cases layered

/-- The last variable is laid over everything else. -/
theorem layers_override {v : ConfigValue} {name key : String} (text : String)
    (layered : layers extension file environment = .ok v)
    (names : Environment.key? name = some key) :
    layers extension file (environment ++ [(name, text)]) =
      .ok (v.modifyAt (.ofKey key) fun _ => Environment.value text) := by
  have last : Environment.members [(name, text)] = [(key, Environment.value text)] := by
    simp only [Environment.members, List.filterMap_cons, names, Option.map_some, List.filterMap_nil]
  unfold layers at layered ⊢
  split at layered
  next members given =>
    cases layered
    simp only [Environment.members_append, last, ConfigValue.overlay, List.foldl_append,
      List.foldl_cons, List.foldl_nil, Environment.layOver_value]
  next => cases layered

theorem read_of_layers {v : ConfigValue} (layered : layers extension file environment = .ok v) :
    read extension file environment =
      (ofValue? .lenient v).elim (.error .deserialize) .ok := by
  simp only [read, layered, bind, Except.bind]
  cases ofValue? .lenient v <;> rfl

theorem exists_layers_of_read {config : ServiceConfig}
    (accepted : read extension file environment = .ok config) :
    ∃ root, layers extension file environment = .ok (.table root) ∧
      ofValue? .lenient (.table root) = some config := by
  obtain ⟨v, layered, -⟩ := bind_eq_ok.mp accepted
  obtain ⟨root, rfl⟩ := exists_layers layered
  refine ⟨root, layered, ?_⟩
  rw [read_of_layers layered] at accepted
  cases made : ofValue? .lenient (.table root) with
  | none =>
    rw [made] at accepted
    cases accepted
  | some c =>
    rw [made] at accepted
    cases accepted
    rfl

/-- The configuration with a variable over it. -/
theorem read_override {config : ServiceConfig}
    (accepted : read extension file environment = .ok config) {x : TextSetting ServiceConfig}
    (member : x ∈ textSettings) {name : String} (names : Environment.key? name = some x.key)
    (text : String) :
    ∃ root base, layers extension file environment = .ok (.table root) ∧
      (x.tabled root = true → base = config) ∧
      read extension file (environment ++ [(name, text)]) =
        if x.unrivaled root then
          .ok (x.put (Environment.delivered text) base)
        else .error .deserialize := by
  obtain ⟨root, layered, made⟩ := exists_layers_of_read accepted
  obtain ⟨base, same, sets⟩ := setsIn_textSettings member root config made
  refine ⟨root, base, layered, same, ?_⟩
  rw [read_of_layers (layers_override text layered names), ofKey_key member,
    sets _ _ (Environment.text?_value text)]
  split <;> rfl

/-! ### Several variables -/

/-- A variable that names a text of the configuration. -/
structure Override where
  setting : TextSetting ServiceConfig
  known : setting ∈ textSettings
  name : String
  names : Environment.key? name = some setting.key
  text : String

def Override.apply (o : Override) (config : ServiceConfig) : ServiceConfig :=
  o.setting.put (Environment.delivered o.text) config

/-- In values like these a setting can be set, and nothing else changes. -/
structure Takes (root : List (String × ConfigValue)) (x : TextSetting ServiceConfig) : Prop where
  tabled : x.tabled root = true
  unrivaled : x.unrivaled root = true

/-- No setting is in the way of another one, up to other spellings of the same. -/
theorem apart {x y : TextSetting ServiceConfig} (member : x ∈ textSettings)
    (member' : y ∈ textSettings) (spelled : x.name ∉ y.others) :
    ¬ x.path <+: y.sections ∧ ∀ other ∈ y.others, ¬ y.sections ++ [other] <+: x.path := by
  let places := textSettings.map fun x => (x.sections, x.name, x.others)
  have all : ∀ p ∈ places, ∀ q ∈ places, p.2.1 ∉ q.2.2 →
      ¬ p.1 ++ [p.2.1] <+: q.1 ∧ ∀ other ∈ q.2.2, ¬ q.1 ++ [other] <+: p.1 ++ [p.2.1] := by
    decide +kernel
  exact all _ (List.mem_map_of_mem member) _ (List.mem_map_of_mem member') spelled

theorem Takes.modifyAt {root : List (String × ConfigValue)} {x y : TextSetting ServiceConfig}
    (takes : Takes root y) (member : x ∈ textSettings) (member' : y ∈ textSettings)
    (spelled : x.name ∉ y.others) (value : ConfigValue) :
    Takes (ConfigValue.modifyAt x.steps (fun _ => value) (.table root)).members y := by
  obtain ⟨sections, others⟩ := apart member member' spelled
  constructor
  · exact TextSetting.holdsInside_modifyAt rfl sections (fun _ _ _ _ holds => holds) takes.tabled
  · refine TextSetting.holdsInside_modifyAt rfl sections (fun name on f members lacks => ?_)
      takes.unrivaled
    rw [ConfigValue.lacks_modifyMember fun other => others name other on]
    exact lacks

/-- One variable after the other is laid over the configuration, if no two of them spell the same
setting in two ways. -/
theorem read_overrides {config : ServiceConfig} {root : List (String × ConfigValue)}
    (accepted : read extension file environment = .ok config)
    (layered : layers extension file environment = .ok (.table root)) (overrides : List Override)
    (takes : ∀ o ∈ overrides, Takes root o.setting)
    (spelled : ∀ o ∈ overrides, ∀ o' ∈ overrides, o.setting.name ∉ o'.setting.others) :
    read extension file (environment ++ overrides.map fun o => (o.name, o.text)) =
      .ok (overrides.foldl (fun config o => o.apply config) config) := by
  induction overrides generalizing environment config root with
  | nil => rwa [List.map_nil, List.append_nil]
  | cons o rest ih =>
    rw [List.forall_mem_cons] at takes
    obtain ⟨root', base, layered', same, reads⟩ :=
      read_override accepted o.known o.names o.text
    cases layered.symm.trans layered'
    rw [if_pos takes.1.unrivaled, same takes.1.tabled] at reads
    -- The sections are still tables for the other variables.
    have next := layers_override o.text layered o.names
    obtain ⟨root', table⟩ := exists_layers next
    rw [table] at next
    have takes' : ∀ o' ∈ rest, Takes root' o'.setting := by
      intro o' member
      have kept := (takes.2 o' member).modifyAt o.known o'.known
        (spelled o List.mem_cons_self o' (List.mem_cons_of_mem _ member)) (Environment.value o.text)
      rw [← ofKey_key o.known, table] at kept
      exact kept
    have further := ih reads next takes' fun o₁ member₁ o₂ member₂ =>
      spelled o₁ (List.mem_cons_of_mem _ member₁) o₂ (List.mem_cons_of_mem _ member₂)
    rw [List.append_assoc] at further
    exact further

/-- **Overrides.** A variable that names a text of an accepted configuration is laid over it. The
text arrives exactly if it is not respelled, and if the file does not give the setting under another
spelling, as the two together are refused. What arrives otherwise is how the truth or the number is
written that the text was taken for. Everything else stays as it was, if the sections on the way to
the setting were not given as lists. -/
theorem override_delivers_iff {config : ServiceConfig}
    (accepted : read extension file environment = .ok config) {x : TextSetting ServiceConfig}
    (member : x ∈ textSettings) {name : String} (names : Environment.key? name = some x.key)
    (text : String) :
    ∃ root, layers extension file environment = .ok (.table root) ∧
      let overridden := read extension file (environment ++ [(name, text)])
      ((∃ c, overridden = .ok c ∧ x.get c = some text) ↔
        x.unrivaled root = true ∧ ¬ Environment.Respelled text) ∧
      (x.unrivaled root = true → ∃ c, overridden = .ok c ∧
        x.get c = some (Environment.delivered text) ∧
        (x.tabled root = true →
          c = x.put (Environment.delivered text) config)) ∧
      (x.unrivaled root = false →
        overridden = .error .deserialize) := by
  obtain ⟨root, base, layered, same, reads⟩ := read_override accepted member names text
  refine ⟨root, layered, ?_⟩
  intro overridden
  cases unrivaled : x.unrivaled root with
  | true =>
    have reads : overridden = .ok (x.put (Environment.delivered text) base) := by
      rw [show overridden = _ from reads, if_pos unrivaled]
    have gets := x.get_put (Environment.delivered text) base
    refine ⟨?_, fun _ => ⟨_, reads, gets, fun tables => ?_⟩, fun rivaled => (by cases rivaled)⟩
    · rw [← Environment.delivered_eq_self_iff]
      constructor
      · rintro ⟨c, read, arrives⟩
        cases reads.symm.trans read
        exact ⟨rfl, Option.some.inj (gets.symm.trans arrives)⟩
      · rintro ⟨-, right⟩
        exact ⟨_, reads, gets.trans (congrArg some right)⟩
    · rw [same tables]
  | false =>
    have reads : overridden = .error .deserialize := by
      rw [show overridden = _ from reads, unrivaled]
      rfl
    refine ⟨⟨?_, ?_⟩, fun clear => (by cases clear), fun _ => reads⟩
    · rintro ⟨c, read, -⟩
      cases reads.symm.trans read
    · rintro ⟨clear, -⟩
      cases clear

/-- The key of the container of sessions. -/
def sessionKey : TextSetting ServiceConfig :=
  (ContainerConfig.keySetting.within SessionConfig.containerSection).within sessionSection

theorem sessionKey_mem : sessionKey ∈ textSettings := by
  refine List.mem_append_left _ (List.mem_append_right _ (List.mem_map_of_mem ?_))
  refine List.mem_append_left _ (List.mem_append_right _ (List.mem_map_of_mem ?_))
  simp [ContainerConfig.textSettings]

/-- A key with letters arrives, and nothing else changes. -/
theorem override_delivers_iff_letters :
    read "json" (some "\x7b\x7d") [] = .ok {} ∧ sessionKey ∈ textSettings ∧
      Environment.key? "CACHET__SESSION__CONTAINER__KEY" = some sessionKey.key ∧
      read "json" (some "\x7b\x7d") [("CACHET__SESSION__CONTAINER__KEY", "session-secret")] =
        .ok (sessionKey.put "session-secret" {}) := by
  have accepted : read "json" (some "\x7b\x7d") [] = .ok {} := by rfl
  have names : Environment.key? "CACHET__SESSION__CONTAINER__KEY" = some sessionKey.key := by
    decide +kernel
  obtain ⟨root, layered, -, arrives, -⟩ :=
    override_delivers_iff accepted sessionKey_mem names "session-secret"
  have empty : layers "json" (some "\x7b\x7d") [] = .ok (.table []) := by rfl
  cases empty.symm.trans layered
  obtain ⟨c, overridden, -, same⟩ := arrives rfl
  have plain : Environment.delivered "session-secret" = "session-secret" := by decide +kernel
  rw [same rfl, plain] at overridden
  exact ⟨accepted, sessionKey_mem, names, overridden⟩

/-- **Another key.** A key of three digits is taken for a number, and signs as the one digit that
the number is written with. -/
theorem key_is_respelled :
    ∃ c, read "json" (some "\x7b\x7d") [("CACHET__SESSION__CONTAINER__KEY", "007")] = .ok c ∧
      sessionKey.get c = some "7" ∧ sessionKey.get c ≠ some "007" :=
  ⟨_, rfl, rfl, by decide⟩

end ServiceConfig

end SealedTokens
