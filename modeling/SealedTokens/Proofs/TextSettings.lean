import SealedTokens.Config.Service
import SealedTokens.Proofs.ConfigRecords
/-!
# Settings that are texts

Which settings of a configuration are texts, and what becomes of a configuration when one of them is
set in the values that it is read from.

## Main results

- `TextSetting.setsIn_of_field`, `TextSetting.setsIn_within`: setting a text in a section, and in
  a section around it
- `TextSetting.holdsInside_modifyAt`: the values around a setting stay as they have to be when
  another one is set
- `ServiceConfig.setsIn_textSettings`: setting any of the texts of a configuration

## Proof strategy

A section is read field by field, so a change to one field leaves what is read from the others
(`ConfigValue.record?_modifyMember`). From the section outwards each section is a field of the next
one, and where a section to be changed is no table, the defaults take its place.
-/
namespace SealedTokens

/-! ### Settings of sections -/

section Fields

open ConfigValue

variable {α β : Type} {read? : ConfigValue → Option α} {fields : List (List String)}
  {assemble : List (Option ConfigValue) → Option α} {name : String}

/-- A setting that is a text: the sections that it is in, its name and its other spellings, and
where it is in the configuration. -/
structure TextSetting (α : Type) where
  sections : List String
  name : String
  others : List String
  get : α → Option String
  put : String → α → α
  get_put : ∀ text a, get (put text a) = some text

/-- A section that is a member of another one. -/
structure Subsection (α β : Type) where
  name : String
  get : α → β
  put : β → α → α
  get_put : ∀ b a, get (put b a) = b
  put_get : ∀ a, put (get a) a = a
  put_put : ∀ b b' a, put b (put b' a) = put b a

/-- A setting of a section as one of the section around it. -/
def TextSetting.within (inner : Subsection α β) (x : TextSetting β) : TextSetting α where
  sections := inner.name :: x.sections
  name := x.name
  others := x.others
  get a := x.get (inner.get a)
  put text a := inner.put (x.put text (inner.get a)) a
  get_put text a := by rw [inner.get_put, x.get_put]

namespace TextSetting

/-- The names on the way to a setting. -/
def path (x : TextSetting α) : List String := x.sections ++ [x.name]

def steps (x : TextSetting α) : ConfigPath := x.path.map .name

/-- Whether something holds of the members of the innermost section. It does if a section on the way
is not given, and `otherwise` tells if one is given that is no table. -/
def holdsInside (holds : List (String × ConfigValue) → Bool) (otherwise : Bool) :
    (sections : List String) → (members : List (String × ConfigValue)) → Bool
  | [], members => holds members
  | name :: rest, members => (members.lookup name).all fun
    | .table inside => holdsInside holds otherwise rest inside
    | _ => otherwise

/-- Whether the sections on the way to a setting are tables, as far as they are given. -/
def tabled (x : TextSetting α) (members : List (String × ConfigValue)) : Bool :=
  holdsInside (fun _ => true) false x.sections members

/-- Whether a setting is not given under another spelling. -/
def unrivaled (x : TextSetting α) (members : List (String × ConfigValue)) : Bool :=
  holdsInside (lacks x.others) true x.sections members

/-- How a setting is set in values that are read as a configuration: the text arrives if no other
spelling is there, and the rest stays if no section is replaced. -/
def SetsIn (x : TextSetting α) (read? : ConfigValue → Option α) : Prop :=
  ∀ members a, read? (.table members) = some a → ∃ a₀,
    (x.tabled members = true → a₀ = a) ∧ ∀ value text, value.text? .lenient = some text →
      read? (modifyAt x.steps (fun _ => value) (.table members)) =
        if x.unrivaled members then some (x.put text a₀) else none

end TextSetting

/-- How a section is read from the values of another one. -/
def Subsection.ReadsIn (inner : Subsection α β) (outer? : ConfigValue → Option α)
    (inner? : ConfigValue → Option β) (default : β) : Prop :=
  ∀ members a, outer? (.table members) = some a →
    ConfigField.read inner? default (members.lookup inner.name) = some (inner.get a) ∧ ∀ f,
      outer? (.table (modifyMember inner.name f members)) =
        (inner? (f ((members.lookup inner.name).getD .null))).map fun b => inner.put b a

/-- The index of the field with a name. -/
def fieldIndex (fields : List (List String)) (name : String) : Nat :=
  fields.findIdx (·.contains name)

theorem TextSetting.setsIn_of_field {x : TextSetting α} (top : x.sections = [])
    (reads : ∀ v, read? v = (v.record? .lenient fields).bind assemble)
    (own : isField x.name (fieldIndex fields x.name) fields = true)
    (spelled : fields[fieldIndex fields x.name]?.map (·.filter (· != x.name)) = some x.others)
    (assembles : ∀ values a, assemble values = some a → ∀ value text,
      value.text? .lenient = some text →
      assemble (values.set (fieldIndex fields x.name) (some value)) = some (x.put text a)) :
    x.SetsIn read? := by
  intro members a accepted
  refine ⟨a, fun _ => rfl, fun value text isText => ?_⟩
  rw [steps, path, top]
  rw [reads] at accepted
  obtain ⟨values, record, assembled⟩ := Option.bind_eq_some_iff.mp accepted
  obtain ⟨spellings, found, spelled', -, -, modified⟩ := record?_modifyMember own record
  rw [spelled', Option.map_some, Option.some_inj] at spelled
  show read? (.table (modifyMember x.name (fun _ => value) members)) = _
  rw [reads, modified fun _ => value, spelled, unrivaled, top, holdsInside]
  split
  · exact assembles values a assembled value text isText
  · rfl

theorem Subsection.readsIn_of_field {inner : Subsection α β} {inner? : ConfigValue → Option β}
    {default : β}
    (reads : ∀ v, read? v = (v.record? .lenient fields).bind assemble)
    (own : isField inner.name (fieldIndex fields inner.name) fields = true)
    (spelled : fields[fieldIndex fields inner.name]? = some [inner.name])
    (assembles : ∀ values a found, assemble values = some a →
      values[fieldIndex fields inner.name]? = some found →
      ConfigField.read inner? default found = some (inner.get a) ∧ ∀ value,
        assemble (values.set (fieldIndex fields inner.name) (some value)) =
          (inner? value).map fun b => inner.put b a) :
    inner.ReadsIn read? inner? default := by
  intro members a accepted
  rw [reads] at accepted
  obtain ⟨values, record, assembled⟩ := Option.bind_eq_some_iff.mp accepted
  obtain ⟨_, found, spelled', here, given, modified⟩ := record?_modifyMember own record
  cases spelled.symm.trans spelled'
  obtain ⟨readFound, sets⟩ := assembles values a found assembled here
  rw [lookup_of_member? given]
  refine ⟨readFound, fun f => ?_⟩
  have alone : lacks ([inner.name].filter (· != inner.name)) members = true := by
    simp [lacks]
  rw [reads, modified f, if_pos alone]
  exact sets (f (found.getD .null))

/-! ### Sections around sections -/

namespace TextSetting

/-- What is in the way of a setting is replaced by a table. -/
theorem modifyAt_steps (x : TextSetting α) (f : ConfigValue → ConfigValue) (v : ConfigValue) :
    modifyAt x.steps f v = modifyAt x.steps f (.table v.members) := by
  unfold steps path
  cases x.sections <;> rfl

variable {holds : List (String × ConfigValue) → Bool} {otherwise : Bool}
  {sections : List String} {members : List (String × ConfigValue)}

theorem holdsInside_nil (empty : holds [] = true) : holdsInside holds otherwise sections [] = true := by
  cases sections with
  | nil => exact empty
  | cons name rest => rfl

/-- What holds inside of a section holds inside of the members that it has. -/
theorem holdsInside_of_cons {name : String} (empty : holds [] = true)
    (all : holdsInside holds otherwise (name :: sections) members = true) :
    holdsInside holds otherwise sections ((members.lookup name).getD .null).members = true := by
  rw [holdsInside] at all
  cases found : members.lookup name with
  | none => exact holdsInside_nil empty
  | some v =>
    rw [found] at all
    cases v with
    | table inside => exact all
    | _ => exact holdsInside_nil empty

theorem unrivaled_within {inner : Subsection α β} (x : TextSetting β) :
    (x.within inner).unrivaled members =
      x.unrivaled ((members.lookup inner.name).getD .null).members := by
  have empty : holdsInside (lacks x.others) true x.sections [] = true := holdsInside_nil rfl
  show holdsInside (lacks x.others) true (inner.name :: x.sections) members = _
  rw [holdsInside]
  cases members.lookup inner.name with
  | none => exact empty.symm
  | some v =>
    cases v with
    | table inside => rfl
    | _ => exact empty.symm

/-- A section is read from its own members, and as its defaults if it has none. -/
theorem exists_inside {inner : Subsection α β} {inner? : ConfigValue → Option β} {default : β} {a : α}
    (empty : inner? (.table []) = some default) (x : TextSetting β)
    (given : ConfigField.read inner? default (members.lookup inner.name) = some (inner.get a)) :
    ∃ b, inner? (.table ((members.lookup inner.name).getD .null).members) = some b ∧
      ((x.within inner).tabled members = true → b = inner.get a) := by
  show ∃ b, _ ∧ (holdsInside _ _ (inner.name :: x.sections) members = true → _)
  rw [holdsInside]
  cases found : members.lookup inner.name with
  | none =>
    rw [found] at given
    exact ⟨default, empty, fun _ => Option.some.inj given⟩
  | some v =>
    rw [found] at given
    cases v with
    | table inside => exact ⟨inner.get a, given, fun _ => rfl⟩
    | _ => exact ⟨default, empty, fun tables => by cases tables⟩

theorem setsIn_within {inner : Subsection α β} {inner? : ConfigValue → Option β} {default : β}
    {x : TextSetting β} (empty : inner? (.table []) = some default)
    (reads : inner.ReadsIn read? inner? default) (sets : x.SetsIn inner?) :
    (x.within inner).SetsIn read? := by
  intro members a accepted
  obtain ⟨given, modified⟩ := reads members a accepted
  obtain ⟨b, accepted', same⟩ := exists_inside empty x given
  obtain ⟨b₀, same₀, set⟩ := sets _ b accepted'
  refine ⟨inner.put b₀ a, fun tables => ?_, fun value text isText => ?_⟩
  · rw [same₀ (holdsInside_of_cons rfl tables), same tables, inner.put_get]
  · show read? (.table (modifyMember inner.name (modifyAt x.steps fun _ => value) members)) =
      if (x.within inner).unrivaled members then
        some (inner.put (x.put text (inner.get (inner.put b₀ a))) (inner.put b₀ a)) else none
    rw [modified, x.modifyAt_steps, set value text isText, unrivaled_within, inner.get_put,
      inner.put_put]
    split <;> rfl

/-- Setting something else keeps what holds inside of sections, if none of them is replaced, and if
what holds of a section's members still does when a member is set. -/
theorem holdsInside_modifyAt {path : List String} {value : ConfigValue} (empty : holds [] = true)
    (apart : ¬ path <+: sections)
    (keeps : ∀ name, sections ++ [name] <+: path → ∀ f members, holds members = true →
      holds (modifyMember name f members) = true)
    (all : holdsInside holds otherwise sections members = true) :
    holdsInside holds otherwise sections
      (modifyAt (path.map .name) (fun _ => value) (.table members)).members = true := by
  induction path generalizing sections members with
  | nil => exact absurd List.nil_prefix apart
  | cons name rest ih =>
    show holdsInside holds otherwise sections
      (modifyMember name (modifyAt (rest.map .name) fun _ => value) members) = true
    cases sections with
    | nil => exact keeps name (List.cons_prefix_cons.mpr ⟨rfl, List.nil_prefix⟩) _ members all
    | cons first more =>
      by_cases same : first = name
      · subst same
        have apart : ¬ rest <+: more := fun inside =>
          apart (List.cons_prefix_cons.mpr ⟨rfl, inside⟩)
        have keeps (name : String) (last : more ++ [name] <+: rest) :=
          keeps name (List.cons_prefix_cons.mpr ⟨rfl, last⟩)
        have inside := ih apart keeps (holdsInside_of_cons empty all)
        rw [holdsInside, lookup_modifyMember, if_pos rfl]
        -- Something follows the section on the path, so it is a table now.
        cases rest with
        | nil => exact absurd List.nil_prefix apart
        | cons second rest => exact inside
      · rw [holdsInside] at all ⊢
        rw [lookup_modifyMember, if_neg same]
        exact all

end TextSetting

end Fields

/-! ### The sections of a configuration -/

namespace ConfigField

theorem read_some {α : Type} (reader : ConfigValue → Option α) (default : α) (value : ConfigValue) :
    read reader default (some value) = reader value := rfl

/-- A text that may be missing is there when it is given. -/
theorem readOptional_text {value : ConfigValue} {text : String}
    (isText : value.text? .lenient = some text) :
    readOptional (ConfigValue.text? .lenient) (some value) = some (some text) := by
  cases value with
  | null => cases isText
  | _ => exact congrArg (Option.map some) isText

end ConfigField

def LogConfig.textSettings : List (TextSetting LogConfig) :=
  [⟨[], "level", [], (some ·.level), fun text c => { c with level := text }, fun _ _ => rfl⟩,
   ⟨[], "directory", [], (·.directory), fun text c => { c with directory := text }, fun _ _ => rfl⟩,
   ⟨[], "filter", [], (·.filter), fun text c => { c with filter := text }, fun _ _ => rfl⟩]

theorem LogConfig.setsIn_textSettings {x : TextSetting LogConfig} (member : x ∈ textSettings) :
    x.SetsIn (ofValue? .lenient) := by
  simp only [textSettings, List.mem_cons, List.not_mem_nil, or_false] at member
  rcases member with rfl | rfl | rfl
  all_goals
    refine TextSetting.setsIn_of_field rfl (fun _ => rfl) rfl rfl ?_
    intro values c assembled value text isText
    split at assembled
    next level json directory filter =>
      simp only [bind, Option.bind_eq_some_iff] at assembled
      obtain ⟨_, readLevel, _, readJson, _, readDirectory, _, readFilter, ⟨⟩⟩ := assembled
      simp [fieldIndex, List.findIdx_cons, ConfigField.read_some,
        ConfigField.readOptional_text isText, *]
    cases assembled

namespace ContainerConfig

/-- The name of the algorithm, which has two spellings. -/
def algorithmSettings : List (TextSetting String) :=
  [⟨[], "algorithm", ["algo"], some, fun text _ => text, fun _ _ => rfl⟩,
   ⟨[], "algo", ["algorithm"], some, fun text _ => text, fun _ _ => rfl⟩]

/-- The record that has the name of the algorithm. -/
def jwt : Subsection ContainerConfig String :=
  ⟨"jwt", (·.algorithm), fun algorithm c => { c with algorithm }, fun _ _ => rfl, fun _ => rfl,
    fun _ _ _ => rfl⟩

def keySetting : TextSetting ContainerConfig :=
  ⟨[], "key", [], (·.key), fun text c => { c with key := text }, fun _ _ => rfl⟩

def textSettings : List (TextSetting ContainerConfig) :=
  [⟨[], "type", [], (some ·.kind), fun text c => { c with kind := text }, fun _ _ => rfl⟩,
   ⟨[], "serializer", [], (some ·.serializer), fun text c => { c with serializer := text },
    fun _ _ => rfl⟩,
   ⟨[], "compressor", [], (some ·.compressor), fun text c => { c with compressor := text },
    fun _ _ => rfl⟩,
   ⟨[], "sealer", [], (some ·.sealer), fun text c => { c with sealer := text }, fun _ _ => rfl⟩,
   ⟨[], "representer", [], (some ·.representer), fun text c => { c with representer := text },
    fun _ _ => rfl⟩,
   keySetting,
   ⟨[], "key-file", [], (·.keyFile), fun text c => { c with keyFile := text }, fun _ _ => rfl⟩] ++
  algorithmSettings.map (·.within jwt)

theorem setsIn_algorithmSettings {x : TextSetting String} (member : x ∈ algorithmSettings) :
    x.SetsIn (algorithmOf? .lenient) := by
  simp only [algorithmSettings, List.mem_cons, List.not_mem_nil, or_false] at member
  rcases member with rfl | rfl
  all_goals
    refine TextSetting.setsIn_of_field rfl (fun _ => rfl) rfl rfl ?_
    intro values c assembled value text isText
    split at assembled
    next algorithm => exact isText
    cases assembled

theorem jwt_readsIn : jwt.ReadsIn (ofValue? .lenient) (algorithmOf? .lenient) "HS256" := by
  refine Subsection.readsIn_of_field (fun _ => rfl) rfl rfl ?_
  intro values c found assembled at'
  split at assembled
  next kind serializer compressor sealer representer key keyFile jwt =>
    simp only [bind, Option.bind_eq_some_iff] at assembled
    obtain ⟨_, readKind, _, readSerializer, _, readCompressor, _, readSealer, _, readRepresenter, _,
      readKey, _, readKeyFile, _, readJwt, ⟨⟩⟩ := assembled
    cases at'
    refine ⟨readJwt, fun value => ?_⟩
    simp [fieldIndex, jwt, List.findIdx_cons, ConfigField.read_some, *]
    exact Option.map_eq_bind.symm
  cases assembled

theorem setsIn_textSettings {x : TextSetting ContainerConfig} (member : x ∈ textSettings) :
    x.SetsIn (ofValue? .lenient) := by
  obtain own | nested := List.mem_append.mp member
  · simp only [List.mem_cons, List.not_mem_nil, or_false] at own
    rcases own with rfl | rfl | rfl | rfl | rfl | rfl | rfl
    all_goals
      refine TextSetting.setsIn_of_field rfl (fun _ => rfl) rfl rfl ?_
      intro values c assembled value text isText
      split at assembled
      next kind serializer compressor sealer representer key keyFile jwt =>
        simp only [bind, Option.bind_eq_some_iff] at assembled
        obtain ⟨_, readKind, _, readSerializer, _, readCompressor, _, readSealer, _, readRepresenter,
          _, readKey, _, readKeyFile, _, readJwt, ⟨⟩⟩ := assembled
        simp [keySetting, fieldIndex, List.findIdx_cons, ConfigField.read_some,
          ConfigField.readOptional_text isText, *]
      cases assembled
  · obtain ⟨y, inside, rfl⟩ := List.mem_map.mp nested
    exact TextSetting.setsIn_within rfl jwt_readsIn (setsIn_algorithmSettings inside)

end ContainerConfig

def CookieConfig.textSettings : List (TextSetting CookieConfig) :=
  [⟨[], "name", [], (some ·.name), fun text c => { c with name := text }, fun _ _ => rfl⟩,
   ⟨[], "path", [], (some ·.path), fun text c => { c with path := text }, fun _ _ => rfl⟩,
   ⟨[], "domain", [], (some ·.domain), fun text c => { c with domain := text }, fun _ _ => rfl⟩,
   ⟨[], "same-site", [], (some ·.sameSite), fun text c => { c with sameSite := text },
    fun _ _ => rfl⟩]

theorem CookieConfig.setsIn_textSettings {x : TextSetting CookieConfig}
    (member : x ∈ textSettings) : x.SetsIn (ofValue? .lenient) := by
  simp only [textSettings, List.mem_cons, List.not_mem_nil, or_false] at member
  rcases member with rfl | rfl | rfl | rfl
  all_goals
    refine TextSetting.setsIn_of_field rfl (fun _ => rfl) rfl rfl ?_
    intro values c assembled value text isText
    split at assembled
    next name path domain secure httpOnly sameSite =>
      simp only [bind, Option.bind_eq_some_iff] at assembled
      obtain ⟨_, readName, _, readPath, _, readDomain, _, readSecure, _, readHttpOnly, _,
        readSameSite, ⟨⟩⟩ := assembled
      simp [fieldIndex, List.findIdx_cons, ConfigField.read_some, *]
    cases assembled

namespace SessionConfig

def containerSection : Subsection SessionConfig ContainerConfig :=
  ⟨"container", (·.container), fun container c => { c with container }, fun _ _ => rfl,
    fun _ => rfl, fun _ _ _ => rfl⟩

def cookieSection : Subsection SessionConfig CookieConfig :=
  ⟨"cookie", (·.cookie), fun cookie c => { c with cookie }, fun _ _ => rfl, fun _ => rfl,
    fun _ _ _ => rfl⟩

def textSettings : List (TextSetting SessionConfig) :=
  [⟨[], "header", [], (some ·.header), fun text c => { c with header := text }, fun _ _ => rfl⟩,
   ⟨[], "header-scheme", [], (·.headerScheme), fun text c => { c with headerScheme := text },
    fun _ _ => rfl⟩] ++
  ContainerConfig.textSettings.map (·.within containerSection) ++
  CookieConfig.textSettings.map (·.within cookieSection)

theorem sections_readIn :
    containerSection.ReadsIn (ofValue? .lenient) (ContainerConfig.ofValue? .lenient) {} ∧
      cookieSection.ReadsIn (ofValue? .lenient) (CookieConfig.ofValue? .lenient) {} := by
  constructor
  all_goals
    refine Subsection.readsIn_of_field (fun _ => rfl) rfl rfl ?_
    intro values c found assembled at'
    split at assembled
    next container maxAge refresh cookie header scheme =>
      simp only [bind, Option.bind_eq_some_iff] at assembled
      obtain ⟨_, readContainer, _, readMaxAge, _, readRefresh, _, readCookie, _, readHeader, _,
        readScheme, ⟨⟩⟩ := assembled
      cases at'
      refine ⟨by assumption, fun value => ?_⟩
      simp [fieldIndex, containerSection, cookieSection, List.findIdx_cons, ConfigField.read_some,
        *]
      exact Option.map_eq_bind.symm
    cases assembled

theorem setsIn_textSettings {x : TextSetting SessionConfig} (member : x ∈ textSettings) :
    x.SetsIn (ofValue? .lenient) := by
  obtain ⟨container, cookie⟩ := sections_readIn
  obtain member | inCookie := List.mem_append.mp member
  · obtain own | inContainer := List.mem_append.mp member
    · simp only [List.mem_cons, List.not_mem_nil, or_false] at own
      rcases own with rfl | rfl
      all_goals
        refine TextSetting.setsIn_of_field rfl (fun _ => rfl) rfl rfl ?_
        intro values c assembled value text isText
        split at assembled
        next container maxAge refresh cookie header scheme =>
          simp only [bind, Option.bind_eq_some_iff] at assembled
          obtain ⟨_, readContainer, _, readMaxAge, _, readRefresh, _, readCookie, _, readHeader, _,
            readScheme, ⟨⟩⟩ := assembled
          simp [fieldIndex, List.findIdx_cons, ConfigField.read_some,
            ConfigField.readOptional_text isText, *]
        cases assembled
    · obtain ⟨y, inside, rfl⟩ := List.mem_map.mp inContainer
      exact TextSetting.setsIn_within rfl container (ContainerConfig.setsIn_textSettings inside)
  · obtain ⟨y, inside, rfl⟩ := List.mem_map.mp inCookie
    exact TextSetting.setsIn_within rfl cookie (CookieConfig.setsIn_textSettings inside)

end SessionConfig

def CsrfConfig.textSettings : List (TextSetting CsrfConfig) :=
  [⟨[], "key", [], (·.key), fun text c => { c with key := text }, fun _ _ => rfl⟩,
   ⟨[], "key-file", [], (·.keyFile), fun text c => { c with keyFile := text }, fun _ _ => rfl⟩,
   ⟨[], "parameter-name", [], (some ·.parameterName), fun text c => { c with parameterName := text },
    fun _ _ => rfl⟩]

theorem CsrfConfig.setsIn_textSettings {x : TextSetting CsrfConfig} (member : x ∈ textSettings) :
    x.SetsIn (ofValue? .lenient) := by
  simp only [textSettings, List.mem_cons, List.not_mem_nil, or_false] at member
  rcases member with rfl | rfl | rfl
  all_goals
    refine TextSetting.setsIn_of_field rfl (fun _ => rfl) rfl rfl ?_
    intro values c assembled value text isText
    split at assembled
    next key keyFile ttl parameterName methods =>
      simp only [bind, Option.bind_eq_some_iff] at assembled
      obtain ⟨_, readKey, _, readKeyFile, _, readTtl, _, readParameterName, _, readMethods, ⟨⟩⟩ :=
        assembled
      simp [fieldIndex, List.findIdx_cons, ConfigField.read_some,
        ConfigField.readOptional_text isText, *]
    cases assembled

namespace ServiceConfig

def logSection : Subsection ServiceConfig LogConfig :=
  ⟨"log", (·.log), fun log c => { c with log }, fun _ _ => rfl, fun _ => rfl, fun _ _ _ => rfl⟩

def sessionSection : Subsection ServiceConfig SessionConfig :=
  ⟨"session", (·.session), fun session c => { c with session }, fun _ _ => rfl, fun _ => rfl,
    fun _ _ _ => rfl⟩

def csrfSection : Subsection ServiceConfig CsrfConfig :=
  ⟨"csrf", (·.csrf), fun csrf c => { c with csrf }, fun _ _ => rfl, fun _ => rfl, fun _ _ _ => rfl⟩

def textSettings : List (TextSetting ServiceConfig) :=
  LogConfig.textSettings.map (·.within logSection) ++
  SessionConfig.textSettings.map (·.within sessionSection) ++
  CsrfConfig.textSettings.map (·.within csrfSection)

theorem sections_readIn :
    logSection.ReadsIn (ofValue? .lenient) (LogConfig.ofValue? .lenient) {} ∧
      sessionSection.ReadsIn (ofValue? .lenient) (SessionConfig.ofValue? .lenient) {} ∧
      csrfSection.ReadsIn (ofValue? .lenient) (CsrfConfig.ofValue? .lenient) {} := by
  refine ⟨?_, ?_, ?_⟩
  all_goals
    refine Subsection.readsIn_of_field (fun _ => rfl) rfl rfl ?_
    intro values c found assembled at'
    split at assembled
    next log session csrf =>
      simp only [bind, Option.bind_eq_some_iff] at assembled
      obtain ⟨_, readLog, _, readSession, _, readCsrf, ⟨⟩⟩ := assembled
      cases at'
      refine ⟨by assumption, fun value => ?_⟩
      simp [fieldIndex, logSection, sessionSection, csrfSection, List.findIdx_cons,
        ConfigField.read_some, *]
      exact Option.map_eq_bind.symm
    cases assembled

theorem setsIn_textSettings {x : TextSetting ServiceConfig} (member : x ∈ textSettings) :
    x.SetsIn (ofValue? .lenient) := by
  obtain ⟨log, session, csrf⟩ := sections_readIn
  obtain member | inCsrf := List.mem_append.mp member
  · obtain inLog | inSession := List.mem_append.mp member
    · obtain ⟨y, inside, rfl⟩ := List.mem_map.mp inLog
      exact TextSetting.setsIn_within rfl log (LogConfig.setsIn_textSettings inside)
    · obtain ⟨y, inside, rfl⟩ := List.mem_map.mp inSession
      exact TextSetting.setsIn_within rfl session (SessionConfig.setsIn_textSettings inside)
  · obtain ⟨y, inside, rfl⟩ := List.mem_map.mp inCsrf
    exact TextSetting.setsIn_within rfl csrf (CsrfConfig.setsIn_textSettings inside)

end ServiceConfig

end SealedTokens
