import Mathlib.Data.List.Basic
import SealedTokens.Http.Uri
import SealedTokens.Proofs.Outcomes
import SealedTokens.Proofs.Texts
import SealedTokens.Session.Transport
/-!
# Header values

Texts that can be the value of a header: those without control characters. A cookie can be set
if its name, its value and its attributes are such texts; everything else in its line is written by
the library.

## Main results

- `Http.Presentable.all_isValueByte`: a text without control characters is a header's value
- `Http.SetCookie.presentable_line`: the line of a cookie
- `Http.Uri.presentable_authority`: the authority of a target that was read
-/
namespace SealedTokens

namespace Http

/-- A tab, or any character that is no control character of ASCII. -/
def isValueChar (c : Char) : Bool := c = '\t' || (32 ≤ c.toNat && c.toNat ≠ 127)

/-- No character keeps the text from being a header's value. -/
def Presentable (text : String) : Prop := ∀ c ∈ text.toList, isValueChar c = true

instance (text : String) : Decidable (Presentable text) :=
  decidable_of_decidable_of_iff
    (show text.toList.all isValueChar = true ↔ Presentable text from List.all_eq_true)

/-! ### Characters and bytes -/

theorem isValueChar_of_visible {c : Char} (low : 32 ≤ c.toNat) (high : c.toNat < 127) :
    isValueChar c = true := by
  simp only [isValueChar, Bool.or_eq_true, Bool.and_eq_true, decide_eq_true_eq]
  omega

theorem isValueByte_of_high {b : UInt8} (high : 128 ≤ b.toNat) : isValueByte b = true := by
  have notDelete : b ≠ 127 := by
    rintro rfl
    exact absurd high (by decide)
  simp only [isValueByte, Bool.or_eq_true, Bool.and_eq_true, decide_eq_true_eq, bne_iff_ne]
  exact .inr ⟨UInt8.le_iff_toNat_le.mpr (Nat.le_trans (by decide) high), notDelete⟩

theorem isValueByte_of_isValueChar {c : Char} (ok : isValueChar c = true) :
    ∀ b ∈ String.utf8EncodeChar c, isValueByte b = true := by
  by_cases ascii : c.toNat < 128
  -- One byte stands for an ASCII character, and is as good as it.
  · rw [Bytes.utf8EncodeChar_ascii ascii]
    simp only [List.mem_singleton, forall_eq]
    have value : (UInt8.ofNat c.toNat).toNat = c.toNat := Bytes.toNat_byte (by omega)
    simp only [isValueChar, Bool.or_eq_true, Bool.and_eq_true, decide_eq_true_eq] at ok
    rcases ok with rfl | ⟨low, notDelete⟩
    · decide
    · simp only [isValueByte, Bool.or_eq_true, Bool.and_eq_true, decide_eq_true_eq, bne_iff_ne]
      refine .inr ⟨UInt8.le_iff_toNat_le.mpr ?_, fun same => notDelete ?_⟩
      · rw [value]
        exact low
      · rw [← value, same]
        rfl
  -- Every byte of any other character has its highest bit set.
  · intro b member
    have large : ¬ c.val.toNat ≤ 127 := fun small => ascii (Nat.lt_succ_of_le small)
    have bound := c.val.toNat_lt
    have byte (n : Nat) (high : 128 ≤ n) (small : n < 256) : isValueByte (UInt8.ofNat n) = true :=
      isValueByte_of_high (by rw [Bytes.toNat_byte small]; exact high)
    rw [String.utf8EncodeChar] at member
    simp only [large, ite_false] at member
    split at member
    · simp only [List.mem_cons, List.not_mem_nil, or_false] at member
      rcases member with rfl | rfl <;> exact byte _ (by omega) (by omega)
    · split at member
      all_goals
        simp only [List.mem_cons, List.not_mem_nil, or_false] at member
      · rcases member with rfl | rfl | rfl <;> exact byte _ (by omega) (by omega)
      · rcases member with rfl | rfl | rfl | rfl <;> exact byte _ (by omega) (by omega)

/-! ### Texts -/

namespace Presentable

theorem all_isValueByte {text : String} (ok : Presentable text) :
    (Bytes.ofText text).all isValueByte = true := by
  rw [Bytes.ofText_eq_flatMap, List.all_eq_true]
  intro b member
  obtain ⟨c, member, written⟩ := List.mem_flatMap.mp member
  exact isValueByte_of_isValueChar (ok c member) b written

/-- A text that can be a header's value has no control character but the tab. -/
theorem of_all_isValueByte {text : String} (all : (Bytes.ofText text).all isValueByte = true) :
    Presentable text := by
  rw [Bytes.ofText_eq_flatMap, List.all_eq_true] at all
  intro c member
  by_cases ascii : c.toNat < 128
  · have written : UInt8.ofNat c.toNat ∈ text.toList.flatMap String.utf8EncodeChar := by
      refine List.mem_flatMap.mpr ⟨c, member, ?_⟩
      rw [Bytes.utf8EncodeChar_ascii ascii]
      exact List.mem_singleton_self _
    have ok := all _ written
    have value : (UInt8.ofNat c.toNat).toNat = c.toNat := Bytes.toNat_byte (by omega)
    simp only [isValueByte, isValueChar, Bool.or_eq_true, Bool.and_eq_true, decide_eq_true_eq,
      bne_iff_ne] at ok ⊢
    obtain tab | ⟨low, notDelete⟩ := ok
    · rw [tab] at value
      exact .inl (Char.toNat_inj.mp value.symm)
    · have low : 32 ≤ (UInt8.ofNat c.toNat).toNat := low
      refine .inr ⟨by omega, fun same => notDelete ?_⟩
      rw [same]
      rfl
  · simp only [isValueChar, Bool.or_eq_true, Bool.and_eq_true, decide_eq_true_eq]
    omega

theorem append {a b : String} (first : Presentable a) (second : Presentable b) :
    Presentable (a ++ b) := by
  intro c member
  rw [String.toList_append, List.mem_append] at member
  exact member.elim (first c) (second c)

theorem ofList {cs : List Char} (ok : ∀ c ∈ cs, isValueChar c = true) :
    Presentable (String.ofList cs) := by
  rw [Presentable, String.toList_ofList]
  exact ok

theorem intercalate {separator : String} {texts : List String} (between : Presentable separator)
    (ok : ∀ text ∈ texts, Presentable text) : Presentable (separator.intercalate texts) := by
  rw [Presentable, String.toList_intercalate]
  induction texts with
  | nil => exact fun c member => by cases member
  | cons text texts ih =>
    rw [List.forall_mem_cons] at ok
    cases texts with
    | nil =>
      rw [List.map_singleton, List.intercalate_singleton]
      exact ok.1
    | cons next texts =>
      rw [List.map_cons, List.map_cons, List.intercalate_cons_cons]
      simp only [List.forall_mem_append]
      exact ⟨⟨ok.1, between⟩, ih ok.2⟩

theorem of_intercalate {separator : String} {texts : List String}
    (ok : Presentable (separator.intercalate texts)) : ∀ text ∈ texts, Presentable text := by
  rw [Presentable, String.toList_intercalate] at ok
  induction texts with
  | nil => exact fun text member => by cases member
  | cons text texts ih =>
    cases texts with
    | nil =>
      rw [List.map_singleton, List.intercalate_singleton] at ok
      exact List.forall_mem_singleton.mpr ok
    | cons next texts =>
      rw [List.map_cons, List.map_cons, List.intercalate_cons_cons] at ok
      simp only [List.forall_mem_append] at ok
      exact List.forall_mem_cons.mpr ⟨ok.1.1, ih ok.2⟩

theorem getD {texts : List String} (ok : ∀ text ∈ texts, Presentable text) (i : Nat) :
    Presentable (texts.getD i "") := by
  rw [List.getD_eq_getElem?_getD]
  cases found : texts[i]? with
  | none => exact fun c member => by cases member
  | some text => exact ok text (List.mem_of_getElem? found)

theorem of_digits {cs : List Char} (digits : ∀ c ∈ cs, c.isDigit = true) :
    Presentable (String.ofList cs) := by
  refine ofList fun c member => ?_
  have range := Text.toNat_of_isDigit (digits c member)
  exact isValueChar_of_visible (by omega) (by omega)

theorem nat (n : Nat) : Presentable (toString n) := by
  show Presentable n.repr
  rw [Nat.repr_eq_ofList_toDigits]
  exact of_digits fun c member => Nat.isDigit_of_mem_toDigits (by decide) (by decide) member

theorem int (n : Int) : Presentable (toString n) := by
  cases n with
  | ofNat n => exact nat n
  | negSucc n => exact append (by decide) (nat (n + 1))

end Presentable

/-! ### The line of a cookie -/

namespace SetCookie

theorem presentable_digits (width n : Nat) :
    Presentable (String.ofList (Instant.digits width n)) := by
  apply Presentable.of_digits
  induction width generalizing n with
  | zero => exact fun c member => by cases member
  | succ width ih =>
    rw [Instant.digits, List.forall_mem_append]
    refine ⟨ih (n / 10), ?_⟩
    simp only [List.mem_singleton, forall_eq]
    have digits : ∀ d < 10, (Nat.digitChar d).isDigit = true := by decide
    exact digits (n % 10) (Nat.mod_lt n (by decide))

theorem presentable_dateText (t : Instant) : Presentable (dateText t) := by
  have day (n : Nat) : Presentable (dayName n) := Presentable.getD (by decide) n
  have month (n : Nat) : Presentable (monthName n) := Presentable.getD (by decide) (n - 1)
  have comma : Presentable ", " := by decide
  have space : Presentable " " := by decide
  have colon : Presentable ":" := by decide
  have zone : Presentable " GMT" := by decide
  have two := presentable_digits 2
  refine .append ?_ ?_
  · exact (((((day _).append comma).append (two _)).append space).append (month _)).append space
  · exact (((((((Presentable.int _).append space).append (two _)).append colon).append
      (two _)).append colon).append (two _)).append zone

theorem presentable_bareDomain {domain : String} (ok : Presentable domain) :
    Presentable (bareDomain domain) := by
  unfold bareDomain
  split
  next rest same =>
    refine .ofList fun c member => ok c ?_
    rw [same]
    exact List.mem_cons_of_mem _ member
  next => exact ok

/-- A cookie can be set if no text that is put into its line has a control character. -/
theorem presentable_line {c : SetCookie} (name : Presentable c.name) (value : Presentable c.value)
    (path : Presentable c.path) (domain : ∀ d, c.domain = some d → Presentable d)
    (sameSite : ∀ s, c.sameSite = some s → Presentable s) : Presentable c.line := by
  refine .intercalate (by decide) fun text member => ?_
  have equals : Presentable "=" := by decide
  rcases List.mem_cons.mp member with rfl | member
  · exact (name.append equals).append value
  -- The attributes in their order; those in braces are there or not.
  unfold attributes at member
  simp only [List.mem_append] at member
  obtain (((((http | site) | secure) | at') | host) | last) := member
  · split at http
    · cases List.mem_singleton.mp http
      decide
    · cases http
  · obtain ⟨policy, same, rfl⟩ := Option.map_eq_some_iff.mp (Option.mem_toList.mp site)
    have label : Presentable "SameSite=" := by decide
    exact label.append (sameSite policy same)
  · split at secure
    · cases List.mem_singleton.mp secure
      decide
    · cases secure
  · cases List.mem_singleton.mp at'
    have label : Presentable "Path=" := by decide
    exact label.append path
  · obtain ⟨d, same, rfl⟩ := Option.map_eq_some_iff.mp (Option.mem_toList.mp host)
    have label : Presentable "Domain=" := by decide
    exact label.append (presentable_bareDomain (domain d same))
  · simp only [List.mem_cons, List.not_mem_nil, or_false] at last
    rcases last with rfl | rfl
    · have label : Presentable "Max-Age=" := by decide
      exact label.append (Presentable.int _)
    · have label : Presentable "Expires=" := by decide
      exact label.append (presentable_dateText _)

/-- The path is in the line whatever else is. -/
theorem presentable_path {c : SetCookie} (line : Presentable c.line) : Presentable c.path := by
  have member : s!"Path={c.path}" ∈ s!"{c.name}={c.value}" :: c.attributes := by
    simp [attributes]
  have labelled : Presentable ("Path=" ++ c.path) := Presentable.of_intercalate line _ member
  intro char inside
  exact labelled char (by rw [String.toList_append]; exact List.mem_append_right _ inside)

end SetCookie

/-! ### Hosts -/

namespace Uri

theorem isValueChar_of_isAuthorityChar {c : Char} (ok : isAuthorityChar c = true) :
    isValueChar c = true := by
  rw [isAuthorityChar, Bool.or_eq_true] at ok
  rcases ok with letter | mark
  · have range : (65 ≤ c.val ∧ c.val ≤ 90 ∨ 97 ≤ c.val ∧ c.val ≤ 122) ∨
        48 ≤ c.val ∧ c.val ≤ 57 := by
      simpa only [Bool.or_eq_true, Bool.and_eq_true, decide_eq_true_eq] using
        show ((decide (65 ≤ c.val ∧ c.val ≤ 90) || decide (97 ≤ c.val) && decide (c.val ≤ 122)) ||
          decide (48 ≤ c.val) && decide (c.val ≤ 57)) = true from letter
    simp only [UInt32.le_iff_toNat_le] at range
    have number : c.val.toNat = c.toNat := rfl
    simp only [number, UInt32.reduceToNat] at range
    exact isValueChar_of_visible (by omega) (by omega)
  · have marks : Presentable "!$&'()*+,-.:;=@[]_~" := by decide
    exact marks c (List.contains_iff_mem.mp mark)

theorem isValueChar_of_read {s next : AuthorityScan} {c : Char}
    (read : s.read c = .ok next) : isValueChar c = true := by
  unfold AuthorityScan.read at read
  -- Five marks change the state of the scan; any other character has to be allowed.
  iterate 5
    split at read
    next same => exact same ▸ by decide
  split at read
  next ok => exact isValueChar_of_isAuthorityChar ok
  next => cases read

/-- Each character is read in its turn, whatever was seen before it. -/
theorem isValueChar_of_foldlM {authority : List Char} {start last : AuthorityScan}
    (read : authority.foldlM AuthorityScan.read start = .ok last) :
    ∀ c ∈ authority, isValueChar c = true := by
  induction authority generalizing start with
  | nil => exact fun c member => by cases member
  | cons c authority ih =>
    rw [List.foldlM_cons] at read
    obtain ⟨next, first, rest⟩ := bind_eq_ok.mp read
    rw [List.forall_mem_cons]
    exact ⟨isValueChar_of_read first, ih rest⟩

theorem isValueChar_of_checkAuthority {authority : List Char}
    (checked : checkAuthority authority = .ok ()) : ∀ c ∈ authority, isValueChar c = true := by
  obtain ⟨last, read, -⟩ := bind_eq_ok.mp checked
  exact isValueChar_of_foldlM read

theorem isValueChar_of_ofFullChars {text : List Char} {uri : Uri}
    (read : ofFullChars text = .ok uri) : ∀ c ∈ uri.authority, isValueChar c = true := by
  obtain ⟨⟨scheme, rest⟩, -, read⟩ := bind_eq_ok.mp read
  obtain ⟨_, checked, read⟩ := bind_eq_ok.mp read
  have valid := isValueChar_of_checkAuthority checked
  -- With a scheme or without, what was checked is what is kept.
  cases scheme with
  | none =>
    simp only at read
    split at read
    · cases read
      exact valid
    · cases read
  | some scheme =>
    simp only at read
    split at read
    · cases read
    · obtain ⟨target, -, made⟩ := bind_eq_ok.mp read
      cases made
      exact valid

/-- Only a target that does not start with a slash has an authority. -/
theorem isValueChar_of_ofText {text : String} {uri : Uri} (read : ofText text = .ok uri) :
    ∀ c ∈ uri.authority, isValueChar c = true := by
  have nothing : ∀ c ∈ ([] : List Char), isValueChar c = true := by simp
  unfold ofText at read
  split at read
  · cases read
  · split at read
    · cases read
    · cases read
      exact nothing
    · cases read
    · cases read
    · rename_i rest _
      cases target : PathAndQuery.ofChars ('/' :: rest) with
      | error fault =>
        rw [target] at read
        cases read
      | ok target' =>
        rw [target] at read
        cases read
        exact nothing
    · exact isValueChar_of_ofFullChars read

theorem presentable_authority {text : String} {uri : Uri} (read : ofText text = .ok uri)
    {host : String} (named : uri.authority? = some host) : Presentable host := by
  have valid := isValueChar_of_ofText read
  unfold authority? at named
  split at named
  · cases named
  · cases named
    exact .ofList valid

end Uri

theorem presentable_of_visibleText? {value : Bytes} {text : String}
    (visible : visibleText? value = some text) : Presentable text := by
  unfold visibleText? at visible
  split at visible
  next all =>
    cases visible
    rw [List.all_eq_true] at all
    refine .ofList fun c member => ?_
    obtain ⟨b, inside, rfl⟩ := List.mem_map.mp member
    have visible := all b inside
    simp only [isVisible, Bool.or_eq_true, Bool.and_eq_true, decide_eq_true_eq] at visible
    obtain rfl | ⟨low, high⟩ := visible
    · decide
    · have low : 32 ≤ b.toNat := low
      have high : b.toNat < 127 := high
      have value := Bytes.toNat_ofNat_ascii (UInt8.lt_trans (show b < 127 from high) (by decide))
      exact isValueChar_of_visible (by omega) (by omega)
  · cases visible

end Http

theorem Exchange.presentable_host {headers : Http.Headers} {authority : Option String}
    (named : ∀ host, authority = some host → Http.Presentable host) :
    ∀ host, (ofRequest headers authority).host = some host → Http.Presentable host := by
  intro host same
  obtain given | ⟨-, header⟩ := Option.or_eq_some_iff.mp same
  · exact named host given
  · obtain ⟨value, -, visible⟩ := Option.bind_eq_some_iff.mp header
    exact Http.presentable_of_visibleText? visible

end SealedTokens
