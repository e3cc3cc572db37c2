import SealedTokens.Proofs.CookieAttributes
import SealedTokens.Proofs.Targets
/-!
# Domains of session cookies

Without a domain of its own, the session cookie takes the host of the request, up to the first
colon, or up to the closing bracket of an address. A `Host` header has a host and a port, and there
this is the host. The target of a request can have a user in front of the host as well, and then
what stands up to the first colon is the user, or the user and the host: the cookie is set for a
domain that the client is not in.

## Main results

- `Text.sliceTo?_eq_some`: where a text can be cut by counting bytes
- `Transport.withoutPortBytes?_eq`: the port is dropped without a cut inside of a character
- `Transport.withoutPort_text`: what is left of an authority
- `Transport.domain_is_host_iff`: when the cookie has the host for its domain
- `Transport.user_is_taken_for_domain`: a target with a user in it
-/
namespace SealedTokens

/-! ### Cutting by bytes -/

namespace Text

/-- How many bytes characters take. -/
def byteLength (chars : List Char) : Nat := (chars.map Char.utf8Size).sum

@[simp] theorem byteLength_cons (c : Char) (chars : List Char) :
    byteLength (c :: chars) = c.utf8Size + byteLength chars := List.sum_cons

@[simp] theorem byteLength_append (front back : List Char) :
    byteLength (front ++ back) = byteLength front + byteLength back := by
  simp [byteLength]

/-- The byte that a character first starts at. -/
def byteIndex? (mark : Char) : List Char → Option Nat
  | [] => none
  | c :: chars => if c = mark then some 0 else (byteIndex? mark chars).map (c.utf8Size + ·)

/-- The characters of the first bytes. There are none if the cut is inside of a character or behind
the end. -/
def sliceTo? : List Char → Nat → Option (List Char)
  | _, 0 => some []
  | [], _ + 1 => none
  | c :: chars, n + 1 =>
    if c.utf8Size ≤ n + 1 then (sliceTo? chars (n + 1 - c.utf8Size)).map (c :: ·) else none

/-- A text can be cut just behind one of its characters. -/
theorem sliceTo?_eq_some {chars front : List Char} {n : Nat} :
    sliceTo? chars n = some front ↔ front <+: chars ∧ byteLength front = n := by
  -- By induction on the text, for every number of bytes: the first character takes its width off.
  induction chars generalizing front n with
  | nil =>
    cases n with
    | zero =>
      simp only [sliceTo?, Option.some.injEq, List.prefix_nil]
      exact ⟨fun same => ⟨same.symm, same ▸ rfl⟩, fun both => both.1.symm⟩
    | succ n =>
      refine ⟨fun cut => (by cases cut), fun ⟨empty, length⟩ => ?_⟩
      cases List.prefix_nil.mp empty
      cases length
  | cons c chars ih =>
    have wide := c.utf8Size_pos
    cases n with
    | zero =>
      refine ⟨fun cut => ?_, fun ⟨_, length⟩ => ?_⟩
      · cases cut
        exact ⟨List.nil_prefix, rfl⟩
      · cases front with
        | nil => rfl
        | cons first front =>
          have wide := first.utf8Size_pos
          rw [byteLength_cons] at length
          omega
    | succ n =>
      rw [sliceTo?]
      constructor
      · intro cut
        split at cut
        next fits =>
          obtain ⟨rest, inner, rfl⟩ := Option.map_eq_some_iff.mp cut
          obtain ⟨start, length⟩ := ih.mp inner
          refine ⟨List.prefix_cons_inj c |>.mpr start, ?_⟩
          rw [byteLength_cons, length]
          omega
        next => cases cut
      · rintro ⟨start, length⟩
        cases front with
        | nil => cases length
        | cons first front =>
          obtain ⟨rfl, tail⟩ := List.cons_prefix_cons.mp start
          rw [byteLength_cons] at length
          rw [if_pos (by omega), Option.map_eq_some_iff]
          exact ⟨front, ih.mpr ⟨tail, by omega⟩, rfl⟩

/-- A character first starts behind the characters before it. -/
theorem byteIndex?_eq {mark : Char} (chars : List Char) : byteIndex? mark chars =
    if mark ∈ chars then some (byteLength (chars.takeWhile (· ≠ mark))) else none := by
  induction chars with
  | nil => rfl
  | cons c chars ih =>
    rw [byteIndex?, ih]
    by_cases here : c = mark
    · subst here
      simp [byteLength]
    · rw [if_neg here, List.takeWhile_cons_of_pos (by simpa using here), byteLength_cons]
      by_cases inside : mark ∈ chars
      · simp [inside]
      · simp [inside, Ne.symm here]

end Text

namespace Transport

open Http

/-- A text that starts with an address in brackets, and goes on. -/
def Bracketed (inner back chars : List Char) : Prop :=
  chars = '[' :: (inner ++ ']' :: back) ∧ ']' ∉ inner

section Ports

variable {host : String} {inner back : List Char}

theorem withoutPort_of_bracketed (bracketed : Bracketed inner back host.toList) :
    withoutPort host = String.ofList ('[' :: (inner ++ [']'])) := by
  obtain ⟨written, clear⟩ := bracketed
  have closes : (inner ++ ']' :: back).contains ']' = true := by simp
  unfold withoutPort
  simp only [written, closes, ite_true, (cut_at_mark clear back).1, List.cons_append]

theorem withoutPort_of_plain (plain : ∀ inner back, ¬ Bracketed inner back host.toList) :
    withoutPort host = String.ofList (host.toList.takeWhile (· ≠ ':')) := by
  unfold withoutPort
  simp only
  split
  next rest written =>
    split
    next closes =>
      obtain ⟨inner, back, rfl, clear⟩ :=
        List.eq_append_cons_of_mem (List.contains_iff_mem.mp closes)
      exact absurd ⟨written, clear⟩ (plain inner back)
    next => rfl
  next => rfl

/-- A host without its port, found by counting bytes, and none if it is cut inside of a
character. -/
def withoutPortBytes? (host : String) : Option String :=
  let chars := host.toList
  let name := match Text.byteIndex? ':' chars with
    | some i => Text.sliceTo? chars i
    | none => some chars
  let kept := match chars with
    | '[' :: rest =>
      match Text.byteIndex? ']' rest with
      | some i => Text.sliceTo? chars (i + 2)
      | none => name
    | _ => name
  kept.map String.ofList

/-- Up to the first mark, a text is cut behind a character. -/
theorem sliceTo?_byteIndex? (mark : Char) (chars : List Char) :
    (match Text.byteIndex? mark chars with
      | some i => Text.sliceTo? chars i
      | none => some chars) = some (chars.takeWhile (· ≠ mark)) := by
  rw [Text.byteIndex?_eq]
  by_cases inside : mark ∈ chars
  · rw [if_pos inside]
    exact Text.sliceTo?_eq_some.mpr ⟨List.takeWhile_prefix _, rfl⟩
  · rw [if_neg inside, List.takeWhile_eq_self_iff.mpr (passes_of_notMem inside)]

/-- **No cut inside of a character.** For every text, with characters of any width, counting bytes
ends where the host does. -/
theorem withoutPortBytes?_eq (host : String) :
    withoutPortBytes? host = some (withoutPort host) := by
  by_cases address : ∃ inner back, Bracketed inner back host.toList
  · obtain ⟨inner, back, bracketed⟩ := address
    rw [withoutPort_of_bracketed bracketed]
    obtain ⟨written, clear⟩ := bracketed
    have index : Text.byteIndex? ']' (inner ++ ']' :: back) = some (Text.byteLength inner) := by
      rw [Text.byteIndex?_eq, if_pos (by simp), (cut_at_mark clear back).1]
    -- The cut is behind the closing bracket, and both brackets are one byte wide.
    have cut : Text.sliceTo? ('[' :: (inner ++ ']' :: back)) (Text.byteLength inner + 2) =
        some ('[' :: (inner ++ [']'])) := by
      refine Text.sliceTo?_eq_some.mpr ⟨⟨back, by simp⟩, ?_⟩
      rw [Text.byteLength_cons, Text.byteLength_append]
      show 1 + (Text.byteLength inner + 1) = _
      omega
    unfold withoutPortBytes?
    simp only [written, index, cut, Option.map_some]
  · have plain : ∀ inner back, ¬ Bracketed inner back host.toList := fun inner back bracketed =>
      address ⟨inner, back, bracketed⟩
    have name := sliceTo?_byteIndex? ':' host.toList
    rw [withoutPort_of_plain plain]
    unfold withoutPortBytes?
    simp only [name]
    -- A bracket that is never closed does not make an address.
    split
    next rest written =>
      have unclosed : ']' ∉ rest := fun closes => by
        obtain ⟨inner, back, rfl, clear⟩ := List.eq_append_cons_of_mem closes
        exact plain inner back ⟨written, clear⟩
      rw [Text.byteIndex?_eq, if_neg unclosed]
      rfl
    next => rfl

end Ports

end Transport

/-! ### Authorities -/

namespace Http

/-- Nothing but a dot is dropped from a domain. -/
theorem SetCookie.mem_bareDomain {mark : Char} (other : mark ≠ '.') {domain : String}
    (member : mark ∈ domain.toList) : mark ∈ (bareDomain domain).toList := by
  unfold bareDomain
  split
  next rest dotted =>
    rw [dotted] at member
    rw [String.toList_ofList]
    exact (List.mem_cons.mp member).resolve_left other
  next => exact member

/-- A host: a name without the marks of an authority, or an address in brackets. -/
inductive IsHost : List Char → Prop
  | name {chars : List Char} (given : chars ≠ [])
      (plain : ∀ c ∈ chars, c ≠ ':' ∧ c ≠ '@' ∧ c ≠ '[' ∧ c ≠ ']') : IsHost chars
  | address {inner : List Char} (plain : ∀ c ∈ inner, c ≠ '@' ∧ c ≠ '[' ∧ c ≠ ']') :
      IsHost ('[' :: (inner ++ [']']))

theorem IsHost.ne_nil {host : List Char} (isHost : IsHost host) : host ≠ [] := by
  cases isHost with
  | name given _ => exact given
  | address _ => exact List.cons_ne_nil _ _

theorem IsHost.no_at {host : List Char} (isHost : IsHost host) : '@' ∉ host := by
  cases isHost with
  | name _ plain => exact fun member => (plain '@' member).2.1 rfl
  | address plain =>
    simp only [List.mem_cons, List.mem_append, List.not_mem_nil, or_false]
    rintro (same | inside | same)
    · cases same
    · exact (plain '@' inside).1 rfl
    · cases same

/-- What starts with a colon is dropped behind a host, and nothing else is. -/
theorem IsHost.withoutPort_append {host back : List Char} (isHost : IsHost host)
    (ends : ∀ front, (front ++ back).takeWhile (· ≠ ':') = front.takeWhile (· ≠ ':')) :
    Transport.withoutPort (String.ofList (host ++ back)) = String.ofList host := by
  cases isHost with
  | name given plain =>
    have clear : ∀ c ∈ host, decide (c ≠ ':') = true := fun c member =>
      decide_eq_true (plain c member).1
    rw [Transport.withoutPort_of_plain, String.toList_ofList, ends,
      List.takeWhile_eq_self_iff.mpr clear]
    rintro inner more ⟨bracketed, -⟩
    obtain ⟨first, rest, rfl⟩ := List.exists_cons_of_ne_nil given
    rw [String.toList_ofList] at bracketed
    exact (plain first List.mem_cons_self).2.2.1 (List.cons.inj bracketed).1
  | @address inner plain =>
    have bracketed : Transport.Bracketed inner back
        (String.ofList ('[' :: (inner ++ [']']) ++ back)).toList :=
      ⟨by simp, fun closes => (plain ']' closes).2.2 rfl⟩
    exact Transport.withoutPort_of_bracketed bracketed

/-- Where a request goes: a host, with a user in front of it, maybe, and with a port. -/
structure Authority where
  user : Option (List Char)
  host : List Char
  port : Option (List Char)
  isUser : ∀ chars ∈ user, ∀ c ∈ chars, c ≠ '@' ∧ c ≠ '[' ∧ c ≠ ']'
  isHost : IsHost host
  isPort : ∀ chars ∈ port, ∀ c ∈ chars, c.isDigit = true

namespace Authority

variable (a : Authority)

def userChars : List Char := (a.user.map (· ++ ['@'])).getD []

def portChars : List Char := (a.port.map (':' :: ·)).getD []

def text : String := String.ofList (a.userChars ++ a.host ++ a.portChars)

/-- What stands first, up to a port or a password. -/
def shown : List Char :=
  match a.user with
  | none => a.host
  | some user => (user ++ '@' :: a.host).takeWhile (· ≠ ':')

/-- The host stands first: there is no user, and no dot to be dropped, or there is a user who goes
by the name of the host and has a password. -/
def HostFirst : Prop :=
  match a.user with
  | none => a.host.head? ≠ some '.'
  | some user => ∃ name password, user = name ++ ':' :: password ∧ ':' ∉ name ∧
      SetCookie.bareDomain (String.ofList name) = String.ofList a.host

/-- A port starts with a colon. -/
theorem takeWhile_portChars (front : List Char) :
    (front ++ a.portChars).takeWhile (· ≠ ':') = front.takeWhile (· ≠ ':') := by
  have nothing : a.portChars.takeWhile (· ≠ ':') = [] := by
    unfold portChars
    cases a.port <;> rfl
  rw [List.takeWhile_append, nothing, List.append_nil]
  split
  next whole => exact ((List.takeWhile_prefix _).eq_of_length whole).symm
  next => rfl

/-- Dropping the port leaves what stands first. -/
theorem withoutPort_text : Transport.withoutPort a.text = String.ofList a.shown := by
  unfold text shown userChars
  cases named : a.user with
  | none => exact a.isHost.withoutPort_append a.takeWhile_portChars
  | some user =>
    have behind :
        user ++ ['@'] ++ a.host ++ a.portChars = user ++ '@' :: a.host ++ a.portChars := by
      simp
    simp only [Option.map_some, Option.getD_some, behind]
    rw [Transport.withoutPort_of_plain, String.toList_ofList, takeWhile_portChars]
    -- No user starts with a bracket.
    rintro inner back ⟨bracketed, -⟩
    rw [String.toList_ofList] at bracketed
    cases user with
    | nil => cases bracketed
    | cons first rest =>
      have plain := a.isUser _ named first List.mem_cons_self
      exact plain.2.1 (List.cons.inj bracketed).1

/-- What stands first is the host if it is the whole authority up to the port, or looks like it. -/
theorem shown_eq_host_iff : (a.shown ≠ [] ∧
    SetCookie.bareDomain (String.ofList a.shown) = String.ofList a.host) ↔ a.HostFirst := by
  unfold shown HostFirst
  cases a.user with
  | none =>
    simp only [SetCookie.bareDomain, String.toList_ofList]
    cases host : a.host with
    | nil => exact absurd host a.isHost.ne_nil
    | cons first rest =>
      -- A dot in front is dropped from the domain, which is then shorter than the host.
      by_cases dotted : first = '.'
      · subst dotted
        simp only [List.head?_cons, ne_eq, not_true_eq_false, iff_false, not_and]
        intro _ same
        have lengths := congrArg (fun text => text.toList.length) same
        simp at lengths
      · simp [dotted]
  | some user =>
    by_cases password : ':' ∈ user
    -- The name of the user is what stands first.
    · obtain ⟨name, rest, rfl, clear⟩ := List.eq_append_cons_of_mem password
      have first : (name ++ ':' :: rest ++ '@' :: a.host).takeWhile (· ≠ ':') = name := by
        rw [List.append_assoc, List.cons_append]
        exact (cut_at_mark clear _).1
      simp only [first]
      constructor
      · rintro ⟨-, same⟩
        exact ⟨name, rest, rfl, clear, same⟩
      · rintro ⟨name', rest', parts, clear', same⟩
        have names := congrArg (List.takeWhile (· ≠ ':')) parts
        rw [(cut_at_mark clear _).1, (cut_at_mark clear' _).1] at names
        subst names
        refine ⟨?_, same⟩
        rintro rfl
        exact a.isHost.ne_nil (String.ofList_injective same).symm
    · -- The at-sign is read as a part of the host.
      have at_sign :
          '@' ∈ (String.ofList ((user ++ '@' :: a.host).takeWhile (· ≠ ':'))).toList := by
        rw [String.toList_ofList, List.takeWhile_append_of_pos (passes_of_notMem password),
          List.takeWhile_cons_of_pos (by decide)]
        simp
      constructor
      · rintro ⟨-, same⟩
        have kept := SetCookie.mem_bareDomain (by decide) at_sign
        rw [same, String.toList_ofList] at kept
        exact absurd kept a.isHost.no_at
      · rintro ⟨name, rest, rfl, -⟩
        simp at password

end Authority

end Http

/-! ### Cookies -/

namespace Transport

open Http

variable {config : CookieConfig} {policy : SameSitePolicy} {exchange : Exchange}

/-- The one cookie that is written has the domain of the request. -/
theorem domainTexts_of_written (unset : config.domain.isEmpty = true) {host : String}
    (named : exchange.host = some host) (fresh : exchange.cookies = []) {write : CookieWrite}
    {written : Exchange} (ran : write.run (.cookie config policy) exchange = .ok written) :
    ∃ c, written.cookies = [c] ∧ c.domainTexts =
      if withoutPort host = "" then []
      else ["Domain=" ++ SetCookie.bareDomain (withoutPort host)] := by
  obtain ⟨value, maxAge, expires, runs⟩ := CookieWrite.exists_written ran
  cases ran.symm.trans (runs exchange)
  refine ⟨sessionCookie config policy exchange value maxAge expires, ?_, ?_⟩
  · rw [Exchange.setCookie, fresh, List.nil_append]
  · have domain : domain? config exchange =
        if withoutPort host = "" then none else some (withoutPort host) := by
      unfold domain?
      simp only [unset, ite_true, named, Option.map_some, Option.getD_some, String.isEmpty_iff]
    show ((domain? config exchange).map fun d => s!"Domain={SetCookie.bareDomain d}").toList = _
    rw [domain]
    split <;> rfl

/-- A host that an authority names is the domain of the cookie just if it stands first. -/
theorem domain_is_host_of_written (unset : config.domain.isEmpty = true) (a : Authority)
    (named : exchange.host = some a.text) (fresh : exchange.cookies = []) {write : CookieWrite}
    {written : Exchange} (ran : write.run (.cookie config policy) exchange = .ok written) :
    ∃ c, written.cookies = [c] ∧
      (c.domainTexts = ["Domain=" ++ String.ofList a.host] ↔ a.HostFirst) := by
  obtain ⟨c, single, texts⟩ := domainTexts_of_written unset named fresh ran
  refine ⟨c, single, ?_⟩
  rw [← a.shown_eq_host_iff, texts, a.withoutPort_text]
  split
  next empty =>
    have nothing : a.shown = [] := by simpa using congrArg String.toList empty
    simp [nothing]
  next given =>
    have filled : a.shown ≠ [] := fun nothing => given (by rw [nothing])
    simp [filled]

/-- **The host as the domain.** No domain is configured. If the target of a request has an
authority, the cookie that is saved or discarded in answer to it has the host for its domain, and
neither user nor port, iff the host stands first: iff there is no user, or one who is called like
the host and has a password. If the target has none, the host of the `Host` header is the domain, with
any port. Domains are written without a dot in front, so a host with one is no domain. Whatever the
text, the port is dropped without a cut inside of a character. -/
theorem domain_is_host_iff (unset : config.domain.isEmpty = true) (a : Authority) :
    (∀ (uri : Uri) headers (write : CookieWrite) written, uri.authority? = some a.text →
      write.run (.cookie config policy) (.ofRequest headers uri.authority?) = .ok written →
      ∃ c, written.cookies = [c] ∧
        (c.domainTexts = ["Domain=" ++ String.ofList a.host] ↔ a.HostFirst)) ∧
    (∀ (uri : Uri) (headers : Headers) (write : CookieWrite) written, a.user = none →
      uri.authority? = none → headers.text? "host" = some a.text →
      write.run (.cookie config policy) (.ofRequest headers uri.authority?) = .ok written →
      ∃ c, written.cookies = [c] ∧
        (c.domainTexts = ["Domain=" ++ String.ofList a.host] ↔ a.host.head? ≠ some '.')) ∧
    ∀ host : String, withoutPortBytes? host = some (withoutPort host) := by
  refine ⟨fun uri headers write written named ran => ?_,
    fun uri headers write written nobody unnamed carried ran => ?_, withoutPortBytes?_eq⟩
  · have host : (Exchange.ofRequest headers uri.authority?).host = some a.text := by
      rw [Exchange.ofRequest, named, Option.some_or]
    exact domain_is_host_of_written unset a host rfl ran
  · have host : (Exchange.ofRequest headers uri.authority?).host = some a.text := by
      rw [Exchange.ofRequest, unnamed, Option.none_or, carried]
    have first : a.HostFirst ↔ a.host.head? ≠ some '.' := by
      rw [Authority.HostFirst, nobody]
    rw [← first]
    exact domain_is_host_of_written unset a host rfl ran

/-- The authority of a host with a port, and of a user there. -/
def exampleAuthority (user : Option (List Char))
    (plain : ∀ chars ∈ user, ∀ c ∈ chars, c ≠ '@' ∧ c ≠ '[' ∧ c ≠ ']') : Authority where
  user := user
  host := "example.com".toList
  port := some "8080".toList
  isUser := plain
  isHost := .name (by decide) (by simp)
  isPort := by
    intro chars given
    cases given
    simp

/-- A host with a port, in a target. -/
theorem domain_is_host_iff_ported :
    let config : CookieConfig := {}
    let a := exampleAuthority none (by simp)
    config.domain.isEmpty = true ∧ ∃ uri, Uri.ofText "http://example.com:8080/x" = .ok uri ∧
      uri.authority? = some a.text ∧ ∃ c : SetCookie,
        ((Transport.cookie config .default).discard (.ofRequest [] uri.authority?)).cookies = [c] ∧
        c.domainTexts = ["Domain=example.com"] := by
  intro config a
  have unset : config.domain.isEmpty = true := by rfl
  obtain ⟨targets, -, -⟩ := @domain_is_host_iff config .default unset a
  let uri : Uri := ⟨some "http".toList, "example.com:8080".toList, ⟨"/x".toList, none⟩⟩
  have read : Uri.ofText "http://example.com:8080/x" = .ok uri := by decide +kernel
  have named : uri.authority? = some a.text := by rfl
  obtain ⟨c, written, host⟩ := targets uri [] .discard _ named rfl
  have first : a.HostFirst := by
    show "example.com".toList.head? ≠ some '.'
    decide
  exact ⟨unset, uri, read, named, c, written, host.mpr first⟩

/-- **The user as the domain.** A user with a password stands in front of the host, and the cookie
is set for a domain of the user's name. -/
theorem user_is_taken_for_domain :
    let config : CookieConfig := {}
    let a := exampleAuthority (some "user:pw".toList) (by
      intro chars given
      cases given
      simp)
    config.domain.isEmpty = true ∧ ∃ uri, Uri.ofText "http://user:pw@example.com:8080/" = .ok uri ∧
      uri.authority? = some a.text ∧ a.host = "example.com".toList ∧ ∃ c : SetCookie,
        ((Transport.cookie config .default).discard (.ofRequest [] uri.authority?)).cookies = [c] ∧
        c.domainTexts = ["Domain=user"] := by
  intro config a
  let uri : Uri := ⟨some "http".toList, "user:pw@example.com:8080".toList, ⟨"/".toList, none⟩⟩
  have read : Uri.ofText "http://user:pw@example.com:8080/" = .ok uri := by decide +kernel
  exact ⟨rfl, uri, read, rfl, rfl, _, rfl, by decide +kernel⟩

end Transport

end SealedTokens
