import SealedTokens.Proofs.Availability
import SealedTokens.Proofs.ReturnedCookies
/-!
# Attributes of session cookies

A user agent reads the line of a cookie piece by piece between its semicolons, and of two attributes
with one name the last one counts. The domain of the session cookie is the host of the request, and
it is written as it came. So a host with a semicolon writes attributes of its own, behind those of
the configuration and before the two that tell the age.

## Main results

- `UserAgent.read?_line`: what a user agent makes of the line of a cookie
- `UserAgent.alike_domains`: how far two cookies agree that differ in their domains
- `Transport.host_leaves_attributes_alone_iff`: which configurations keep requests from changing the
  attributes
- `Transport.host_rewrites_attributes`: a request that changes them

## Proof strategy

The attributes stand in a fixed order: what the configuration says, the domain, and the age. Looking
one up from the end, the age comes first, so no domain can hide it; and a domain hides what stands
before it as soon as a user agent reads more than one attribute in it.
-/
namespace SealedTokens

/-! ### User agents -/

namespace UserAgent

/-- White space in cookies. -/
def isSpace (c : Char) : Bool := c = ' ' || c = '\t'

def strip (text : List Char) : List Char :=
  ((text.dropWhile isSpace).reverse.dropWhile isSpace).reverse

/-- What stands before the first equals sign of a piece. -/
def nameOf (piece : List Char) : String := String.ofList (strip (piece.takeWhile (· ≠ '=')))

/-- What stands behind the first equals sign of a piece, if there is one. -/
def valueOf (piece : List Char) : String :=
  String.ofList (strip ((piece.dropWhile (· ≠ '=')).drop 1))

/-- An attribute; its name is read in any case. -/
def attributeOf (piece : List Char) : String × String :=
  (Text.lower (nameOf piece), valueOf piece)

/-- A cookie as it is stored, with all its attributes in their order. -/
structure Stored where
  name : String
  value : String
  attributes : List (String × String)
  deriving DecidableEq

/-- The last attribute of a name is the one that counts. -/
def Stored.attribute? (c : Stored) (key : String) : Option String := c.attributes.reverse.lookup key

/-- The cookie that a line sets. A line is ignored if its first piece has no equals sign, or no name
in front of it. -/
def read? (line : String) : Option Stored :=
  match line.toList.splitOn ';' with
  | [] => none
  | pair :: rest =>
    if '=' ∈ pair ∧ nameOf pair ≠ "" then
      some ⟨nameOf pair, valueOf pair, rest.map attributeOf⟩
    else none

/-- Lines that are read alike, as far as some of the attributes go. -/
def Alike (keys : Set String) (line line' : String) : Prop :=
  Option.Rel (fun c c' : Stored => c.name = c'.name ∧ c.value = c'.value ∧
    ∀ key ∈ keys, c.attribute? key = c'.attribute? key) (read? line) (read? line')

theorem Alike.refl (keys : Set String) (line : String) : Alike keys line line := by
  unfold Alike
  cases read? line with
  | none => exact .none
  | some c => exact .some ⟨rfl, rfl, fun _ _ => rfl⟩

/-! ### Attributes as they are written -/

/-- The attributes that are read in a text that is written as one. -/
def readings (text : String) : List (String × String) :=
  ((' ' :: text.toList).splitOn ';').map attributeOf

/-- A line falls apart into the pieces of its texts. -/
theorem splitOn_intercalate (text : String) (texts : List String) :
    ("; ".intercalate (text :: texts)).toList.splitOn ';' =
      text.toList.splitOn ';' ++ texts.flatMap fun t => (' ' :: t.toList).splitOn ';' := by
  induction texts generalizing text with
  | nil => rw [Http.intercalate_singleton, List.flatMap_nil, List.append_nil]
  | cons next texts ih =>
    -- The blank goes to the first piece of the text behind it.
    obtain ⟨piece, more, pieces⟩ := List.exists_cons_of_ne_nil
      (List.splitOn_ne_nil ';' next.toList)
    rw [Http.splitOn_intercalate_cons, ih, List.flatMap_cons, Http.splitOn_blank, pieces]
    rfl

/-- What has no semicolon stands at the front of the first piece. -/
theorem splitOn_append_clear {front : List Char} (clear : ';' ∉ front) (back : List Char) :
    ∃ piece more, back.splitOn ';' = piece :: more ∧
      (front ++ back).splitOn ';' = (front ++ piece) :: more := by
  induction front with
  | nil =>
    obtain ⟨piece, more, pieces⟩ := List.exists_cons_of_ne_nil (List.splitOn_ne_nil ';' back)
    exact ⟨piece, more, pieces, pieces⟩
  | cons c front ih =>
    rw [List.mem_cons, not_or] at clear
    obtain ⟨piece, more, pieces, split⟩ := ih clear.2
    refine ⟨piece, more, pieces, ?_⟩
    have other : (c == ';') = false := beq_eq_false_iff_ne.mpr (Ne.symm clear.1)
    rw [List.cons_append, List.splitOn_cons_eq_if_modifyHead, other, split]
    rfl

theorem read?_line (c : Http.SetCookie) : ∃ pair more,
    (c.name ++ "=" ++ c.value).toList.splitOn ';' = pair :: more ∧
    read? c.line =
      if '=' ∈ pair ∧ nameOf pair ≠ "" then
        some ⟨nameOf pair, valueOf pair, more.map attributeOf ++ c.attributes.flatMap readings⟩
      else none := by
  obtain ⟨pair, more, pieces⟩ := List.exists_cons_of_ne_nil
    (List.splitOn_ne_nil ';' (c.name ++ "=" ++ c.value).toList)
  refine ⟨pair, more, pieces, ?_⟩
  have split : c.line.toList.splitOn ';' =
      pair :: (more ++ c.attributes.flatMap fun t => (' ' :: t.toList).splitOn ';') := by
    have line := splitOn_intercalate (c.name ++ "=" ++ c.value) c.attributes
    rw [pieces] at line
    exact line
  rw [read?, split]
  simp only [List.map_append, List.map_flatMap]
  rfl

/-- An attribute with a value is read under its name, whatever its value is. -/
theorem readings_append {key : String} (clear : ';' ∉ key.toList ∧ '=' ∉ key.toList)
    (value : String) : ∃ read more, readings (key ++ "=" ++ value) =
      (Text.lower (String.ofList (strip (' ' :: key.toList))), read) :: more := by
  have spelled : ' ' :: (key ++ "=" ++ value).toList =
      (' ' :: key.toList ++ ['=']) ++ value.toList := by
    rw [Http.toList_cookie]
    simp
  have front : ';' ∉ ' ' :: key.toList ++ ['='] := by simp [clear.1]
  obtain ⟨piece, more, -, split⟩ := splitOn_append_clear front value.toList
  have name : (' ' :: key.toList ++ ['='] ++ piece).takeWhile (· ≠ '=') = ' ' :: key.toList := by
    have clear' : '=' ∉ ' ' :: key.toList := by simp [clear.2]
    have cut := (cut_at_mark clear' piece).1
    rwa [List.append_cons] at cut
  refine ⟨valueOf (' ' :: key.toList ++ ['='] ++ piece), more.map attributeOf, ?_⟩
  rw [readings, spelled, split, List.map_cons, attributeOf, nameOf, name]

/-- Without a semicolon nothing else is read. -/
theorem readings_singleton {text : String} (clear : ';' ∉ text.toList) :
    readings text = [attributeOf (' ' :: text.toList)] := by
  have clear' : ';' ∉ ' ' :: text.toList := by simp [clear]
  rw [readings, List.splitOn_eq_singleton clear']
  rfl

end UserAgent

/-! ### The order of the attributes -/

namespace Http.SetCookie

/-- The attributes in front of the domain. -/
def opening (c : SetCookie) : List String :=
  (if c.httpOnly then ["HttpOnly"] else []) ++
    (c.sameSite.map fun s => s!"SameSite={s}").toList ++
    (if c.secure then ["Secure"] else []) ++ [s!"Path={c.path}"]

def domainTexts (c : SetCookie) : List String :=
  (c.domain.map fun d => s!"Domain={bareDomain d}").toList

/-- The attributes behind the domain. -/
def closing (c : SetCookie) : List String :=
  [s!"Max-Age={c.maxAge}", s!"Expires={dateText c.expires}"]

theorem attributes_eq (c : SetCookie) :
    c.attributes = c.opening ++ c.domainTexts ++ c.closing := rfl

end Http.SetCookie

namespace UserAgent

open Http (SetCookie)

section Lookup

variable {c : SetCookie} {front : List (String × String)} {key : String}

/-- An attribute is looked for among those behind the domain first, then in the domain, and then
among those in front of it. -/
theorem lookup_attributes :
    (front ++ c.attributes.flatMap readings).reverse.lookup key =
      ((c.closing.flatMap readings).reverse.lookup key).or
        (((c.domainTexts.flatMap readings).reverse.lookup key).or
          ((front ++ c.opening.flatMap readings).reverse.lookup key)) := by
  rw [SetCookie.attributes_eq, List.flatMap_append, List.flatMap_append, ← List.append_assoc,
    ← List.append_assoc, List.reverse_append, List.reverse_append, List.lookup_append,
    List.lookup_append]

/-- The age is told behind the domain. -/
theorem lookup_closing (age : key = "max-age" ∨ key = "expires") :
    ((c.closing.flatMap readings).reverse.lookup key).isSome = true := by
  obtain ⟨read, more, first⟩ := @readings_append "Max-Age" (by decide) (toString c.maxAge)
  obtain ⟨read', more', second⟩ :=
    @readings_append "Expires" (by decide) (SetCookie.dateText c.expires)
  have both : c.closing.flatMap readings =
      ("max-age", read) :: more ++ ("expires", read') :: more' := by
    have texts : c.closing.flatMap readings =
        readings ("Max-Age" ++ "=" ++ toString c.maxAge) ++
          readings ("Expires" ++ "=" ++ SetCookie.dateText c.expires) := by
      rw [SetCookie.closing, List.flatMap_cons, List.flatMap_singleton]
      rfl
    rw [texts, first, second]
    rfl
  -- Whatever else is read in the two texts, an attribute of either name is among it.
  rw [List.lookup_isSome_iff, both]
  obtain rfl | rfl := age
  · exact ⟨("max-age", read), by simp, rfl⟩
  · exact ⟨("expires", read'), by simp, rfl⟩

/-- A domain without a semicolon is one attribute. -/
theorem lookup_domain (clear : ∀ d, c.domain = some d → ';' ∉ d.toList) (other : key ≠ "domain") :
    (c.domainTexts.flatMap readings).reverse.lookup key = none := by
  rw [List.lookup_eq_none_iff]
  intro entry member
  rw [List.mem_reverse, List.mem_flatMap] at member
  obtain ⟨text, written, member⟩ := member
  unfold SetCookie.domainTexts at written
  cases named : c.domain with
  | none =>
    rw [named] at written
    cases written
  | some d =>
    rw [named] at written
    have same : text = "Domain" ++ "=" ++ SetCookie.bareDomain d := List.mem_singleton.mp written
    -- A dot in front of the domain is dropped, and nothing is added.
    have bare : ';' ∉ (SetCookie.bareDomain d).toList := by
      have whole := clear d named
      unfold SetCookie.bareDomain
      split
      next rest dotted =>
        rw [String.toList_ofList]
        exact fun inside => whole (dotted ▸ List.mem_cons_of_mem _ inside)
      next => exact whole
    have unbroken : ';' ∉ text.toList := by
      rw [same, Http.toList_cookie, List.mem_append, List.mem_cons]
      rintro (inName | inSign | inValue)
      · exact absurd inName (by decide)
      · cases inSign
      · exact bare inValue
    obtain ⟨read, more, first⟩ := @readings_append "Domain" (by decide) (SetCookie.bareDomain d)
    rw [← same, readings_singleton unbroken] at first
    rw [readings_singleton unbroken, (List.cons.inj first).1, List.mem_singleton] at member
    rw [member]
    exact bne_iff_ne.mpr other

/-- What is read in the domain hides what stands in front of it, unless the age is told under the
same name. -/
theorem attribute?_of_domain {value : String}
    (pair : (read? (c.name ++ "=" ++ c.value)).isSome = true)
    (closed : (c.closing.flatMap readings).reverse.lookup key = none)
    (written : (c.domainTexts.flatMap readings).reverse.lookup key = some value) :
    ∃ stored, read? c.line = some stored ∧ stored.attribute? key = some value := by
  obtain ⟨first, more, pieces, read⟩ := read?_line c
  rw [read?, pieces] at pair
  have named : '=' ∈ first ∧ nameOf first ≠ "" := by
    by_contra unnamed
    simp only [if_neg unnamed, Option.isSome_none, Bool.false_eq_true] at pair
  refine ⟨_, read.trans (if_pos named), ?_⟩
  rw [Stored.attribute?, lookup_attributes, closed, written]
  rfl

end Lookup

section Domains

variable {c : SetCookie} {keys : Set String}

/-- Cookies that differ in their domains are read alike, as far as their attributes are found
alike. -/
theorem alike_of_lookup (domain domain' : Option String)
    (same : ∀ key ∈ keys, ∀ front,
      (front ++ ({ c with domain } : SetCookie).attributes.flatMap readings).reverse.lookup key =
        (front ++ ({ c with domain := domain' } : SetCookie).attributes.flatMap
          readings).reverse.lookup key) :
    Alike keys ({ c with domain } : SetCookie).line
      ({ c with domain := domain' } : SetCookie).line := by
  obtain ⟨pair, more, pieces, read⟩ := read?_line { c with domain }
  obtain ⟨pair', more', pieces', read'⟩ := read?_line { c with domain := domain' }
  -- The pair in front is the same.
  cases pieces.symm.trans pieces'
  rw [Alike, read, read']
  split
  · exact .some ⟨rfl, rfl, fun key member => same key member _⟩
  · exact .none

theorem alike_age (domain domain' : Option String) :
    Alike {"max-age", "expires"} ({ c with domain } : SetCookie).line
      ({ c with domain := domain' } : SetCookie).line := by
  refine alike_of_lookup domain domain' fun key age front => ?_
  have first := @lookup_closing { c with domain } key age
  rw [lookup_attributes, lookup_attributes, Option.or_of_isSome first]
  exact (Option.or_of_isSome (@lookup_closing { c with domain := domain' } key age)).symm

theorem alike_domains {domain domain' : Option String}
    (clear : ∀ d, domain = some d → ';' ∉ d.toList)
    (clear' : ∀ d, domain' = some d → ';' ∉ d.toList) :
    Alike {"domain"}ᶜ ({ c with domain } : SetCookie).line
      ({ c with domain := domain' } : SetCookie).line := by
  refine alike_of_lookup domain domain' fun key other front => ?_
  rw [lookup_attributes, lookup_attributes, lookup_domain clear other, lookup_domain clear' other]
  rfl

end Domains

end UserAgent

/-! ### Responses -/

open Http UserAgent

/-- What a response does to the session cookie: it saves a session with some randomness, or it
discards the one that the client has. -/
inductive CookieWrite where
  | save (session : Session) (source : Entropy)
  | discard

namespace CookieWrite

def run (write : CookieWrite) (transport : Transport) (exchange : Exchange) :
    Except SessionError Exchange :=
  match write with
  | save session source => (transport.save exchange session).outcome source
  | discard => .ok (transport.discard exchange)

/-- What is written in answer to one request is written in answer to the other, and the two cookies
are read alike. -/
def Alike (keys : Set String) (transport : Transport) (exchange exchange' : Exchange) : Prop :=
  ∀ write written, run write transport exchange = .ok written → ∃ c written' c',
    run write transport exchange' = .ok written' ∧ written.cookies = exchange.cookies ++ [c] ∧
      written'.cookies = exchange'.cookies ++ [c'] ∧ UserAgent.Alike keys c.line c'.line

variable {config : CookieConfig} {policy : SameSitePolicy} {exchange exchange' : Exchange}
  {keys : Set String}

/-- Nothing but the domain hangs on the request. -/
theorem exists_written {write : CookieWrite} {written : Exchange}
    (ran : write.run (.cookie config policy) exchange = .ok written) : ∃ value maxAge expires,
      ∀ other, write.run (.cookie config policy) other =
        .ok (other.setCookie
          (Transport.sessionCookie config policy other value maxAge expires)) := by
  cases write with
  | discard => exact ⟨"", 0, .epoch, fun _ => rfl⟩
  | save session source =>
    -- Token and age are those of the session, in answer to any request.
    obtain ⟨token, c, saved, cookie, -⟩ := Transport.save_cookie_eq_ok ran
    cases read : Bytes.toText? token with
    | none =>
      simp only [Transport.cookieOf, read] at cookie
      cases cookie
    | some value =>
      rw [Transport.cookieOf_of_text read] at cookie
      cases told : Transport.expiry session.header.validBefore with
      | error e =>
        rw [told] at cookie
        cases cookie
      | ok expires =>
        refine ⟨value, Instant.secondsBetween session.header.validAfter session.header.validBefore,
          expires, fun other => ?_⟩
        have steps := @Transport.outcome_save_cookie config policy other session source
        simp only [saved, Transport.cookieOf_of_text read, told] at steps
        exact steps

theorem alike_of_cookies (same : ∀ c : SetCookie, UserAgent.Alike keys
      ({ c with domain := Transport.domain? config exchange } : SetCookie).line
      ({ c with domain := Transport.domain? config exchange' } : SetCookie).line) :
    Alike keys (.cookie config policy) exchange exchange' := by
  intro write written ran
  obtain ⟨value, maxAge, expires, runs⟩ := exists_written ran
  cases ran.symm.trans (runs exchange)
  exact ⟨_, _, _, runs exchange', rfl, rfl,
    same (Transport.sessionCookie config policy exchange value maxAge expires)⟩

end CookieWrite

namespace Transport

variable {config : CookieConfig} {policy : SameSitePolicy}

/-- The host of a request has no semicolon. -/
def ClearHost (exchange : Exchange) : Prop := ∀ host, exchange.host = some host → ';' ∉ host.toList

theorem clear_domain? {exchange : Exchange} (unset : config.domain.isEmpty = true)
    (clear : ClearHost exchange) : ∀ d, domain? config exchange = some d → ';' ∉ d.toList := by
  have own : ∀ c ∈ config.domain.toList, c ≠ ';' := by
    have empty : config.domain = "" := String.isEmpty_iff.mp unset
    rw [empty]
    exact fun c member => by cases member
  intro d named inside
  refine @forall_domain? config exchange (· ≠ ';') (by decide) own ?_ d named ';' inside rfl
  rintro - host known c member rfl
  exact clear host known member

/-- A configured domain leaves nothing to the request. -/
theorem alike_of_configured {exchange exchange' : Exchange}
    (configured : config.domain.isEmpty = false) (keys : Set String) :
    CookieWrite.Alike keys (.cookie config policy) exchange exchange' := by
  have same : domain? config exchange = domain? config exchange' := by
    rw [domain?, domain?, configured]
    rfl
  refine CookieWrite.alike_of_cookies fun c => ?_
  rw [same]
  exact .refl keys _

/-- Headers that are the same except for the host. -/
def SameButHost (headers headers' : Headers) : Prop :=
  headers.filter (·.1 ≠ "host") = headers'.filter (·.1 ≠ "host")

/-- A request with a host in its header. -/
def hostHeaders (host : String) : Headers := [("host", Bytes.ofText host)]

theorem sameButHost_of_hosts (host host' : String) :
    SameButHost (hostHeaders host) (hostHeaders host') := by
  simp [SameButHost, hostHeaders]

theorem host_of_hostHeaders {host : String} (visible : (Bytes.ofText host).all isVisible = true) :
    (Exchange.ofRequest (hostHeaders host)).host = some host := by
  have read := visibleText?_ofText host
  rw [if_pos visible] at read
  exact read

/-- A host that ends in an attribute of its own has it count. -/
theorem discard_of_path {host path : String} (unset : config.domain.isEmpty = true)
    (pair : (read? (config.name ++ "=")).isSome = true)
    (visible : (Bytes.ofText host).all isVisible = true)
    (bare : withoutPort host = host ∧ host.isEmpty = false)
    (ends : (readings ("Domain=" ++ SetCookie.bareDomain host)).reverse.lookup "path" =
      some path) :
    ∃ c, (Transport.cookie config policy).discard (.ofRequest (hostHeaders host)) =
        Exchange.setCookie (.ofRequest (hostHeaders host)) c ∧
      ∃ stored, read? c.line = some stored ∧ stored.attribute? "path" = some path := by
  let exchange := Exchange.ofRequest (hostHeaders host)
  have known : exchange.host = some host := host_of_hostHeaders visible
  have domain : domain? config exchange = some host := by
    rw [domain?, unset, known]
    simp [bare.1, bare.2]
  let c := sessionCookie config policy exchange "" 0 .epoch
  have closing : c.closing = [s!"Max-Age={(0 : Int)}", s!"Expires={SetCookie.dateText .epoch}"] :=
    rfl
  refine ⟨c, rfl, attribute?_of_domain ?_ ?_ ?_⟩
  · show (read? (config.name ++ "=" ++ "")).isSome = true
    rw [String.append_empty]
    exact pair
  · -- Behind the domain, nothing is read as a path.
    rw [closing]
    decide +kernel
  · have texts : c.domainTexts = ["Domain=" ++ SetCookie.bareDomain host] := by
      rw [SetCookie.domainTexts]
      show ((domain? config exchange).map _).toList = _
      rw [domain]
      rfl
    rw [texts, List.flatMap_singleton]
    exact ends

/-- Without a domain of its own, a configuration lets a request choose the path: two hosts that end
in different ones are read differently. -/
theorem configured_of_alike (pair : (read? (config.name ++ "=")).isSome = true)
    (alike : ∀ headers headers', SameButHost headers headers' →
      CookieWrite.Alike {"domain"}ᶜ (.cookie config policy) (.ofRequest headers)
        (.ofRequest headers')) :
    config.domain.isEmpty = false := by
  by_contra unset
  rw [Bool.not_eq_false] at unset
  have same := sameButHost_of_hosts "a; Path=/1" "a; Path=/2"
  obtain ⟨c, written, stored, read, path⟩ := @discard_of_path config policy "a; Path=/1" "/1"
    unset pair (by decide) (by decide) (by decide)
  obtain ⟨c', written', stored', read', path'⟩ := @discard_of_path config policy "a; Path=/2" "/2"
    unset pair (by decide) (by decide) (by decide)
  obtain ⟨d, answered, d', ran, cookies, cookies', lines⟩ :=
    alike _ _ same .discard _ (congrArg Except.ok written)
  cases ran.symm.trans (congrArg Except.ok written')
  -- Each response has one cookie, so these are the ones that are read alike.
  have first : c = d := List.singleton_inj.mp cookies
  have second : c' = d' := List.singleton_inj.mp cookies'
  rw [UserAgent.Alike, ← first, ← second, read, read'] at lines
  cases lines with
  | some agree =>
    have paths := agree.2.2 "path" (by simp)
    rw [path, path'] at paths
    exact absurd paths (by decide)

/-- **Attributes.** What is saved or discarded in answer to one request is in answer to any other,
and user agents read the two cookies alike:

- in name, value and age, for all requests
- in everything but the domain, if the configuration has a domain or neither host has a semicolon

If user agents take the configured name at all, then requests that differ in their hosts only are
answered alike, up to the domain, iff the configuration has a domain. -/
theorem host_leaves_attributes_alone_iff (config : CookieConfig) (policy : SameSitePolicy) :
    let transport := Transport.cookie config policy
    (∀ exchange exchange', CookieWrite.Alike {"max-age", "expires"} transport exchange exchange') ∧
    (∀ exchange exchange', (config.domain.isEmpty = true →
        ClearHost exchange ∧ ClearHost exchange') →
      CookieWrite.Alike {"domain"}ᶜ transport exchange exchange') ∧
    ((read? (config.name ++ "=")).isSome = true →
      ((∀ headers headers' authority authority', SameButHost headers headers' →
        CookieWrite.Alike {"domain"}ᶜ transport (.ofRequest headers authority)
          (.ofRequest headers' authority')) ↔ config.domain.isEmpty = false)) := by
  intro transport
  refine ⟨fun exchange exchange' => ?_, fun exchange exchange' clear => ?_, fun pair => ⟨?_, ?_⟩⟩
  · exact CookieWrite.alike_of_cookies fun c => alike_age _ _
  · cases unset : config.domain.isEmpty with
    | false => exact alike_of_configured unset _
    | true =>
      obtain ⟨clear, clear'⟩ := clear unset
      exact CookieWrite.alike_of_cookies fun c =>
        alike_domains (clear_domain? unset clear) (clear_domain? unset clear')
  · intro alike
    exact configured_of_alike pair fun headers headers' => alike headers headers' none none
  · intro configured headers headers' authority authority' same
    exact alike_of_configured configured _

/-- Two plain hosts change nothing but the domain of the default configuration, and other hosts do;
with a domain in the configuration these do not either. -/
theorem host_leaves_attributes_alone_iff_default :
    let default : CookieConfig := {}
    let own : CookieConfig := { domain := "example.com" }
    let here := Exchange.ofRequest (hostHeaders "a.example")
    let there := Exchange.ofRequest (hostHeaders "b.example:8080")
    let hostile := hostHeaders "a.example; Path=/evil"
    (ClearHost here ∧ ClearHost there ∧
      CookieWrite.Alike {"max-age", "expires"} (.cookie default .default) here there ∧
      CookieWrite.Alike {"domain"}ᶜ (.cookie default .default) here there) ∧
    ((read? (default.name ++ "=")).isSome = true ∧ default.domain.isEmpty = true ∧
      ¬ ∀ headers headers' authority authority', SameButHost headers headers' →
        CookieWrite.Alike {"domain"}ᶜ (.cookie default .default) (.ofRequest headers authority)
          (.ofRequest headers' authority')) ∧
    (SameButHost (hostHeaders "a.example") hostile ∧
      CookieWrite.Alike {"domain"}ᶜ (.cookie own .default) here (.ofRequest hostile)) := by
  intro default own here there hostile
  have clear : ClearHost here := by
    intro host same
    rw [host_of_hostHeaders (by decide)] at same
    cases same
    decide
  have clear' : ClearHost there := by
    intro host same
    rw [host_of_hostHeaders (by decide)] at same
    cases same
    decide
  have named : (read? (default.name ++ "=")).isSome = true := by decide
  have named' : (read? (own.name ++ "=")).isSome = true := by decide
  have same : SameButHost (hostHeaders "a.example") hostile := sameButHost_of_hosts _ _
  obtain ⟨age, others, open'⟩ := host_leaves_attributes_alone_iff default .default
  have closed := ((host_leaves_attributes_alone_iff own .default).2.2 named').mpr (by decide)
  refine ⟨⟨clear, clear', age here there, others here there fun _ => ⟨clear, clear'⟩⟩, ?_,
    same, closed _ _ none none same⟩
  exact ⟨named, rfl, (open' named).not.mpr (by decide)⟩

/-- **Rewritten.** The configuration is accepted, and its own name, path and domain have no
semicolon. The host of the second request puts its path in the place of the configured one, and sets
how far the cookie goes along to other sites. -/
theorem host_rewrites_attributes :
    let config := minuteConfig "/"
    let headers := hostHeaders "app.example.com"
    let headers' := hostHeaders "app.example.com; Path=/evil; SameSite=None"
    let discarded (headers : Headers) :=
      (Transport.cookie config.cookie .default).discard (.ofRequest headers)
    Sessions.ofConfig config (fun _ => .error "") = .ok (minuteSessions []) ∧
      SameButHost headers headers' ∧ ∃ c c', (discarded headers).cookies = [c] ∧
        (discarded headers').cookies = [c'] ∧ Presentable c.line ∧ Presentable c'.line ∧
        (read? c.line).bind (·.attribute? "path") = some "/" ∧
        (read? c'.line).bind (·.attribute? "path") = some "/evil" ∧
        (read? c.line).bind (·.attribute? "samesite") = none ∧
        (read? c'.line).bind (·.attribute? "samesite") = some "None" := by
  have made : Sessions.ofConfig (minuteConfig "/") (fun _ => .error "") = .ok (minuteSessions []) :=
    by rfl
  let set (host : String) : SetCookie :=
    sessionCookie (minuteConfig "/").cookie .default (.ofRequest (hostHeaders host)) "" 0 .epoch
  have line : (set "app.example.com").line =
      "_cachet=; HttpOnly; Secure; Path=/; Domain=app.example.com; " ++
        "Max-Age=0; Expires=Thu, 01 Jan 1970 00:00:00 GMT" := by decide +kernel
  have line' : (set "app.example.com; Path=/evil; SameSite=None").line =
      "_cachet=; HttpOnly; Secure; Path=/; Domain=app.example.com; Path=/evil; SameSite=None; " ++
        "Max-Age=0; Expires=Thu, 01 Jan 1970 00:00:00 GMT" := by decide +kernel
  refine ⟨made, sameButHost_of_hosts _ _, set _, set _, rfl, rfl, ?_⟩
  rw [line, line']
  decide +kernel

end Transport

end SealedTokens
