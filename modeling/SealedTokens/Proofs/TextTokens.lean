import SealedTokens.Proofs.CalendarLimits
import SealedTokens.Proofs.FormEncoding
/-!
# Tokens as texts

Tokens travel in cookies, headers and query parameters, so they have to be texts that none of these
changes. Settings that promise text keep the promise: whatever state is saved, its token is spelled
in letters, digits and four marks, and the refusals of tokens that are no text are never reached.

## Main results

- `Backend.isTokenChar_of_save`, `Backend.ne_nil_of_save`: what a token is spelled in
- `Portable.of_save`: what the three transports make of it
- `Csrf.error_of_signAt`: why signing fails
- `Factory.tokens_are_text`: the three together, for every factory
-/
namespace SealedTokens

/-- A letter, a digit, or one of the four marks that tokens have. -/
def isTokenChar (c : Char) : Bool := c.isAlphanum || ['-', '_', '=', '.'].contains c

/-! ### Spelling -/

theorem Base64.isTokenChar_of_mem_encode {form : Form} (safe : form.alphabet = .urlSafe)
    {bytes : Bytes} {s : UInt8} (member : s ∈ encode form bytes) :
    isTokenChar (Char.ofNat s.toNat) = true := by
  have symbols : ∀ v < 64, isTokenChar (Char.ofNat (Alphabet.urlSafe.symbol v).toNat) = true := by
    decide
  rcases mem_encode member with ⟨v, small, rfl⟩ | rfl
  · rw [safe]
    exact symbols v small
  · decide

theorem Varint.encode_ne_nil (n : Nat) : encode n ≠ [] := by
  rw [encode]
  split <;> exact List.cons_ne_nil _ _

/-- Every state takes some bytes, in either format. -/
theorem Data.marshal_ne_nil (kind : SerializerKind) (data : Data) : kind.marshal data ≠ [] := by
  cases kind with
  | compact =>
    -- A version comes first.
    show Varint.encode data.header.version.toNat ++ _ ++ _ ++ _ ++ _ ≠ []
    simp only [List.append_assoc]
    exact List.append_ne_nil_of_left_ne_nil (Varint.encode_ne_nil _) _
  | json => exact List.cons_ne_nil _ _

theorem CompressorKind.compress_ne_nil (kind : CompressorKind) {bytes : Bytes}
    (filled : bytes ≠ []) : kind.compress bytes ≠ [] := by
  cases kind with
  | nop => exact filled
  | lz4 =>
    show Bytes.ofNatLE 4 bytes.length ++ _ ≠ []
    rw [Bytes.ofNatLE_succ]
    exact List.cons_ne_nil _ _

/-- A box holds what was sealed, or a nonce in front of it. -/
theorem Sealer.box_ne_nil {sealer : Sealer} {source : Entropy} {nonce content : Bytes}
    (drawn : sealer.nonce? source = some nonce) (filled : content ≠ []) :
    sealer.box nonce content ≠ [] := by
  cases sealer with
  | nop => exact filled
  | secretBox cipher =>
    have length := Entropy.length_draw drawn
    show nonce ++ _ ++ _ ≠ []
    rw [List.append_assoc]
    refine List.append_ne_nil_of_left_ne_nil (fun empty => ?_) _
    rw [empty] at length
    cases length

namespace Backend

variable {backend : Backend} {data : Data} {source : Entropy} {token : Bytes}

theorem isTokenChar_of_save (emits : backend.EmitsText)
    (saved : (backend.save data).outcome source = .ok token) :
    ∀ b ∈ token, isTokenChar (Char.ofNat b.toNat) = true := by
  refine forall_of_save (fun form bytes safe b member => ?_) (by decide) emits saved
  exact Base64.isTokenChar_of_mem_encode safe member

theorem ne_nil_of_save (emits : backend.EmitsText)
    (saved : (backend.save data).outcome source = .ok token) : token ≠ [] := by
  cases backend with
  | sealed codec =>
    obtain ⟨nonce, drawn, rfl⟩ := Codec.outcome_encode_eq_ok.mp saved
    have base64 : codec.representer = .base64 := emits
    have content : codec.content data ≠ [] :=
      codec.compressor.compress_ne_nil (data.marshal_ne_nil codec.serializer)
    rw [Codec.token, base64]
    obtain ⟨s, member, -⟩ := @Base64.exists_symbol Base64.urlSafe _
      (Sealer.box_ne_nil drawn content)
    exact List.ne_nil_of_mem member
  | signed signer =>
    obtain ⟨signature, rfl, -⟩ := Jwt.issue_eq_ok saved
    simp [Jwt.Contents.text]

end Backend

/-! ### Transports -/

/-- A text that every transport of tokens leaves as it is. -/
structure Portable (text : String) : Prop where
  nonempty : text ≠ ""
  chars : ∀ c ∈ text.toList, isTokenChar c = true
  /-- Around tokens in headers and parameters, blanks are taken away. -/
  trims : Text.trim text = text
  /-- Cookies are percent-decoded. -/
  decodes : Http.Cookie.decoded? text.toList = some text
  cookie : ∀ name, Http.PlainName name →
    Http.Cookie.ofHeader (name ++ "=" ++ text) = [⟨name, text⟩]
  /-- Parameters are form-encoded, and may stand among others. -/
  query : ∀ before name after,
    let pairs := before ++ (name, text) :: after
    Http.Form.decodePairs (Bytes.ofText (String.ofList (Http.Form.encodePairs pairs))) = pairs

theorem Http.Cookie.ofHeader_of_plain {name value : String} (plainName : PlainName name)
    (plainValue : PlainValue value) : ofHeader (name ++ "=" ++ value) = [⟨name, value⟩] := by
  have nothing : ∀ c ∈ ([] : List Char), Text.isBlank c = true := by simp
  have read := ofPiece?_around plainName plainValue nothing nothing
  rw [List.nil_append, List.append_nil] at read
  rw [ofHeader, List.splitOn_eq_singleton (semicolon_not_mem_pair plainName.isToken plainValue),
    List.filterMap_cons_some read, List.filterMap_nil]

theorem Portable.of_save {backend : Backend} (emits : backend.EmitsText) {data : Data}
    {source : Entropy} {token : Bytes} (saved : (backend.save data).outcome source = .ok token) :
    ∃ text, Bytes.ofText text = token ∧ Portable text := by
  obtain ⟨text, -, plain, rfl⟩ := Backend.toText?_of_save emits saved
  refine ⟨text, rfl, ?_, ?_, ?_, ?_, ?_, ?_⟩
  · rintro rfl
    exact Backend.ne_nil_of_save emits saved rfl
  · have ascii : ∀ b ∈ Bytes.ofText text, b < 128 := fun b member =>
      UInt8.lt_trans (plain b member).2.1 (by decide)
    rw [Http.toList_of_ascii ascii]
    exact List.forall_mem_map.mpr (Backend.isTokenChar_of_save emits saved)
  · exact Text.trim_eq_self fun c member => (plain.chars c member).1
  · exact Http.Cookie.decoded?_of_plain plain.decodes
  · exact fun name plainName => Http.Cookie.ofHeader_of_plain plainName plain
  · exact fun before name after => Http.Form.decodePairs_encodePairs _

/-! ### Failures -/

/-- A token is not signed since a container fails, and not for its spelling. -/
theorem Csrf.error_of_signAt {issuer : Csrf} (emits : issuer.factory.backend.EmitsText)
    {call : SignCall} {e : CsrfError}
    (failed : (issuer.signAt call.source call.subject call.now).outcome call.entropy = .error e) :
    ∃ cause, e = .ofContainer cause := by
  unfold signAt at failed
  -- For want of randomness, for a window out of the calendar, or for want of randomness again.
  obtain failed | ⟨nonce, left, -, failed⟩ := Drawing.outcome_bind_eq_error.mp failed
  · obtain ⟨cause, -, same⟩ := Drawing.outcome_adapt_eq_error.mp failed
    exact ⟨cause, same⟩
  cases created : issuer.factory.create call.now issuer.ttl
      (binding nonce call.source call.subject) with
  | error cause =>
    rw [created] at failed
    cases failed
    exact ⟨cause, rfl⟩
  | ok container =>
    rw [created] at failed
    obtain failed | ⟨token, rest, drawn, failed⟩ := Drawing.outcome_bind_eq_error.mp failed
    · obtain ⟨cause, -, same⟩ := Drawing.outcome_adapt_eq_error.mp failed
      exact ⟨cause, same⟩
    · have own : container.backend = issuer.factory.backend := by
        obtain ⟨stop, -, made⟩ := Container.create_eq_ok.mp created
        rw [made]
      have saved : (container.backend.save (container.touch nonce).data).outcome left = .ok token :=
        congrArg Prod.fst (Drawing.run_adapt_eq_ok.mp drawn)
      rw [own] at saved
      obtain ⟨text, isText, -, -⟩ := Backend.toText?_of_save emits saved
      rw [isText] at failed
      cases failed

namespace Factory

/-- **Tokens are text.** Settings that promise text, with a key that suits them: whatever state a
container has, and with any randomness, the token that it is saved as is a text of letters, digits
and the marks `-`, `_`, `=` and `.`, at least one of them, which is the same after trimming, in a
cookie header and in a query. So a session is never kept from its cookie because its token is not
text, and an anti-forgery token, whose settings always promise text, is never refused for that.

- `sign?`: stands for signing under the factory's key, which some algorithms do at random -/
theorem tokens_are_text {s : Settings} {f : Factory} (built : ofSettings s = .ok f)
    (emits : s.emitsText = true) (sign? : Bytes → Option Bytes) :
    (∀ (c : Container) (source : Entropy) (token : Bytes),
      c.backend = f.backend.withSign sign? → c.save.outcome source = .ok token →
      ∃ text, Bytes.ofText text = token ∧ Portable text) ∧
    (∀ (session : Session) (config : CookieConfig) (policy : SameSitePolicy) (exchange : Exchange)
      (source : Entropy) (e : SessionError), session.container.backend = f.backend.withSign sign? →
      ((Transport.cookie config policy).save exchange session).outcome source = .error e →
      (∃ cause, session.container.save.outcome source = .error cause ∧ e = .ofContainer cause) ∨
        e = Transport.outsideYears) ∧
    ∀ config files (issuer : Csrf), Csrf.ofConfig config files = .ok issuer → ∀ call : SignCall,
      (∀ text, issuer.Signs call text → Portable text) ∧
      ∀ e, (issuer.signAt call.source call.subject call.now).outcome call.entropy = .error e →
        ∃ cause, e = .ofContainer cause := by
  have promised : (f.backend.withSign sign?).EmitsText :=
    Backend.emitsText_withSign (Backend.emitsText_of_ofSettings built emits)
  refine ⟨fun c source token own saved => ?_,
    fun session config policy exchange source e own failed => ?_,
    fun config files issuer made call => ⟨fun text signed => ?_, fun e failed => ?_⟩⟩
  · unfold Container.save at saved
    rw [own] at saved
    exact Portable.of_save promised saved
  · exact (Transport.error_of_save (own ▸ promised) failed).imp_right And.left
  -- An anti-forgery token is the text of the one that its container is saved as.
  · obtain ⟨key, backend⟩ := Csrf.exists_backend made
    obtain ⟨⟨container, left⟩, saves, bytes, saved, isText⟩ := Csrf.signs_iff.mp signed
    obtain ⟨nonce, stop, -, -, same⟩ := (Csrf.saves_iff backend).mp saves
    simp only at same saved
    subst same
    have text : (Backend.sealed (Csrf.stack (Crypto.XChaCha20Poly1305.cipher key))).EmitsText := rfl
    obtain ⟨text', spelled, portable⟩ := Portable.of_save text saved
    rw [← spelled, Bytes.toText?_ofText] at isText
    cases isText
    exact portable
  · obtain ⟨key, backend⟩ := Csrf.exists_backend made
    have text : issuer.factory.backend.EmitsText := by
      rw [backend]
      rfl
    exact Csrf.error_of_signAt text failed

/-- An entry of one byte, in the usual stages. -/
theorem tokens_are_text_entry :
    ofSettings plainFactory.settings = .ok plainFactory ∧
      plainFactory.settings.emitsText = true ∧ ∃ token text,
        (plainFactory.backend.save (entryData [2])).outcome (Entropy.repeating [0]) = .ok token ∧
        Bytes.ofText text = token ∧ Portable text := by
  have built : ofSettings plainFactory.settings = .ok plainFactory := by rfl
  have emits : plainFactory.settings.emitsText = true := by rfl
  obtain ⟨token, saved⟩ := exists_save_entry [2]
  obtain ⟨text, spelled, portable⟩ := (tokens_are_text built emits fun _ => none).1
    ⟨plainFactory.backend, entryData [2]⟩ _ token rfl saved
  exact ⟨built, emits, token, text, saved, spelled, portable⟩

end Factory

end SealedTokens
