import SealedTokens.Container.Serial
import SealedTokens.Proofs.Base64
import SealedTokens.Proofs.Compact
import SealedTokens.Proofs.Outcomes
import SealedTokens.Proofs.Records
import SealedTokens.Proofs.Timestamps
/-!
# Headers and payloads

Both encodings of headers and payloads lose nothing, except that they carry an instant as its written
form names it. The JSON one carries every value. The compact one carries the payloads whose byte
strings have a length of 64 bits, and what it cannot carry it refuses to read, so that no value is
ever mistaken for another.

## Main results

- the instances of `LawfulSerial` for instants, headers, payloads and states
- `Data.shown_eq_iff`: a state is carried as it is exactly if clocks show both ends of its window
- `Data.length_write_le`: the compact form of a state takes little more than its byte strings

## Proof strategy

A value is read as it was written, member by member. Only the entries of a payload take an
induction: they are written in ascending order, so reading puts each of them behind those before.
-/
namespace SealedTokens

open SealedTokens.Compact (Reads Refuses)

/-- A type whose values are read back in both encodings, where the compact one needs them to fit. A
value is read back as it is shown, and so is every value that is read. -/
class LawfulSerial (α : Type) [Serial α] where
  Fits : α → Prop
  shown : α → α
  reads : ∀ a, Fits a → Reads Serial.read (Serial.write a) (shown a)
  refuses : ∀ a, ¬ Fits a → Refuses (Serial.read : Compact.Reader α) (Serial.write a)
  isWritten : ∀ a : α, (Serial.toJson a).IsWritten
  ofJson?_toJson : ∀ a : α, Serial.ofJson? (Serial.toJson a) = some (shown a)
  shown_of_read : ∀ input rest (a : α), Serial.read.run input = .ok (a, rest) → shown a = a
  shown_of_ofJson? : ∀ json (a : α), Serial.ofJson? json = some a → shown a = a

/-- What a reader takes after another one. -/
theorem Compact.run_bind_eq_ok {α β : Type} {reader : Compact.Reader α}
    {next : α → Compact.Reader β} {input rest : Bytes} {b : β} :
    (reader >>= next).run input = .ok (b, rest) ↔
      ∃ a more, reader.run input = .ok (a, more) ∧ (next a).run more = .ok (b, rest) := by
  rw [StateT.run_bind, bind_eq_ok]
  constructor
  · rintro ⟨⟨a, more⟩, first, second⟩
    exact ⟨a, more, first, second⟩
  · rintro ⟨a, more, first, second⟩
    exact ⟨⟨a, more⟩, first, second⟩

theorem Compact.Reads.map {α β : Type} {reader : Compact.Reader α} {written : Bytes} {a : α}
    (read : Reads reader written a) (f : α → β) :
    Reads (reader >>= fun x => Pure.pure (f x)) written (f a) := by
  rw [← List.append_nil written]
  exact read.bind (Compact.Reads.pure (f a))

theorem Compact.Refuses.map {α β : Type} {reader : Compact.Reader α} {written : Bytes}
    (refused : Refuses reader written) (f : α → β) :
    Refuses (reader >>= fun x => Pure.pure (f x)) written := by
  rw [← List.append_nil written]
  exact refused.bind

theorem Json.nat?_integer {bits n : Nat} (small : n < 2 ^ bits) :
    nat? bits (.integer n) = some n := by
  have fits : (0 : Int) ≤ n ∧ (n : Int) < ((Nat.pow 2 bits : Nat) : Int) :=
    ⟨Int.natCast_nonneg n, Int.ofNat_lt.mpr small⟩
  rw [nat?, if_pos fits, Int.toNat_natCast]

/-! ### Instants -/

namespace Rfc3339

theorem isName_text (t : Instant) : Json.IsName (text t) := by
  intro c member
  rw [text, String.toList_ofList] at member
  obtain ⟨low, high⟩ := isStampChar_chars t c member
  refine ⟨by omega, by omega, ?_, ?_⟩ <;> rintro rfl <;> revert low high <;> decide

theorem length_text_le (t : Instant) : (Bytes.ofText (text t)).length ≤ 33 := by
  rw [← Bytes.ofAscii_eq_ofText (isName_text t).ascii]
  simpa [Bytes.ofAscii, text] using length_chars_le t

end Rfc3339

namespace Instant

theorem reads_write (t : Instant) : Reads Serial.read (Serial.write t) t.shown := by
  have small := Rfc3339.length_text_le t
  have content := Compact.reads_text (Rfc3339.text t) (by omega)
  show Reads _ (Compact.text (Rfc3339.text t)) t.shown
  rw [← List.append_nil (Compact.text _)]
  refine content.bind ?_
  rw [Rfc3339.read?_text]
  exact .pure t.shown

theorem onClock_of_read {input rest : Bytes} {t : Instant}
    (read : (Serial.read : Compact.Reader Instant).run input = .ok (t, rest)) : t.OnClock := by
  obtain ⟨text, more, -, read⟩ := Compact.run_bind_eq_ok.mp read
  split at read
  next isInstant =>
    cases read
    exact Rfc3339.onClock_of_read? isInstant
  · cases read

theorem onClock_of_ofJson? {json : Json} {t : Instant} (read : Serial.ofJson? json = some t) :
    t.OnClock := by
  obtain ⟨text, -, isInstant⟩ := Option.bind_eq_some_iff.mp read
  exact Rfc3339.onClock_of_read? isInstant

instance : LawfulSerial Instant where
  Fits _ := True
  shown := Instant.shown
  reads t _ := reads_write t
  refuses _ unfit := absurd trivial unfit
  isWritten t := .text (Rfc3339.isName_text t).isPlain
  ofJson?_toJson t := by
    simp only [Serial.toJson, Serial.ofJson?, Json.string?,
      Json.text?_ofAscii (Rfc3339.isName_text t), Option.bind_some, Rfc3339.read?_text]
  shown_of_read _ _ _ read := shown_of_onClock (onClock_of_read read)
  shown_of_ofJson? _ _ read := shown_of_onClock (onClock_of_ofJson? read)

end Instant

/-! ### Headers -/

namespace Header

/-- The header as its written form names it. -/
def shown (h : Header) : Header :=
  { h with validAfter := h.validAfter.shown, validBefore := h.validBefore.shown }

/-- Clocks show both ends of the window. -/
def OnClock (h : Header) : Prop := h.validAfter.OnClock ∧ h.validBefore.OnClock

theorem shown_eq_iff {h : Header} : h.shown = h ↔ h.OnClock := by
  obtain ⟨version, nonce, start, stop⟩ := h
  simp only [shown, OnClock, mk.injEq, true_and, Instant.shown_eq_iff]

theorem reads_write (h : Header) : Reads Serial.read (Serial.write h) h.shown := by
  have version := Compact.reads_nat 32 h.version.toNat (by decide) h.version.toNat_lt
  have nonce := Compact.reads_nat 64 h.nonce.toNat (by decide) h.nonce.toNat_lt
  show Reads _ (Varint.encode _ ++ Varint.encode _ ++ Serial.write h.validAfter ++
    Serial.write h.validBefore) h.shown
  rw [List.append_assoc, List.append_assoc]
  refine version.bind (nonce.bind ((Instant.reads_write _).bind ?_))
  have rest := (Instant.reads_write h.validBefore).map fun validBefore => (⟨UInt32.ofNat
    h.version.toNat, UInt64.ofNat h.nonce.toNat, h.validAfter.shown, validBefore⟩ : Header)
  simpa [shown] using rest

theorem onClock_of_read {input rest : Bytes} {h : Header}
    (read : (Serial.read : Compact.Reader Header).run input = .ok (h, rest)) : h.OnClock := by
  obtain ⟨version, _, -, read⟩ := Compact.run_bind_eq_ok.mp read
  obtain ⟨nonce, _, -, read⟩ := Compact.run_bind_eq_ok.mp read
  obtain ⟨start, _, first, read⟩ := Compact.run_bind_eq_ok.mp read
  obtain ⟨stop, _, second, made⟩ := Compact.run_bind_eq_ok.mp read
  cases made
  exact ⟨Instant.onClock_of_read first, Instant.onClock_of_read second⟩

theorem isName_memberNames : ∀ name ∈ memberNames, Json.IsName name := by
  simp [memberNames, Json.IsName]

theorem ofJson?_members {json version nonce start stop : Json} {v n : Nat} {t u : Instant}
    (members : json.fullRecord? memberNames = some [version, nonce, start, stop])
    (hv : version.nat? 32 = some v) (hn : nonce.nat? 64 = some n)
    (ht : Serial.ofJson? start = some t) (hu : Serial.ofJson? stop = some u) :
    Serial.ofJson? json = some (⟨UInt32.ofNat v, UInt64.ofNat n, t, u⟩ : Header) := by
  show (json.fullRecord? memberNames).bind _ = _
  rw [members]
  simp [hv, hn, ht, hu]

theorem onClock_of_ofJson? {json : Json} {h : Header} (read : Serial.ofJson? json = some h) :
    h.OnClock := by
  obtain ⟨values, -, read⟩ := Option.bind_eq_some_iff.mp read
  split at read
  next version nonce start stop =>
    simp only [Option.bind_eq_bind, Option.bind_eq_some_iff] at read
    obtain ⟨_, -, _, -, start, first, stop, second, made⟩ := read
    cases made
    exact ⟨Instant.onClock_of_ofJson? first, Instant.onClock_of_ofJson? second⟩
  · cases read

instance : LawfulSerial Header where
  Fits _ := True
  shown := Header.shown
  reads h _ := reads_write h
  refuses _ unfit := absurd trivial unfit
  isWritten h := by
    refine Json.isWritten_zip isName_memberNames ?_
    simp [Json.IsWritten.integer, LawfulSerial.isWritten]
  ofJson?_toJson h := by
    have read := ofJson?_members (Json.fullRecord?_zip isName_memberNames (by decide) rfl)
      (Json.nat?_integer h.version.toNat_lt) (Json.nat?_integer h.nonce.toNat_lt)
      (LawfulSerial.ofJson?_toJson h.validAfter) (LawfulSerial.ofJson?_toJson h.validBefore)
    rw [UInt32.ofNat_toNat, UInt64.ofNat_toNat] at read
    exact read
  shown_of_read _ _ _ read := shown_eq_iff.mpr (onClock_of_read read)
  shown_of_ofJson? _ _ read := shown_eq_iff.mpr (onClock_of_ofJson? read)

end Header

/-! ### Payloads -/

namespace Payload

/-- Every value has a length of 64 bits. -/
def Addressable (p : Payload) : Prop := ∀ entry ∈ p.entries, entry.2.length < 2 ^ 64

theorem ext {p q : Payload} (same : p.entries = q.entries) : p = q := by
  cases p
  cases q
  cases same
  rfl

theorem insertEntry_above {key : UInt32} (value : Bytes) {entries : List (UInt32 × Bytes)}
    (above : ∀ entry ∈ entries, entry.1 < key) :
    insertEntry key value entries = entries ++ [(key, value)] := by
  induction entries with
  | nil => rfl
  | cons entry entries ih =>
    have below := above entry (by simp)
    rw [insertEntry, if_neg (UInt32.lt_asymm below), if_neg (UInt32.ne_of_lt below).symm,
      ih fun other member => above other (by simp [member]), List.cons_append]

/-- Entries in ascending order are put behind each other. -/
theorem entries_foldl_insert (entries : List (UInt32 × Bytes)) (p : Payload)
    (ascending : (p.entries ++ entries).Pairwise fun a b => a.1 < b.1) :
    (entries.foldl (fun p entry => p.insert entry.1 entry.2) p).entries = p.entries ++ entries := by
  induction entries generalizing p with
  | nil => simp
  | cons entry entries ih =>
    have above : ∀ other ∈ p.entries, other.1 < entry.1 :=
      fun other member => (List.pairwise_append.mp ascending).2.2 other member entry (by simp)
    have inserted : (p.insert entry.1 entry.2).entries = p.entries ++ [entry] :=
      insertEntry_above entry.2 above
    rw [List.foldl_cons, ih _ (by rw [inserted]; simpa using ascending), inserted]
    simp

theorem ofList_entries (p : Payload) : ofList p.entries = p :=
  ext ((entries_foldl_insert p.entries empty p.sorted).trans (List.nil_append _))

/-- There are no more entries than keys from `low` on. -/
theorem length_add_le_of_ascending : (entries : List (UInt32 × Bytes)) → (low : Nat) →
    low ≤ 2 ^ 32 → entries.Pairwise (fun a b => a.1 < b.1) →
    (∀ entry ∈ entries, low ≤ entry.1.toNat) → entries.length + low ≤ 2 ^ 32
  | [], _, room, _, _ => by simpa using room
  | entry :: entries, low, _, ascending, above => by
    rw [List.pairwise_cons] at ascending
    have first := above entry (by simp)
    have bound := entry.1.toNat_lt
    have rest := length_add_le_of_ascending entries (entry.1.toNat + 1) (by omega) ascending.2
      fun other member => Nat.succ_le_of_lt (UInt32.lt_iff_toNat_lt.mp (ascending.1 other member))
    simp only [List.length_cons]
    omega

theorem size_lt (p : Payload) : p.size < 2 ^ 64 := by
  have bound := length_add_le_of_ascending p.entries 0 (by decide) p.sorted (by simp)
  have : p.size = p.entries.length := rfl
  omega

/-- The compact form of one entry. -/
def writeEntry (entry : UInt32 × Bytes) : Bytes :=
  Varint.encode entry.1.toNat ++ Compact.bytes entry.2

theorem reads_key (key : UInt32) : Reads (Compact.readNat 32) (Varint.encode key.toNat) key.toNat :=
  Compact.reads_nat 32 key.toNat (by decide) key.toNat_lt

theorem reads_entries (entries : List (UInt32 × Bytes)) (p : Payload)
    (addressable : ∀ entry ∈ entries, entry.2.length < 2 ^ 64) :
    Reads (readEntries entries.length p) (entries.flatMap writeEntry)
      (entries.foldl (fun p entry => p.insert entry.1 entry.2) p) := by
  induction entries generalizing p with
  | nil => exact .pure p
  | cons entry entries ih =>
    rw [List.flatMap_cons, writeEntry, List.append_assoc]
    refine (reads_key entry.1).bind ((Compact.reads_bytes _ (addressable entry (by simp))).bind ?_)
    rw [UInt32.ofNat_toNat]
    exact ih _ fun other member => addressable other (by simp [member])

theorem refuses_entries (entries : List (UInt32 × Bytes)) (p : Payload)
    (unfit : ¬ ∀ entry ∈ entries, entry.2.length < 2 ^ 64) :
    Refuses (readEntries entries.length p) (entries.flatMap writeEntry) := by
  induction entries generalizing p with
  | nil => simp at unfit
  | cons entry entries ih =>
    rw [List.flatMap_cons, writeEntry, List.append_assoc]
    refine (reads_key entry.1).bind_refuses ?_
    -- The first value that is too long is refused, the ones before it are read.
    by_cases small : entry.2.length < 2 ^ 64
    · refine (Compact.reads_bytes _ small).bind_refuses (ih _ fun others => unfit ?_)
      exact List.forall_mem_cons.mpr ⟨small, others⟩
    · exact (Compact.refuses_bytes _ small).bind

theorem reads_size (p : Payload) : Reads (Compact.readNat 64) (Varint.encode p.size) p.size :=
  Compact.reads_nat 64 p.size (by decide) p.size_lt

theorem keyOfJson?_ofDecimal (key : UInt32) :
    keyOfJson? (Bytes.ofDecimal key.toNat) = some key := by
  have digits : (Bytes.ofDecimal key.toNat).all Json.isDigit = true :=
    List.all_eq_true.mpr fun _ member => Bytes.isDigit_of_mem_ofDecimal member
  have filled : (Bytes.ofDecimal key.toNat).isEmpty = false := by
    simpa using Bytes.ofDecimal_ne_nil key.toNat
  have noLeadingZero : ((Bytes.ofDecimal key.toNat).head? != some 48 ||
      (Bytes.ofDecimal key.toNat).length == 1) = true := by
    rw [Bool.or_eq_true]
    by_cases positive : 0 < key.toNat
    · exact .inl (by simpa using Bytes.head_ofDecimal_ne_zero positive)
    · exact .inr (by simp [Bytes.ofDecimal_of_lt (show key.toNat < 10 by omega)])
  have small : key.toNat < Nat.pow 2 32 := key.toNat_lt
  rw [keyOfJson?, Bytes.digitsValue_ofDecimal, digits, filled, noLeadingZero]
  simp [small]

theorem isPlain_ofDecimal (n : Nat) : Json.IsPlain (Bytes.ofDecimal n) := by
  intro b member
  have digit := Bytes.isDigit_of_mem_ofDecimal member
  simp only [Json.isDigit, Bool.and_eq_true, decide_eq_true_eq] at digit
  refine ⟨UInt8.le_trans (by decide) digit.1, ?_, ?_⟩ <;> rintro rfl <;> revert digit <;> decide

theorem visible_encode (value : Bytes) : ∀ b ∈ Base64.encode Base64.standard value,
    33 ≤ b ∧ b < 127 ∧ b ≠ Json.quote ∧ b ≠ Json.backslash := by
  intro b member
  obtain ⟨low, high, notQuote, notBackslash, -⟩ := Base64.visible_of_mem_encode member
  exact ⟨low, high, notQuote, notBackslash⟩

theorem bytesOfJson?_encode (value : Bytes) :
    bytesOfJson? (.text (Base64.encode Base64.standard value)) = some value := by
  rw [bytesOfJson?, (Json.textBytes?_visible (visible_encode value)).2]
  simp [Base64.decode_encode]

theorem entriesOfJson?_map (entries done : List (UInt32 × Bytes)) :
    entriesOfJson? (entries.map fun entry => (Bytes.ofDecimal entry.1.toNat,
      .text (Base64.encode Base64.standard entry.2))) done = some (done.reverse ++ entries) := by
  induction entries generalizing done with
  | nil => simp [entriesOfJson?]
  | cons entry entries ih =>
    rw [List.map_cons, entriesOfJson?, keyOfJson?_ofDecimal, bytesOfJson?_encode]
    simpa using ih ((entry.1, entry.2) :: done)

instance : LawfulSerial Payload where
  Fits := Addressable
  shown := id
  reads p addressable := by
    have entries := reads_entries p.entries empty addressable
    rw [← ofList, ofList_entries] at entries
    exact (reads_size p).bind entries
  refuses p unfit := (reads_size p).bind_refuses (refuses_entries p.entries empty unfit)
  isWritten p := by
    refine .object (fun m member => ?_) fun m member => ?_
    · obtain ⟨entry, -, rfl⟩ := List.mem_map.mp member
      exact isPlain_ofDecimal _
    · obtain ⟨entry, -, rfl⟩ := List.mem_map.mp member
      exact .text (Json.textBytes?_visible (visible_encode _)).1
  ofJson?_toJson p := by
    show (entriesOfJson? (p.entries.map fun entry => _) []).map ofList = some p
    rw [entriesOfJson?_map p.entries [], List.reverse_nil, List.nil_append, Option.map_some,
      ofList_entries]
  shown_of_read _ _ _ _ := rfl
  shown_of_ofJson? _ _ _ := rfl

end Payload

/-! ### States -/

namespace Data

theorem isName_memberNames : ∀ name ∈ memberNames, Json.IsName name := by
  simp [memberNames, Json.IsName]

theorem ofJson?_members {json header payload : Json} {h : Header} {p : Payload}
    (members : json.fullRecord? memberNames = some [header, payload])
    (hh : Serial.ofJson? header = some h) (hp : Serial.ofJson? payload = some p) :
    Serial.ofJson? json = some (⟨h, p⟩ : Data) := by
  show (json.fullRecord? memberNames).bind _ = _
  rw [members]
  simp [hh, hp]

/-- The state as its written form names it. -/
def shown (d : Data) : Data := { d with header := d.header.shown }

/-- Clocks show both ends of the window. -/
def OnClock (d : Data) : Prop := d.header.OnClock

theorem shown_eq_iff {d : Data} : d.shown = d ↔ d.OnClock := by
  obtain ⟨header, payload⟩ := d
  simp only [shown, OnClock, mk.injEq, and_true, Header.shown_eq_iff]

instance : LawfulSerial Data where
  Fits d := d.payload.Addressable
  shown := Data.shown
  reads d addressable :=
    (Header.reads_write d.header).bind ((LawfulSerial.reads d.payload addressable).map fun p => _)
  refuses d unfit :=
    (Header.reads_write d.header).bind_refuses
      ((LawfulSerial.refuses d.payload unfit).map fun p => _)
  isWritten d := by
    refine Json.isWritten_zip isName_memberNames ?_
    simp [LawfulSerial.isWritten]
  ofJson?_toJson d := ofJson?_members (Json.fullRecord?_zip isName_memberNames (by decide) rfl)
    (LawfulSerial.ofJson?_toJson d.header) (LawfulSerial.ofJson?_toJson d.payload)
  shown_of_read _ _ _ read := by
    obtain ⟨header, _, first, read⟩ := Compact.run_bind_eq_ok.mp read
    obtain ⟨payload, _, -, made⟩ := Compact.run_bind_eq_ok.mp read
    cases made
    exact shown_eq_iff.mpr (Header.onClock_of_read first)
  shown_of_ofJson? _ _ read := by
    obtain ⟨values, -, read⟩ := Option.bind_eq_some_iff.mp read
    split at read
    · simp only [Option.bind_eq_bind, Option.bind_eq_some_iff] at read
      obtain ⟨header, first, payload, -, made⟩ := read
      cases made
      exact shown_eq_iff.mpr (Header.onClock_of_ofJson? first)
    · cases read

end Data

/-! ### Lengths -/

section Length

theorem Varint.length_encode_le_ten {n : Nat} (small : n < 2 ^ 64) : (encode n).length ≤ 10 :=
  length_encode_le 9 n (Nat.lt_of_lt_of_le small (by decide))

theorem Instant.length_write_le (t : Instant) : (Serial.write t).length ≤ 34 := by
  have text := Rfc3339.length_text_le t
  have prefixed := Varint.length_encode_le 0 (Bytes.ofText (Rfc3339.text t)).length (by omega)
  show (Varint.encode _ ++ Bytes.ofText (Rfc3339.text t)).length ≤ 34
  rw [List.length_append]
  omega

theorem Header.length_write_le (h : Header) : (Serial.write h).length ≤ 88 := by
  have version := Varint.length_encode_le_ten (Nat.lt_trans h.version.toNat_lt (by decide))
  have nonce := Varint.length_encode_le_ten h.nonce.toNat_lt
  have start := h.validAfter.length_write_le
  have stop := h.validBefore.length_write_le
  show (Varint.encode h.version.toNat ++ Varint.encode h.nonce.toNat ++ Serial.write h.validAfter ++
    Serial.write h.validBefore).length ≤ 88
  simp only [List.length_append]
  omega

theorem Json.length_integerBytes_le {n : Nat} (small : n < 2 ^ 64) :
    (integerBytes n).length ≤ 20 := by
  have digits : (Nat.toDigits 10 n).length ≤ 20 :=
    (Nat.length_toDigits_le_iff (by decide) (by decide)).mpr
      (Nat.lt_of_lt_of_le small (by decide))
  have positive : ¬ (n : Int) < 0 := by omega
  simpa only [integerBytes, if_neg positive, List.nil_append, Bytes.ofDecimal, List.length_map,
    Int.natAbs_natCast] using digits

theorem Header.length_print_le (h : Header) : (Serial.toJson h).print.length ≤ 400 := by
  have version := Json.length_integerBytes_le (Nat.lt_trans h.version.toNat_lt (by decide))
  have nonce := Json.length_integerBytes_le h.nonce.toNat_lt
  have start := Rfc3339.length_chars_le h.validAfter
  have stop := Rfc3339.length_chars_le h.validBefore
  have names : ("version".toList.length = 7 ∧ "nonce".toList.length = 5) ∧
    "valid_after".toList.length = 11 ∧ "valid_before".toList.length = 12 := by decide
  simp only [Serial.toJson, memberNames, Json.print, Json.printMembers, Json.quotedBytes,
    Bytes.ofAscii, Rfc3339.text, List.map_cons, List.map_nil, List.zip_cons_cons,
    List.zip_nil_left, List.length_append, List.length_cons, List.length_nil, List.length_map,
    String.toList_ofList]
  omega

theorem Payload.length_flatMap_writeEntry_le {bound : Nat} (small : bound < 2 ^ 64)
    (entries : List (UInt32 × Bytes)) (short : ∀ entry ∈ entries, entry.2.length ≤ bound) :
    (entries.flatMap writeEntry).length ≤ entries.length * (20 + bound) := by
  induction entries with
  | nil => simp
  | cons entry entries ih =>
    have first := short entry (by simp)
    have rest := ih fun other member => short other (by simp [member])
    have key := Varint.length_encode_le_ten (Nat.lt_trans entry.1.toNat_lt (by decide))
    have prefixed := Varint.length_encode_le_ten (n := entry.2.length) (by omega)
    have whole : (writeEntry entry).length = (Varint.encode entry.1.toNat).length +
        ((Varint.encode entry.2.length).length + entry.2.length) := by
      rw [writeEntry, Compact.bytes, List.length_append, List.length_append]
    rw [List.flatMap_cons, List.length_append, List.length_cons, Nat.succ_mul, whole]
    omega

/-- The compact form of a state takes little more than its byte strings. -/
theorem Data.length_write_le {bound : Nat} (small : bound < 2 ^ 64) (d : Data)
    (short : ∀ entry ∈ d.payload.entries, entry.2.length ≤ bound) :
    (Serial.write d).length ≤ 98 + d.payload.size * (20 + bound) := by
  have header := d.header.length_write_le
  have size := Varint.length_encode_le_ten d.payload.size_lt
  have entries := Payload.length_flatMap_writeEntry_le small d.payload.entries short
  have whole : (Serial.write d).length = (Serial.write d.header).length +
      ((Varint.encode d.payload.size).length +
        (d.payload.entries.flatMap Payload.writeEntry).length) := by
    show (Serial.write d.header ++ (Varint.encode d.payload.size ++
      d.payload.entries.flatMap Payload.writeEntry)).length = _
    rw [List.length_append, List.length_append]
  change _ ≤ d.payload.size * (20 + bound) at entries
  omega

/-- And no less than each of them. -/
theorem Data.length_le_length_write {d : Data} {entry : UInt32 × Bytes}
    (member : entry ∈ d.payload.entries) : entry.2.length ≤ (Serial.write d).length := by
  obtain ⟨before, after, split⟩ := List.append_of_mem member
  have whole : Serial.write d = Serial.write d.header ++ (Varint.encode d.payload.size ++
      (before.flatMap Payload.writeEntry ++ ((Varint.encode entry.1.toNat ++
        (Varint.encode entry.2.length ++ entry.2)) ++ after.flatMap Payload.writeEntry))) := by
    show Serial.write d.header ++ (Varint.encode d.payload.size ++
      d.payload.entries.flatMap Payload.writeEntry) = _
    rw [split, List.flatMap_append, List.flatMap_cons]
    rfl
  rw [whole]
  simp only [List.length_append]
  omega

end Length

end SealedTokens
