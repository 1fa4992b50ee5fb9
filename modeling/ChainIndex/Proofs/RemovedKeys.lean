import ChainIndex.Proofs.Decimals
import ChainIndex.Proofs.Reports
import ChainIndex.Proofs.Slots
import Mathlib.Data.List.Forall2

/-!
# The key that an event removes

A payload carries the bytes of a key as a list, which is the value of `publicKey` or stands in it under
the same name. Each byte is written as an integer or as decimal text (`PublicKey.Writes`). The event that
a key was removed deletes the record whose id has these bytes in hexadecimal digits, and no other one; a
payload that does not carry bytes is refused before anything is called.
-/

set_option autoImplicit false

namespace ChainIndex

/-! ### Bytes in a payload -/

namespace PublicKey

/-- The two lower-case hexadecimal digits of a byte. -/
def digitPair (b : UInt8) : List Char := (Nat.toDigits 16 b.toNat).leftpad 2 '0'

/-- The hexadecimal text of a key. -/
def hexText (bytes : List UInt8) : String := String.ofList (bytes.flatMap digitPair)

/-- A JSON value that stands for a byte: an integer, or the decimal text of one, with a plus sign or
    without, behind any number of zeros. -/
inductive Writes : Json → UInt8 → Prop where
  | integer (b : UInt8) : Writes (.number (.natural b.toUInt64)) b
  | text (plus : Bool) (zeros : Nat) (b : UInt8) :
    Writes (.string (String.ofList
      ((if plus then ['+'] else []) ++ (List.replicate zeros '0' ++ Decimal.chars b.toNat)))) b

/-- The payload has the list as its key, or in its key under the same name. -/
inductive Carries (payload : Json) (items : List Json) : Prop where
  | bare (list : payload.field? "publicKey" = some (.array items))
  | nested {field : Json} (outer : payload.field? "publicKey" = some field)
    (list : field.field? "publicKey" = some (.array items))

theorem digitPair_eq_byteChars (b : UInt8) : digitPair b = byteChars b := by
  have table : ∀ n < 256, (Nat.toDigits 16 n).leftpad 2 '0' = [hexDigit (n / 16), hexDigit (n % 16)] := by
    decide +kernel
  exact table b.toNat b.toNat_lt

theorem hexText_eq_ofBytes (bytes : List UInt8) : hexText bytes = ofBytes bytes := by
  rw [hexText, ofBytes, funext digitPair_eq_byteChars]

/-! ### Reading a byte -/

/-- The text of a sign and digits, without the sign. -/
def unsigned : List Char → List Char
  | '+' :: rest => rest
  | text => text

theorem byteOfText?_eq (text : List Char) :
    byteOfText? text =
      if unsigned text ≠ [] ∧ (unsigned text).all Decimal.isDigit ∧ Decimal.value (unsigned text) < 256 then
        some (UInt8.ofNat (Decimal.value (unsigned text)))
      else none := rfl

theorem unsigned_of_isDigit {text : List Char} (all : ∀ c ∈ text, Decimal.isDigit c = true) : unsigned text = text := by
  unfold unsigned
  split
  · exact absurd (all '+' (by simp)) (by decide)
  · rfl

theorem eq_sign_append_unsigned (text : List Char) :
    ∃ plus : Bool, text = (if plus then ['+'] else []) ++ unsigned text := by
  unfold unsigned
  split
  · exact ⟨true, rfl⟩
  · exact ⟨false, rfl⟩

theorem byteOfText?_written (plus : Bool) (zeros : Nat) (b : UInt8) :
    byteOfText? ((if plus then ['+'] else []) ++ (List.replicate zeros '0' ++ Decimal.chars b.toNat)) = some b := by
  have digits : ∀ c ∈ List.replicate zeros '0' ++ Decimal.chars b.toNat, Decimal.isDigit c = true :=
    fun c hc => Decimal.isDigit_of_mem_zeros_append_chars hc
  have bare : unsigned ((if plus then ['+'] else []) ++ (List.replicate zeros '0' ++ Decimal.chars b.toNat)) =
      List.replicate zeros '0' ++ Decimal.chars b.toNat := by
    cases plus with
    | true => rfl
    | false => exact unsigned_of_isDigit digits
  rw [byteOfText?_eq, bare, Decimal.value_zeros_append_chars, if_pos, UInt8.ofNat_toNat]
  exact ⟨by simp [Decimal.chars_ne_nil], List.all_eq_true.mpr digits, b.toNat_lt⟩

theorem written_of_byteOfText? {text : List Char} {b : UInt8} (h : byteOfText? text = some b) :
    ∃ (plus : Bool) (zeros : Nat),
      text = (if plus then ['+'] else []) ++ (List.replicate zeros '0' ++ Decimal.chars b.toNat) := by
  rw [byteOfText?_eq] at h
  split at h
  · next digits =>
    obtain ⟨ne, all, small⟩ := digits
    obtain ⟨zeros, n, eq⟩ := Decimal.exists_eq_zeros_append_chars ne (List.all_eq_true.mp all)
    obtain ⟨plus, sign⟩ := eq_sign_append_unsigned text
    rw [eq, Decimal.value_zeros_append_chars] at h small
    have value : b.toNat = n := by
      rw [← Option.some.inj h, UInt8.toNat_ofNat_of_lt' small]
    exact ⟨plus, zeros, by rw [value, ← eq, ← sign]⟩
  · contradiction

theorem byteOfJson?_eq_some_iff {item : Json} {b : UInt8} : byteOfJson? item = some b ↔ Writes item b := by
  constructor
  · intro h
    unfold byteOfJson? at h
    split at h
    · next n =>
      split at h
      · next small =>
        have same : n = b.toUInt64 := by
          rw [← Option.some.inj h]
          apply UInt64.toNat_inj.mp
          simp
          omega
        rw [same]
        exact .integer b
      · contradiction
    · next s =>
      obtain ⟨plus, zeros, eq⟩ := written_of_byteOfText? h
      rw [← String.ofList_toList (s := s), eq]
      exact .text plus zeros b
    · contradiction
  · intro h
    cases h with
    | integer => simpa [byteOfJson?] using b.toNat_lt
    | text plus zeros =>
      rw [byteOfJson?, String.toList_ofList]
      exact byteOfText?_written plus zeros b

/-! ### Reading a key -/

theorem readBytes_of_writes {items : List Json} {bytes : List UInt8} (h : List.Forall₂ Writes items bytes) :
    readBytes items = .ok bytes := by
  induction h with
  | nil => rfl
  | cons item _ ih =>
    rw [readBytes, byteOfJson?_eq_some_iff.mpr item]
    dsimp only
    rw [ih]
    rfl

/-- Items that all write a byte write bytes. -/
theorem exists_bytes {items : List Json} (h : ∀ item ∈ items, ∃ b, Writes item b) :
    ∃ bytes, List.Forall₂ Writes items bytes := by
  induction items with
  | nil => exact ⟨[], .nil⟩
  | cons item rest ih =>
    obtain ⟨b, first⟩ := h item List.mem_cons_self
    obtain ⟨bytes, others⟩ := ih fun other mem => h other (List.mem_cons_of_mem item mem)
    exact ⟨b :: bytes, .cons first others⟩

theorem readBytes_of_unwritten {items : List Json} (h : ∃ item ∈ items, ∀ b, ¬ Writes item b) :
    ∃ reason, readBytes items = .error (.decode reason) := by
  obtain ⟨bad, mem, unwritten⟩ := h
  induction items with
  | nil => contradiction
  | cons item rest ih =>
    rw [readBytes]
    cases read : byteOfJson? item with
    | none => exact ⟨_, rfl⟩
    | some b =>
      have behind : bad ∈ rest := by
        rcases List.mem_cons.mp mem with rfl | mem
        · exact absurd (byteOfJson?_eq_some_iff.mp read) (unwritten b)
        · exact mem
      obtain ⟨reason, failed⟩ := ih behind
      exact ⟨reason, by rw [failed]; rfl⟩

theorem publicKeyField_of_carries {payload : Json} {items : List Json} (h : Carries payload items) :
    Classifier.publicKeyField payload = (readBytes items).map ofBytes := by
  unfold Classifier.publicKeyField
  cases h with
  | bare list =>
    rw [list]
    rfl
  | nested outer list =>
    rw [outer]
    dsimp only
    rw [list]
    rfl

/-- A payload that carries no list is refused, and so is one with an item that writes no byte. -/
theorem publicKeyField_of_unwritten {payload : Json}
    (h : ∀ items, Carries payload items → ∃ item ∈ items, ∀ b, ¬ Writes item b) :
    ∃ reason, Classifier.publicKeyField payload = .error (.decode reason) := by
  by_cases list : ∃ items, Carries payload items
  · obtain ⟨items, carried⟩ := list
    obtain ⟨reason, failed⟩ := readBytes_of_unwritten (h items carried)
    exact ⟨reason, by rw [publicKeyField_of_carries carried, failed]; rfl⟩
  · unfold Classifier.publicKeyField
    cases outer : payload.field? "publicKey" with
    | none => exact ⟨_, rfl⟩
    | some field =>
      have noList : ∀ items, (field.field? "publicKey").getD field ≠ .array items := by
        intro items same
        cases inner : field.field? "publicKey" with
        | none =>
          rw [inner, Option.getD_none] at same
          exact list ⟨items, .bare (outer.trans (congrArg some same))⟩
        | some key =>
          rw [inner, Option.getD_some] at same
          exact list ⟨items, .nested outer (inner.trans (congrArg some same))⟩
      dsimp only
      unfold ofJson
      split
      · next items same => exact absurd same (noList items)
      · exact ⟨_, rfl⟩

/-! ### Ids of keys -/

/-- The id of the record of a key with these bytes. -/
def idOf (address : String) (bytes : List UInt8) : String := Address.prefixed address ++ "." ++ hexText bytes

theorem digitPair_inj {a b : UInt8} (h : digitPair a = digitPair b) : a = b := by
  have table : ∀ m < 16, ∀ n < 16, hexDigit m = hexDigit n → m = n := by decide
  have la := a.toNat_lt
  have lb := b.toNat_lt
  rw [digitPair_eq_byteChars, digitPair_eq_byteChars] at h
  injection h with first rest
  injection rest with second
  have high := table _ (by omega) _ (by omega) first
  have low := table _ (by omega) _ (by omega) second
  exact UInt8.toNat_inj.mp (by omega)

theorem length_digitPair (b : UInt8) : (digitPair b).length = 2 := by
  rw [digitPair_eq_byteChars]
  rfl

theorem dot_notMem_digitPair (b : UInt8) : '.' ∉ digitPair b := by
  have table : ∀ n < 256, '.' ∉ (Nat.toDigits 16 n).leftpad 2 '0' := by decide +kernel
  exact table b.toNat b.toNat_lt

theorem flatMap_digitPair_inj : {l m : List UInt8} → l.flatMap digitPair = m.flatMap digitPair → l = m
  | [], [], _ => rfl
  | [], b :: m, h | b :: m, [], h => by
    have lengths := congrArg List.length h
    simp only [List.flatMap_nil, List.flatMap_cons, List.length_nil, List.length_append, length_digitPair] at lengths
    omega
  | a :: l, b :: m, h => by
    rw [List.flatMap_cons, List.flatMap_cons] at h
    obtain ⟨pairs, rest⟩ := List.append_inj h (by rw [length_digitPair, length_digitPair])
    rw [digitPair_inj pairs, flatMap_digitPair_inj rest]

/-- Ids of different bytes are different, whatever the accounts. -/
theorem idOf_inj {address other : String} {bytes more : List UInt8} (h : idOf address bytes = idOf other more) :
    Address.prefixed address = Address.prefixed other ∧ bytes = more := by
  have dotless (bytes : List UInt8) : '.' ∉ (hexText bytes).toList := by
    rw [hexText, String.toList_ofList, List.mem_flatMap]
    rintro ⟨b, -, dot⟩
    exact dot_notMem_digitPair b dot
  obtain ⟨accounts, texts⟩ := append_lastDot_inj (dotless bytes) (dotless more) h
  exact ⟨accounts, flatMap_digitPair_inj (String.ofList_inj.mp texts)⟩

end PublicKey

/-! ### The dispatch of a removal -/

/-- The key under an id is gone. Nothing else in the world changed, but a call was made. -/
structure World.LosesKey (id : String) (w w' : World) : Prop where
  gone : w'.store.keys.get? id = none
  others : ∀ other, other ≠ id → w'.store.keys.get? other = w.store.keys.get? other
  rest : w' = { w.counted with store := { w.store with keys := w'.store.keys } }

theorem World.LosesKey.erase (id : String) (w : World) :
    w.LosesKey id (w.counted.shelve (w.store.keys.erase id)) where
  gone := w.store.keys.get?_erase_self id
  others _ ne := w.store.keys.get?_erase_of_ne ne
  rest := rfl

namespace Meaning
open PublicKey

variable (classifier : Classifier) {e : Chain.Event}

theorem classify_removal (removal : e.type = "flow.AccountKeyRemoved") :
    classifier.classify e = Classifier.change .keyRemoved Classifier.publicKeyField e.data.json := by
  simp [Classifier.classify, removal]

/-- A payload without an address is refused too. -/
theorem classify_removal_of_unwritten (removal : e.type = "flow.AccountKeyRemoved")
    (h : ∀ items, Carries e.data.json items → ∃ item ∈ items, ∀ b, ¬ Writes item b) :
    ∃ reason, classifier.classify e = .error (.decode reason) := by
  obtain ⟨reason, failed⟩ := publicKeyField_of_unwritten h
  rw [classify_removal _ removal]
  unfold Classifier.change Classifier.addressField Classifier.stringField
  cases (e.data.json.field? "address").bind Json.string? with
  | none => exact ⟨_, rfl⟩
  | some address => exact ⟨reason, by rw [failed]; rfl⟩

theorem classify_removal_of_writes (removal : e.type = "flow.AccountKeyRemoved") {address : String}
    {items : List Json} {bytes : List UInt8} (addressed : e.data.json.field? "address" = some (.string address))
    (carried : Carries e.data.json items) (written : List.Forall₂ Writes items bytes) :
    classifier.classify e = .ok (.keyRemoved (Address.prefixed address) (hexText bytes)) := by
  rw [classify_removal _ removal]
  unfold Classifier.change Classifier.addressField Classifier.stringField
  rw [addressed, publicKeyField_of_carries carried, readBytes_of_writes written, hexText_eq_ofBytes]
  rfl

/-- The event that a key was removed deletes exactly the key whose bytes it carries, however they are
    written. A key with these bytes that the chain reports has the id that is deleted, at whatever place;
    ids of different bytes are different. A payload that carries no list, or a list with an item that is no
    byte, is refused and changes nothing. -/
theorem dispatch_removal (classifier : Classifier) (observedAt : Timestamp) (e : Chain.Event) (w : World)
    (removal : e.type = "flow.AccountKeyRemoved") :
    (∀ address items bytes, e.data.json.field? "address" = some (.string address) →
      Carries e.data.json items → List.Forall₂ Writes items bytes →
      match w.outages.call w.calls (.delete .key (idOf address bytes)) with
      | none => ∃ w', (dispatch classifier observedAt e).run.run w =
          (.ok (.keyRemoved (Address.prefixed address) (hexText bytes)), w') ∧ w.LosesKey (idOf address bytes) w'
      | some problem => (dispatch classifier observedAt e).run.run w =
          (.error (.handler "account-key-removed" problem.message), w.counted)) ∧
    (∀ address bytes seenAt, ∀ key : Chain.AccountKey,
      (Indexed.AccountKey.ofChain address { key with publicKey := hexText bytes } seenAt).id = idOf address bytes) ∧
    (∀ address other bytes more, idOf address bytes = idOf other more →
      Address.prefixed address = Address.prefixed other ∧ bytes = more) ∧
    ((∀ items, Carries e.data.json items → ∃ item ∈ items, ∀ b, ¬ Writes item b) →
      ∃ reason, (dispatch classifier observedAt e).run.run w = (.error (.decode reason), w)) := by
  refine ⟨fun address items bytes addressed carried written => ?_, fun _ _ _ _ => rfl, fun _ _ _ _ => idOf_inj,
    fun unwritten => ?_⟩
  · have classified := classify_removal_of_writes classifier removal addressed carried written
    have same : Indexed.keyId (Address.prefixed address) (hexText bytes) = idOf address bytes := by
      rw [Indexed.keyId, Address.prefixed_prefixed, idOf]
    rw [run_dispatch_of_ok classified, apply, same]
    cases outage : w.outages.call w.calls (.delete .key (idOf address bytes)) with
    | none =>
      rw [show (Act.delete Indexed.AccountKey (idOf address bytes)).run.run w = _ from Act.write_of_ok outage rfl]
      exact ⟨_, rfl, .erase _ w⟩
    | some problem =>
      rw [show (Act.delete Indexed.AccountKey (idOf address bytes)).run.run w = _ from Act.write_of_outage outage]
      rfl
  · obtain ⟨reason, failed⟩ := classify_removal_of_unwritten classifier removal unwritten
    exact ⟨reason, run_dispatch_of_error failed observedAt w⟩

/-- The second of both keys is removed; its one byte is written as text, inside the field. -/
def secondKeyRemoved : Chain.Event :=
  .ofAccount "flow.AccountKeyRemoved" [("publicKey", .object [("publicKey", .array [.string "+00187"])])]

/-- No byte is as large as the item of this list. -/
def noKeyRemoved : Chain.Event := .ofAccount "flow.AccountKeyRemoved" [("publicKey", .array [.string "256"])]

theorem dispatch_removal_bothKeys :
    bothKeys.store.keys.contains "0x01.bb" = true ∧
      (∃ w', (dispatch Setup.bare.classifier .epoch secondKeyRemoved).run.run bothKeys =
        (.ok (.keyRemoved "0x01" "bb"), w') ∧ bothKeys.LosesKey "0x01.bb" w') ∧
      ∃ reason, (dispatch Setup.bare.classifier .epoch noKeyRemoved).run.run bothKeys =
        (.error (.decode reason), bothKeys) := by
  have carried : Carries secondKeyRemoved.data.json [.string "+00187"] := .nested rfl rfl
  have written : List.Forall₂ Writes [.string "+00187"] [187] := .cons (.text true 2 187) .nil
  have unwritten (items : List Json) (h : Carries noKeyRemoved.data.json items) :
      ∃ item ∈ items, ∀ b, ¬ Writes item b := by
    have list : items = [.string "256"] := by
      cases h with
      | bare list => cases list; rfl
      | nested outer list => cases outer; cases list
    refine ⟨.string "256", list ▸ List.mem_singleton_self _, fun b h => ?_⟩
    have read := byteOfJson?_eq_some_iff.mpr h
    cases read
  exact ⟨by decide +kernel,
    (dispatch_removal Setup.bare.classifier .epoch secondKeyRemoved bothKeys rfl).1 "0x01" _ _ rfl carried written,
    (dispatch_removal Setup.bare.classifier .epoch noKeyRemoved bothKeys rfl).2.2.2 unwritten⟩

end Meaning

end ChainIndex
