import ChainIndex.Indexed.Record
import ChainIndex.Proofs.JsonText
import ChainIndex.Proofs.Timestamps

/-!
# Records are read back from their JSON forms

`LawfulForm α` says that the JSON form of a value of type `α` is read as the value. For a record this
comes from its fields: the reader takes them one after the other, each by its name (`Reader.Reads`).
The form of a record is `Json.Durable` exactly if the data are that it keeps as it is.
-/

set_option autoImplicit false

namespace ChainIndex

/-- A value is what its JSON form is read as. -/
class LawfulForm (α : Type) [JsonForm α] : Prop where
  read (a : α) : ofJson? (toJson a) = some a

attribute [simp] LawfulForm.read

variable {α β : Type} {depth : Nat}

/-! ### Simple values -/

instance : LawfulForm String := ⟨fun _ => rfl⟩

instance : LawfulForm Bool := ⟨fun _ => rfl⟩

instance : LawfulForm UInt64 := ⟨fun _ => rfl⟩

instance : LawfulForm UInt32 where
  read n := by
    have : n.toNat < UInt32.size := n.toNat_lt
    simp [toJson, ofJson?, Json.naturalBelow?, Json.natural?, this]

instance : LawfulForm UInt8 where
  read n := by
    have : n.toNat < UInt8.size := n.toNat_lt
    simp [toJson, ofJson?, Json.naturalBelow?, Json.natural?, this]

instance : LawfulForm Data := ⟨fun d => congrArg some d.ofJson_json⟩

instance : LawfulForm Timestamp := ⟨fun t => by simp [toJson, ofJson?, Json.string?, t.ofText?_text]⟩

theorem readItems?_toJson [JsonForm α] [LawfulForm α] (l : List α) :
    readItems? ofJson? (l.map toJson) = some l := by
  induction l with
  | nil => rfl
  | cons a rest ih => simp [readItems?, ih]

instance [JsonForm α] [LawfulForm α] : LawfulForm (List α) := ⟨readItems?_toJson⟩

@[simp] theorem toJson_some [JsonForm α] (a : α) : toJson (some a) = toJson a := rfl

@[simp] theorem toJson_none [JsonForm α] : toJson (none : Option α) = .null := rfl

/-- A value that may be missing is told from a missing one if its own form is not null. -/
theorem LawfulForm.option [JsonForm α] [LawfulForm α] (some_ne : ∀ a : α, toJson a ≠ .null) :
    LawfulForm (Option α) where
  read
    | none => rfl
    | some a => by
      have read : (ofJson? (toJson a)).map some = some (some a) := by rw [LawfulForm.read, Option.map_some]
      rw [toJson_some]
      cases form : toJson a with
      | null => exact absurd form (some_ne a)
      | _ => rw [form] at read; exact read

/-! ### Fields of a record -/

namespace Reader

variable {fields : List (String × Json)} {name : String} {a : α} {b : β} {next : α → Reader β}

/-- The reader makes `a` of the fields of an object. -/
def Reads (read : Reader α) (fields : List (String × Json)) (a : α) : Prop :=
  read (.named fields) = some (a, .named fields)

namespace Reads

theorem run? {read : Reader α} (h : Reads read fields a) : Reader.run? read (.object fields) = some a := by
  have here : (Row.ofJson? (.object fields)).bind read = some (a, .named fields) := h
  rw [Reader.run?, here]

theorem pure (a : α) : Reads (Pure.pure a) fields a := rfl

theorem bind {read : Reader α} (h : Reads read fields a) (g : Reads (next a) fields b) :
    Reads (read >>= next) fields b := by
  show (read (.named fields)).bind _ = _
  rw [h]
  exact g

theorem next?_named {value : Json} (one : fields.filter (fun f => f.1 = name) = [(name, value)]) :
    Row.next? name (.named fields) = some (some value, .named fields) := by
  rw [Row.next?, one]

theorem field [JsonForm α] [LawfulForm α] (one : fields.filter (fun f => f.1 = name) = [(name, toJson a)])
    (g : Reads (next a) fields b) : Reads (Reader.field name >>= next) fields b := by
  refine .bind ?_ g
  simp [Reads, Reader.field, next?_named one]

theorem nullable {a : Option α} {next : Option α → Reader β} [JsonForm α] [LawfulForm (Option α)]
    (one : fields.filter (fun f => f.1 = name) = [(name, toJson a)]) (g : Reads (next a) fields b) :
    Reads (Reader.nullable name >>= next) fields b := by
  refine .bind ?_ g
  simp [Reads, Reader.nullable, next?_named one]

theorem present [JsonForm α] [LawfulForm α] {other : α}
    (one : fields.filter (fun f => f.1 = name) = [(name, toJson a)]) (g : Reads (next a) fields b) :
    Reads (Reader.fieldOr name other >>= next) fields b := by
  refine .bind ?_ g
  simp [Reads, Reader.fieldOr, next?_named one]

theorem absent [JsonForm α] (no : fields.filter (fun f => f.1 = name) = []) (g : Reads (next a) fields b) :
    Reads (Reader.fieldOr name a >>= next) fields b := by
  refine .bind ?_ g
  simp [Reads, Reader.fieldOr, Row.next?, no]

end Reads

end Reader

namespace JsonForm

variable [JsonForm α] {a b : α}

/-- The text that a value is written as. -/
def text (a : α) : String := (toJson a).text

/-- The value that a text is read as. -/
def ofText? (s : String) : Option α := (Json.parse? s).bind ofJson?

theorem ofText?_text [LawfulForm α] (durable : (toJson a).Durable Json.maxDepth) : ofText? (text a) = some a := by
  rw [ofText?, text, Json.parse?_text durable, Option.bind_some, LawfulForm.read]

/-- The text of a value is read as the value, or not at all. -/
theorem eq_of_ofText? [LawfulForm α] (survive : ∀ x ∈ (toJson a).doubles, x.Survives)
    (h : ofText? (text a) = some b) : b = a ∧ (toJson a).nesting ≤ Json.maxDepth := by
  obtain ⟨j, parsed, formed⟩ := Option.bind_eq_some_iff.mp h
  obtain rfl := Json.eq_of_parse?_text survive parsed
  rw [LawfulForm.read] at formed
  exact ⟨(Option.some.inj formed).symm, Json.nesting_of_parse? parsed⟩

theorem ofText?_text_iff [LawfulForm α] (survive : ∀ x ∈ (toJson a).doubles, x.Survives) :
    ofText? (text a) = some a ↔ (toJson a).nesting ≤ Json.maxDepth :=
  ⟨fun read => (eq_of_ofText? survive read).2, fun shallow => ofText?_text ⟨shallow, survive⟩⟩

end JsonForm

open Reader (Reads)

/-! ### Enumerations and parts of records -/

instance : LawfulForm ExecutionStatus := ⟨fun s => by cases s <;> rfl⟩

instance : LawfulForm PathDomain := ⟨fun d => by cases d <;> rfl⟩

instance : LawfulForm ProposalKey where
  read _ := by refine Reads.run? (.field ?_ <| .field ?_ <| .field ?_ <| .pure _) <;> simp

instance : LawfulForm Signature where
  read _ := by refine Reads.run? (.field ?_ <| .field ?_ <| .field ?_ <| .pure _) <;> simp

instance : LawfulForm Chain.Guarantee where
  read _ := by refine Reads.run? (.field ?_ <| .present ?_ <| .pure _) <;> simp

instance : LawfulForm Chain.TypedValue where
  read _ := by refine Reads.run? (.field ?_ <| .present ?_ <| .pure _) <;> simp

namespace Indexed

instance : LawfulForm SignatureAlgorithm := ⟨fun a => by cases a <;> rfl⟩

instance : LawfulForm (Option SignatureAlgorithm) := .option nofun

instance : LawfulForm HashAlgorithm := ⟨fun a => by cases a <;> rfl⟩

instance : LawfulForm (Option HashAlgorithm) := .option nofun

instance : LawfulForm (Option String) := .option nofun

instance : LawfulForm TransactionStatus where
  read _ := by refine Reads.run? (.field ?_ <| .field ?_ <| .field ?_ <| .pure _) <;> simp

instance : LawfulForm Argument where
  read _ := by refine Reads.run? (.field ?_ <| .field ?_ <| .field ?_ <| .pure _) <;> simp

instance : LawfulForm AccountTag where
  read _ := by refine Reads.run? (.field ?_ <| .field ?_ <| .pure _) <;> simp

/-! ### Records of the index -/

instance : LawfulForm Block where
  read _ := by
    refine Reads.run? (.field ?_ <| .field ?_ <| .field ?_ <| .field ?_ <| .field ?_ <| .field ?_ <|
      .field ?_ <| .pure _) <;> simp

instance : LawfulForm Transaction where
  read _ := by
    refine Reads.run? (.field ?_ <| .field ?_ <| .field ?_ <| .field ?_ <| .field ?_ <| .field ?_ <|
      .field ?_ <| .field ?_ <| .field ?_ <| .field ?_ <| .field ?_ <| .field ?_ <| .pure _) <;> simp

instance : LawfulForm Event where
  read _ := by
    refine Reads.run? (.field ?_ <| .field ?_ <| .field ?_ <| .field ?_ <| .field ?_ <| .field ?_ <|
      .field ?_ <| .pure _) <;> simp

instance : LawfulForm Account where
  read _ := by
    refine Reads.run? (.field ?_ <| .field ?_ <| .field ?_ <| .field ?_ <| .field ?_ <| .pure _) <;> simp

/-- A private key that is not known is neither written nor read. -/
instance : LawfulForm AccountKey where
  read k := by
    obtain ⟨id, index, address, publicKey, signAlgo, hashAlgo, weight, sequenceNumber, revoked, privateKey,
      createdAt⟩ := k
    cases privateKey with
    | none =>
      refine Reads.run? (.field ?_ <| .field ?_ <| .field ?_ <| .field ?_ <| .nullable ?_ <| .nullable ?_ <|
        .field ?_ <| .field ?_ <| .field ?_ <| .absent ?_ <| .field ?_ <| .pure _) <;> simp [privateKeyField]
    | some key =>
      refine Reads.run? (.field ?_ <| .field ?_ <| .field ?_ <| .field ?_ <| .nullable ?_ <| .nullable ?_ <|
        .field ?_ <| .field ?_ <| .field ?_ <| .present ?_ <| .field ?_ <| .pure _) <;> simp [privateKeyField]

instance : LawfulForm Contract where
  read _ := by
    refine Reads.run? (.field ?_ <| .field ?_ <| .field ?_ <| .field ?_ <| .pure _) <;> simp

instance : LawfulForm StorageItem where
  read _ := by
    refine Reads.run? (.field ?_ <| .field ?_ <| .field ?_ <| .field ?_ <| .field ?_ <| .pure _) <;> simp

end Indexed

/-! ### Forms that last

Strings, numbers and enumerations always last. What a record is made of decides about the record. -/

@[simp] theorem durable_string (s : String) : (toJson s).Durable depth := .string s

@[simp] theorem durable_bool (b : Bool) : (toJson b).Durable depth := .bool b

@[simp] theorem durable_uInt64 (n : UInt64) : (toJson n).Durable depth := .natural n

@[simp] theorem durable_uInt32 (n : UInt32) : (toJson n).Durable depth := .natural n.toUInt64

@[simp] theorem durable_uInt8 (n : UInt8) : (toJson n).Durable depth := .natural n.toUInt64

@[simp] theorem durable_timestamp (t : Timestamp) : (toJson t).Durable depth := .string t.text

@[simp] theorem durable_data (d : Data) : (toJson d).Durable depth ↔ d.json.Durable depth := Iff.rfl

@[simp] theorem durable_list [JsonForm α] (l : List α) :
    (toJson l).Durable depth ↔ 0 < depth ∧ ∀ a ∈ l, (toJson a).Durable (depth - 1) := by
  rw [toJson, instJsonFormList]
  simp

@[simp] theorem durable_executionStatus (s : ExecutionStatus) : (toJson s).Durable depth := durable_uInt8 s.code

theorem durable_object {fields : List (String × Json)} {j : Json} (h : j = .object fields) :
    j.Durable depth ↔ 0 < depth ∧ ∀ f ∈ fields, f.2.Durable (depth - 1) := h ▸ Json.Durable.object_iff

@[simp] theorem durable_proposalKey (k : ProposalKey) : (toJson k).Durable depth ↔ 0 < depth := by
  rw [durable_object (j := toJson k) rfl]
  simp

@[simp] theorem durable_signature (s : Signature) : (toJson s).Durable depth ↔ 0 < depth := by
  rw [durable_object (j := toJson s) rfl]
  simp

namespace Indexed

@[simp] theorem durable_signAlgo (a : Option SignatureAlgorithm) : (toJson a).Durable depth := by
  cases a with
  | none => simp
  | some a => exact .string a.text

@[simp] theorem durable_hashAlgo (a : Option HashAlgorithm) : (toJson a).Durable depth := by
  cases a with
  | none => simp
  | some a => exact .string a.text

@[simp] theorem durable_status (s : TransactionStatus) : (toJson s).Durable depth ↔ 0 < depth := by
  rw [durable_object (j := toJson s) rfl]
  simp

@[simp] theorem durable_argument (a : Argument) :
    (toJson a).Durable depth ↔ 0 < depth ∧ a.value.json.Durable (depth - 1) := by
  rw [durable_object (j := toJson a) rfl]
  simp

@[simp] theorem durable_tag (t : AccountTag) : (toJson t).Durable depth ↔ 0 < depth := by
  rw [durable_object (j := toJson t) rfl]
  simp

/-- The status of a transaction lasts wherever the transaction does. -/
theorem Transaction.durable_withStatus {t : Transaction} (status : TransactionStatus)
    (h : (toJson t).Durable depth) : (toJson { t with status }).Durable depth := by
  obtain ⟨room, fields⟩ := (durable_object rfl).mp h
  refine (durable_object rfl).mpr ⟨room, ?_⟩
  simpa using fields

theorem durable_account (a : Account) : (toJson a).Durable Json.maxDepth := by
  rw [durable_object (j := toJson a) rfl]
  simp [Json.maxDepth]

theorem durable_accountKey (k : AccountKey) : (toJson k).Durable Json.maxDepth := by
  rw [durable_object (j := toJson k) rfl]
  cases k.privateKey <;> simp [privateKeyField, Json.maxDepth]

theorem durable_contract (c : Contract) : (toJson c).Durable Json.maxDepth := by
  rw [durable_object (j := toJson c) rfl]
  simp [Json.maxDepth]

end Indexed

end ChainIndex
