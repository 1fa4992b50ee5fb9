import ChainIndex.Chain.Snapshot
import ChainIndex.Config
import ChainIndex.Proofs.Forms

/-!
# Chain data and configurations are read back

What the chain reports, a snapshot of it and a configuration are what their JSON forms are read as.
Wherever one of them was read from, its own form is the normal one: read and written again it stays as
it is (`Settles`). For texts this needs that the normal form of a text that was read is not nested too
deep to be read: reading makes nothing deeper than what is read, but for the lists and tables of a record
that were left out (`Levelled`).
-/

set_option autoImplicit false

namespace ChainIndex

variable {α β : Type} {depth room : Nat}

/-! ### Numbers with a sign and tables -/

instance : LawfulForm Int64 where
  read n := by
    have low := n.le_toInt
    have high := n.toInt_lt
    simp only [toJson]
    split
    · next plain =>
      have nonneg : 0 ≤ n := Int64.le_iff_toInt_le.mpr plain
      show (if n.toUInt64.toNat < 9223372036854775808 then some (Int64.ofNat n.toUInt64.toNat) else none) = some n
      rw [Int64.toNat_toUInt64_of_le nonneg, if_pos, Int64.ofNat_toNatClampNeg n nonneg]
      rw [← Int64.toNat_toInt]
      omega
    · next negative =>
      have value : -(((-n.toInt - 1).toNat % 9223372036854775808 : Nat) + 1 : Int) = n.toInt := by omega
      show some (Int64.ofInt (-(((-n.toInt - 1).toNat % 9223372036854775808 : Nat) + 1))) = some n
      rw [value, Int64.ofInt_toInt]

theorem readValues?_toJson [JsonForm α] [LawfulForm α] (l : List (String × α)) :
    readValues? ofJson? (l.map fun e => (e.1, toJson e.2)) = some l := by
  induction l with
  | nil => rfl
  | cons e rest ih => simp [readValues?, ih]

/-- The entries of a table stand in their order, so they are put back where they were. -/
instance [JsonForm α] [LawfulForm α] : LawfulForm (Table String α) where
  read t := by
    show (readValues? ofJson? (t.entries.map fun e => (e.1, toJson e.2))).map Table.ofList = some t
    rw [readValues?_toJson, Option.map_some, Table.ofList_entries]

/-! ### Records -/

namespace Chain

instance : LawfulForm Block where
  read _ := by
    refine Reader.Reads.run? (.field ?_ <| .field ?_ <| .field ?_ <| .field ?_ <| .present ?_ <| .present ?_ <|
      .present ?_ <| .pure _) <;> simp

instance : LawfulForm Collection where
  read _ := by refine Reader.Reads.run? (.field ?_ <| .present ?_ <| .pure _) <;> simp

instance : LawfulForm Transaction where
  read _ := by
    refine Reader.Reads.run? (.field ?_ <| .field ?_ <| .present ?_ <| .field ?_ <| .field ?_ <| .field ?_ <|
      .field ?_ <| .present ?_ <| .present ?_ <| .present ?_ <| .pure _) <;> simp

instance : LawfulForm Event where
  read _ := by
    refine Reader.Reads.run? (.field ?_ <| .present ?_ <| .present ?_ <| .present ?_ <| .present ?_ <|
      .present ?_ <| .pure _) <;> simp

instance : LawfulForm TransactionStatus where
  read _ := by
    refine Reader.Reads.run? (.field ?_ <| .present ?_ <| .present ?_ <| .present ?_ <| .pure _) <;> simp

instance : LawfulForm AccountKey where
  read _ := by
    refine Reader.Reads.run? (.field ?_ <| .field ?_ <| .field ?_ <| .field ?_ <| .field ?_ <| .field ?_ <|
      .present ?_ <| .pure _) <;> simp

instance : LawfulForm Account where
  read _ := by
    refine Reader.Reads.run? (.field ?_ <| .field ?_ <| .present ?_ <| .present ?_ <| .present ?_ <| .pure _)
      <;> simp

instance : LawfulForm StorageItem where
  read _ := by refine Reader.Reads.run? (.field ?_ <| .field ?_ <| .present ?_ <| .pure _) <;> simp

instance : LawfulForm Snapshot where
  read _ := by
    refine Reader.Reads.run? (.present ?_ <| .present ?_ <| .present ?_ <| .present ?_ <| .present ?_ <|
      .present ?_ <| .pure _) <;> simp

end Chain

instance : LawfulForm Config where
  read _ := by
    refine Reader.Reads.run? (.present ?_ <| .present ?_ <| .present ?_ <| .present ?_ <| .present ?_ <|
      .present ?_ <| .present ?_ <| .present ?_ <| .pure _) <;> simp

/-! ### Depth of what is read -/

namespace Json

mutual

theorem nesting_normalize_le : (j : Json) → j.normalize.nesting ≤ j.nesting
  | .array items => by
    rw [normalize, nesting, nesting]
    exact Nat.succ_le_succ (nestingItems_le.mpr (nesting_normalizeItems_le items))
  | .object fields => by
    rw [normalize, nesting, nesting]
    exact Nat.succ_le_succ (nestingFields_le.mpr fun f hf =>
      nesting_normalizeFields_le fields f (Table.mem_of_mem_ofList hf))
  | .null | .bool _ | .number _ | .string _ => by simp [normalize]
termination_by structural j => j

theorem nesting_normalizeItems_le : (items : List Json) → ∀ j ∈ normalizeItems items, j.nesting ≤ nestingItems items
  | [] => by simp [normalizeItems]
  | item :: rest => by
    rw [normalizeItems, nestingItems, List.forall_mem_cons]
    exact ⟨Nat.le_trans (nesting_normalize_le item) (Nat.le_max_left _ _), fun j hj =>
      Nat.le_trans (nesting_normalizeItems_le rest j hj) (Nat.le_max_right _ _)⟩
termination_by structural items => items

theorem nesting_normalizeFields_le :
    (fields : List (String × Json)) → ∀ f ∈ normalizeFields fields, f.2.nesting ≤ nestingFields fields
  | [] => by simp [normalizeFields]
  | field :: rest => by
    rw [normalizeFields, nestingFields, List.forall_mem_cons]
    exact ⟨Nat.le_trans (nesting_normalizeField_le field) (Nat.le_max_left _ _), fun f hf =>
      Nat.le_trans (nesting_normalizeFields_le rest f hf) (Nat.le_max_right _ _)⟩
termination_by structural fields => fields

theorem nesting_normalizeField_le : (field : String × Json) → (normalizeField field).2.nesting ≤ nestingField field
  | (_, value) => by
    rw [normalizeField, nestingField]
    exact nesting_normalize_le value
termination_by structural field => field

end

theorem nesting_array_le {items : List Json} :
    (array items).nesting ≤ depth + 1 ↔ ∀ j ∈ items, j.nesting ≤ depth := by
  rw [nesting, Nat.succ_le_succ_iff, nestingItems_le]

theorem nesting_object_le {fields : List (String × Json)} :
    (object fields).nesting ≤ depth + 1 ↔ ∀ f ∈ fields, f.2.nesting ≤ depth := by
  rw [nesting, Nat.succ_le_succ_iff, nestingFields_le]

end Json

/-- What a value is read as is nested no deeper than the value, if that has `room` for the parts of a record that
are written even where they were left out. -/
class Levelled (α : Type) (room : outParam Nat) [JsonForm α] : Prop where
  nesting_le {depth : Nat} {j : Json} {a : α} (enough : room ≤ depth) (within : j.nesting ≤ depth)
    (read : ofJson? j = some a) : (toJson a).nesting ≤ depth

@[simp] theorem nesting_string (s : String) : (toJson s).nesting = 0 := by simp [toJson, Json.nesting]

@[simp] theorem nesting_bool (b : Bool) : (toJson b).nesting = 0 := by simp [toJson, Json.nesting]

@[simp] theorem nesting_uInt64 (n : UInt64) : (toJson n).nesting = 0 := by simp [toJson, Json.nesting]

@[simp] theorem nesting_uInt32 (n : UInt32) : (toJson n).nesting = 0 := by simp [toJson, Json.nesting]

@[simp] theorem nesting_int64 (n : Int64) : (toJson n).nesting = 0 := by
  simp only [toJson]
  split <;> simp [Json.nesting]

@[simp] theorem nesting_null : (toJson Data.null).nesting = 0 := by simp [toJson, Data.null, Json.nesting]

@[simp] theorem nesting_nil [JsonForm α] : (toJson ([] : List α)).nesting = 1 := by
  simp [toJson, Json.nesting, Json.nestingItems]

@[simp] theorem nesting_empty [JsonForm α] : (toJson (Table.empty : Table String α)).nesting = 1 := by
  simp [toJson, Table.empty, Json.nesting, Json.nestingFields]

/-- Values without parts are written without depth. -/
theorem Levelled.of_flat [JsonForm α] (flat : ∀ a : α, (toJson a).nesting = 0) : Levelled α 0 where
  nesting_le _ _ _ := flat _ ▸ Nat.zero_le _

instance : Levelled String 0 := .of_flat nesting_string

instance : Levelled Bool 0 := .of_flat nesting_bool

instance : Levelled UInt64 0 := .of_flat nesting_uInt64

instance : Levelled UInt32 0 := .of_flat nesting_uInt32

instance : Levelled Int64 0 := .of_flat nesting_int64

instance : Levelled Timestamp 0 := .of_flat fun t => nesting_string t.text

instance : Levelled ExecutionStatus 0 := .of_flat fun _ => by simp [toJson, Json.nesting]

instance : Levelled PathDomain 0 := .of_flat fun d => nesting_string d.text

instance : Levelled Data 0 where
  nesting_le {_ j _} _ within read := by
    cases read
    exact Nat.le_trans j.nesting_normalize_le within

theorem nesting_of_readItems? [JsonForm α] [Levelled α room] (enough : room ≤ depth) {items : List Json} {l : List α}
    (within : ∀ j ∈ items, j.nesting ≤ depth) (read : readItems? ofJson? items = some l) :
    ∀ a ∈ l, (toJson a).nesting ≤ depth := by
  induction items generalizing l with
  | nil =>
    cases read
    nofun
  | cons item rest ih =>
    rw [List.forall_mem_cons] at within
    rw [readItems?] at read
    split at read
    · next first later =>
      cases read
      exact List.forall_mem_cons.mpr ⟨Levelled.nesting_le enough within.1 first, ih within.2 later⟩
    · cases read

theorem nesting_of_readValues? [JsonForm α] [Levelled α room] (enough : room ≤ depth)
    {fields : List (String × Json)} {l : List (String × α)} (within : ∀ f ∈ fields, f.2.nesting ≤ depth)
    (read : readValues? ofJson? fields = some l) : ∀ e ∈ l, (toJson e.2).nesting ≤ depth := by
  induction fields generalizing l with
  | nil =>
    cases read
    nofun
  | cons field rest ih =>
    rw [List.forall_mem_cons] at within
    rw [readValues?] at read
    split at read
    · next first later =>
      cases read
      exact List.forall_mem_cons.mpr ⟨Levelled.nesting_le enough within.1 first, ih within.2 later⟩
    · cases read

instance [JsonForm α] [Levelled α room] : Levelled (List α) (room + 1) where
  nesting_le {depth j l} enough within read := by
    obtain ⟨depth, rfl⟩ : ∃ inner, depth = inner + 1 := ⟨depth - 1, by omega⟩
    cases j with
    | array items =>
      refine Json.nesting_array_le.mpr fun j hj => ?_
      obtain ⟨a, ha, rfl⟩ := List.mem_map.mp hj
      exact nesting_of_readItems? (by omega) (Json.nesting_array_le.mp within) read a ha
    | _ => cases read

instance [JsonForm α] [Levelled α room] : Levelled (Table String α) (room + 1) where
  nesting_le {depth j t} enough within read := by
    obtain ⟨depth, rfl⟩ : ∃ inner, depth = inner + 1 := ⟨depth - 1, by omega⟩
    cases j with
    | object fields =>
      obtain ⟨l, entries, rfl⟩ := Option.map_eq_some_iff.mp read
      refine Json.nesting_object_le.mpr fun f hf => ?_
      obtain ⟨e, he, rfl⟩ := List.mem_map.mp hf
      exact nesting_of_readValues? (by omega) (Json.nesting_object_le.mp within) entries e (Table.mem_of_mem_ofList he)
    | _ => cases read

/-! ### Readers that make nothing deeper -/

/-- Nothing that is still to be read is nested deeper. -/
def Row.Within (depth : Nat) : Row → Prop
  | .named fields => ∀ f ∈ fields, f.2.nesting ≤ depth
  | .listed items => ∀ j ∈ items, j.nesting ≤ depth

theorem Row.within_of_ofJson? {j : Json} {row : Row} (within : j.nesting ≤ depth + 1) (h : Row.ofJson? j = some row) :
    row.Within depth := by
  cases j with
  | object fields =>
    cases h
    exact Json.nesting_object_le.mp within
  | array items =>
    cases h
    exact Json.nesting_array_le.mp within
  | _ => cases h

theorem Row.Within.next? {row rest : Row} {name : String} {value : Option Json} (within : row.Within depth)
    (h : row.next? name = some (value, rest)) : (∀ j ∈ value, j.nesting ≤ depth) ∧ rest.Within depth := by
  cases row with
  | named fields =>
    rw [Row.next?] at h
    split at h
    · cases h
      exact ⟨by simp, within⟩
    · next other found one =>
      cases h
      have mem : (other, found) ∈ fields := (List.mem_filter.mp (one ▸ List.mem_singleton_self _)).1
      exact ⟨fun j hj => Option.mem_some.mp hj ▸ within _ mem, within⟩
    · cases h
  | listed items =>
    cases items with
    | nil =>
      cases h
      exact ⟨by simp, within⟩
    | cons item later =>
      cases h
      obtain ⟨first, others⟩ := List.forall_mem_cons.mp within
      exact ⟨fun j hj => Option.mem_some.mp hj ▸ first, others⟩

theorem Row.Within.read [JsonForm α] [Levelled α room] (enough : room ≤ depth) {row rest rest' : Row} {name : String}
    {value : Json} {a : α} (within : row.Within depth) (found : row.next? name = some (some value, rest))
    (read : (JsonForm.ofJson? value).map (fun a => (a, rest)) = some (a, rest')) :
    (toJson a).nesting ≤ depth ∧ rest'.Within depth := by
  obtain ⟨_, formed, e⟩ := Option.map_eq_some_iff.mp read
  cases e
  obtain ⟨shallow, left⟩ := within.next? found
  exact ⟨Levelled.nesting_le enough (shallow value rfl) formed, left⟩

namespace Reader

variable {name : String} {next : α → Reader β} {good : α → Prop} {fine : β → Prop}

/-- What is read of rows that are nested at most `depth` deep is `good`. -/
def Yields (depth : Nat) (read : Reader α) (good : α → Prop) : Prop :=
  ∀ row a rest, row.Within depth → read row = some (a, rest) → good a ∧ rest.Within depth

namespace Yields

theorem pure {a : α} (h : good a) : Yields depth (Pure.pure a) good := fun _ _ _ within read => by
  cases read
  exact ⟨h, within⟩

theorem bind {read : Reader α} (h : Yields depth read good) (g : ∀ a, good a → Yields depth (next a) fine) :
    Yields depth (read >>= next) fine := fun _ _ _ within both => by
  obtain ⟨⟨a, rest⟩, first, later⟩ := Option.bind_eq_some_iff.mp both
  obtain ⟨made, left⟩ := h _ _ _ within first
  exact g a made _ _ _ left later

theorem field [JsonForm α] [Levelled α room] (enough : room ≤ depth)
    (g : ∀ a, (toJson a).nesting ≤ depth → Yields depth (next a) fine) :
    Yields depth (Reader.field name >>= next) fine := by
  refine .bind (fun _ _ _ within read => ?_) g
  rw [Reader.field] at read
  split at read
  · next found => exact within.read enough found read
  · cases read

theorem fieldOr [JsonForm α] [Levelled α room] {other : α} (enough : room ≤ depth)
    (absent : (toJson other).nesting ≤ room) (g : ∀ a, (toJson a).nesting ≤ depth → Yields depth (next a) fine) :
    Yields depth (Reader.fieldOr name other >>= next) fine := by
  refine .bind (fun _ _ _ within read => ?_) g
  rw [Reader.fieldOr] at read
  split at read
  · next found => exact within.read enough found read
  · next missing =>
    cases read
    exact ⟨Nat.le_trans absent enough, (within.next? missing).2⟩
  · cases read

theorem run? {read : Reader α} (h : Yields depth read good) {j : Json} {a : α} (within : j.nesting ≤ depth + 1)
    (made : Reader.run? read j = some a) : good a := by
  obtain ⟨rest, found⟩ : ∃ rest, (Row.ofJson? j).bind read = some (a, rest) := by
    rw [Reader.run?] at made
    split at made
    · next found => exact ⟨_, Option.some.inj made ▸ found⟩
    · next found => exact ⟨_, Option.some.inj made ▸ found⟩
    · cases made
  obtain ⟨row, opened, found⟩ := Option.bind_eq_some_iff.mp found
  exact (h row a rest (Row.within_of_ofJson? within opened) found).1

end Yields

end Reader

/-- A record is written one level deeper than its fields. -/
theorem Levelled.of_fields [JsonForm α] {read : Reader α} (reads : (ofJson? : Json → Option α) = Reader.run? read)
    (h : ∀ depth, room ≤ depth → read.Yields depth fun a => (toJson a).nesting ≤ depth + 1) :
    Levelled α (room + 1) where
  nesting_le {depth _ _} enough within made := by
    obtain ⟨depth, rfl⟩ : ∃ inner, depth = inner + 1 := ⟨depth - 1, by omega⟩
    exact (h depth (by omega)).run? within (reads ▸ made)

instance : Levelled ProposalKey 1 := by
  refine .of_fields rfl fun depth enough => .field ?_ fun _ _ => .field ?_ fun _ _ => .field ?_ fun _ _ =>
    .pure (Json.nesting_object_le.mpr ?_)
  all_goals first | omega | simp [*]

instance : Levelled Signature 1 := by
  refine .of_fields rfl fun depth enough => .field ?_ fun _ _ => .field ?_ fun _ _ => .field ?_ fun _ _ =>
    .pure (Json.nesting_object_le.mpr ?_)
  all_goals first | omega | simp [*]

namespace Chain

instance : Levelled Guarantee 2 := by
  refine .of_fields rfl fun depth enough => .field ?_ fun _ _ => .fieldOr ?_ ?_ fun _ _ =>
    .pure (Json.nesting_object_le.mpr ?_)
  all_goals first | omega | simp [*]

instance : Levelled Block 4 := by
  refine .of_fields rfl fun depth enough => .field ?_ fun _ _ => .field ?_ fun _ _ => .field ?_ fun _ _ =>
    .field ?_ fun _ _ => .fieldOr ?_ ?_ fun _ _ => .fieldOr ?_ ?_ fun _ _ => .fieldOr ?_ ?_ fun _ _ =>
    .pure (Json.nesting_object_le.mpr ?_)
  all_goals first | omega | simp [*]

instance : Levelled Collection 2 := by
  refine .of_fields rfl fun depth enough => .field ?_ fun _ _ => .fieldOr ?_ ?_ fun _ _ =>
    .pure (Json.nesting_object_le.mpr ?_)
  all_goals first | omega | simp [*]

instance : Levelled TypedValue 1 := by
  refine .of_fields rfl fun depth enough => .field ?_ fun _ _ => .fieldOr ?_ ?_ fun _ _ =>
    .pure (Json.nesting_object_le.mpr ?_)
  all_goals first | omega | simp [*]

instance : Levelled Transaction 3 := by
  refine .of_fields rfl fun depth enough => .field ?_ fun _ _ => .field ?_ fun _ _ => .fieldOr ?_ ?_ fun _ _ =>
    .field ?_ fun _ _ => .field ?_ fun _ _ => .field ?_ fun _ _ => .field ?_ fun _ _ =>
    .fieldOr ?_ ?_ fun _ _ => .fieldOr ?_ ?_ fun _ _ => .fieldOr ?_ ?_ fun _ _ =>
    .pure (Json.nesting_object_le.mpr ?_)
  all_goals first | omega | simp [*]

instance : Levelled Event 1 := by
  refine .of_fields rfl fun depth enough => .field ?_ fun _ _ => .fieldOr ?_ ?_ fun _ _ =>
    .fieldOr ?_ ?_ fun _ _ => .fieldOr ?_ ?_ fun _ _ => .fieldOr ?_ ?_ fun _ _ => .fieldOr ?_ ?_ fun _ _ =>
    .pure (Json.nesting_object_le.mpr ?_)
  all_goals first | omega | simp [*]

instance : Levelled TransactionStatus 3 := by
  refine .of_fields rfl fun depth enough => .field ?_ fun _ _ => .fieldOr ?_ ?_ fun _ _ =>
    .fieldOr ?_ ?_ fun _ _ => .fieldOr ?_ ?_ fun _ _ => .pure (Json.nesting_object_le.mpr ?_)
  all_goals first | omega | simp [*]

instance : Levelled AccountKey 1 := by
  refine .of_fields rfl fun depth enough => .field ?_ fun _ _ => .field ?_ fun _ _ => .field ?_ fun _ _ =>
    .field ?_ fun _ _ => .field ?_ fun _ _ => .field ?_ fun _ _ => .fieldOr ?_ ?_ fun _ _ =>
    .pure (Json.nesting_object_le.mpr ?_)
  all_goals first | omega | simp [*]

instance : Levelled Account 3 := by
  refine .of_fields rfl fun depth enough => .field ?_ fun _ _ => .field ?_ fun _ _ => .fieldOr ?_ ?_ fun _ _ =>
    .fieldOr ?_ ?_ fun _ _ => .fieldOr ?_ ?_ fun _ _ => .pure (Json.nesting_object_le.mpr ?_)
  all_goals first | omega | simp [*]

instance : Levelled StorageItem 1 := by
  refine .of_fields rfl fun depth enough => .field ?_ fun _ _ => .field ?_ fun _ _ => .fieldOr ?_ ?_ fun _ _ =>
    .pure (Json.nesting_object_le.mpr ?_)
  all_goals first | omega | simp [*]

instance : Levelled Snapshot 6 := by
  refine .of_fields rfl fun depth enough => .fieldOr ?_ ?_ fun _ _ => .fieldOr ?_ ?_ fun _ _ =>
    .fieldOr ?_ ?_ fun _ _ => .fieldOr ?_ ?_ fun _ _ => .fieldOr ?_ ?_ fun _ _ => .fieldOr ?_ ?_ fun _ _ =>
    .pure (Json.nesting_object_le.mpr ?_)
  all_goals first | omega | simp [*]

end Chain

instance : Levelled Config 1 := by
  refine .of_fields rfl fun depth enough => .fieldOr ?_ ?_ fun _ _ => .fieldOr ?_ ?_ fun _ _ =>
    .fieldOr ?_ ?_ fun _ _ => .fieldOr ?_ ?_ fun _ _ => .fieldOr ?_ ?_ fun _ _ => .fieldOr ?_ ?_ fun _ _ =>
    .fieldOr ?_ ?_ fun _ _ => .fieldOr ?_ ?_ fun _ _ => .pure (Json.nesting_object_le.mpr ?_)
  all_goals first | omega | simp [*]

/-! ### Normal forms -/

namespace JsonForm

/-- A value written again after it was read. -/
def rewrite? (α : Type) [JsonForm α] (j : Json) : Option Json := (ofJson? j : Option α).map toJson

/-- The same for texts. -/
def rewriteText? (α : Type) [JsonForm α] (s : String) : Option String := (ofText? s : Option α).map text

theorem nesting_of_ofText? [JsonForm α] [Levelled α room] (enough : room ≤ Json.maxDepth) {s : String} {a : α}
    (read : ofText? s = some a) : (toJson a).nesting ≤ Json.maxDepth := by
  obtain ⟨j, parsed, formed⟩ := Option.bind_eq_some_iff.mp read
  exact Levelled.nesting_le enough (Json.nesting_of_parse? parsed) formed

end JsonForm

open JsonForm (text ofText? rewrite? rewriteText?)

/-- Values of the type are read back from their forms, and the form of what was read, from whatever value
or text, stays as it is when it is read and written again. A text is read back where the doubles in it are,
unless it is nested deeper than any text that is read; no such text is written of anything that was read. -/
structure Settles (α : Type) [JsonForm α] : Prop where
  read (a : α) : ofJson? (toJson a) = some a
  readText (a : α) : (∀ x ∈ (toJson a).doubles, x.Survives) →
    (ofText? (text a) = some a ↔ (toJson a).nesting ≤ Json.maxDepth)
  rewrite {j j' : Json} : rewrite? α j = some j' → rewrite? α j' = some j'
  rewriteText {s : String} {a : α} : ofText? s = some a → (∀ x ∈ (toJson a).doubles, x.Survives) →
    ofText? (text a) = some a ∧ rewriteText? α (text a) = some (text a)

theorem Settles.of_levelled [JsonForm α] [LawfulForm α] [Levelled α room] (enough : room ≤ Json.maxDepth) :
    Settles α where
  read := LawfulForm.read
  readText _ := JsonForm.ofText?_text_iff
  rewrite written := by
    obtain ⟨a, -, rfl⟩ := Option.map_eq_some_iff.mp written
    rw [rewrite?, LawfulForm.read, Option.map_some]
  rewriteText read survive := by
    have again := (JsonForm.ofText?_text_iff survive).mpr (JsonForm.nesting_of_ofText? enough read)
    exact ⟨again, by rw [rewriteText?, again, Option.map_some]⟩

/-- What the chain reports, snapshots of it and configurations survive writing and reading. -/
theorem chainData_settles :
    Settles Chain.Block ∧ Settles Chain.Guarantee ∧ Settles Chain.Collection ∧ Settles Chain.TypedValue ∧
    Settles Chain.Transaction ∧ Settles Chain.TransactionStatus ∧ Settles Chain.Event ∧ Settles Chain.Account ∧
    Settles Chain.AccountKey ∧ Settles Chain.StorageItem ∧ Settles Chain.Snapshot ∧ Settles Config := by
  refine ⟨.of_levelled ?_, .of_levelled ?_, .of_levelled ?_, .of_levelled ?_, .of_levelled ?_, .of_levelled ?_,
    .of_levelled ?_, .of_levelled ?_, .of_levelled ?_, .of_levelled ?_, .of_levelled ?_, .of_levelled ?_⟩
  all_goals decide

/-- A status with an unknown code and an unknown field, before it an event that names a field twice in its data. -/
def looseStatus : String :=
  "\x7b\"events\": [\x7b\"data\": \x7b\"y\": 1, \"x\": -0, \"y\": 1.5\x7d, \"type\": \"t\"\x7d], \"more\": [], \"status\": 9\x7d"

/-- What it is read as. -/
def unknownStatus : Chain.TransactionStatus :=
  let oneAndHalf : Double := ⟨false, ⟨1023, by decide⟩, ⟨2251799813685248, by decide⟩⟩
  let data := Data.ofJson (.object [("x", .number (.double (.zero true))), ("y", .number (.double oneAndHalf))])
  ⟨.unknown, 0, "", [⟨"t", "", "", 0, 0, data⟩]⟩

theorem chainData_settles_looseStatus :
    ofText? looseStatus = some unknownStatus ∧ (∀ x ∈ (toJson unknownStatus).doubles, x.Survives) ∧
    rewriteText? Chain.TransactionStatus (text unknownStatus) = some (text unknownStatus) := by
  obtain ⟨-, -, -, -, -, statuses, -⟩ := chainData_settles
  have read : ofText? looseStatus = some unknownStatus := by decide +kernel
  have survive : ∀ x ∈ (toJson unknownStatus).doubles, x.Survives := by decide +kernel
  exact ⟨read, survive, (statuses.rewriteText read survive).2⟩

/-- A block that is given as a list of its first fields, at a leap second five hours behind. -/
example : rewriteText? Chain.Block "[\"b\", \"a\", 1, \"2016-12-31T18:59:60.25-05:00\"]" =
    some ("\x7b\"id\":\"b\",\"parentId\":\"a\",\"height\":1,\"timestamp\":\"2016-12-31T23:59:60.250Z\"," ++
      "\"collectionGuarantees\":[],\"blockSeals\":[],\"signatures\":[]\x7d") := by
  decide +kernel

end ChainIndex
