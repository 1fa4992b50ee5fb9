import ChainIndex.Proofs.Scalars

/-!
# JSON text is read back

`Json.parse?` inverts `Json.text` on the values that are nested no deeper than the reader goes and
whose doubles are read back from their own digits (`Json.Durable`). A value that is nested deeper is not
read at all (`Json.nesting_of_parse?`, `Json.eq_of_parse?_text`).
-/

set_option autoImplicit false

namespace ChainIndex

open Decimal (isDigit)

namespace Json

/-! ### Values that last -/

mutual

/-- How deep arrays and objects are nested. -/
def nesting : Json → Nat
  | .array items => nestingItems items + 1
  | .object fields => nestingFields fields + 1
  | .null | .bool _ | .number _ | .string _ => 0
termination_by structural j => j

def nestingItems : List Json → Nat
  | [] => 0
  | item :: rest => max item.nesting (nestingItems rest)
termination_by structural l => l

def nestingFields : List (String × Json) → Nat
  | [] => 0
  | field :: rest => max (nestingField field) (nestingFields rest)
termination_by structural l => l

def nestingField : String × Json → Nat
  | (_, value) => value.nesting
termination_by structural f => f

end

mutual

/-- The doubles that occur in a value. -/
def doubles : Json → List Double
  | .number (.double x) => [x]
  | .array items => doublesItems items
  | .object fields => doublesFields fields
  | .null | .bool _ | .number (.natural _) | .number (.negative _) | .string _ => []
termination_by structural j => j

def doublesItems : List Json → List Double
  | [] => []
  | item :: rest => item.doubles ++ doublesItems rest
termination_by structural l => l

def doublesFields : List (String × Json) → List Double
  | [] => []
  | field :: rest => doublesField field ++ doublesFields rest
termination_by structural l => l

def doublesField : String × Json → List Double
  | (_, value) => value.doubles
termination_by structural f => f

end

theorem nestingItems_le {depth : Nat} {items : List Json} :
    nestingItems items ≤ depth ↔ ∀ j ∈ items, j.nesting ≤ depth := by
  induction items with
  | nil => simp [nestingItems]
  | cons item rest ih => rw [nestingItems, Nat.max_le, ih, List.forall_mem_cons]

theorem nestingFields_le {depth : Nat} {fields : List (String × Json)} :
    nestingFields fields ≤ depth ↔ ∀ f ∈ fields, f.2.nesting ≤ depth := by
  induction fields with
  | nil => simp [nestingFields]
  | cons field rest ih =>
    obtain ⟨name, value⟩ := field
    rw [nestingFields, nestingField, Nat.max_le, ih, List.forall_mem_cons]

theorem mem_doublesItems {items : List Json} {x : Double} :
    x ∈ doublesItems items ↔ ∃ j ∈ items, x ∈ j.doubles := by
  induction items with
  | nil => simp [doublesItems]
  | cons item rest ih => simp [doublesItems, ih]

theorem mem_doublesFields {fields : List (String × Json)} {x : Double} :
    x ∈ doublesFields fields ↔ ∃ f ∈ fields, x ∈ f.2.doubles := by
  induction fields with
  | nil => simp [doublesFields]
  | cons field rest ih =>
    obtain ⟨name, value⟩ := field
    simp [doublesFields, doublesField, ih]

end Json

/-- The double is read back from the digits it is written with. -/
def Double.Survives (x : Double) : Prop := Json.number? x.chars = some (.double x, [])

instance (x : Double) : Decidable x.Survives := inferInstanceAs (Decidable (_ = _))

namespace Json

/-- A value that is nested at most `depth` deep and all of whose doubles are read back. -/
structure Durable (depth : Nat) (j : Json) : Prop where
  shallow : j.nesting ≤ depth
  survive : ∀ x ∈ j.doubles, x.Survives

namespace Durable
variable {depth : Nat}

@[simp] theorem null : Durable depth .null := ⟨Nat.zero_le _, nofun⟩

@[simp] theorem bool (b : Bool) : Durable depth (.bool b) := ⟨Nat.zero_le _, nofun⟩

@[simp] theorem string (s : String) : Durable depth (.string s) := ⟨Nat.zero_le _, nofun⟩

@[simp] theorem natural (n : UInt64) : Durable depth (.number (.natural n)) := ⟨Nat.zero_le _, nofun⟩

@[simp] theorem array_iff {items : List Json} :
    Durable depth (.array items) ↔ 0 < depth ∧ ∀ j ∈ items, j.Durable (depth - 1) := by
  constructor
  · rintro ⟨nest, doubles⟩
    rw [nesting] at nest
    have within := nestingItems_le.mp (Nat.le_sub_one_of_lt nest)
    exact ⟨by omega, fun j hj => ⟨within j hj, fun x hx => doubles x (mem_doublesItems.mpr ⟨j, hj, hx⟩)⟩⟩
  · rintro ⟨room, each⟩
    refine ⟨?_, fun x hx => ?_⟩
    · have := nestingItems_le.mpr fun j hj => (each j hj).shallow
      rw [nesting]
      omega
    · obtain ⟨j, hj, hx⟩ := mem_doublesItems.mp hx
      exact (each j hj).survive x hx

@[simp] theorem object_iff {fields : List (String × Json)} :
    Durable depth (.object fields) ↔ 0 < depth ∧ ∀ f ∈ fields, f.2.Durable (depth - 1) := by
  constructor
  · rintro ⟨nest, doubles⟩
    rw [nesting] at nest
    have within := nestingFields_le.mp (Nat.le_sub_one_of_lt nest)
    exact ⟨by omega, fun f hf => ⟨within f hf, fun x hx => doubles x (mem_doublesFields.mpr ⟨f, hf, hx⟩)⟩⟩
  · rintro ⟨room, each⟩
    refine ⟨?_, fun x hx => ?_⟩
    · have := nestingFields_le.mpr fun f hf => (each f hf).shallow
      rw [nesting]
      omega
    · obtain ⟨f, hf, hx⟩ := mem_doublesFields.mp hx
      exact (each f hf).survive x hx

end Durable

theorem number?_chars (n : Number) (h : ∀ x ∈ (Json.number n).doubles, x.Survives) :
    number? n.chars = some (n, []) := by
  cases n with
  | natural n => exact number?_natural n
  | negative n => exact number?_negative n
  | double x => exact h x (by simp [Json.doubles])

/-! ### Reading a value one step at a time -/

section

variable {fuel depth : Nat} {text more : List Char}

/-- A character that a value may begin with: it is no blank and closes nothing. -/
def Opens (c : Char) : Prop := isBlank c = false ∧ c ≠ ']' ∧ c ≠ '\x7d'

instance (c : Char) : Decidable (Opens c) := inferInstanceAs (Decidable (_ ∧ _ ∧ _))

theorem opens_of_number {c : Char} (h : c = '-' ∨ isDigit c = true) : Opens c := by
  rcases h with rfl | digit
  · decide
  · have apart : ∀ d ∈ [' ', '\n', '\r', '\t', ']', '\x7d'], c ≠ d := by
      rintro d hd rfl
      simp only [List.mem_cons, List.not_mem_nil, or_false] at hd
      rcases hd with rfl | rfl | rfl | rfl | rfl | rfl <;> simp [isDigit] at digit
    simp only [List.forall_mem_cons] at apart
    simp [Opens, isBlank, apart]

theorem skipBlanks_of_not_blank {c : Char} (h : isBlank c = false) (text : List Char) :
    skipBlanks (c :: text) = c :: text := by
  rw [skipBlanks, List.dropWhile_cons_of_neg (by simp [h])]

theorem value?_of_number? {n : Number} (h : number? text = some (n, more)) :
    value? (fuel + 1) depth text = some (.number n, more) := by
  obtain ⟨c, tail, rfl, start⟩ := start_of_number? h
  rw [value?, skipBlanks_of_not_blank (opens_of_number start).1]
  split
  iterate 6
    · next e =>
      cases e
      simp [isDigit] at start
  · rw [h]
    rfl

theorem value?_of_stringBody? {s : List Char} (h : stringBody? text = some (s, more)) :
    value? (fuel + 1) depth ('"' :: text) = some (.string (String.ofList s), more) := by
  rw [value?, skipBlanks_of_not_blank rfl]
  simp [h]

theorem value?_of_items? {c : Char} (opens : Opens c) {items : List Json}
    (h : items? fuel depth (c :: text) = some (items, more)) :
    value? (fuel + 1) (depth + 1) ('[' :: c :: text) = some (.array items, more) := by
  rw [value?, skipBlanks_of_not_blank rfl]
  simp [skipBlanks_of_not_blank opens.1, h, opens.2.1]

theorem value?_of_fields? {fields : List (String × Json)}
    (h : fields? fuel depth ('"' :: text) = some (fields, more)) :
    value? (fuel + 1) (depth + 1) ('\x7b' :: '"' :: text) = some (.object fields, more) := by
  have quote : skipBlanks ('"' :: text) = '"' :: text := skipBlanks_of_not_blank rfl text
  rw [value?, skipBlanks_of_not_blank rfl]
  simp [quote, h]

theorem items?_last {item : Json} (h : value? fuel depth text = some (item, ']' :: more)) :
    items? (fuel + 1) depth text = some ([item], more) := by
  rw [items?, h]
  simp [skipBlanks_of_not_blank (c := ']') rfl]

theorem items?_more {item : Json} {items : List Json} {rest : List Char}
    (h : value? fuel depth text = some (item, ',' :: rest)) (g : items? fuel depth rest = some (items, more)) :
    items? (fuel + 1) depth text = some (item :: items, more) := by
  rw [items?, h]
  simp [skipBlanks_of_not_blank (c := ',') rfl, g]

variable {name : String} {value : Json} {rest : List Char}

theorem fields?_last (h : stringBody? text = some (name.toList, ':' :: rest))
    (g : value? fuel depth rest = some (value, '\x7d' :: more)) :
    fields? (fuel + 1) depth ('"' :: text) = some ([(name, value)], more) := by
  rw [fields?, skipBlanks_of_not_blank rfl]
  simp [h, skipBlanks_of_not_blank (c := ':') rfl, g, skipBlanks_of_not_blank (c := '\x7d') rfl]

theorem fields?_more {fields : List (String × Json)} {later : List Char}
    (h : stringBody? text = some (name.toList, ':' :: rest))
    (g : value? fuel depth rest = some (value, ',' :: later))
    (ih : fields? fuel depth later = some (fields, more)) :
    fields? (fuel + 1) depth ('"' :: text) = some ((name, value) :: fields, more) := by
  rw [fields?, skipBlanks_of_not_blank rfl]
  simp [h, skipBlanks_of_not_blank (c := ':') rfl, g, skipBlanks_of_not_blank (c := ',') rfl, ih]

end

/-! ### Reading what was written -/

/-- A value that is written begins like one. -/
theorem opens_chars (j : Json) (h : ∀ x ∈ j.doubles, x.Survives) : ∃ c tail, j.chars = c :: tail ∧ Opens c := by
  cases j with
  | null => exact ⟨_, _, rfl, by decide⟩
  | bool b => cases b <;> exact ⟨_, _, rfl, by decide⟩
  | number n =>
    obtain ⟨c, tail, e, start⟩ := start_of_number? (number?_chars n h)
    exact ⟨c, tail, by rw [chars, e], opens_of_number start⟩
  | string s => exact ⟨_, _, rfl, by decide⟩
  | array items => exact ⟨_, _, rfl, by decide⟩
  | object fields => exact ⟨_, _, rfl, by decide⟩

theorem moreItemsChars_cons (item : Json) (rest : List Json) :
    moreItemsChars (item :: rest) = ',' :: itemsChars (item :: rest) := rfl

theorem moreFieldsChars_cons (field : String × Json) (rest : List (String × Json)) :
    moreFieldsChars (field :: rest) = ',' :: fieldsChars (field :: rest) := rfl

/-- The text of a field, cut where the reader of a field goes from one part to the next. -/
theorem fieldChars_append (name : String) (value : Json) (rest : List Char) :
    fieldChars (name, value) ++ rest
      = '"' :: (name.toList.flatMap escapeChar ++ '"' :: ':' :: (value.chars ++ rest)) := by
  simp [fieldChars, stringChars]

mutual

/-- The fuel bounds the characters that are left: each of the three readers passes on less of both. -/
theorem value?_chars : (j : Json) → (fuel depth : Nat) → (rest : List Char) → j.chars.length ≤ fuel →
    j.Durable depth → Ends rest → value? fuel depth (j.chars ++ rest) = some (j, rest)
  | j, 0, _, _, enough, durable, _ => by
    obtain ⟨c, tail, e, -⟩ := opens_chars j durable.survive
    simp [e] at enough
  | .null, fuel + 1, _, _, _, _, _ => by
    rw [value?, chars]
    rfl
  | .bool b, fuel + 1, _, _, _, _, _ => by
    cases b <;> rw [value?, chars] <;> rfl
  | .number n, fuel + 1, _, rest, _, durable, ends =>
    value?_of_number? (local_number? _ _ _ _ ends (number?_chars n durable.survive))
  | .string s, fuel + 1, depth, rest, _, _, _ => by
    have read : value? (fuel + 1) depth _ = _ := value?_of_stringBody? (stringBody?_escaped s.toList rest)
    rw [String.ofList_toList] at read
    simpa [chars, stringChars] using read
  | .array [], fuel + 1, depth, rest, _, durable, _ => by
    obtain ⟨depth, rfl⟩ := Nat.exists_eq_add_one.mpr (Durable.array_iff.mp durable).1
    rw [value?, chars]
    rfl
  | .array (item :: items), fuel + 1, depth, rest, enough, durable, _ => by
    obtain ⟨room, each⟩ := Durable.array_iff.mp durable
    obtain ⟨depth, rfl⟩ := Nat.exists_eq_add_one.mpr room
    have read := items?_chars (item :: items) fuel depth rest (by simp)
      (by simp [chars] at enough; omega) each
    obtain ⟨c, tail, e, opens⟩ := opens_chars item (each item List.mem_cons_self).survive
    simp only [itemsChars, e, List.cons_append, List.append_assoc] at read
    have := value?_of_items? opens read
    simpa [chars, itemsChars, e] using this
  | .object [], fuel + 1, depth, rest, _, durable, _ => by
    obtain ⟨depth, rfl⟩ := Nat.exists_eq_add_one.mpr (Durable.object_iff.mp durable).1
    rw [value?, chars]
    rfl
  | .object ((name, value) :: fields), fuel + 1, depth, rest, enough, durable, _ => by
    obtain ⟨room, each⟩ := Durable.object_iff.mp durable
    obtain ⟨depth, rfl⟩ := Nat.exists_eq_add_one.mpr room
    have read := fields?_chars ((name, value) :: fields) fuel depth rest (by simp)
      (by simp [chars] at enough; omega) each
    simp only [fieldsChars, fieldChars_append] at read
    have := value?_of_fields? read
    simpa [chars, fieldsChars, fieldChars_append] using this
termination_by structural j => j

theorem items?_chars : (items : List Json) → (fuel depth : Nat) → (rest : List Char) → items ≠ [] →
    (itemsChars items).length < fuel → (∀ j ∈ items, j.Durable depth) →
    items? fuel depth (itemsChars items ++ ']' :: rest) = some (items, rest)
  | [], _, _, _, nonempty, _, _ => absurd rfl nonempty
  | _ :: _, 0, _, _, _, enough, _ => by omega
  | [item], fuel + 1, depth, rest, _, enough, each => by
    rw [itemsChars, moreItemsChars, List.append_nil] at enough ⊢
    exact items?_last (value?_chars item fuel depth _ (by omega) (each item (by simp)) (.bracket rest))
  | item :: next :: items, fuel + 1, depth, rest, _, enough, each => by
    rw [itemsChars, moreItemsChars_cons, List.length_append, List.length_cons] at enough
    rw [itemsChars, moreItemsChars_cons, List.append_assoc, List.cons_append]
    exact items?_more (value?_chars item fuel depth _ (by omega) (each item (by simp)) (.comma _))
      (items?_chars (next :: items) fuel depth rest (by simp) (by omega)
        fun j hj => each j (List.mem_cons_of_mem _ hj))
termination_by structural items => items

theorem fields?_chars : (fields : List (String × Json)) → (fuel depth : Nat) → (rest : List Char) →
    fields ≠ [] → (fieldsChars fields).length < fuel → (∀ f ∈ fields, f.2.Durable depth) →
    fields? fuel depth (fieldsChars fields ++ '\x7d' :: rest) = some (fields, rest)
  | [], _, _, _, nonempty, _, _ => absurd rfl nonempty
  | _ :: _, 0, _, _, _, enough, _ => by omega
  | [(name, value)], fuel + 1, depth, rest, _, enough, each => by
    rw [fieldsChars, moreFieldsChars, List.append_nil, fieldChars] at enough
    rw [fieldsChars, moreFieldsChars, List.append_nil, fieldChars_append]
    simp only [List.length_append, List.length_cons] at enough
    exact fields?_last (stringBody?_escaped _ _)
      (value?_chars value fuel depth _ (by omega) (each _ List.mem_cons_self) (.brace rest))
  | (name, value) :: next :: fields, fuel + 1, depth, rest, _, enough, each => by
    rw [fieldsChars, moreFieldsChars_cons, fieldChars] at enough
    rw [fieldsChars, moreFieldsChars_cons, List.append_assoc, fieldChars_append, List.cons_append]
    simp only [List.length_append, List.length_cons] at enough
    exact fields?_more (stringBody?_escaped _ _)
      (value?_chars value fuel depth _ (by omega) (each _ List.mem_cons_self) (.comma _))
      (fields?_chars (next :: fields) fuel depth rest (by simp) (by omega)
        fun f hf => each f (List.mem_cons_of_mem _ hf))
termination_by structural fields => fields

end

/-- A value that lasts is what its text is read as. -/
theorem parse?_text {j : Json} (durable : j.Durable maxDepth) : parse? j.text = some j := by
  have read := value?_chars j (2 * j.chars.length + 2) maxDepth [] (by omega) durable .nil
  rw [List.append_nil] at read
  simp [parse?, text, read, skipBlanks]

/-! ### How deep a text is read -/

section
variable {fuel depth : Nat} {text rest : List Char}
  (values : ∀ depth text j rest, value? fuel depth text = some (j, rest) → j.nesting ≤ depth)
  (lists : ∀ depth text items rest, items? fuel depth text = some (items, rest) → ∀ j ∈ items, j.nesting ≤ depth)
  (objects : ∀ depth text fields rest, fields? fuel depth text = some (fields, rest) →
    ∀ f ∈ fields, f.2.nesting ≤ depth)

include lists objects in
theorem nesting_value? {j : Json} (h : value? (fuel + 1) depth text = some (j, rest)) : j.nesting ≤ depth := by
  rw [value?] at h
  split at h
  · cases h; simp [nesting]
  · cases h; simp [nesting]
  · cases h; simp [nesting]
  · obtain ⟨_, _, e⟩ := Option.map_eq_some_iff.mp h
    cases e; simp [nesting]
  · split at h
    · cases h
    · split at h
      · cases h; simp [nesting, nestingItems]
      · obtain ⟨⟨items, _⟩, read, e⟩ := Option.map_eq_some_iff.mp h
        cases e
        rw [nesting]
        exact Nat.succ_le_succ (nestingItems_le.mpr (lists _ _ _ _ read))
  · split at h
    · cases h
    · split at h
      · cases h; simp [nesting, nestingFields]
      · obtain ⟨⟨fields, _⟩, read, e⟩ := Option.map_eq_some_iff.mp h
        cases e
        rw [nesting]
        exact Nat.succ_le_succ (nestingFields_le.mpr (objects _ _ _ _ read))
  · obtain ⟨_, _, e⟩ := Option.map_eq_some_iff.mp h
    cases e; simp [nesting]

include values lists in
theorem nesting_items? {items : List Json} (h : items? (fuel + 1) depth text = some (items, rest)) :
    ∀ j ∈ items, j.nesting ≤ depth := by
  rw [items?] at h
  split at h
  · cases h
  · next item _ read =>
    have first := values _ _ _ _ read
    split at h
    · obtain ⟨⟨more, _⟩, later, e⟩ := Option.map_eq_some_iff.mp h
      cases e
      exact List.forall_mem_cons.mpr ⟨first, lists _ _ _ _ later⟩
    · cases h
      simpa using first
    · cases h

include values objects in
theorem nesting_fields? {fields : List (String × Json)} (h : fields? (fuel + 1) depth text = some (fields, rest)) :
    ∀ f ∈ fields, f.2.nesting ≤ depth := by
  rw [fields?] at h
  split at h
  · split at h
    · cases h
    · split at h
      · split at h
        · cases h
        · next read =>
          have first := values _ _ _ _ read
          split at h
          · obtain ⟨⟨more, _⟩, later, e⟩ := Option.map_eq_some_iff.mp h
            cases e
            exact List.forall_mem_cons.mpr ⟨first, objects _ _ _ _ later⟩
          · cases h
            simpa using first
          · cases h
      · cases h
  · cases h

end

/-- What is read at a depth is nested no deeper. -/
theorem nesting_le (fuel : Nat) :
    (∀ depth text j rest, value? fuel depth text = some (j, rest) → j.nesting ≤ depth) ∧
    (∀ depth text items rest, items? fuel depth text = some (items, rest) →
      ∀ j ∈ items, j.nesting ≤ depth) ∧
    (∀ depth text fields rest, fields? fuel depth text = some (fields, rest) →
      ∀ f ∈ fields, f.2.nesting ≤ depth) := by
  induction fuel with
  | zero => simp [value?, items?, fields?]
  | succ fuel ih =>
    obtain ⟨values, lists, objects⟩ := ih
    exact ⟨fun _ _ _ _ => nesting_value? lists objects, fun _ _ _ _ => nesting_items? values lists,
      fun _ _ _ _ => nesting_fields? values objects⟩

theorem nesting_of_parse? {text : String} {j : Json} (h : parse? text = some j) : j.nesting ≤ maxDepth := by
  simp only [parse?] at h
  split at h
  · next read =>
    split at h
    · cases h
      exact (nesting_le _).1 _ _ _ _ read
    · cases h
  · cases h

section
variable {fuel depth : Nat} {text : List Char}
  (values : ∀ depth text r, value? fuel depth text = some r → value? fuel (depth + 1) text = some r)
  (lists : ∀ depth text r, items? fuel depth text = some r → items? fuel (depth + 1) text = some r)
  (objects : ∀ depth text r, fields? fuel depth text = some r → fields? fuel (depth + 1) text = some r)

include lists objects in
theorem deeper_value? {r : Json × List Char} (h : value? (fuel + 1) depth text = some r) :
    value? (fuel + 1) (depth + 1) text = some r := by
  rw [value?] at h ⊢
  generalize skipBlanks text = start at h ⊢
  split at h
  · exact h
  · exact h
  · exact h
  · exact h
  · split at h
    · cases h
    · simp only
      split at h
      · exact h
      · obtain ⟨found, read, e⟩ := Option.map_eq_some_iff.mp h
        simp only [lists _ _ _ read, Option.map_some, e]
  · split at h
    · cases h
    · simp only
      split at h
      · exact h
      · obtain ⟨found, read, e⟩ := Option.map_eq_some_iff.mp h
        simp only [objects _ _ _ read, Option.map_some, e]
  · simp_all

include values lists in
theorem deeper_items? {r : List Json × List Char} (h : items? (fuel + 1) depth text = some r) :
    items? (fuel + 1) (depth + 1) text = some r := by
  rw [items?] at h ⊢
  split at h
  · cases h
  · next read =>
    simp only [values _ _ _ read]
    split at h
    · obtain ⟨found, later, e⟩ := Option.map_eq_some_iff.mp h
      simp only [lists _ _ _ later, Option.map_some, e]
    · exact h
    · cases h

include values objects in
theorem deeper_fields? {r : List (String × Json) × List Char} (h : fields? (fuel + 1) depth text = some r) :
    fields? (fuel + 1) (depth + 1) text = some r := by
  rw [fields?] at h ⊢
  split at h
  · simp only
    split at h
    · cases h
    · split at h
      · split at h
        · cases h
        · next read =>
          simp only [values _ _ _ read]
          split at h
          · obtain ⟨found, later, e⟩ := Option.map_eq_some_iff.mp h
            simp only [objects _ _ _ later, Option.map_some, e]
          · exact h
          · cases h
      · cases h
  · cases h

end

/-- What is read at a depth is read the same one deeper. -/
theorem deeper (fuel : Nat) :
    (∀ depth text r, value? fuel depth text = some r → value? fuel (depth + 1) text = some r) ∧
    (∀ depth text r, items? fuel depth text = some r → items? fuel (depth + 1) text = some r) ∧
    (∀ depth text r, fields? fuel depth text = some r → fields? fuel (depth + 1) text = some r) := by
  induction fuel with
  | zero => simp [value?, items?, fields?]
  | succ fuel ih =>
    obtain ⟨values, lists, objects⟩ := ih
    exact ⟨fun _ _ _ => deeper_value? lists objects, fun _ _ _ => deeper_items? values lists,
      fun _ _ _ => deeper_fields? values objects⟩

theorem value?_add {fuel depth : Nat} {text : List Char} {r : Json × List Char} (more : Nat)
    (h : value? fuel depth text = some r) : value? fuel (depth + more) text = some r := by
  induction more with
  | zero => exact h
  | succ more ih => exact (deeper fuel).1 _ _ _ ih

/-- The text of a value is read as no other value. -/
theorem eq_of_parse?_text {j j' : Json} (survive : ∀ x ∈ j.doubles, x.Survives) (h : parse? j.text = some j') :
    j' = j := by
  have deep := value?_chars j (2 * j.chars.length + 2) (maxDepth + j.nesting) [] (by omega) ⟨by omega, survive⟩ .nil
  simp only [parse?, text, String.toList_ofList] at h
  split at h
  · next read =>
    rw [List.append_nil, value?_add j.nesting read] at deep
    split at h
    · cases h
      exact congrArg Prod.fst (Option.some.inj deep)
    · cases h
  · cases h

end Json

end ChainIndex
