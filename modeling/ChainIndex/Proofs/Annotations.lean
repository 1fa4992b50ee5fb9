import ChainIndex.Chain.Argument
import ChainIndex.Proofs.Forms
import Mathlib.Data.List.Forall2

/-!
# Annotations are removed at every depth

A `ValueTree` is the value of an argument as its sender builds it. `ValueTree.annotated` writes it with
the name of a type at every depth, `ValueTree.plain` without one. `Stripped` says what remains of any
value of a type, one rule for each way in which the value can be made up. The decoder turns the annotated
form into the plain one, and every other value into what the rules say.
-/

set_option autoImplicit false

namespace ChainIndex.Chain

/-! ### Values as they are built -/

/-- A value as it is built from others. A leaf holds any data, also data that look like an annotation. -/
inductive ValueTree where
  | leaf (type : String) (value : Data) (scalar : type ≠ "Array" ∧ type ≠ "Dictionary")
  | array (items : List ValueTree)
  | dictionary (entries : List (ValueTree × ValueTree))

def annotate (type : String) (value : Json) : Json := .object [("type", .string type), ("value", value)]

def entryOf (key value : Json) : Json := .object [("key", key), ("value", value)]

namespace ValueTree

theorem sizeOf_of_mem {entries : List (ValueTree × ValueTree)} {entry : ValueTree × ValueTree}
    (h : entry ∈ entries) : sizeOf entry.1 < sizeOf entries ∧ sizeOf entry.2 < sizeOf entries := by
  have inside := List.sizeOf_lt_of_mem h
  rw [Prod.mk.sizeOf_spec] at inside
  omega

/-- The value with the name of a type at every depth. -/
def annotated : ValueTree → Json
  | .leaf type value _ => annotate type value.json
  | .array items => annotate "Array" (.array (items.map annotated))
  | .dictionary entries =>
    annotate "Dictionary" (.array (entries.map fun entry => entryOf entry.1.annotated entry.2.annotated))
decreasing_by
  · have := List.sizeOf_lt_of_mem ‹_ ∈ items›
    simp_wf
    omega
  all_goals
    have := sizeOf_of_mem ‹_ ∈ entries›
    simp_wf
    omega

/-- The value alone. -/
def plain : ValueTree → Json
  | .leaf _ value _ => value.json
  | .array items => .array (items.map plain)
  | .dictionary entries => .array (entries.map fun entry => entryOf entry.1.plain entry.2.plain)
decreasing_by
  · have := List.sizeOf_lt_of_mem ‹_ ∈ items›
    simp_wf
    omega
  all_goals
    have := sizeOf_of_mem ‹_ ∈ entries›
    simp_wf
    omega

end ValueTree

/-! ### What remains of a value -/

mutual

/-- What remains of a value of the given type. -/
inductive Stripped : String → Json → Json → Prop where
  | array {items rest : List Json} (each : List.Forall₂ StrippedElement items rest) :
    Stripped "Array" (.array items) (.array rest)
  | dictionary {entries rest : List Json} (each : List.Forall₂ StrippedEntry entries rest) :
    Stripped "Dictionary" (.array entries) (.array rest)
  -- also an array or a dictionary, if its value is no list
  | noList {type : String} {value : Json} (noList : ∀ items, value ≠ .array items) : Stripped type value value
  | scalar {type : String} {value : Json} (scalar : type ≠ "Array" ∧ type ≠ "Dictionary") :
    Stripped type value value

/-- What remains of a value that may carry the name of its type. -/
inductive StrippedElement : Json → Json → Prop where
  | bare {value : Json} (untyped : ∀ type, value.field? "type" ≠ some (.string type)) :
    StrippedElement value value
  | typed {value inner rest : Json} {type : String} (named : value.field? "type" = some (.string type))
    (found : value.field? "value" = some inner) (stripped : Stripped type inner rest) :
    StrippedElement value rest
  | valueless {value : Json} {type : String} (named : value.field? "type" = some (.string type))
    (absent : value.field? "value" = none) : StrippedElement value .null

/-- What remains of an entry of a dictionary. -/
inductive StrippedEntry : Json → Json → Prop where
  | entry {entry key value : Json} (key_part : StrippedPart entry "key" key)
    (value_part : StrippedPart entry "value" value) : StrippedEntry entry (entryOf key value)

/-- What remains of a part of an entry. -/
inductive StrippedPart : Json → String → Json → Prop where
  | present {entry part rest : Json} {name : String} (found : entry.field? name = some part)
    (stripped : StrippedElement part rest) : StrippedPart entry name rest
  | absent {entry : Json} {name : String} (absent : entry.field? name = none) : StrippedPart entry name .null

end

/-! ### The decoder on each kind of value -/

theorem decodeElements_eq_map (items : List Json) : decodeElements items = items.map decodeAnnotated := by
  induction items with
  | nil => rw [decodeElements, List.map_nil]
  | cons item rest ih => rw [decodeElements, ih, List.map_cons]

def decodeEntry (entry : Json) : Json :=
  entryOf (decodeAnnotated (entry.fieldOrNull "key")) (decodeAnnotated (entry.fieldOrNull "value"))

theorem decodeEntries_eq_map (entries : List Json) : decodeEntries entries = entries.map decodeEntry := by
  induction entries with
  | nil => rw [decodeEntries, List.map_nil]
  | cons entry rest ih => rw [decodeEntries, ih, List.map_cons, decodeEntry, entryOf]

theorem decodeTyped_array (items : List Json) :
    decodeTyped "Array" (.array items) = .array (items.map decodeAnnotated) := by
  rw [decodeTyped, if_neg (by decide), if_pos rfl, decodeElements_eq_map]

theorem decodeTyped_dictionary (entries : List Json) :
    decodeTyped "Dictionary" (.array entries) = .array (entries.map decodeEntry) := by
  rw [decodeTyped, if_pos rfl, decodeEntries_eq_map]

theorem decodeTyped_of_noList {value : Json} (noList : ∀ items, value ≠ .array items) (type : String) :
    decodeTyped type value = value := by
  unfold decodeTyped
  split
  · exact absurd rfl (noList _)
  · rfl

theorem decodeTyped_of_scalar {type : String} (scalar : type ≠ "Array" ∧ type ≠ "Dictionary") (value : Json) :
    decodeTyped type value = value := by
  unfold decodeTyped
  split
  · rw [if_neg scalar.2, if_neg scalar.1]
  · rfl

theorem decodeAnnotated_of_named {value : Json} {type : String} (named : value.field? "type" = some (.string type)) :
    decodeAnnotated value = decodeTyped type (value.fieldOrNull "value") := by
  rw [decodeAnnotated]
  split
  · next other found =>
    cases named.symm.trans found
    rfl
  · next no => exact absurd named (no type)

theorem decodeAnnotated_of_untyped {value : Json} (untyped : ∀ type, value.field? "type" ≠ some (.string type)) :
    decodeAnnotated value = value := by
  rw [decodeAnnotated]
  split
  · next type found => exact absurd found (untyped type)
  · rfl

theorem decodeTyped_null (type : String) : decodeTyped type .null = .null :=
  decodeTyped_of_noList (by simp) type

theorem decodeAnnotated_null : decodeAnnotated .null = .null :=
  decodeAnnotated_of_untyped (by simp [Json.field?])

theorem decodeAnnotated_annotate (type : String) (value : Json) :
    decodeAnnotated (annotate type value) = decodeTyped type value :=
  decodeAnnotated_of_named rfl

theorem decodeEntry_entryOf (key value : Json) :
    decodeEntry (entryOf key value) = entryOf (decodeAnnotated key) (decodeAnnotated value) := rfl

/-! ### Values as they are built are decoded to themselves -/

theorem normal_pair {a b : String} {x y : Json} (before : Key.before a b = true) (hx : x.Normal) (hy : y.Normal) :
    (Json.object [(a, x), (b, y)]).Normal := by
  rw [Json.Normal, Json.normalFields_iff]
  simp [before, hx, hy]

theorem normal_annotate (type : String) {value : Json} (h : value.Normal) : (annotate type value).Normal :=
  normal_pair (by decide) (by simp [Json.Normal]) h

theorem normal_map {α : Type} {l : List α} {f : α → Json} (h : ∀ a ∈ l, (f a).Normal) :
    (Json.array (l.map f)).Normal := by
  rw [Json.Normal, Json.normalItems_iff]
  simpa using h

namespace ValueTree

theorem normal_annotated (t : ValueTree) : t.annotated.Normal := by
  induction t using plain.induct with
  | case1 type value scalar =>
    rw [annotated]
    exact normal_annotate type value.normal
  | case2 items each =>
    rw [annotated]
    exact normal_annotate _ (normal_map each)
  | case3 entries keys values =>
    rw [annotated]
    exact normal_annotate _ (normal_map fun entry h => normal_pair (by decide) (keys entry h) (values entry h))

theorem decodeAnnotated_annotated (t : ValueTree) : decodeAnnotated t.annotated = t.plain := by
  induction t using plain.induct with
  | case1 type value scalar => rw [annotated, decodeAnnotated_annotate, decodeTyped_of_scalar scalar, plain]
  | case2 items each =>
    rw [annotated, decodeAnnotated_annotate, decodeTyped_array, plain, List.map_map]
    exact congrArg Json.array (List.map_congr_left each)
  | case3 entries keys values =>
    rw [annotated, decodeAnnotated_annotate, decodeTyped_dictionary, plain, List.map_map]
    refine congrArg Json.array (List.map_congr_left fun entry h => ?_)
    rw [Function.comp_apply, decodeEntry_entryOf, keys entry h, values entry h]

/-- Data that look like an annotation stay as they are. -/
example : decodeAnnotated (annotate "Array" (.array [annotate "Path" (annotate "UInt8" (.string "1")),
    .string "2"])) = .array [annotate "UInt8" (.string "1"), .string "2"] := by
  cbv

/-- At its top a value is the annotation of some inner value. -/
theorem annotated_eq_annotate (t : ValueTree) : ∃ type value, t.annotated = annotate type value := by
  cases t <;> exact ⟨_, _, by rw [annotated]⟩

/-- An annotated value is read as an argument, and decoding the argument gives the value alone. -/
theorem read_annotated (t : ValueTree) :
    ∃ v : TypedValue, ofJson? t.annotated = some v ∧ v.decode.json = t.plain := by
  obtain ⟨type, value, form⟩ := t.annotated_eq_annotate
  have normal : value.Normal := by
    have whole := t.normal_annotated
    rw [form] at whole
    have found : (annotate type value).field? "value" = some value := rfl
    exact whole.field? found
  let v : TypedValue := ⟨type, value, normal⟩
  have read : ofJson? (annotate type value) = some v := LawfulForm.read v
  have decoded : decodeTyped type value = t.plain := by
    rw [← decodeAnnotated_annotate, ← form, t.decodeAnnotated_annotated]
  exact ⟨v, form ▸ read, decoded⟩

end ValueTree

/-! ### Any value is decoded to what remains of it -/

theorem map_eq_iff_forall₂ {α β : Type} {f : α → β} {R : α → β → Prop} {l : List α}
    (each : ∀ a ∈ l, ∀ b, f a = b ↔ R a b) (rest : List β) : l.map f = rest ↔ List.Forall₂ R l rest := by
  induction l generalizing rest with
  | nil => cases rest <;> simp
  | cons a l ih =>
    cases rest with
    | nil => simp
    | cons b rest =>
      rw [List.map_cons, List.cons.injEq, List.forall₂_cons, each a (List.mem_cons_self ..),
        ih (fun a h => each a (List.mem_cons_of_mem _ h))]

/-- The decoder gives what remains of a part if it gives what remains of any value that is no larger. -/
theorem decodePart_eq_iff {entry : Json} {name : String}
    (each : ∀ part rest, entry.field? name = some part → (decodeAnnotated part = rest ↔ StrippedElement part rest))
    (rest : Json) : decodeAnnotated (entry.fieldOrNull name) = rest ↔ StrippedPart entry name rest := by
  rw [Json.fieldOrNull]
  cases found : entry.field? name with
  | some part =>
    rw [Option.getD_some, each part rest found]
    refine ⟨.present found, fun h => ?_⟩
    cases h with
    | present other stripped => exact (Option.some.inj (found.symm.trans other)) ▸ stripped
    | absent no => exact absurd (found.symm.trans no) nofun
  | none =>
    rw [Option.getD_none, decodeAnnotated_null]
    constructor
    · rintro rfl
      exact .absent found
    · intro h
      cases h with
      | present other => exact absurd (found.symm.trans other) nofun
      | absent => rfl

theorem decodeEntry_eq_iff (entry : Json)
    (each : ∀ name part rest, entry.field? name = some part → (decodeAnnotated part = rest ↔ StrippedElement part rest))
    (rest : Json) : decodeEntry entry = rest ↔ StrippedEntry entry rest := by
  have key := decodePart_eq_iff (each "key")
  have value := decodePart_eq_iff (each "value")
  constructor
  · rintro rfl
    exact .entry ((key _).mp rfl) ((value _).mp rfl)
  · rintro ⟨key_part, value_part⟩
    rw [decodeEntry, (key _).mpr key_part, (value _).mpr value_part]

theorem sizeOf_of_field? {j part : Json} {name : String} (found : j.field? name = some part) :
    sizeOf part < sizeOf j := by
  have := Json.sizeOf_fieldOrNull_lt found name
  rwa [Json.fieldOrNull, found] at this

/-! ### The rules read backwards -/

theorem stripped_array_iff {items : List Json} {rest : Json} :
    Stripped "Array" (.array items) rest ↔ ∃ each, List.Forall₂ StrippedElement items each ∧ .array each = rest := by
  constructor
  · generalize name : "Array" = type
    intro h
    cases h with
    | array each => exact ⟨_, each, rfl⟩
    | dictionary => exact absurd name (by decide)
    | noList noList => exact absurd rfl (noList items)
    | scalar scalar => exact absurd name.symm scalar.1
  · rintro ⟨each, stripped, rfl⟩
    exact .array stripped

theorem stripped_dictionary_iff {entries : List Json} {rest : Json} :
    Stripped "Dictionary" (.array entries) rest ↔
      ∃ each, List.Forall₂ StrippedEntry entries each ∧ .array each = rest := by
  constructor
  · generalize name : "Dictionary" = type
    intro h
    cases h with
    | array => exact absurd name (by decide)
    | dictionary each => exact ⟨_, each, rfl⟩
    | noList noList => exact absurd rfl (noList entries)
    | scalar scalar => exact absurd name.symm scalar.2
  · rintro ⟨each, stripped, rfl⟩
    exact .dictionary stripped

theorem stripped_noList_iff {type : String} {value rest : Json} (noList : ∀ items, value ≠ .array items) :
    Stripped type value rest ↔ value = rest := by
  constructor
  · intro h
    cases h with
    | array | dictionary => exact absurd rfl (noList _)
    | noList | scalar => rfl
  · rintro rfl
    exact .noList noList

theorem stripped_scalar_iff {type : String} {value rest : Json} (scalar : type ≠ "Array" ∧ type ≠ "Dictionary") :
    Stripped type value rest ↔ value = rest := by
  constructor
  · intro h
    cases h with
    | array => exact absurd rfl scalar.1
    | dictionary => exact absurd rfl scalar.2
    | noList | scalar => rfl
  · rintro rfl
    exact .scalar scalar

theorem strippedElement_untyped_iff {value rest : Json}
    (untyped : ∀ type, value.field? "type" ≠ some (.string type)) : StrippedElement value rest ↔ value = rest := by
  constructor
  · intro h
    cases h with
    | bare => rfl
    | typed named _ _ => exact absurd named (untyped _)
    | valueless named _ => exact absurd named (untyped _)
  · rintro rfl
    exact .bare untyped

theorem strippedElement_typed_iff {value inner rest : Json} {type : String}
    (named : value.field? "type" = some (.string type)) (found : value.field? "value" = some inner) :
    StrippedElement value rest ↔ Stripped type inner rest := by
  refine ⟨fun h => ?_, .typed named found⟩
  cases h with
  | bare untyped => exact absurd named (untyped type)
  | typed named' found' stripped =>
    cases named.symm.trans named'
    cases found.symm.trans found'
    exact stripped
  | valueless _ absent => exact absurd (found.symm.trans absent) nofun

theorem strippedElement_valueless_iff {value rest : Json} {type : String}
    (named : value.field? "type" = some (.string type)) (absent : value.field? "value" = none) :
    StrippedElement value rest ↔ .null = rest := by
  constructor
  · intro h
    cases h with
    | bare untyped => exact absurd named (untyped type)
    | typed _ found _ => exact absurd (absent.symm.trans found) nofun
    | valueless => rfl
  · rintro rfl
    exact .valueless named absent

mutual

theorem decodeTyped_eq_iff (type : String) (value rest : Json) :
    decodeTyped type value = rest ↔ Stripped type value rest := by
  by_cases list : ∃ items, value = .array items
  · obtain ⟨items, list⟩ := list
    have elements := map_eq_iff_forall₂ (l := items) fun item _ => decodeAnnotated_eq_iff item
    have entries := map_eq_iff_forall₂ (l := items) fun entry _ =>
      decodeEntry_eq_iff entry fun name part rest found => decodeAnnotated_eq_iff part rest
    rw [list]
    by_cases array : type = "Array"
    · rw [array, decodeTyped_array, stripped_array_iff]
      simp only [← elements, exists_eq_left']
    by_cases dictionary : type = "Dictionary"
    · rw [dictionary, decodeTyped_dictionary, stripped_dictionary_iff]
      simp only [← entries, exists_eq_left']
    · rw [decodeTyped_of_scalar ⟨array, dictionary⟩, stripped_scalar_iff ⟨array, dictionary⟩]
  · have noList : ∀ items, value ≠ .array items := fun items h => list ⟨items, h⟩
    rw [decodeTyped_of_noList noList, stripped_noList_iff noList]
termination_by (sizeOf value, 0)
decreasing_by
  · have := List.sizeOf_lt_of_mem ‹item ∈ items›
    simp only [list, Json.array.sizeOf_spec]
    omega
  · have := List.sizeOf_lt_of_mem ‹entry ∈ items›
    have := sizeOf_of_field? found
    simp only [list, Json.array.sizeOf_spec]
    omega

theorem decodeAnnotated_eq_iff (value rest : Json) : decodeAnnotated value = rest ↔ StrippedElement value rest := by
  by_cases typed : ∃ type, value.field? "type" = some (.string type)
  · obtain ⟨type, named⟩ := typed
    rw [decodeAnnotated_of_named named, Json.fieldOrNull]
    cases found : value.field? "value" with
    | some inner =>
      rw [Option.getD_some, strippedElement_typed_iff named found]
      exact decodeTyped_eq_iff type inner rest
    | none =>
      rw [Option.getD_none, decodeTyped_null, strippedElement_valueless_iff named found]
  · have untyped : ∀ type, value.field? "type" ≠ some (.string type) := fun type h => typed ⟨type, h⟩
    rw [decodeAnnotated_of_untyped untyped, strippedElement_untyped_iff untyped]
termination_by (sizeOf value, 1)
decreasing_by
  have := sizeOf_of_field? found
  omega

end

/-- Decoding an argument removes the annotations at every depth and nothing else: an annotated tree of
    values becomes the tree alone, and any argument becomes what remains of its value, whose parts are
    what remains of the parts in their order. -/
theorem decode_strips_annotations :
    (∀ t : ValueTree, ∃ v : TypedValue, ofJson? t.annotated = some v ∧ v.decode.json = t.plain) ∧
      ∀ (v : TypedValue) (rest : Json), v.decode.json = rest ↔ Stripped v.type v.value.json rest :=
  ⟨ValueTree.read_annotated, fun v rest => decodeTyped_eq_iff v.type v.value.json rest⟩

end ChainIndex.Chain
