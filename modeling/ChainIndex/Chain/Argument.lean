import ChainIndex.Chain.Transaction

/-!
# Arguments without type annotations

A transaction's argument comes with the name of its type at every depth: `{type, value}`, where the
value of an array is a list of annotated elements and the value of a dictionary a list of entries
`{key, value}` with both parts annotated. `decodeTyped` keeps the values and drops the annotations.
-/

set_option autoImplicit false

namespace ChainIndex

/-- The value of a field, or null where there is none. -/
def Json.fieldOrNull (j : Json) (name : String) : Json := (j.field? name).getD .null

theorem Json.sizeOf_of_lookup {name : String} {value : Json} {fields : List (String × Json)}
    (h : Json.lookup name fields = some value) : sizeOf value < sizeOf fields := by
  have inside := List.sizeOf_lt_of_mem (Json.mem_of_lookup h)
  simp at inside
  omega

theorem Json.sizeOf_fieldOrNull_le (j : Json) (name : String) : sizeOf (j.fieldOrNull name) ≤ sizeOf j := by
  unfold Json.fieldOrNull Json.field?
  split
  · next fields =>
    cases h : Json.lookup name fields with
    | none => simp
    | some value =>
      have := Json.sizeOf_of_lookup h
      simp
      omega
  · cases j <;> simp

theorem Json.sizeOf_fieldOrNull_lt {j value : Json} {other : String} (h : j.field? other = some value)
    (name : String) : sizeOf (j.fieldOrNull name) < sizeOf j := by
  unfold Json.field? at h
  split at h
  · next fields =>
    have here := Json.sizeOf_of_lookup h
    unfold Json.fieldOrNull Json.field?
    cases g : Json.lookup name fields with
    | none =>
      simp only [g, Option.getD_none, Json.null.sizeOf_spec, Json.object.sizeOf_spec]
      omega
    | some value =>
      have := Json.sizeOf_of_lookup g
      simp only [g, Option.getD_some, Json.object.sizeOf_spec]
      omega
  · contradiction

namespace Chain

mutual

/-- The value of the given type without annotations. -/
def decodeTyped (type : String) (value : Json) : Json :=
  match value with
  | .array items =>
    if type = "Dictionary" then .array (decodeEntries items)
    else if type = "Array" then .array (decodeElements items)
    else .array items
  | value => value
termination_by (sizeOf value, 0)

def decodeEntries : List Json → List Json
  | [] => []
  | entry :: rest =>
    .object [("key", decodeAnnotated (entry.fieldOrNull "key")),
             ("value", decodeAnnotated (entry.fieldOrNull "value"))] :: decodeEntries rest
termination_by items => (sizeOf items, 0)
decreasing_by
  all_goals simp_wf
  · have := Json.sizeOf_fieldOrNull_le entry "key"
    omega
  · have := Json.sizeOf_fieldOrNull_le entry "value"
    omega
  · omega

def decodeElements : List Json → List Json
  | [] => []
  | item :: rest => decodeAnnotated item :: decodeElements rest
termination_by items => (sizeOf items, 0)

/-- An annotated value without its annotations; a value that carries none stays as it is. -/
def decodeAnnotated (value : Json) : Json :=
  match _found : value.field? "type" with
  | some (.string type) => decodeTyped type (value.fieldOrNull "value")
  | _ => value
termination_by (sizeOf value, 1)
decreasing_by
  have := Json.sizeOf_fieldOrNull_lt _found "value"
  omega

end

theorem normal_fieldOrNull {j : Json} (h : j.Normal) (name : String) : (j.fieldOrNull name).Normal := by
  unfold Json.fieldOrNull
  cases found : j.field? name with
  | none => simp [Json.Normal]
  | some value => exact h.field? found

mutual

theorem normal_decodeTyped (type : String) (value : Json) (h : value.Normal) :
    (decodeTyped type value).Normal := by
  unfold decodeTyped
  split
  · next items =>
    rw [Json.Normal] at h
    split
    · rw [Json.Normal]
      exact normal_decodeEntries items h
    · split
      · rw [Json.Normal]
        exact normal_decodeElements items h
      · rw [Json.Normal]
        exact h
  · exact h
termination_by (sizeOf value, 0)

theorem normal_decodeEntries :
    (items : List Json) → Json.NormalItems items → Json.NormalItems (decodeEntries items)
  | [], _ => by simp [decodeEntries, Json.NormalItems]
  | entry :: rest, h => by
    rw [Json.NormalItems] at h
    have key := normal_decodeAnnotated (entry.fieldOrNull "key") (normal_fieldOrNull h.1 _)
    have value := normal_decodeAnnotated (entry.fieldOrNull "value") (normal_fieldOrNull h.1 _)
    rw [decodeEntries, Json.NormalItems]
    refine ⟨?_, normal_decodeEntries rest h.2⟩
    rw [Json.Normal, Json.normalFields_iff]
    refine ⟨?_, ?_⟩
    · refine List.pairwise_cons.mpr ⟨fun f hf => ?_, List.pairwise_singleton _ _⟩
      rw [List.mem_singleton.mp hf]
      show Key.before "key" "value" = true
      decide
    · intro f hf
      rcases List.mem_cons.mp hf with hf | hf
      · exact hf ▸ key
      · exact List.mem_singleton.mp hf ▸ value
termination_by items => (sizeOf items, 0)
decreasing_by
  all_goals simp_wf
  · have := Json.sizeOf_fieldOrNull_le entry "key"
    omega
  · have := Json.sizeOf_fieldOrNull_le entry "value"
    omega
  · omega

theorem normal_decodeElements :
    (items : List Json) → Json.NormalItems items → Json.NormalItems (decodeElements items)
  | [], _ => by simp [decodeElements, Json.NormalItems]
  | item :: rest, h => by
    rw [Json.NormalItems] at h
    rw [decodeElements, Json.NormalItems]
    exact ⟨normal_decodeAnnotated item h.1, normal_decodeElements rest h.2⟩
termination_by items => (sizeOf items, 0)

theorem normal_decodeAnnotated (value : Json) (h : value.Normal) : (decodeAnnotated value).Normal := by
  rw [decodeAnnotated]
  split
  · next type found =>
    exact normal_decodeTyped type (value.fieldOrNull "value") (normal_fieldOrNull h _)
  · exact h
termination_by (sizeOf value, 1)
decreasing_by
  have := Json.sizeOf_fieldOrNull_lt (by assumption) "value"
  omega

end

/-- The value of an argument without type annotations. -/
def TypedValue.decode (v : TypedValue) : Data :=
  ⟨decodeTyped v.type v.value.json, normal_decodeTyped _ _ v.value.normal⟩

end Chain

end ChainIndex
