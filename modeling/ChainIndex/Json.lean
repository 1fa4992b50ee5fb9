import ChainIndex.Double
import ChainIndex.Table

/-!
# JSON values

`Json` is a value as a text writes it: the fields of an object stand in their order, and a name may
occur more than once. `Json.normalize` keeps the last field of each name and sorts the names;
`Json.Normal` says that this changes nothing. A `Data` is a normal value: two of them are equal
exactly if they are the same value with their objects read as maps.
-/

set_option autoImplicit false

namespace ChainIndex

/-- A number is an integer that fits a 64-bit word, unsigned or signed, or a double. -/
inductive Number where
  | natural (n : UInt64)
  /-- The integer `-(n + 1)`. -/
  | negative (n : Fin 9223372036854775808)
  | double (x : Double)
  deriving DecidableEq

/-- Numbers of one kind are compared as numbers, so the two zeros are the same. -/
def Number.same : Number → Number → Bool
  | .natural m, .natural n => m == n
  | .negative m, .negative n => m == n
  | .double x, .double y => x.equal y
  | _, _ => false

inductive Json where
  | null
  | bool (b : Bool)
  | number (n : Number)
  | string (s : String)
  | array (items : List Json)
  | object (fields : List (String × Json))

namespace Json

instance : Inhabited Json := ⟨null⟩

/-! ### Equality -/

mutual

def decideEq : (a b : Json) → Decidable (a = b)
  | .null, .null => isTrue rfl
  | .bool x, .bool y => if h : x = y then isTrue (by rw [h]) else isFalse (by simp [h])
  | .number x, .number y => if h : x = y then isTrue (by rw [h]) else isFalse (by simp [h])
  | .string x, .string y => if h : x = y then isTrue (by rw [h]) else isFalse (by simp [h])
  | .array x, .array y =>
    match decideEqItems x y with
    | isTrue h => isTrue (by rw [h])
    | isFalse h => isFalse (by simp [h])
  | .object x, .object y =>
    match decideEqFields x y with
    | isTrue h => isTrue (by rw [h])
    | isFalse h => isFalse (by simp [h])
  | .null, .bool _ | .null, .number _ | .null, .string _ | .null, .array _ | .null, .object _
  | .bool _, .null | .bool _, .number _ | .bool _, .string _ | .bool _, .array _ | .bool _, .object _
  | .number _, .null | .number _, .bool _ | .number _, .string _ | .number _, .array _
  | .number _, .object _ | .string _, .null | .string _, .bool _ | .string _, .number _
  | .string _, .array _ | .string _, .object _ | .array _, .null | .array _, .bool _
  | .array _, .number _ | .array _, .string _ | .array _, .object _ | .object _, .null
  | .object _, .bool _ | .object _, .number _ | .object _, .string _ | .object _, .array _ =>
    isFalse (by simp)
termination_by structural a => a

def decideEqItems : (a b : List Json) → Decidable (a = b)
  | [], [] => isTrue rfl
  | [], _ :: _ | _ :: _, [] => isFalse (by simp)
  | x :: xs, y :: ys =>
    match decideEq x y, decideEqItems xs ys with
    | isTrue h, isTrue g => isTrue (by rw [h, g])
    | isFalse h, _ => isFalse (by simp [h])
    | _, isFalse g => isFalse (by simp [g])
termination_by structural a => a

def decideEqFields : (a b : List (String × Json)) → Decidable (a = b)
  | [], [] => isTrue rfl
  | [], _ :: _ | _ :: _, [] => isFalse (by simp)
  | x :: xs, y :: ys =>
    match decideEqField x y, decideEqFields xs ys with
    | isTrue h, isTrue g => isTrue (by rw [h, g])
    | isFalse h, _ => isFalse (by simp [h])
    | _, isFalse g => isFalse (by simp [g])
termination_by structural a => a

def decideEqField : (a b : String × Json) → Decidable (a = b)
  | (k, x), (k', y) =>
    match decideEq x y with
    | isTrue h => if g : k = k' then isTrue (by rw [h, g]) else isFalse (by simp [g])
    | isFalse h => isFalse (by simp [h])
termination_by structural a => a

end

instance : DecidableEq Json := decideEq

/-! ### Normal values -/

mutual

def normalize : Json → Json
  | .array items => .array (normalizeItems items)
  | .object fields => .object (Table.ofList (normalizeFields fields)).entries
  | .null => .null
  | .bool b => .bool b
  | .number n => .number n
  | .string s => .string s
termination_by structural j => j

def normalizeItems : List Json → List Json
  | [] => []
  | item :: rest => item.normalize :: normalizeItems rest
termination_by structural l => l

def normalizeFields : List (String × Json) → List (String × Json)
  | [] => []
  | field :: rest => normalizeField field :: normalizeFields rest
termination_by structural l => l

def normalizeField : String × Json → String × Json
  | (name, value) => (name, value.normalize)
termination_by structural f => f

end

mutual

/-- Every object in the value has its names in order, each once. -/
def Normal : Json → Prop
  | .array items => NormalItems items
  | .object fields =>
    (fields.Pairwise fun a b => Key.before a.1 b.1 = true) ∧ NormalFields fields
  | .null | .bool _ | .number _ | .string _ => True
termination_by structural j => j

def NormalItems : List Json → Prop
  | [] => True
  | item :: rest => item.Normal ∧ NormalItems rest
termination_by structural l => l

def NormalFields : List (String × Json) → Prop
  | [] => True
  | field :: rest => NormalField field ∧ NormalFields rest
termination_by structural l => l

def NormalField : String × Json → Prop
  | (_, value) => value.Normal
termination_by structural f => f

end

theorem normalItems_iff {l : List Json} : NormalItems l ↔ ∀ j ∈ l, j.Normal := by
  induction l with
  | nil => simp [NormalItems]
  | cons head rest ih => simp [NormalItems, ih]

theorem normalFields_iff {l : List (String × Json)} :
    NormalFields l ↔ ∀ f ∈ l, f.2.Normal := by
  induction l with
  | nil => simp [NormalFields]
  | cons head rest ih =>
    obtain ⟨name, value⟩ := head
    rw [NormalFields, NormalField, ih]
    simp

mutual

theorem normal_normalize : (j : Json) → j.normalize.Normal
  | .array items => by
    rw [normalize, Normal]
    exact normalItems_normalizeItems items
  | .object fields => by
    rw [normalize, Normal]
    refine ⟨(Table.ofList (normalizeFields fields)).ordered, normalFields_iff.mpr fun f hf => ?_⟩
    exact normalFields_iff.mp (normalFields_normalizeFields fields) f (Table.mem_of_mem_ofList hf)
  | .null | .bool _ | .number _ | .string _ => by simp [normalize, Normal]
termination_by structural j => j

theorem normalItems_normalizeItems : (l : List Json) → NormalItems (normalizeItems l)
  | [] => by simp [normalizeItems, NormalItems]
  | item :: rest => by
    rw [normalizeItems, NormalItems]
    exact ⟨normal_normalize item, normalItems_normalizeItems rest⟩
termination_by structural l => l

theorem normalFields_normalizeFields :
    (l : List (String × Json)) → NormalFields (normalizeFields l)
  | [] => by simp [normalizeFields, NormalFields]
  | field :: rest => by
    rw [normalizeFields, NormalFields]
    exact ⟨normalField_normalizeField field, normalFields_normalizeFields rest⟩
termination_by structural l => l

theorem normalField_normalizeField : (f : String × Json) → NormalField (normalizeField f)
  | (_, value) => by
    rw [normalizeField, NormalField]
    exact normal_normalize value
termination_by structural f => f

end

mutual

theorem normalize_of_normal : (j : Json) → j.Normal → j.normalize = j
  | .array items, h => by
    rw [Normal] at h
    rw [normalize, normalizeItems_of_normal items h]
  | .object fields, h => by
    rw [Normal] at h
    rw [normalize, normalizeFields_of_normal fields h.2, Table.entries_ofList h.1]
  | .null, _ | .bool _, _ | .number _, _ | .string _, _ => by simp [normalize]
termination_by structural j => j

theorem normalizeItems_of_normal : (l : List Json) → NormalItems l → normalizeItems l = l
  | [], _ => by simp [normalizeItems]
  | item :: rest, h => by
    rw [NormalItems] at h
    rw [normalizeItems, normalize_of_normal item h.1, normalizeItems_of_normal rest h.2]
termination_by structural l => l

theorem normalizeFields_of_normal :
    (l : List (String × Json)) → NormalFields l → normalizeFields l = l
  | [], _ => by simp [normalizeFields]
  | field :: rest, h => by
    rw [NormalFields] at h
    rw [normalizeFields, normalizeField_of_normal field h.1, normalizeFields_of_normal rest h.2]
termination_by structural l => l

theorem normalizeField_of_normal : (f : String × Json) → NormalField f → normalizeField f = f
  | (_, value), h => by
    rw [NormalField] at h
    rw [normalizeField, normalize_of_normal value h]
termination_by structural f => f

end

/-! ### Equality as numbers -/

mutual

/-- The same value up to the sign of zeros; objects are compared field by field. -/
def same : Json → Json → Bool
  | .null, .null => true
  | .bool a, .bool b => a == b
  | .number m, .number n => m.same n
  | .string s, .string t => s == t
  | .array a, .array b => sameItems a b
  | .object a, .object b => sameFields a b
  | _, _ => false
termination_by structural j => j

def sameItems : List Json → List Json → Bool
  | [], [] => true
  | a :: as, b :: bs => same a b && sameItems as bs
  | _, _ => false
termination_by structural l => l

def sameFields : List (String × Json) → List (String × Json) → Bool
  | [], [] => true
  | a :: as, b :: bs => sameField a b && sameFields as bs
  | _, _ => false
termination_by structural l => l

def sameField : String × Json → String × Json → Bool
  | (name, a), b => name == b.1 && same a b.2
termination_by structural f => f

end

/-! ### Parts of a value -/

/-- The value of the first field called `name`. -/
def lookup (name : String) : List (String × Json) → Option Json
  | [] => none
  | (other, value) :: rest => if other = name then some value else lookup name rest

/-- The field called `name`, if the value is an object that has one. -/
def field? (j : Json) (name : String) : Option Json :=
  match j with
  | .object fields => lookup name fields
  | _ => none

def string? : Json → Option String
  | .string s => some s
  | _ => none

def array? : Json → Option (List Json)
  | .array items => some items
  | _ => none

def isObject : Json → Bool
  | .object _ => true
  | _ => false

def bool? : Json → Option Bool
  | .bool b => some b
  | _ => none

/-- The number of a nonnegative integer literal. -/
def natural? : Json → Option UInt64
  | .number (.natural n) => some n
  | _ => none

def ofNat (n : Nat) : Json := .number (.natural (UInt64.ofNat n))

def ofOption : Option Json → Json
  | some j => j
  | none => .null

theorem mem_of_lookup {name : String} {value : Json} {fields : List (String × Json)}
    (h : lookup name fields = some value) : (name, value) ∈ fields := by
  induction fields with
  | nil => simp [lookup] at h
  | cons head rest ih =>
    obtain ⟨other, v⟩ := head
    unfold lookup at h
    split at h
    · next e =>
      cases h
      simp [e]
    · exact List.mem_cons_of_mem _ (ih h)

theorem Normal.field? {j value : Json} {name : String} (h : j.Normal)
    (found : j.field? name = some value) : value.Normal := by
  cases j with
  | object fields =>
    rw [Normal] at h
    exact normalFields_iff.mp h.2 _ (mem_of_lookup found)
  | _ => simp [Json.field?] at found

end Json

/-- A normal JSON value: data that is kept and given back as it is. -/
structure Data where
  json : Json
  normal : json.Normal

namespace Data

instance : DecidableEq Data := fun a b =>
  if h : a.json = b.json then isTrue (by cases a; cases b; simp_all)
  else isFalse fun e => h (e ▸ rfl)

def null : Data := ⟨.null, by simp [Json.Normal]⟩

instance : Inhabited Data := ⟨null⟩

/-- The data that a value denotes: the last of equal names counts. -/
def ofJson (j : Json) : Data := ⟨j.normalize, j.normal_normalize⟩

@[simp] theorem ofJson_json (d : Data) : ofJson d.json = d := by
  cases d with
  | mk json normal => simp [ofJson, Json.normalize_of_normal json normal]

end Data

end ChainIndex
