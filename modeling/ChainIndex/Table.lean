/-!
# Ordered tables

`Table κ α` is a finite map listed in the order of its keys. The order is part of the type, so two
tables with the same look-ups are the same table (`Table.ext_get?`), and listing one gives its
records sorted. Each operation is described by what it does to `get?`: `get?_insert`, `get?_erase_self`.
-/

set_option autoImplicit false

namespace ChainIndex

/-- A strict total order that a program can decide. -/
class Key (κ : Type) where
  before : κ → κ → Bool
  irrefl (a : κ) : before a a = false
  trans {a b c : κ} : before a b = true → before b c = true → before a c = true
  total {a b : κ} : before a b = false → before b a = false → a = b

namespace Key

variable {κ : Type} [Key κ]

theorem asymm {a b : κ} (h : before a b = true) : before b a = false := by
  cases hb : before b a with
  | false => rfl
  | true =>
    have := Key.irrefl a
    rw [Key.trans h hb] at this
    contradiction

theorem ne {a b : κ} (h : before a b = true) : a ≠ b := by
  rintro rfl
  rw [Key.irrefl] at h
  contradiction

/-- Text is ordered by code point, which is the order of its UTF-8 bytes. -/
instance : Key String where
  before a b := decide (a < b)
  irrefl a := decide_eq_false (String.lt_irrefl a)
  trans h g := decide_eq_true (String.lt_trans (of_decide_eq_true h) (of_decide_eq_true g))
  total h g :=
    String.le_antisymm (String.not_lt.mp (of_decide_eq_false g)) (String.not_lt.mp (of_decide_eq_false h))

instance : Key UInt64 where
  before a b := decide (a < b)
  irrefl a := decide_eq_false (UInt64.lt_irrefl a)
  trans h g := decide_eq_true (UInt64.lt_trans (of_decide_eq_true h) (of_decide_eq_true g))
  total h g :=
    UInt64.le_antisymm (UInt64.not_lt.mp (of_decide_eq_false g)) (UInt64.not_lt.mp (of_decide_eq_false h))

instance : Key UInt32 where
  before a b := decide (a < b)
  irrefl a := decide_eq_false (UInt32.lt_irrefl a)
  trans h g := decide_eq_true (UInt32.lt_trans (of_decide_eq_true h) (of_decide_eq_true g))
  total h g :=
    UInt32.le_antisymm (UInt32.not_lt.mp (of_decide_eq_false g)) (UInt32.not_lt.mp (of_decide_eq_false h))

/-- Pairs are ordered by their first part, and by their second where the first parts agree. -/
instance {ι : Type} [Key ι] : Key (κ × ι) where
  before a b := before a.1 b.1 || (!before b.1 a.1 && before a.2 b.2)
  irrefl a := by simp [Key.irrefl]
  trans {a b c} h g := by
    simp only [Bool.or_eq_true, Bool.and_eq_true, Bool.not_eq_true'] at h g ⊢
    rcases h with h | ⟨h, h'⟩ <;> rcases g with g | ⟨g, g'⟩
    · exact .inl (Key.trans h g)
    · refine .inl ?_
      cases e : before b.1 c.1 with
      | true => exact Key.trans h e
      | false => exact Key.total e g ▸ h
    · refine .inl ?_
      cases e : before a.1 b.1 with
      | true => exact Key.trans e g
      | false => exact Key.total e h ▸ g
    · cases e : before a.1 b.1 with
      | true =>
        refine .inl ?_
        cases e' : before b.1 c.1 with
        | true => exact Key.trans e e'
        | false => exact Key.total e' g ▸ e
      | false =>
        refine .inr ⟨?_, Key.trans h' g'⟩
        exact Key.total e h ▸ g
  total {a b} h g := by
    simp only [Bool.or_eq_false_iff, Bool.and_eq_false_iff, Bool.not_eq_false'] at h g
    have first : a.1 = b.1 := Key.total h.1 g.1
    have second : a.2 = b.2 := by
      rcases h with ⟨h, h' | h'⟩
      · rw [g.1] at h'; contradiction
      · rcases g with ⟨g, g' | g'⟩
        · rw [h] at g'; contradiction
        · exact Key.total h' g'
    exact Prod.ext first second

end Key

/-- A finite map from keys to values, listed in the order of its keys. -/
structure Table (κ α : Type) [Key κ] where
  entries : List (κ × α)
  ordered : entries.Pairwise fun a b => Key.before a.1 b.1 = true

namespace Table

variable {κ α β : Type} [Key κ]

/-! ### The operations on lists of entries -/

/-- The value of the first entry that is not before `k`, if that entry has the key `k`. -/
def lookup (k : κ) : List (κ × α) → Option α
  | [] => none
  | (k', v) :: rest =>
    if Key.before k k' then none else if Key.before k' k then lookup k rest else some v

/-- The entries with `k` bound to `v`, in order. -/
def place (k : κ) (v : α) : List (κ × α) → List (κ × α)
  | [] => [(k, v)]
  | (k', v') :: rest =>
    if Key.before k k' then (k, v) :: (k', v') :: rest
    else if Key.before k' k then (k', v') :: place k v rest
    else (k, v) :: rest

/-- The entries without one for `k`. -/
def remove (k : κ) : List (κ × α) → List (κ × α)
  | [] => []
  | (k', v') :: rest =>
    if Key.before k k' then (k', v') :: rest
    else if Key.before k' k then (k', v') :: remove k rest
    else rest

theorem mem_place {k : κ} {v : α} {e : κ × α} {l : List (κ × α)} (h : e ∈ place k v l) :
    e = (k, v) ∨ e ∈ l := by
  induction l with
  | nil => simpa [place] using h
  | cons head rest ih =>
    unfold place at h
    split at h
    · simpa using h
    · split at h
      · rcases List.mem_cons.mp h with h | h
        · exact .inr (by simp [h])
        · rcases ih h with h | h
          · exact .inl h
          · exact .inr (by simp [h])
      · rcases List.mem_cons.mp h with h | h
        · exact .inl h
        · exact .inr (by simp [h])

theorem mem_remove {k : κ} {e : κ × α} {l : List (κ × α)} (h : e ∈ remove k l) : e ∈ l := by
  induction l with
  | nil => simp [remove] at h
  | cons head rest ih =>
    unfold remove at h
    split at h
    · exact h
    · split at h
      · rcases List.mem_cons.mp h with h | h
        · simp [h]
        · exact List.mem_cons_of_mem _ (ih h)
      · exact List.mem_cons_of_mem _ h

theorem ordered_place (k : κ) (v : α) {l : List (κ × α)}
    (h : l.Pairwise fun a b => Key.before a.1 b.1 = true) :
    (place k v l).Pairwise fun a b => Key.before a.1 b.1 = true := by
  induction l with
  | nil => simp [place]
  | cons head rest ih =>
    obtain ⟨first, tail⟩ := List.pairwise_cons.mp h
    unfold place
    split
    · next before =>
      refine List.pairwise_cons.mpr ⟨fun e he => ?_, h⟩
      rcases List.mem_cons.mp he with he | he
      · exact he ▸ before
      · exact Key.trans before (first e he)
    · next notBefore =>
      split
      · next after =>
        refine List.pairwise_cons.mpr ⟨fun e he => ?_, ih tail⟩
        rcases mem_place he with he | he
        · exact he ▸ after
        · exact first e he
      · next notAfter =>
        have same : k = head.1 :=
          Key.total (Bool.eq_false_iff.mpr notBefore) (Bool.eq_false_iff.mpr notAfter)
        exact List.pairwise_cons.mpr ⟨fun e he => same ▸ first e he, tail⟩

theorem ordered_remove (k : κ) {l : List (κ × α)}
    (h : l.Pairwise fun a b => Key.before a.1 b.1 = true) :
    (remove k l).Pairwise fun a b => Key.before a.1 b.1 = true := by
  induction l with
  | nil => simp [remove]
  | cons head rest ih =>
    obtain ⟨first, tail⟩ := List.pairwise_cons.mp h
    unfold remove
    split
    · exact h
    · split
      · exact List.pairwise_cons.mpr ⟨fun e he => first e (mem_remove he), ih tail⟩
      · exact tail

/-! ### The operations on tables -/

def empty : Table κ α := ⟨[], List.Pairwise.nil⟩

instance : Inhabited (Table κ α) := ⟨empty⟩
instance : EmptyCollection (Table κ α) := ⟨empty⟩

def get? (t : Table κ α) (k : κ) : Option α := lookup k t.entries

/-- Binds `k` to `v`, in place of an earlier value. -/
def insert (t : Table κ α) (k : κ) (v : α) : Table κ α :=
  ⟨place k v t.entries, ordered_place k v t.ordered⟩

def erase (t : Table κ α) (k : κ) : Table κ α :=
  ⟨remove k t.entries, ordered_remove k t.ordered⟩

/-- The table of a list of bindings; of two bindings of one key the later one counts. -/
def ofList (l : List (κ × α)) : Table κ α :=
  l.foldl (fun t e => t.insert e.1 e.2) empty

def contains (t : Table κ α) (k : κ) : Bool := (t.get? k).isSome

def keys (t : Table κ α) : List κ := t.entries.map (·.1)

/-- The values in the order of their keys. -/
def values (t : Table κ α) : List α := t.entries.map (·.2)

def size (t : Table κ α) : Nat := t.entries.length

def isEmpty (t : Table κ α) : Bool := t.entries.isEmpty

/-- The entry with the greatest key. -/
def last? (t : Table κ α) : Option (κ × α) := t.entries.getLast?

def mapValues (f : α → β) (t : Table κ α) : Table κ β :=
  ⟨t.entries.map fun e => (e.1, f e.2), by
    rw [List.pairwise_map]
    exact t.ordered⟩

instance [DecidableEq κ] [DecidableEq α] : DecidableEq (Table κ α) := fun a b =>
  if h : a.entries = b.entries then
    isTrue (by cases a; cases b; simp_all)
  else
    isFalse fun e => h (e ▸ rfl)

/-! ### What each operation does to `get?` -/

theorem lookup_place_self (k : κ) (v : α) (l : List (κ × α)) : lookup k (place k v l) = some v := by
  induction l with
  | nil => simp [place, lookup, Key.irrefl]
  | cons head rest ih =>
    obtain ⟨k', v'⟩ := head
    unfold place
    split
    · simp [lookup, Key.irrefl]
    · next notBefore =>
      split
      · next after => simp [lookup, notBefore, after, ih]
      · simp [lookup, Key.irrefl]

theorem lookup_place_ne {k j : κ} (hne : j ≠ k) (v : α) (l : List (κ × α)) :
    lookup j (place k v l) = lookup j l := by
  induction l with
  | nil =>
    simp only [place, lookup]
    cases h : Key.before j k with
    | true => simp
    | false =>
      cases g : Key.before k j with
      | true => simp
      | false => exact absurd (Key.total h g) hne
  | cons head rest ih =>
    obtain ⟨k', v'⟩ := head
    unfold place
    split
    · next before =>
      simp only [lookup]
      cases h : Key.before j k with
      | true => simp [Key.trans h before]
      | false =>
        cases g : Key.before k j with
        | true => simp
        | false => exact absurd (Key.total h g) hne
    · next notBefore =>
      split
      · next after => simp only [lookup, ih]
      · next notAfter =>
        have same : k = k' :=
          Key.total (Bool.eq_false_iff.mpr notBefore) (Bool.eq_false_iff.mpr notAfter)
        subst same
        simp only [lookup]
        cases h : Key.before j k with
        | true => simp
        | false =>
          cases g : Key.before k j with
          | true => simp
          | false => exact absurd (Key.total h g) hne

theorem lookup_eq_none_of_before {k : κ} {l : List (κ × α)}
    (h : ∀ e ∈ l, Key.before k e.1 = true) : lookup k l = none := by
  cases l with
  | nil => rfl
  | cons head rest => simp [lookup, h head (by simp)]

theorem lookup_remove_self (k : κ) {l : List (κ × α)}
    (h : l.Pairwise fun a b => Key.before a.1 b.1 = true) : lookup k (remove k l) = none := by
  induction l with
  | nil => rfl
  | cons head rest ih =>
    obtain ⟨first, tail⟩ := List.pairwise_cons.mp h
    unfold remove
    split
    · next before => simp [lookup, before]
    · next notBefore =>
      split
      · next after => simp [lookup, notBefore, after, ih tail]
      · next notAfter =>
        have same : k = head.1 :=
          Key.total (Bool.eq_false_iff.mpr notBefore) (Bool.eq_false_iff.mpr notAfter)
        exact lookup_eq_none_of_before fun e he => same ▸ first e he

theorem lookup_remove_ne {k j : κ} (hne : j ≠ k) {l : List (κ × α)}
    (h : l.Pairwise fun a b => Key.before a.1 b.1 = true) :
    lookup j (remove k l) = lookup j l := by
  induction l with
  | nil => rfl
  | cons head rest ih =>
    obtain ⟨first, tail⟩ := List.pairwise_cons.mp h
    unfold remove
    split
    · rfl
    · next notBefore =>
      split
      · simp only [lookup, ih tail]
      · next notAfter =>
        have same : k = head.1 :=
          Key.total (Bool.eq_false_iff.mpr notBefore) (Bool.eq_false_iff.mpr notAfter)
        cases before : Key.before j k with
        | true =>
          have none : lookup j rest = none :=
            lookup_eq_none_of_before fun e he => Key.trans before (same ▸ first e he)
          simp [lookup, none, ← same, before]
        | false =>
          cases after : Key.before k j with
          | true => simp [lookup, ← same, before, after]
          | false => exact absurd (Key.total before after) hne

@[simp] theorem get?_empty (k : κ) : (empty : Table κ α).get? k = none := rfl

@[simp] theorem get?_insert_self (t : Table κ α) (k : κ) (v : α) : (t.insert k v).get? k = some v :=
  lookup_place_self k v t.entries

theorem get?_insert_of_ne (t : Table κ α) {k j : κ} (h : j ≠ k) (v : α) :
    (t.insert k v).get? j = t.get? j :=
  lookup_place_ne h v t.entries

theorem get?_insert [DecidableEq κ] (t : Table κ α) (k j : κ) (v : α) :
    (t.insert k v).get? j = if j = k then some v else t.get? j := by
  split
  · next h => simp [h]
  · next h => exact t.get?_insert_of_ne h v

@[simp] theorem get?_erase_self (t : Table κ α) (k : κ) : (t.erase k).get? k = none :=
  lookup_remove_self k t.ordered

theorem get?_erase_of_ne (t : Table κ α) {k j : κ} (h : j ≠ k) : (t.erase k).get? j = t.get? j :=
  lookup_remove_ne h t.ordered

/-! ### Entries and look-ups say the same -/

theorem mem_of_lookup {k : κ} {v : α} {l : List (κ × α)} (h : lookup k l = some v) :
    (k, v) ∈ l := by
  induction l with
  | nil => simp [lookup] at h
  | cons head rest ih =>
    obtain ⟨k', v'⟩ := head
    unfold lookup at h
    split at h
    · contradiction
    · next notBefore =>
      split at h
      · exact List.mem_cons_of_mem _ (ih h)
      · next notAfter =>
        have same : k = k' :=
          Key.total (Bool.eq_false_iff.mpr notBefore) (Bool.eq_false_iff.mpr notAfter)
        simp_all

theorem lookup_of_mem {k : κ} {v : α} {l : List (κ × α)}
    (ordered : l.Pairwise fun a b => Key.before a.1 b.1 = true) (h : (k, v) ∈ l) :
    lookup k l = some v := by
  induction l with
  | nil => simp at h
  | cons head rest ih =>
    obtain ⟨k', v'⟩ := head
    obtain ⟨first, tail⟩ := List.pairwise_cons.mp ordered
    rcases List.mem_cons.mp h with h | h
    · cases h
      simp [lookup, Key.irrefl]
    · have after := first _ h
      simp [lookup, Key.asymm after, after, ih tail h]

theorem mem_entries_iff (t : Table κ α) (k : κ) (v : α) :
    (k, v) ∈ t.entries ↔ t.get? k = some v :=
  ⟨lookup_of_mem t.ordered, mem_of_lookup⟩

theorem ext_entries {s t : Table κ α} (h : s.entries = t.entries) : s = t := by
  cases s; cases t; simp_all

/-- Two ordered lists of entries with the same look-ups are the same list. -/
theorem entries_eq_of_lookup {s t : List (κ × α)}
    (hs : s.Pairwise fun a b => Key.before a.1 b.1 = true)
    (ht : t.Pairwise fun a b => Key.before a.1 b.1 = true)
    (h : ∀ k, lookup k s = lookup k t) : s = t := by
  induction s generalizing t with
  | nil =>
    cases t with
    | nil => rfl
    | cons head rest =>
      have := h head.1
      rw [lookup_of_mem ht (by simp : (head.1, head.2) ∈ head :: rest)] at this
      simp [lookup] at this
  | cons a s ih =>
    cases t with
    | nil =>
      have := h a.1
      rw [lookup_of_mem hs (by simp : (a.1, a.2) ∈ a :: s)] at this
      simp [lookup] at this
    | cons b t =>
      obtain ⟨firstA, tailA⟩ := List.pairwise_cons.mp hs
      obtain ⟨firstB, tailB⟩ := List.pairwise_cons.mp ht
      have inB := mem_of_lookup ((h a.1).symm.trans (lookup_of_mem hs (by simp : (a.1, a.2) ∈ a :: s)))
      have inA := mem_of_lookup ((h b.1).trans (lookup_of_mem ht (by simp : (b.1, b.2) ∈ b :: t)))
      have heads : a = b := by
        rcases List.mem_cons.mp inB with e | e
        · exact e
        · rcases List.mem_cons.mp inA with e' | e'
          · exact e'.symm
          · have := Key.asymm (firstB _ e)
            rw [firstA _ e'] at this
            contradiction
      subst heads
      congr 1
      refine ih tailA tailB fun k => ?_
      have step := h k
      simp only [lookup] at step
      cases before : Key.before k a.1 with
      | true =>
        rw [lookup_eq_none_of_before fun e he => Key.trans before (firstA e he),
          lookup_eq_none_of_before fun e he => Key.trans before (firstB e he)]
      | false =>
        cases after : Key.before a.1 k with
        | true => simpa [before, after] using step
        | false =>
          have same := Key.total before after
          subst same
          rw [lookup_eq_none_of_before firstA, lookup_eq_none_of_before firstB]

/-- A table is determined by its look-ups. -/
theorem ext_get? {s t : Table κ α} (h : ∀ k, s.get? k = t.get? k) : s = t :=
  ext_entries (entries_eq_of_lookup s.ordered t.ordered h)

/-! ### Tables of lists -/

theorem place_append {k : κ} (v : α) {l : List (κ × α)} (h : ∀ e ∈ l, Key.before e.1 k = true) :
    place k v l = l ++ [(k, v)] := by
  induction l with
  | nil => rfl
  | cons head rest ih =>
    have first := h head (by simp)
    rw [place, if_neg (by simp [Key.asymm first]), if_pos first,
      ih fun e he => h e (List.mem_cons_of_mem _ he)]
    rfl

/-- Binding ordered entries after a table whose keys all lie before them lists them at its end. -/
theorem entries_foldl_insert (t : Table κ α) {l : List (κ × α)}
    (ordered : l.Pairwise fun a b => Key.before a.1 b.1 = true)
    (after : ∀ e ∈ t.entries, ∀ f ∈ l, Key.before e.1 f.1 = true) :
    (l.foldl (fun t e => t.insert e.1 e.2) t).entries = t.entries ++ l := by
  induction l generalizing t with
  | nil => simp
  | cons head rest ih =>
    obtain ⟨first, tail⟩ := List.pairwise_cons.mp ordered
    have here : (t.insert head.1 head.2).entries = t.entries ++ [head] :=
      place_append head.2 fun e he => after e he head (by simp)
    rw [List.foldl_cons, ih (t.insert head.1 head.2) tail fun e he f hf => ?_, here]
    · simp
    · rw [here] at he
      rcases List.mem_append.mp he with he | he
      · exact after e he f (List.mem_cons_of_mem _ hf)
      · rw [List.mem_singleton.mp he]
        exact first f hf

/-- A list in the order of its keys is the list of entries of its table. -/
theorem entries_ofList {l : List (κ × α)}
    (h : l.Pairwise fun a b => Key.before a.1 b.1 = true) : (ofList l).entries = l := by
  have := entries_foldl_insert (empty : Table κ α) h (by simp [empty])
  simpa [ofList, empty] using this

@[simp] theorem ofList_entries (t : Table κ α) : ofList t.entries = t :=
  ext_entries (entries_ofList t.ordered)

theorem mem_foldl_insert {t : Table κ α} {l : List (κ × α)} {e : κ × α}
    (h : e ∈ (l.foldl (fun t e => t.insert e.1 e.2) t).entries) : e ∈ t.entries ∨ e ∈ l := by
  induction l generalizing t with
  | nil => exact .inl h
  | cons head rest ih =>
    rcases ih h with h | h
    · rcases mem_place h with h | h
      · exact .inr (by simp [h])
      · exact .inl h
    · exact .inr (List.mem_cons_of_mem _ h)

theorem mem_of_mem_ofList {l : List (κ × α)} {e : κ × α} (h : e ∈ (ofList l).entries) : e ∈ l := by
  rcases mem_foldl_insert h with h | h
  · simp [empty] at h
  · exact h

end Table

end ChainIndex
