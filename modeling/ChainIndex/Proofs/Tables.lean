import ChainIndex.Table

/-!
# Tables and their values

How the list of values of a table follows its look-ups, and what a table made of a list looks up.
-/

set_option autoImplicit false

namespace ChainIndex.Table

variable {κ α : Type} [Key κ]

/-! ### Values -/

theorem mem_values_iff (t : Table κ α) (v : α) : v ∈ t.values ↔ ∃ k, t.get? k = some v := by
  constructor
  · intro h
    obtain ⟨e, he, rfl⟩ := List.mem_map.mp h
    exact ⟨e.1, (t.mem_entries_iff e.1 e.2).mp he⟩
  · rintro ⟨k, hk⟩
    exact List.mem_map.mpr ⟨(k, v), (t.mem_entries_iff k v).mpr hk, rfl⟩

theorem length_values (t : Table κ α) : t.values.length = t.size := List.length_map _

theorem place_perm {k : κ} (v : α) {l : List (κ × α)} (h : lookup k l = none)
    (ordered : l.Pairwise fun a b => Key.before a.1 b.1 = true) :
    (place k v l).Perm ((k, v) :: l) := by
  induction l with
  | nil => exact .refl _
  | cons head rest ih =>
    obtain ⟨first, tail⟩ := List.pairwise_cons.mp ordered
    unfold place
    split
    · exact .refl _
    · next notBefore =>
      split
      · next after =>
        have below : lookup k rest = none := by
          simpa [lookup, notBefore, after] using h
        exact ((ih below tail).cons head).trans (.swap _ _ _)
      · next notAfter => simp [lookup, notBefore, notAfter] at h

theorem values_insert_perm (t : Table κ α) {k : κ} (v : α) (h : t.get? k = none) :
    (t.insert k v).values.Perm (v :: t.values) :=
  List.Perm.map (fun e : κ × α => e.2) (place_perm v h t.ordered)

theorem size_insert_of_none (t : Table κ α) {k : κ} (v : α) (h : t.get? k = none) :
    (t.insert k v).size = t.size + 1 := by
  have := (t.values_insert_perm v h).length_eq
  simpa [length_values] using this

theorem last?_greatest {t : Table κ α} {e : κ × α} (last : t.last? = some e) {k : κ} {v : α} (h : t.get? k = some v) :
    k = e.1 ∨ Key.before k e.1 = true := by
  obtain ⟨front, split⟩ := List.getLast?_eq_some_iff.mp last
  have mem := (t.mem_entries_iff k v).mpr h
  have ordered := t.ordered
  rw [split, List.pairwise_append] at ordered
  rw [split, List.mem_append, List.mem_singleton] at mem
  rcases mem with mem | rfl
  · exact .inr (ordered.2.2 _ mem e (List.mem_singleton_self e))
  · exact .inl rfl

/-! ### Writing what was there -/

theorem values_insert_erase_perm (t : Table κ α) (k : κ) (v : α) :
    (t.insert k v).values.Perm (v :: (t.erase k).values) := by
  have same : t.insert k v = (t.erase k).insert k v := by
    refine ext_get? fun j => ?_
    by_cases here : j = k
    · rw [here, get?_insert_self, get?_insert_self]
    · rw [get?_insert_of_ne _ here, get?_insert_of_ne _ here, get?_erase_of_ne _ here]
  rw [same]
  exact values_insert_perm _ v (get?_erase_self t k)

theorem insert_of_get? {t : Table κ α} {k : κ} {v : α} (h : t.get? k = some v) : t.insert k v = t := by
  refine ext_get? fun j => ?_
  by_cases here : j = k
  · rw [here, get?_insert_self, h]
  · rw [get?_insert_of_ne _ here]

theorem erase_of_none {t : Table κ α} {k : κ} (h : t.get? k = none) : t.erase k = t := by
  refine ext_get? fun j => ?_
  by_cases here : j = k
  · rw [here, get?_erase_self, h]
  · rw [get?_erase_of_ne _ here]

theorem erase_insert (t : Table κ α) (k : κ) (v : α) : (t.insert k v).erase k = t.erase k := by
  refine ext_get? fun j => ?_
  by_cases here : j = k
  · rw [here, get?_erase_self, get?_erase_self]
  · rw [get?_erase_of_ne _ here, get?_insert_of_ne _ here, get?_erase_of_ne _ here]

/-! ### Tables of lists -/

theorem get?_foldl_insert_of_not_mem {l : List (κ × α)} {k : κ} (h : k ∉ l.map (·.1)) (t : Table κ α) :
    (l.foldl (fun t e => t.insert e.1 e.2) t).get? k = t.get? k := by
  induction l generalizing t with
  | nil => rfl
  | cons head rest ih =>
    simp only [List.map_cons, List.mem_cons, not_or] at h
    rw [List.foldl_cons, ih h.2, t.get?_insert_of_ne h.1]

theorem get?_foldl_insert_of_mem {l : List (κ × α)} (nodup : (l.map (·.1)).Nodup) {k : κ} {v : α}
    (h : (k, v) ∈ l) (t : Table κ α) :
    (l.foldl (fun t e => t.insert e.1 e.2) t).get? k = some v := by
  induction l generalizing t with
  | nil => cases h
  | cons head rest ih =>
    simp only [List.map_cons, List.nodup_cons] at nodup
    rw [List.foldl_cons]
    rcases List.mem_cons.mp h with rfl | h
    · rw [get?_foldl_insert_of_not_mem nodup.1, get?_insert_self]
    · exact ih nodup.2 h _

/-- Where the keys of a list are distinct its table looks up its bindings. -/
theorem mem_of_get?_ofList {l : List (κ × α)} {k : κ} {v : α} (h : (ofList l).get? k = some v) : (k, v) ∈ l := by
  suffices general : ∀ (m : List (κ × α)) (t : Table κ α), (∀ e ∈ m, e ∈ l) →
      (∀ k v, t.get? k = some v → (k, v) ∈ l) →
      ∀ k v, (m.foldl (fun t e => t.insert e.1 e.2) t).get? k = some v → (k, v) ∈ l from
    general l empty (fun _ => id) (fun _ _ => nofun) k v h
  intro m
  induction m with
  | nil => exact fun _ _ all => all
  | cons e m ih =>
    intro t sub all
    refine ih _ (fun d hd => sub d (List.mem_cons_of_mem _ hd)) fun k v found => ?_
    by_cases same : k = e.1
    · subst same
      rw [get?_insert_self] at found
      exact Option.some.inj found ▸ sub e List.mem_cons_self
    · exact all k v ((t.get?_insert_of_ne same e.2).symm.trans found)

theorem get?_ofList_iff {l : List (κ × α)} (nodup : (l.map (·.1)).Nodup) (k : κ) (v : α) :
    (ofList l).get? k = some v ↔ (k, v) ∈ l := by
  constructor
  · intro h
    exact mem_of_mem_ofList (((ofList l).mem_entries_iff k v).mpr h)
  · intro h
    exact get?_foldl_insert_of_mem nodup h _

theorem isSome_foldl_insert {l : List (κ × α)} {k : κ} {t : Table κ α} (h : (t.get? k).isSome ∨ k ∈ l.map (·.1)) :
    ((l.foldl (fun t e => t.insert e.1 e.2) t).get? k).isSome := by
  induction l generalizing t with
  | nil => exact h.resolve_right nofun
  | cons e l ih =>
    refine ih ?_
    by_cases same : k = e.1
    · rw [same, get?_insert_self]
      exact .inl rfl
    · rw [t.get?_insert_of_ne same]
      exact h.imp_right fun listed => (List.mem_cons.mp listed).resolve_left same

theorem isSome_ofList_iff {l : List (κ × α)} {k : κ} : ((ofList l).get? k).isSome ↔ k ∈ l.map (·.1) := by
  constructor
  · intro h
    obtain ⟨v, hv⟩ := Option.isSome_iff_exists.mp h
    exact List.mem_map.mpr ⟨(k, v), mem_of_get?_ofList hv, rfl⟩
  · intro h
    exact isSome_foldl_insert (.inr h)

/-! ### Edits -/

/-- The table after a list of writes: a key is bound anew, or it is erased. -/
def edit (t : Table κ α) (log : List (κ × Option α)) : Table κ α :=
  log.foldl (fun t e => e.2.elim (t.erase e.1) (t.insert e.1)) t

section
variable {t : Table κ α} {k : κ} {v : α} {log : List (κ × Option α)}

theorem edit_cons (t : Table κ α) (e : κ × Option α) (log : List (κ × Option α)) :
    t.edit (e :: log) = (t.edit [e]).edit log := rfl

theorem edit_append (t : Table κ α) (l r : List (κ × Option α)) : t.edit (l ++ r) = (t.edit l).edit r :=
  List.foldl_append

theorem get?_edit_self (t : Table κ α) (k : κ) (v : Option α) : (t.edit [(k, v)]).get? k = v := by
  cases v with
  | none => exact t.get?_erase_self k
  | some v => exact t.get?_insert_self k v

theorem get?_edit_of_ne {e : κ × Option α} (t : Table κ α) (h : k ≠ e.1) : (t.edit [e]).get? k = t.get? k := by
  obtain ⟨j, v | v⟩ := e
  · exact t.get?_erase_of_ne h
  · exact t.get?_insert_of_ne h v

theorem get?_edit_of_not_mem (h : ∀ v, (k, v) ∉ log) : (t.edit log).get? k = t.get? k := by
  induction log generalizing t with
  | nil => rfl
  | cons e log ih =>
    rw [edit_cons, ih fun v hv => h v (List.mem_cons_of_mem _ hv)]
    refine get?_edit_of_ne t ?_
    rintro rfl
    exact h e.2 List.mem_cons_self

/-- The last write about a key counts. -/
theorem get?_edit_last (before : List (κ × Option α)) {after : List (κ × Option α)} {v : Option α}
    (h : ∀ v, (k, v) ∉ after) :
    (t.edit (before ++ (k, v) :: after)).get? k = v := by
  rw [edit_append, edit_cons, get?_edit_of_not_mem h, get?_edit_self]

theorem get?_edit_cases (t : Table κ α) (k : κ) (log : List (κ × Option α)) :
    (t.edit log).get? k = t.get? k ∨ (k, (t.edit log).get? k) ∈ log := by
  induction log generalizing t with
  | nil => exact .inl rfl
  | cons e log ih =>
    rw [edit_cons]
    rcases ih (t.edit [e]) with h | h
    · by_cases same : k = e.1
      · subst same
        rw [h, get?_edit_self]
        exact .inr List.mem_cons_self
      · exact .inl (h.trans (get?_edit_of_ne t same))
    · exact .inr (List.mem_cons_of_mem _ h)

/-- A key that is written stands as one of the writes about it left it. -/
theorem forall_get?_edit (good : Option α → Prop) {v : Option α} (written : (k, v) ∈ log)
    (always : ∀ u, (k, u) ∈ log → good u) : good ((t.edit log).get? k) := by
  obtain ⟨before, after, rfl⟩ := List.append_of_mem written
  have split : t.edit (before ++ (k, v) :: after) = ((t.edit before).edit [(k, v)]).edit after := by
    rw [edit_append, edit_cons]
  rw [split]
  rcases get?_edit_cases ((t.edit before).edit [(k, v)]) k after with h | h
  · rw [h, get?_edit_self]
    exact always v written
  · exact always _ (List.mem_append_right _ (List.mem_cons_of_mem _ h))

/-- A key that is written, and always to the same, is bound to that. -/
theorem get?_edit_of_forall {v : Option α} (written : (k, v) ∈ log) (always : ∀ u, (k, u) ∈ log → u = v) :
    (t.edit log).get? k = v :=
  forall_get?_edit (· = v) written always

/-- Where no key is written twice every write counts. -/
theorem get?_edit_of_nodup {v : Option α} (nodup : (log.map (·.1)).Nodup) (written : (k, v) ∈ log) :
    (t.edit log).get? k = v := by
  induction log generalizing t with
  | nil => cases written
  | cons e log ih =>
    obtain ⟨once, rest⟩ := List.nodup_cons.mp (List.map_cons ▸ nodup)
    rw [edit_cons]
    rcases List.mem_cons.mp written with rfl | later
    · rw [get?_edit_of_not_mem fun u hu => once (List.mem_map.mpr ⟨_, hu, rfl⟩), get?_edit_self]
    · exact ih rest later

/-- To write what is there already changes nothing. -/
theorem edit_of_stored (stored : ∀ e ∈ log, t.get? e.1 = e.2) : t.edit log = t := by
  refine ext_get? fun j => ?_
  rcases get?_edit_cases t j log with same | written
  · exact same
  · exact (stored _ written).symm

theorem contains_edit (bound : t.contains k = true) (never : (k, none) ∉ log) : (t.edit log).contains k = true := by
  induction log generalizing t with
  | nil => exact bound
  | cons e log ih =>
    rw [edit_cons]
    refine ih ?_ fun h => never (List.mem_cons_of_mem _ h)
    obtain ⟨j, u⟩ := e
    unfold contains at bound ⊢
    by_cases same : k = j
    · subst same
      cases u with
      | none => exact absurd List.mem_cons_self never
      | some v => rw [get?_edit_self]; rfl
    · rwa [get?_edit_of_ne t same]

end

/-! ### Properties of all entries -/

/-- Every entry of the table has the property. -/
def All (good : κ → α → Prop) (t : Table κ α) : Prop := ∀ k v, t.get? k = some v → good k v

section
variable {good : κ → α → Prop} {t : Table κ α} {k : κ} {v : α}

theorem all_empty : (empty : Table κ α).All good := nofun

theorem All.insert (h : t.All good) (hv : good k v) : (t.insert k v).All good := by
  intro j u hu
  by_cases same : j = k
  · subst same
    rw [get?_insert_self] at hu
    exact Option.some.inj hu ▸ hv
  · exact h j u ((t.get?_insert_of_ne same v).symm.trans hu)

theorem All.erase (h : t.All good) (k : κ) : (t.erase k).All good := by
  intro j u hu
  by_cases same : j = k
  · rw [same, get?_erase_self] at hu
    cases hu
  · exact h j u ((t.get?_erase_of_ne same).symm.trans hu)

end

/-! ### Mapped values -/

section
variable {β : Type} (f : α → β) (t : Table κ α) (k : κ)

theorem lookup_map (l : List (κ × α)) : lookup k (l.map fun e => (e.1, f e.2)) = (lookup k l).map f := by
  induction l with
  | nil => rfl
  | cons e rest ih =>
    simp only [List.map_cons, lookup, ih]
    split
    · rfl
    · split <;> rfl

@[simp] theorem get?_mapValues : (t.mapValues f).get? k = (t.get? k).map f := lookup_map f k t.entries

theorem values_mapValues : (t.mapValues f).values = t.values.map f := by
  simp [values, mapValues]

theorem contains_mapValues : (t.mapValues f).contains k = t.contains k := by
  simp [contains]

theorem mapValues_insert (v : α) : (t.insert k v).mapValues f = (t.mapValues f).insert k (f v) := by
  refine ext_get? fun j => ?_
  by_cases same : j = k
  · simp [same]
  · simp [get?_insert_of_ne _ same]

theorem mapValues_erase : (t.erase k).mapValues f = (t.mapValues f).erase k := by
  refine ext_get? fun j => ?_
  by_cases same : j = k
  · simp [same]
  · simp [get?_erase_of_ne _ same]

theorem mapValues_ofList (l : List (κ × α)) : (ofList l).mapValues f = ofList (l.map fun e => (e.1, f e.2)) := by
  suffices general : ∀ t : Table κ α, (l.foldl (fun t e => t.insert e.1 e.2) t).mapValues f =
      (l.map fun e => (e.1, f e.2)).foldl (fun t e => t.insert e.1 e.2) (t.mapValues f) from general empty
  induction l with
  | nil => exact fun _ => rfl
  | cons e l ih =>
    intro t
    rw [List.foldl_cons, ih, mapValues_insert]
    rfl

end

/-! ### Distinct keys -/

theorem nodup_keys (t : Table κ α) : t.keys.Nodup :=
  List.pairwise_map.mpr (t.ordered.imp Key.ne)

theorem nodup_values {t : Table κ α} (key : α → κ) (own : ∀ k v, t.get? k = some v → key v = k) : t.values.Nodup := by
  have same : t.values.map key = t.keys := by
    rw [values, keys, List.map_map]
    exact List.map_congr_left fun e he => own e.1 e.2 ((t.mem_entries_iff e.1 e.2).mp he)
  have nodup := t.nodup_keys
  rw [← same] at nodup
  exact List.Pairwise.of_map key (fun a b ne same => ne (congrArg key same)) nodup

end ChainIndex.Table
