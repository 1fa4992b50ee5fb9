import ChainIndex.Proofs.Attempt
import ChainIndex.Proofs.Tables
import ChainIndex.Reconcile
import Mathlib.Data.List.Basic

/-!
# The operations of a reconciliation

Where the incoming entries have distinct keys, each of them is looked up in the stored ones alone: it
is a creation if its key is not stored, an update if merging it changes the stored entry, and the
stored entries whose keys do not come in are the deletions.
-/

set_option autoImplicit false

namespace ChainIndex.Diff

variable {α κ : Type} [Key κ] [BEq α]

/-- The update that an incoming entry leads to, if there is one. -/
def update? (key : α → κ) (merge : α → α → α) (stored : Table κ α) (a : α) : Option α :=
  (stored.get? (key a)).bind fun old => if merge a old == old then none else some (merge a old)

section
variable {key : α → κ} {merge : α → α → α} {stored : Table κ α} {incoming : List α}

theorem collect_cons (a : α) (rest : List α) :
    collect key merge stored (a :: rest) =
      { collect key merge (stored.erase (key a)) rest with
        create := (if stored.contains (key a) then [] else [a]) ++
          (collect key merge (stored.erase (key a)) rest).create
        update := (update? key merge stored a).toList ++
          (collect key merge (stored.erase (key a)) rest).update } := by
  rw [collect, update?, Table.contains]
  split
  · next none => simp [none]
  · next old found =>
    simp only [found, Option.bind_some, Option.isSome_some, if_true, List.nil_append]
    split <;> rfl

/-- Only incoming entries are created. -/
theorem mem_of_mem_create {a : α} (h : a ∈ (collect key merge stored incoming).create) : a ∈ incoming := by
  induction incoming generalizing stored with
  | nil => exact h
  | cons b rest ih =>
    rw [collect_cons] at h
    rcases List.mem_append.mp h with h | h
    · split at h
      · cases h
      · exact List.mem_singleton.mp h ▸ List.mem_cons_self
    · exact List.mem_cons_of_mem _ (ih h)

/-- Every update merges an incoming entry with the stored one. -/
theorem merged_of_mem_update {a : α} (h : a ∈ (collect key merge stored incoming).update) :
    ∃ b ∈ incoming, ∃ old, stored.get? (key b) = some old ∧ a = merge b old := by
  induction incoming generalizing stored with
  | nil => cases h
  | cons b rest ih =>
    rw [collect_cons] at h
    rcases List.mem_append.mp h with h | h
    · obtain ⟨old, found, merged⟩ := Option.bind_eq_some_iff.mp (Option.mem_toList.mp h)
      split at merged
      · cases merged
      · exact ⟨b, List.mem_cons_self, old, found, (Option.some.inj merged).symm⟩
    · obtain ⟨c, hc, old, found, rfl⟩ := ih h
      refine ⟨c, List.mem_cons_of_mem _ hc, old, ?_, rfl⟩
      by_cases same : key c = key b
      · rw [same, Table.get?_erase_self] at found
        cases found
      · exact (stored.get?_erase_of_ne same).symm.trans found

/-- No two updates are about one key, for an entry that was found is not found again. -/
theorem pairwise_update (keyed : ∀ a b, key (merge a b) = key a) :
    (collect key merge stored incoming).update.Pairwise fun a b => key a ≠ key b := by
  induction incoming generalizing stored with
  | nil => exact List.Pairwise.nil
  | cons a rest ih =>
    rw [collect_cons]
    refine List.pairwise_append.mpr ⟨?_, ih, fun u hu v hv => ?_⟩
    · cases update? key merge stored a <;> simp
    · obtain ⟨old, -, h⟩ := Option.bind_eq_some_iff.mp (Option.mem_toList.mp hu)
      obtain ⟨c, -, old', found, rfl⟩ := merged_of_mem_update hv
      split at h
      · cases h
      · obtain rfl := Option.some.inj h
        rw [keyed, keyed]
        intro same
        rw [← same, Table.get?_erase_self] at found
        cases found

/-- Only stored entries are deleted. -/
theorem mem_of_mem_delete {a : α} (h : a ∈ (collect key merge stored incoming).delete) :
    ∃ k, stored.get? k = some a := by
  induction incoming generalizing stored with
  | nil => exact (stored.mem_values_iff a).mp h
  | cons b rest ih =>
    rw [collect_cons] at h
    obtain ⟨k, hk⟩ := ih h
    by_cases same : k = key b
    · rw [same, Table.get?_erase_self] at hk
      cases hk
    · exact ⟨k, (stored.get?_erase_of_ne same).symm.trans hk⟩

omit [BEq α] in
/-- Erasing the key of another entry does not change what an entry finds. -/
theorem get?_erase_of_nodup {a b : α} {rest : List α} (nodup : ((a :: rest).map key).Nodup) (hb : b ∈ rest) :
    (stored.erase (key a)).get? (key b) = stored.get? (key b) := by
  refine stored.get?_erase_of_ne fun same => ?_
  rw [List.map_cons, List.nodup_cons] at nodup
  exact nodup.1 (same ▸ List.mem_map_of_mem hb)

theorem collect_create (nodup : (incoming.map key).Nodup) :
    (collect key merge stored incoming).create = incoming.filter fun a => !stored.contains (key a) := by
  induction incoming generalizing stored with
  | nil => rfl
  | cons a rest ih =>
    have tail := (List.nodup_cons.mp (List.map_cons ▸ nodup)).2
    rw [collect_cons, ih tail, List.filter_cons]
    have same : (rest.filter fun b => !(stored.erase (key a)).contains (key b)) =
        rest.filter fun b => !stored.contains (key b) := by
      refine List.filter_congr fun b hb => ?_
      rw [Table.contains, get?_erase_of_nodup nodup hb]
      rfl
    rw [same]
    cases stored.contains (key a) <;> rfl

theorem collect_update (nodup : (incoming.map key).Nodup) :
    (collect key merge stored incoming).update = incoming.filterMap (update? key merge stored) := by
  induction incoming generalizing stored with
  | nil => rfl
  | cons a rest ih =>
    have tail := (List.nodup_cons.mp (List.map_cons ▸ nodup)).2
    rw [collect_cons, ih tail, List.filterMap_cons]
    have same : rest.filterMap (update? key merge (stored.erase (key a))) =
        rest.filterMap (update? key merge stored) := by
      refine List.filterMap_congr fun b hb => ?_
      rw [update?, update?, get?_erase_of_nodup nodup hb]
    rw [same]
    cases update? key merge stored a <;> rfl

theorem mem_collect_delete (nodup : (incoming.map key).Nodup) (a : α) :
    a ∈ (collect key merge stored incoming).delete ↔
      ∃ k, stored.get? k = some a ∧ k ∉ incoming.map key := by
  induction incoming generalizing stored with
  | nil =>
    show a ∈ stored.values ↔ _
    rw [stored.mem_values_iff]
    simp
  | cons b rest ih =>
    have tail := (List.nodup_cons.mp (List.map_cons ▸ nodup)).2
    rw [collect_cons]
    refine (ih tail).trans ⟨?_, ?_⟩
    · rintro ⟨k, hk, out⟩
      by_cases same : k = key b
      · rw [same, Table.get?_erase_self] at hk
        cases hk
      · rw [stored.get?_erase_of_ne same] at hk
        exact ⟨k, hk, by simpa [same] using out⟩
    · rintro ⟨k, hk, out⟩
      rw [List.map_cons, List.mem_cons, not_or] at out
      exact ⟨k, (stored.get?_erase_of_ne out.1).trans hk, out.2⟩

end

/-! ### Two lists with distinct keys -/

/-- Entries as a collection by their keys. -/
def keyed (key : α → κ) (l : List α) : Table κ α := .ofList (l.map fun a => (key a, a))

section
variable {key : α → κ} {merge : α → α → α} {l old new : List α}

omit [BEq α] in
theorem mem_of_get?_keyed {k : κ} {a : α} (h : (keyed key l).get? k = some a) : a ∈ l ∧ key a = k := by
  obtain ⟨b, hb, same⟩ := List.mem_map.mp (Table.mem_of_get?_ofList h)
  obtain ⟨rfl, rfl⟩ := Prod.mk.inj same
  exact ⟨hb, rfl⟩

omit [BEq α] in
theorem get?_keyed_iff (nodup : (l.map key).Nodup) (k : κ) (a : α) :
    (keyed key l).get? k = some a ↔ a ∈ l ∧ key a = k := by
  refine ⟨mem_of_get?_keyed, ?_⟩
  rintro ⟨ha, rfl⟩
  have keys : ((l.map fun a => (key a, a)).map (·.1)).Nodup := by rwa [List.map_map]
  exact (Table.get?_ofList_iff keys _ _).mpr (List.mem_map_of_mem ha)

omit [BEq α] in
theorem contains_keyed (nodup : (l.map key).Nodup) (k : κ) : (keyed key l).contains k = true ↔ k ∈ l.map key := by
  rw [Table.contains, Option.isSome_iff_exists, List.mem_map]
  exact exists_congr fun a => get?_keyed_iff nodup k a

variable (hold : (old.map key).Nodup) (hnew : (new.map key).Nodup)
include hold hnew

theorem mem_reconcile_create (a : α) :
    a ∈ (reconcile key merge old new).create ↔ a ∈ new ∧ key a ∉ old.map key := by
  show a ∈ (collect key merge (keyed key old) new).create ↔ _
  rw [collect_create hnew, List.mem_filter, Bool.not_eq_true', ← Bool.not_eq_true, contains_keyed hold]

theorem mem_reconcile_delete (a : α) :
    a ∈ (reconcile key merge old new).delete ↔ a ∈ old ∧ key a ∉ new.map key := by
  refine (mem_collect_delete hnew a).trans ⟨?_, ?_⟩
  · rintro ⟨k, found, out⟩
    obtain ⟨ha, rfl⟩ := (get?_keyed_iff hold k a).mp found
    exact ⟨ha, out⟩
  · rintro ⟨ha, out⟩
    exact ⟨key a, (get?_keyed_iff hold _ a).mpr ⟨ha, rfl⟩, out⟩

end

/-! ### What a reconciliation does not see -/

/-- A diff with all entries mapped. -/
def map {β : Type} (f : α → β) (d : Diff α) : Diff β := ⟨d.create.map f, d.update.map f, d.delete.map f⟩

section
variable {key : α → κ} {merge : α → α → α} {f : α → α} (keyed : ∀ a, key (f a) = key a)
  (merged : ∀ a b, merge (f a) (f b) = f (merge a b)) (same : ∀ a b, (f (merge a b) == f b) = (merge a b == b))
include keyed merged same

/-- Mapping the entries maps the operations, if it changes no key and commutes with merging, and if a merged
entry differs from the stored one behind it exactly where it did before. -/
theorem collect_map (stored : Table κ α) (incoming : List α) :
    collect key merge (stored.mapValues f) (incoming.map f) = (collect key merge stored incoming).map f := by
  induction incoming generalizing stored with
  | nil => simp [collect, map, empty, Table.values_mapValues]
  | cons a rest ih =>
    simp only [List.map_cons, collect, keyed, ← Table.mapValues_erase, ih, Table.get?_mapValues]
    cases stored.get? (key a) with
    | none => rfl
    | some old =>
      simp only [Option.map_some, merged, same]
      split <;> rfl

theorem reconcile_map (stored incoming : List α) :
    reconcile key merge (stored.map f) (incoming.map f) = (reconcile key merge stored incoming).map f := by
  have table : Table.ofList ((stored.map f).map fun a => (key a, a)) =
      (Table.ofList (stored.map fun a => (key a, a))).mapValues f := by
    rw [Table.mapValues_ofList, List.map_map, List.map_map]
    congr 1
    exact List.map_congr_left fun a _ => by simp [keyed]
  unfold reconcile
  rw [table, collect_map keyed merged same]

end

omit [Key κ] [BEq α] in
theorem uses_apply {σ : Type} {kinds : (α : Type) → StateM σ α → Prop} {create update delete : α → Attempt σ Unit}
    {d : Diff α} (hc : ∀ a ∈ d.create, Attempt.Uses kinds (create a).run)
    (hu : ∀ a ∈ d.update, Attempt.Uses kinds (update a).run)
    (hd : ∀ a ∈ d.delete, Attempt.Uses kinds (delete a).run) : Attempt.Uses kinds (apply create update delete d) := by
  refine .bind (.forEach hc) fun _ => .bind (.forEach hu) fun _ => ?_
  exact .bind (.forEach hd) fun _ => .pure _

omit [Key κ] [BEq α] in
theorem forall₂_iff_map {β : Type} {f : α → β} {l l' : List α} :
    List.Forall₂ (fun a b => f a = f b) l l' ↔ l.map f = l'.map f := by
  rw [← List.forall₂_eq_eq_eq, List.forall₂_map_left_iff, List.forall₂_map_right_iff]

omit [Key κ] [BEq α] in
/-- Diffs whose entries are mapped to the same ones are applied alike, if such entries are. -/
theorem matches_apply {σ β : Type} {r : σ → σ → Prop} {f : α → β}
    {create update delete create' update' delete' : α → Attempt σ Unit} {d d' : Diff α} (same : d.map f = d'.map f)
    (hc : ∀ a b, f a = f b → Attempt.Matches r Eq (create a).run (create' b).run)
    (hu : ∀ a b, f a = f b → Attempt.Matches r Eq (update a).run (update' b).run)
    (hd : ∀ a b, f a = f b → Attempt.Matches r Eq (delete a).run (delete' b).run) :
    Attempt.Matches r Eq (apply create update delete d) (apply create' update' delete' d') := by
  have size : d.size = d'.size := by
    have mapped (d : Diff α) : (d.map f).size = d.size := by simp [Diff.size, map]
    rw [← mapped d, same, mapped d']
  obtain ⟨c, u, e⟩ : d.create.map f = d'.create.map f ∧ d.update.map f = d'.update.map f ∧
      d.delete.map f = d'.delete.map f := by
    rwa [map, map, Diff.mk.injEq] at same
  refine .bind (.forEach (forall₂_iff_map.mpr c) hc) fun _ _ created => ?_
  refine .bind (.forEach (forall₂_iff_map.mpr u) hu) fun _ _ updated => ?_
  refine .bind (.forEach (forall₂_iff_map.mpr e) hd) fun _ _ deleted => .pure ?_
  rw [size, created, updated, deleted]

end ChainIndex.Diff
