import ChainIndex.Proofs.Frame
import ChainIndex.Proofs.Tables

/-!
# Work that edits one index

Where no call to an index fails, a list of writes to it is a list of edits of its table: `w.Edited log w'`
says that these edits lead from `w` to `w'` and that no other part was changed.
-/

set_option autoImplicit false

namespace ChainIndex

open Store (Shelved)
open Indexed (Entity)

/-- The calls to the index of a kind. -/
def Call.On (kind : Kind) : Call → Prop
  | .findAll k | .find k _ | .create k _ | .update k _ | .upsert k _ | .delete k _ => k = kind
  | _ => False

variable {α π : Type} [Shelved α π]

/-- From `w` to `w'` one index was edited, and no other part was changed. -/
structure World.Edited (log : List (String × Option α)) (w w' : World) : Prop where
  within : w.Within [.shelf (Shelved.shelf α)] w'
  table : (Shelved.table w'.store : Table String α) = (Shelved.table w.store : Table String α).edit log

namespace World.Edited
variable {w w' w'' : World} {l r : List (String × Option α)}

theorem trans (h₁ : w.Edited l w') (h₂ : w'.Edited r w'') : w.Edited (l ++ r) w'' where
  within := h₁.within.trans h₂.within
  table := by rw [h₂.table, h₁.table, Table.edit_append]

theorem counted (w : World) : w.Edited ([] : List (String × Option α)) w.counted :=
  ⟨.counted _ w, rfl⟩

theorem shelve [LawfulShelf α] (e : String × Option α) (w : World) :
    w.Edited [e] (w.counted.shelve ((Shelved.table w.store : Table String α).edit [e])) where
  within := (World.Within.counted _ w).trans (.setTable _ _)
  table := LawfulShelf.table_setTable _ _

end World.Edited

namespace Act
variable [LawfulShelf α] {w : World}

theorem upsert_edits (h : w.Answers (Call.On (Shelved.shelf α))) (a : α) :
    ∃ w', (upsert a).run.run w = (.ok (), w') ∧ w.Edited [(Entity.id a, some a)] w' :=
  ⟨_, upsert_of_answers h rfl, .shelve (Entity.id a, some a) w⟩

theorem delete_edits (α : Type) {π : Type} [Shelved α π] [LawfulShelf α] {w : World}
    (h : w.Answers (Call.On (Shelved.shelf α))) (id : String) :
    ∃ w', (delete α id).run.run w = (.ok (), w') ∧ w.Edited [(id, (none : Option α))] w' :=
  ⟨_, delete_of_answers h rfl, .shelve (id, (none : Option α)) w⟩

theorem update_edits (h : w.Answers (Call.On (Shelved.shelf α))) {id : String} {a : α}
    (ha : (Shelved.table w.store : Table String α).get? id = some a) (patch : π) :
    ∃ w', (update α id patch).run.run w = (.ok (), w') ∧ w.Edited [(id, some (Entity.patch patch a))] w' :=
  ⟨_, update_of_answers h rfl ha, .shelve (id, some (Entity.patch patch a)) w⟩

omit [LawfulShelf α] in
/-- Pieces of work that each succeed behind the edits of the pieces before them succeed in turn. -/
theorem forEach_edits {β γ : Type} (work : β → Act γ) (log : β → List (String × Option α)) {l : List β}
    (h : ∀ before b after, l = before ++ b :: after → ∀ v, w.Edited (before.flatMap log) v →
      ∃ c v', (work b).run.run v = (.ok c, v') ∧ v.Edited (log b) v') :
    ∃ results w', (Attempt.forEach work l).run w = (results, w') ∧ Attempt.successes results = l.length ∧
      w.Edited (l.flatMap log) w' := by
  induction l generalizing w with
  | nil => exact ⟨[], w, rfl, rfl, .refl _ w, rfl⟩
  | cons b l ih =>
    obtain ⟨c, v, hv, first⟩ := h [] b l rfl w ⟨.refl _ w, rfl⟩
    obtain ⟨results, w', hw', all, rest⟩ := ih (w := v) fun before b' after split u hu =>
      h (b :: before) b' after (congrArg (b :: ·) split) u (List.flatMap_cons ▸ first.trans hu)
    refine ⟨.ok c :: results, w', ?_, ?_, List.flatMap_cons ▸ first.trans rest⟩
    · rw [Attempt.forEach_cons, hv, hw']
    · rw [List.length_cons, ← all]
      exact List.countP_cons_of_pos rfl

end Act

/-- A diff of which each operation succeeds behind the edits of the operations before it is applied
without failure. -/
theorem Diff.apply_edits {γ : Type} {create update delete : γ → Act Unit} {d : Diff γ} {w : World}
    {created updated deleted : γ → List (String × Option α)}
    (creates : ∀ a ∈ d.create, ∀ v, w.Within [.shelf (Shelved.shelf α)] v →
      ∃ v', (create a).run.run v = (.ok (), v') ∧ v.Edited (created a) v')
    (updates : ∀ before a after, d.update = before ++ a :: after →
      ∀ v, w.Edited (d.create.flatMap created ++ before.flatMap updated) v →
      ∃ v', (update a).run.run v = (.ok (), v') ∧ v.Edited (updated a) v')
    (deletes : ∀ a ∈ d.delete, ∀ v, w.Within [.shelf (Shelved.shelf α)] v →
      ∃ v', (delete a).run.run v = (.ok (), v') ∧ v.Edited (deleted a) v') :
    ∃ w', (Diff.apply create update delete d).run w =
        (⟨d.create.length, d.update.length, d.delete.length, 0⟩, w') ∧
      w.Edited (d.create.flatMap created ++ d.update.flatMap updated ++ d.delete.flatMap deleted) w' := by
  obtain ⟨results₁, w₁, run₁, all₁, edited₁⟩ := Act.forEach_edits create created (l := d.create)
    fun _ a _ split v hv => ⟨(), creates a (split ▸ List.mem_append_right _ List.mem_cons_self) v hv.within⟩
  obtain ⟨results₂, w₂, run₂, all₂, edited₂⟩ := Act.forEach_edits update updated
    fun before a after split v hv => ⟨(), updates before a after split v (edited₁.trans hv)⟩
  have both := edited₁.trans edited₂
  obtain ⟨results₃, w₃, run₃, all₃, edited₃⟩ := Act.forEach_edits delete deleted (l := d.delete)
    fun _ a _ split v hv => ⟨(), deletes a (split ▸ List.mem_append_right _ List.mem_cons_self) v (both.within.trans hv.within)⟩
  refine ⟨w₃, ?_, both.trans edited₃⟩
  unfold Diff.apply
  rw [Attempt.state_bind, run₁, Attempt.state_bind, run₂, Attempt.state_bind, run₃, Attempt.state_pure,
    all₁, all₂, all₃]
  simp [Diff.size]

end ChainIndex
