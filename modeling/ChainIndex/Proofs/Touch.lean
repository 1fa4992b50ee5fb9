import ChainIndex.Proofs.Tables

/-!
# Touches

What work that may be made again does to a record: it keeps the record, sets it whatever was there, or
writes it where there is none. Touches that follow each other are one touch, and a touch that is made
again changes nothing more. That is what makes a height that was written in part fit to be processed
again.
-/

set_option autoImplicit false

namespace ChainIndex

/-- What work does to a record. -/
inductive Touch (α : Type) where
  | keep
  /-- The record is this one then, or there is none. -/
  | set (value : Option α)
  /-- A record that is there stays. -/
  | ensure (value : α)

namespace Touch
variable {α : Type}

def on : Touch α → Option α → Option α
  | keep, o => o
  | set value, _ => value
  | ensure value, o => some (o.getD value)

def seq : Touch α → Touch α → Touch α
  | first, keep => first
  | _, set value => set value
  | keep, ensure value => ensure value
  | set none, ensure value => set (some value)
  | set (some value), ensure _ => set (some value)
  | ensure value, ensure _ => ensure value

theorem on_seq (first second : Touch α) (o : Option α) :
    (first.seq second).on o = second.on (first.on o) := by
  cases second with
  | keep => rfl
  | set value => rfl
  | ensure value =>
    cases first with
    | keep => rfl
    | set old => cases old <;> rfl
    | ensure old => cases o <;> rfl

/-- A touch that is made again changes nothing more. -/
theorem on_on (touch : Touch α) (o : Option α) : touch.on (touch.on o) = touch.on o := by
  cases touch with
  | keep => rfl
  | set value => rfl
  | ensure value => cases o <;> rfl

variable {κ : Type} [DecidableEq κ]

/-- The touches of work on one record. -/
def only (k : κ) (touch : Touch α) : κ → Touch α := fun j => if j = k then touch else keep

theorem only_self (k : κ) (touch : Touch α) : Touch.only k touch k = touch := if_pos rfl

theorem only_of_ne {k j : κ} (h : j ≠ k) (touch : Touch α) : Touch.only k touch j = keep := if_neg h

/-- The touches of a list of edits. -/
def ofLog : List (κ × Option α) → κ → Touch α
  | [] => fun _ => keep
  | e :: log => fun k => (Touch.only e.1 (set e.2) k).seq (ofLog log k)

end Touch

namespace Table
variable {κ α : Type} [Key κ] {t t' t'' : Table κ α} {τ υ : κ → Touch α}

/-- From one table to another each record was touched so. -/
def Touched (τ : κ → Touch α) (t t' : Table κ α) : Prop := ∀ k, t'.get? k = (τ k).on (t.get? k)

namespace Touched

theorem keep (t : Table κ α) : t.Touched (fun _ => .keep) t := fun _ => rfl

theorem of_eq (h : t' = t) : t.Touched (fun _ => .keep) t' := h ▸ keep t

theorem seq (h : t.Touched τ t') (h' : t'.Touched υ t'') : t.Touched (fun k => (τ k).seq (υ k)) t'' := by
  intro k
  rw [h' k, h k, Touch.on_seq]

theorem unique (h : t.Touched τ t') (h' : t.Touched τ t'') : t'' = t' := by
  refine ext_get? fun k => ?_
  rw [h' k, h k]

/-- Touches that are made again change nothing more. -/
theorem again (h : t.Touched τ t') (h' : t'.Touched τ t'') : t'' = t' := by
  refine ext_get? fun k => ?_
  rw [h' k, h k, Touch.on_on]

variable [DecidableEq κ]

theorem edit_one (t : Table κ α) (e : κ × Option α) : t.Touched (Touch.only e.1 (.set e.2)) (t.edit [e]) := by
  intro k
  by_cases same : k = e.1
  · subst same
    rw [Touch.only_self, get?_edit_self]
    rfl
  · rw [Touch.only_of_ne same, get?_edit_of_ne t same]
    rfl

theorem edit (t : Table κ α) (log : List (κ × Option α)) : t.Touched (Touch.ofLog log) (t.edit log) := by
  induction log generalizing t with
  | nil => exact keep t
  | cons e log ih =>
    rw [edit_cons]
    exact (edit_one t e).seq (ih _)

theorem ensure {k : κ} {v : α} (h : t'.get? k = some ((t.get? k).getD v)) (others : ∀ j, j ≠ k → t'.get? j = t.get? j) :
    t.Touched (Touch.only k (.ensure v)) t' := by
  intro j
  by_cases same : j = k
  · subst same
    rw [Touch.only_self, h]
    rfl
  · rw [Touch.only_of_ne same, others j same]
    rfl

end Touched

theorem edit_edit [DecidableEq κ] (t : Table κ α) (log : List (κ × Option α)) : (t.edit log).edit log = t.edit log :=
  (Touched.edit t log).again (Touched.edit _ log)

end Table

end ChainIndex
