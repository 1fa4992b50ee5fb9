import ChainIndex.Proofs.Reruns
import ChainIndex.Proofs.StorageScans

/-!
# A height behind its block

Behind its block a height is settled: its transactions, its events and their effects are written, and
then the storage of the accounts is scanned. Settling depends on nothing but the indexes behind the
blocks (`BlockData.settle_unique`), and where a height was settled before it changes none of them
(`BlockData.settle_again`).
-/

set_option autoImplicit false

namespace ChainIndex

open Store (Shelved)

/-! ### Storage -/

namespace StorageScan
variable {full : Chain.Node} {w : World}

/-- The writes of the items of an account. -/
def items (full : Chain.Node) (address : String) : List (String × Option Indexed.StorageItem) :=
  (full.storageItems address).flatMap fun item =>
    [((Indexed.StorageItem.ofChain address item).id, some (.ofChain address item))]

def log (full : Chain.Node) (accounts : Table String Indexed.Account) : List (String × Option Indexed.StorageItem) :=
  accounts.values.flatMap fun a => items full a.address

theorem log_eq (same : w.node.storage = full.storage) (accounts : Table String Indexed.Account) :
    (records (fun _ => false) (fun _ => false) w.node accounts).map Indexed.binding = log full accounts := by
  rw [records, log, List.map_flatMap]
  refine List.flatMap_congr fun a _ => ?_
  rw [recordsOf_none, items, Chain.Node.storageItems, Chain.Node.storageItems, same, List.map_map]
  exact List.map_eq_flatMap

theorem run_edits (hw : w.Steady full) :
    ∃ n w', run.run.run w = (.ok n, w') ∧ w.Edited (log full w.store.accounts) w' := by
  have answered : w.Answers Call.OfScan := hw.answers fun call scan spare => by
    cases call with
    | findAll kind => cases kind <;> first | exact scan | exact spare
    | upsert kind id => exact spare
    | _ => first | exact scan | exact spare
  obtain ⟨w', run, edited⟩ := (Failing.none answered).run_logs
  exact ⟨_, w', run, log_eq hw.storage w.store.accounts ▸ edited⟩

end StorageScan

/-! ### A height behind its block -/

/-- All indexes but that of blocks are the same. -/
def Store.SameBehind (s t : Store) : Prop := ∀ kind, kind ≠ .block → s.Same t kind

namespace Store.SameBehind
variable {s t u : Store}

theorem refl (s : Store) : s.SameBehind s := fun kind _ => .refl s kind

theorem trans (h : s.SameBehind t) (h' : t.SameBehind u) : s.SameBehind u := fun kind hk => (h kind hk).trans (h' kind hk)

theorem symm (h : s.SameBehind t) : t.SameBehind s := by
  intro kind hk
  exact same_iff.mpr (same_iff.mp (h kind hk)).symm

end Store.SameBehind

/-- The world after everything that is done for a height behind its block. -/
def BlockData.settle (setup : Setup) (data : BlockData) (w : World) : World :=
  Piece.applyAll setup (data.details ++ [.scan]) w

/-- An indexer that scans storage after every height, and leaves well-known accounts and watchers alone. -/
structure Setup.Quiet (setup : Setup) : Prop where
  bootstraps : setup.config.bootstraps = false
  watches : setup.config.watches = false
  reindexes : setup.config.reindexes = true
  own : setup.scanStorage = some StorageScan.run

section
variable {full : Chain.Node} {setup : Setup} (quiet : setup.Quiet) {data : BlockData} {v w : World}
include quiet

theorem Piece.scan_edits (hw : w.Steady full) :
    w.Edited (StorageScan.log full w.store.accounts) (Piece.scan.apply setup w) := by
  obtain ⟨n, w', run, edited⟩ := StorageScan.run_edits hw
  rw [StorageScan.Made.apply_scan ⟨quiet.own, quiet.reindexes⟩, run]
  exact edited

variable (orderly : full.Orderly)
include orderly

/-- The records behind the blocks are touched in one way, and then the storage of the accounts that are
there is written. -/
theorem BlockData.settle_touched (data : BlockData) :
    ∃ τ : Store.Touches, ∀ w : World, w.Steady full → (data.settle setup w).Steady full ∧
      (∀ kind, kind ≠ .storageItem →
        (w.store.index kind).Touched (τ kind) ((data.settle setup w).store.index kind)) ∧
      (data.settle setup w).store.storageItems =
        w.store.storageItems.edit (StorageScan.log full (data.settle setup w).store.accounts) := by
  obtain ⟨τ, replays⟩ := Replays.details orderly setup data
  refine ⟨τ, fun w hw => ?_⟩
  obtain ⟨steady, touched⟩ := replays w hw
  have still : w.Within (.shelf .transaction :: .shelf .event :: Only.effects) (Piece.applyAll setup data.details w) := by
    refine Piece.applyAll_within (Tick.scansStorageOnly_of_own quiet.own) (fun p hp => ?_) w
    rcases BlockData.mem_details hp with ⟨t, rfl⟩ | ⟨e, rfl⟩ | ⟨e, rfl⟩
    · exact (by decide : [Part.shelf .transaction] ⊆ .shelf .transaction :: .shelf .event :: Only.effects)
    · exact (by decide : [Part.shelf .event] ⊆ .shelf .transaction :: .shelf .event :: Only.effects)
    · exact (by decide : Only.effects ⊆ .shelf .transaction :: .shelf .event :: Only.effects)
  have before : (Piece.applyAll setup data.details w).store.storageItems = w.store.storageItems :=
    still.shelf .storageItem (by decide)
  have scanned := Piece.scan_edits quiet steady
  have after : data.settle setup w = Piece.scan.apply setup (Piece.applyAll setup data.details w) :=
    Piece.applyAll_append data.details [.scan] w
  rw [after]
  have keys : (Piece.scan.apply setup (Piece.applyAll setup data.details w)).store.keys = _ :=
    scanned.within.shelf .key (by decide)
  have accounts : (Piece.scan.apply setup (Piece.applyAll setup data.details w)).store.accounts = _ :=
    scanned.within.shelf .account (by decide)
  have items : (Piece.scan.apply setup (Piece.applyAll setup data.details w)).store.storageItems = _ := scanned.table
  refine ⟨steady.within scanned.within (by decide) (keys ▸ steady.reported), fun kind other => ?_, ?_⟩
  · have same := scanned.within.shelf kind (by simpa [Shelved.shelf] using other)
    exact Store.same_iff.mp same ▸ touched kind
  · rw [items, accounts]
    exact before ▸ rfl

theorem BlockData.settle_steady (hw : w.Steady full) : (data.settle setup w).Steady full := by
  obtain ⟨τ, settled⟩ := data.settle_touched quiet orderly
  exact (settled w hw).1

/-- What is behind the blocks afterwards follows from what was there before. -/
theorem BlockData.settle_unique (hv : v.Steady full) (hw : w.Steady full) (same : v.store.SameBehind w.store) :
    (data.settle setup v).store.SameBehind (data.settle setup w).store := by
  obtain ⟨τ, settled⟩ := data.settle_touched quiet orderly
  obtain ⟨-, touchedV, itemsV⟩ := settled v hv
  obtain ⟨-, touchedW, itemsW⟩ := settled w hw
  have each : ∀ kind, kind ≠ .block → kind ≠ .storageItem →
      (data.settle setup v).store.Same (data.settle setup w).store kind := by
    intro kind behind other
    have second := touchedW kind other
    rw [Store.same_iff.mp (same kind behind)] at second
    exact Store.same_iff.mpr ((touchedV kind other).unique second)
  have accounts : (data.settle setup w).store.accounts = _ := each .account (by decide) (by decide)
  intro kind behind
  by_cases other : kind = .storageItem
  · subst other
    have before : w.store.storageItems = v.store.storageItems := same .storageItem (by decide)
    show (data.settle setup w).store.storageItems = _
    rw [itemsW, itemsV, accounts, before]
  · exact each kind behind other

/-- What is done twice was all done the first time. -/
theorem BlockData.settle_settle (hw : w.Steady full) :
    (data.settle setup w).store.SameBehind (data.settle setup (data.settle setup w)).store := by
  obtain ⟨τ, settled⟩ := data.settle_touched quiet orderly
  obtain ⟨steady, touched, items⟩ := settled w hw
  obtain ⟨-, touched', items'⟩ := settled _ steady
  have each : ∀ kind, kind ≠ .storageItem →
      (data.settle setup w).store.Same (data.settle setup (data.settle setup w)).store kind := by
    intro kind other
    exact Store.same_iff.mpr ((touched kind other).again (touched' kind other))
  have accounts : (data.settle setup (data.settle setup w)).store.accounts = _ := each .account (by decide)
  intro kind _
  by_cases other : kind = .storageItem
  · subst other
    show (data.settle setup (data.settle setup w)).store.storageItems = _
    rw [items', accounts, items, Table.edit_edit]
  · exact each kind other

/-- Where it was done already, once or more often, it changes nothing behind the blocks. -/
theorem BlockData.settle_again (hv : v.Steady full) (hw : w.Steady full)
    (made : (data.settle setup v).store.SameBehind w.store) :
    (data.settle setup v).store.SameBehind (data.settle setup w).store := by
  have steady := data.settle_steady quiet orderly hv
  exact (settle_settle quiet orderly hv).trans (settle_unique quiet orderly steady hw made)

end

end ChainIndex
