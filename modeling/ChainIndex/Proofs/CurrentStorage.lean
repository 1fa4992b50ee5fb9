import ChainIndex.Proofs.Schedule
import ChainIndex.Proofs.Separators

/-!
# Storage after a tick

Several items of an account may be listed under one path; the last one counts. A height ends with a scan, behind
the effects that may index an account for the first time, and nothing behind it writes an account or an item: so
what the last height of a tick leaves is what the node lists for all accounts that are on record then
(`Tick.run_current`).
-/

set_option autoImplicit false

namespace ChainIndex

open Indexed (Entity StorageItem storageItemId)

/-- The item that is listed last under a path of an account. -/
def Chain.Node.itemAt? (n : Chain.Node) (address : String) (domain : PathDomain) (identifier : String) :
    Option Chain.StorageItem :=
  ((n.storageItems address).filter fun i => decide (i.pathDomain = domain ∧ i.pathIdentifier = identifier)).getLast?

theorem Chain.Node.exists_itemAt? {n : Chain.Node} {address : String} {i : Chain.StorageItem}
    (listed : i ∈ n.storageItems address) : ∃ last, n.itemAt? address i.pathDomain i.pathIdentifier = some last := by
  refine ⟨_, List.getLast?_eq_some_getLast (List.ne_nil_of_mem (List.mem_filter.mpr ⟨listed, ?_⟩))⟩
  exact decide_eq_true ⟨rfl, rfl⟩

namespace World

/-- No address of an account on record has a slash. -/
def Slashless (w : World) : Prop := ∀ a ∈ w.store.accounts.values, '/' ∉ a.address.toList

/-- Of all items that the node lists for the accounts on record the last ones under their paths are stored. -/
def StorageCurrent (w : World) : Prop :=
  ∀ a ∈ w.store.accounts.values, ∀ i ∈ w.node.storageItems a.address,
    ∃ last, w.node.itemAt? a.address i.pathDomain i.pathIdentifier = some last ∧
      w.store.storageItems.get? (storageItemId a.address i.pathDomain i.pathIdentifier) = some (.ofChain a.address last)

/-- Storage is current unless ids of items are ambiguous. -/
def Scanned (w : World) : Prop := w.Slashless → w.StorageCurrent

theorem Scanned.within {parts : List Part} {w w' : World} (h : w.Scanned) (hw : w.Within parts w')
    (accounts : Part.shelf .account ∉ parts) (items : Part.shelf .storageItem ∉ parts) (node : Part.node ∉ parts) :
    w'.Scanned := by
  have sameAccounts : w'.store.accounts = w.store.accounts := hw.shelf .account accounts
  have sameItems : w'.store.storageItems = w.store.storageItems := hw.shelf .storageItem items
  unfold Scanned Slashless StorageCurrent
  rw [sameAccounts, sameItems, hw.node node]
  exact h

end World

/-! ### One scan -/

section
variable {β γ : Type} {f : β → List γ} {part : List γ}

theorem getLast?_flatMap_or {l : List β} (each : ∀ b ∈ l, f b = part ∨ f b = []) :
    (l.flatMap f).getLast?.or part.getLast? = part.getLast? := by
  induction l with
  | nil => rfl
  | cons c l ih =>
    rw [List.flatMap_cons, List.getLast?_append, Option.or_assoc]
    have first : (f c).getLast?.or part.getLast? = part.getLast? := by
      rcases each c List.mem_cons_self with h | h
      · rw [h, Option.or_self]
      · rw [h, List.getLast?_nil, Option.none_or]
    rw [first, ih fun b hb => each b (List.mem_cons_of_mem c hb)]

/-- Of parts that are empty or the same the last element is that of any one that is not left out. -/
theorem getLast?_flatMap_of_mem {l : List β} (each : ∀ b ∈ l, f b = part ∨ f b = []) {b : β} (hb : b ∈ l)
    (whole : f b = part) : (l.flatMap f).getLast? = part.getLast? := by
  induction l with
  | nil => cases hb
  | cons c l ih =>
    have tail := fun d hd => each d (List.mem_cons_of_mem c hd)
    rw [List.flatMap_cons, List.getLast?_append]
    rcases List.mem_cons.mp hb with rfl | hb
    · rw [whole, getLast?_flatMap_or tail]
    · rw [ih tail hb]
      rcases each c List.mem_cons_self with h | h
      · rw [h, Option.or_self]
      · rw [h, List.getLast?_nil, Option.or_none]

end

namespace StorageScan
variable {w w' : World}

theorem ofChain_congr {address address' : String} (same : Address.prefixed address = Address.prefixed address')
    (i : Chain.StorageItem) : StorageItem.ofChain address i = .ofChain address' i := by
  simp only [StorageItem.ofChain, storageItemId, same]

/-- The records of an account with the id of a path are those of the items under that path, if the account has the
address in the id, and else there are none. -/
theorem filter_map_ofChain (node : Chain.Node) {address address' : String} (h : '/' ∉ address.toList)
    (h' : '/' ∉ address'.toList) (domain : PathDomain) (identifier : String) :
    (((node.storageItems address').map (StorageItem.ofChain address')).filter fun r =>
        Entity.id r == storageItemId address domain identifier) =
      if Address.prefixed address' = Address.prefixed address then
        ((node.storageItems address).filter fun i =>
          decide (i.pathDomain = domain ∧ i.pathIdentifier = identifier)).map (.ofChain address)
      else [] := by
  rw [List.filter_map]
  split
  · next same =>
    have items : node.storageItems address' = node.storageItems address := by
      rw [Chain.Node.storageItems, Chain.Node.storageItems, same]
    rw [items, funext (ofChain_congr same)]
    refine congrArg (List.map _) (List.filter_congr fun i _ => ?_)
    refine Bool.eq_iff_iff.mpr (beq_iff_eq.trans (Iff.trans ⟨fun ids => ?_, fun path => ?_⟩ decide_eq_true_iff.symm))
    · exact (Indexed.storageItemId_inj h h ids).2
    · exact path.1 ▸ path.2 ▸ rfl
  · next other =>
    rw [List.map_eq_nil_iff, List.filter_eq_nil_iff]
    intro i _ ids
    exact other (Indexed.storageItemId_inj h' h (beq_iff_eq.mp ids)).1

/-- A scan whose calls are answered leaves storage current. -/
theorem scanned_of_answers (answered : w.Answers Call.OfScan) : (run.run.run w).2.Scanned := by
  obtain ⟨w', ran, edited⟩ := (Failing.none answered).run_logs
  rw [ran]
  have accounts : w'.store.accounts = w.store.accounts := edited.within.shelf .account (by decide)
  have items : w'.store.storageItems = _ := edited.table
  intro slashless a ha i hi
  rw [edited.within.node (by decide)] at hi ⊢
  obtain ⟨last, found⟩ := Chain.Node.exists_itemAt? hi
  refine ⟨last, found, ?_⟩
  unfold World.Slashless at slashless
  rw [accounts] at slashless ha
  have each : ∀ b ∈ w.store.accounts.values, _ := fun b hb =>
    filter_map_ofChain w.node (slashless a ha) (slashless b hb) i.pathDomain i.pathIdentifier
  rw [items, Table.Overlaid.of_edit _ _ _, records]
  simp only [recordsOf_none, List.filter_flatMap]
  rw [getLast?_flatMap_of_mem (fun b hb => ?_) ha ((each a ha).trans (if_pos rfl)), List.getLast?_map]
  · rw [Chain.Node.itemAt?] at found
    rw [found]
    rfl
  · rw [each b hb]
    split
    · exact .inl rfl
    · exact .inr rfl

end StorageScan

/-! ### A whole tick -/

namespace Tick
variable {setup : Setup} (made : StorageScan.Made setup)
include made

/-- A height that was fetched ends with a scan, whether its block could be written or not. -/
theorem processHeight_scans (height : UInt64) {w : World} (answered : w.Answers Call.OfScan) :
    ∃ r w', (processHeight setup height).run.run w = (r, w') ∧ w'.Answers Call.OfScan ∧
      (w'.Scanned ∨ (∃ e, r = .error e) ∧ w.Within [] w') := by
  have still : w.Within [] ((BlockData.fetch height).run.run w).2 := Only.fetch height w
  rcases hf : (BlockData.fetch height).run.run w with ⟨e | data, u⟩ <;> rw [hf] at still
  · exact ⟨_, u, processHeight_of_unfetched hf, still.answers answered, .inr ⟨⟨e, rfl⟩, still⟩⟩
  · have only := Tick.scansStorageOnly_of_own made.own
    have asked (pieces : List Piece) (v : World) (hv : v.Answers Call.OfScan) :
        (Piece.applyAll setup pieces v).Answers Call.OfScan := by
      have parts : ∀ p ∈ pieces, p.parts ⊆ pieces.flatMap Piece.parts := fun p hp part hpart =>
        List.mem_flatMap.mpr ⟨p, hp, hpart⟩
      exact (Piece.applyAll_within only parts v).answers hv
    obtain ⟨counts, run⟩ := processHeight_pieces setup hf
    refine ⟨_, _, run, asked _ u (still.answers answered), .inl ?_⟩
    rw [BlockData.pieces, Piece.applyAll_append]
    have before := asked (.block data.block :: data.details) u (still.answers answered)
    have scan := StorageScan.scanned_of_answers before
    rw [← made.apply_scan] at scan
    have watchersBehind {started : Bool} : ∀ p ∈ (if started then data.spawns else []), p.parts ⊆ [.watchers] := by
      intro p hp
      split at hp
      · obtain ⟨t, -, rfl⟩ := List.mem_map.mp hp
        exact List.Subset.refl _
      · cases hp
    exact scan.within (Piece.applyAll_within only watchersBehind _) (by simp) (by simp) (by simp)

/-- The heights of a tick leave storage current, if there is one or it was current before. -/
theorem climb_scans (n : Nat) (height : UInt64) {w : World} (answered : w.Answers Call.OfScan)
    (some : w.Scanned ∨ ((climb setup n height).run w).1.processed ≠ []) :
    ((climb setup n height).run w).2.Scanned := by
  induction n generalizing height w with
  | zero => exact some.resolve_right fun h => h rfl
  | succ n ih =>
    obtain ⟨r, v, ran, answered', scanned⟩ := processHeight_scans made height answered
    cases r with
    | ok counts =>
      rw [climb_of_ok ran]
      exact ih _ answered' (.inl (scanned.resolve_right fun ⟨⟨e, wrong⟩, _⟩ => nomatch wrong))
    | error e =>
      rw [climb_of_error ran] at some ⊢
      have before := some.resolve_right fun h => h rfl
      exact scanned.elim id fun ⟨_, still⟩ => before.within still (by simp) (by simp) (by simp)

/-- After a tick that processed a height storage is current. -/
theorem run_scans {w w' : World} {report : TickReport} (answered : w.Answers Call.OfScan)
    (ran : (run setup).run.run w = (.ok report, w')) (some : report.processed ≠ []) : w'.Scanned := by
  have ends := run_ends setup w
  rw [ran] at ends
  cases ends with
  | offline => exact absurd rfl some
  | unbounded => exact absurd rfl some
  | climbed known asked booted next =>
    have before := (bootstrap_within asked booted).answers answered
    exact (climb_scans made _ _ before (.inr some)).within (.setPhase .idle _) (by simp) (by simp) (by simp)

end Tick

/-! ### Scans and ticks -/

namespace StorageScan

/-- A scan writes its records over the stored items and gives their number, whatever it cannot read or write; it
changes no other index and removes no item, and made again it changes nothing. Where nothing fails, storage is
current after a tick that processed a height: also that of accounts that the last event of the tick brought, as
long as no slash in an address lets two items have one id. -/
theorem overlays_and_keeps_current (w : World) :
    (∀ unread unwritten, Failing unread unwritten w →
      ∃ w', run.run.run w = (.ok (records unread unwritten w.node w.store.accounts).length, w') ∧
        w.Within [.shelf .storageItem] w' ∧
        w.store.storageItems.Overlaid (records unread unwritten w.node w.store.accounts) w'.store.storageItems ∧
        (∀ id, w.store.storageItems.contains id = true → w'.store.storageItems.contains id = true) ∧
        ∃ w'', run.run.run w' = (.ok (records unread unwritten w.node w.store.accounts).length, w'') ∧
          w''.store = w'.store) ∧
      ∀ setup report w', setup.scanStorage = some run → setup.config.reindexes = true → w.Answers Call.OfScan →
        (Tick.run setup).run.run w = (.ok report, w') → report.processed ≠ [] → w'.Slashless → w'.StorageCurrent := by
  refine ⟨fun unread unwritten failing => ?_, fun setup report w' own reindexes answered ran some => ?_⟩
  · obtain ⟨w', ran, edited⟩ := failing.run_logs
    obtain ⟨w'', again, edited'⟩ := (failing.within edited.within).run_logs
    have accounts : w'.store.accounts = w.store.accounts := edited.within.shelf .account (by decide)
    rw [edited.within.node (by decide), accounts] at again edited'
    have overlaid : w.store.storageItems.Overlaid _ w'.store.storageItems := .of_edited edited
    have overlaid' : w'.store.storageItems.Overlaid _ w''.store.storageItems := .of_edited edited'
    refine ⟨w', ran, edited.within, overlaid, fun id => overlaid.contains, w'', again, ?_⟩
    refine Store.eq_of_same fun kind => ?_
    by_cases scanned : kind = .storageItem
    · exact scanned ▸ overlaid.again overlaid'
    · exact edited'.within.shelf kind (by simpa [Store.Shelved.shelf] using scanned)
  · exact Tick.run_scans ⟨own, reindexes⟩ answered ran some

/-- The account `0x02` cannot be read, and one item of `0x01` cannot be written. -/
def halfRead : World :=
  let account (address : String) : Indexed.Account := ⟨address, address, 0, [], ""⟩
  let one := [⟨.storagePath, "vault", .null⟩, ⟨.storagePath, "sealed", .null⟩,
    ⟨.storagePath, "vault", .ofJson (.bool true)⟩]
  let node := (Chain.Node.empty.putStorage "0x01" one).putStorage "0x02" [⟨.publicPath, "door", .null⟩]
  let accounts := (Table.empty.insert "0x01" (account "0x01")).insert "0x02" (account "0x02")
  let old := Table.empty.insert "0x02/public/door" (.ofChain "0x02" ⟨.publicPath, "door", .ofJson (.bool false)⟩)
  { World.start node { Store.empty with accounts, storageItems := old } .epoch with
    outages := ⟨fun _ call =>
      if call = .storageItems "0x02" ∨ call = .upsert .storageItem "0x01/storage/sealed" then some (.storage "lost")
      else none, fun _ => none⟩ }

/-- The last event of the only block creates an account that lists an item twice. -/
def lateAccount : Chain.Node :=
  let events := [⟨"x", "", "", 0, 0, .null⟩, Schedule.accountEvent "flow.AccountCreated" 1 []]
  let executed := (((Chain.Node.empty.putBlock (.bare "a" 0 ["c"])).putCollection ⟨"c", ["t"]⟩).putTransaction
    (.bare "t") ⟨.sealed, 0, "", events⟩).putAccount (Account.holding [])
  executed.putStorage "0x01" [⟨.storagePath, "vault", .null⟩, ⟨.storagePath, "vault", .ofJson (.bool true)⟩]

theorem halfRead_failing :
    Failing (fun address => decide (address = "0x02")) (fun id => decide (id = "0x01/storage/sealed")) halfRead where
  lists n _ call same := by
    subst same
    rfl
  reads n _ address := by
    show (if Call.storageItems address = .storageItems "0x02" ∨ _ then some (Error.storage "lost") else none).isSome = _
    by_cases h : address = "0x02" <;> simp [h]
  writes n _ id := by
    show (if _ ∨ Call.upsert .storageItem id = .upsert .storageItem "0x01/storage/sealed" then
      some (Error.storage "lost") else none).isSome = _
    by_cases h : id = "0x01/storage/sealed" <;> simp [h]

def lateAccountTick : Except Abort TickReport × World :=
  (Tick.run Schedule.lone).run.run (.start lateAccount .empty .epoch)

/-- Of the three items of `0x01` two are written, one over the other, and the item of `0x02` stays as it was; and the
account that the last event creates has its item as of the second listing. -/
theorem overlays_halfRead_lateAccount :
    (∃ w', run.run.run halfRead = (.ok 2, w') ∧
        w'.store.storageItems.values.map (·.data) = [.ofJson (.bool true), .ofJson (.bool false)] ∧
        ∃ w'', run.run.run w' = (.ok 2, w'') ∧ w''.store = w'.store) ∧
      lateAccountTick.2.StorageCurrent ∧
      lateAccountTick.2.store.storageItems.values.map (·.data) = [.ofJson (.bool true)] := by
  have two : (records (fun address => decide (address = "0x02")) (fun id => decide (id = "0x01/storage/sealed"))
      halfRead.node halfRead.store.accounts).length = 2 := by decide +kernel
  have ticked : lateAccountTick.1 = .ok ⟨none, [0], none, 0, ⟨1, 2, 2, 0⟩⟩ := by decide +kernel
  have run : (Tick.run Schedule.lone).run.run (.start lateAccount .empty .epoch) =
      (lateAccountTick.1, lateAccountTick.2) := (Prod.eta _).symm
  rw [ticked] at run
  have slashless : ∀ a ∈ lateAccountTick.2.store.accounts.values, '/' ∉ a.address.toList := by decide +kernel
  refine ⟨?_, ?_, by decide +kernel⟩
  · obtain ⟨w', ran, -, -, -, again⟩ := (overlays_and_keeps_current halfRead).1 _ _ halfRead_failing
    rw [two] at ran again
    refine ⟨w', ran, ?_, again⟩
    rw [show w' = (StorageScan.run.run.run halfRead).2 by rw [ran]]
    decide +kernel
  · exact (overlays_and_keeps_current (.start lateAccount .empty .epoch)).2 Schedule.lone _ _ rfl rfl
      (fun _ _ _ _ => rfl) run (by decide) slashless

end StorageScan

end ChainIndex
