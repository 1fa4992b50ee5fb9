import ChainIndex.Proofs.Diff
import ChainIndex.Proofs.Slots

/-!
# Observation times

A record of a key says when the key was first seen. That time comes from the block of an event, from the
clock, or from whoever dispatches an event, and it is read only where a key that is reported again keeps it.
Two runs in which the same is done at different times are compared step by step: from worlds that differ in
such times at most they lead to worlds that differ in such times at most, with the same results.
-/

set_option autoImplicit false

namespace ChainIndex

open Attempt (Matches Agree Parallel Uses)
open Store (Shelved)
open Indexed (AccountKey Entity)

/-! ### Keys without their times -/

namespace Indexed.AccountKey

/-- The key without the time at which it was first seen. -/
def timeless (k : AccountKey) : AccountKey := { k with createdAt := .epoch }

theorem merge_timeless (incoming stored : AccountKey) :
    merge incoming.timeless stored.timeless = (merge incoming stored).timeless := rfl

theorem eq_of_timeless {k k' : AccountKey} (same : k.timeless = k'.timeless) (createdAt : k.createdAt = k'.createdAt) :
    k = k' := by
  have restored (k : AccountKey) : { k.timeless with createdAt := k.createdAt } = k := rfl
  calc k = { k.timeless with createdAt := k.createdAt } := (restored k).symm
    _ = { k'.timeless with createdAt := k'.createdAt } := by rw [same, createdAt]
    _ = k' := restored k'

/-- A merged key has the time of the stored one, so that their times do not tell them apart. -/
theorem merge_beq_timeless (incoming stored : AccountKey) :
    ((merge incoming stored).timeless == stored.timeless) = (merge incoming stored == stored) := by
  rw [Bool.eq_iff_iff, beq_iff_eq, beq_iff_eq]
  exact ⟨fun same => eq_of_timeless same rfl, congrArg timeless⟩

/-- Keys that differ at most in their times. -/
def TimelessEq (k k' : AccountKey) : Prop := k.timeless = k'.timeless

namespace TimelessEq
variable {k k' : AccountKey}

theorem ofChain (address : String) (k : Chain.AccountKey) (observedAt observedAt' : Timestamp) :
    (AccountKey.ofChain address k observedAt).TimelessEq (AccountKey.ofChain address k observedAt') := rfl

theorem field {α : Type} (h : k.TimelessEq k') (f : AccountKey → α) : f k.timeless = f k'.timeless := congrArg f h

theorem id (h : k.TimelessEq k') : k.id = k'.id := h.field AccountKey.id

theorem index (h : k.TimelessEq k') : k.index = k'.index := h.field AccountKey.index

theorem merge {s s' : AccountKey} (h : k.TimelessEq k') (hs : s.TimelessEq s') :
    (k.merge s).TimelessEq (k'.merge s') := by
  unfold TimelessEq at h hs ⊢
  rw [← merge_timeless, h, hs, merge_timeless]

theorem forall₂_iff {l l' : List AccountKey} : List.Forall₂ TimelessEq l l' ↔ l.map timeless = l'.map timeless :=
  Diff.forall₂_iff_map

theorem get? {t t' : Table String AccountKey} (same : t.mapValues timeless = t'.mapValues timeless) (id : String) :
    Option.Rel TimelessEq (t.get? id) (t'.get? id) := by
  have found : (t.get? id).map timeless = (t'.get? id).map timeless := by
    rw [← Table.get?_mapValues, same, Table.get?_mapValues]
  cases stored' : t'.get? id with
  | none =>
    rw [stored', Option.map_none, Option.map_eq_none_iff] at found
    rw [found]
    exact .none
  | some old' =>
    rw [stored', Option.map_some, Option.map_eq_some_iff] at found
    obtain ⟨old, stored, alike⟩ := found
    rw [stored]
    exact .some alike

end TimelessEq

end Indexed.AccountKey

/-! ### Worlds apart from times -/

/-- The store without the times at which keys were first seen. -/
def Store.timeless (s : Store) : Store := { s with keys := s.keys.mapValues AccountKey.timeless }

/-- Two worlds that differ at most in the times at which keys were first seen, and in their clocks. -/
structure World.TimelessEq (w w' : World) : Prop where
  node : w.node = w'.node
  store : w.store.timeless = w'.store.timeless
  watchers : w.watchers = w'.watchers
  phase : w.phase = w'.phase
  phaseChanges : w.phaseChanges = w'.phaseChanges
  outages : w.outages = w'.outages
  calls : w.calls = w'.calls

/-- An index whose records have no times. -/
class Untimed (α : Type) {π : Type} [Shelved α π] : Prop where
  table (s : Store) : (Shelved.table s.timeless : Table String α) = Shelved.table s
  setTable (t : Table String α) (s : Store) : (Shelved.setTable t s).timeless = Shelved.setTable t s.timeless

instance : Untimed Indexed.Block := ⟨fun _ => rfl, fun _ _ => rfl⟩
instance : Untimed Indexed.Transaction := ⟨fun _ => rfl, fun _ _ => rfl⟩
instance : Untimed Indexed.Event := ⟨fun _ => rfl, fun _ _ => rfl⟩
instance : Untimed Indexed.Account := ⟨fun _ => rfl, fun _ _ => rfl⟩
instance : Untimed Indexed.Contract := ⟨fun _ => rfl, fun _ _ => rfl⟩
instance : Untimed Indexed.StorageItem := ⟨fun _ => rfl, fun _ _ => rfl⟩

namespace World.TimelessEq
variable {w w' : World} {α : Type}

protected theorem refl (w : World) : w.TimelessEq w := ⟨rfl, rfl, rfl, rfl, rfl, rfl, rfl⟩

theorem keys (h : w.TimelessEq w') :
    w.store.keys.mapValues AccountKey.timeless = w'.store.keys.mapValues AccountKey.timeless :=
  congrArg Store.keys h.store

theorem values (h : w.TimelessEq w') :
    List.Forall₂ AccountKey.TimelessEq w.store.keys.values w'.store.keys.values := by
  rw [AccountKey.TimelessEq.forall₂_iff, ← Table.values_mapValues, ← Table.values_mapValues, h.keys]

theorem counted (h : w.TimelessEq w') : w.counted.TimelessEq w'.counted := { h with calls := congrArg (· + 1) h.calls }

theorem setPhase (h : w.TimelessEq w') (phase : Phase) : (w.setPhase phase).TimelessEq (w'.setPhase phase) :=
  { h with phase := rfl, phaseChanges := congrArg (· + 1) h.phaseChanges }

theorem shelve {π : Type} [Shelved α π] [Untimed α] (h : w.TimelessEq w') (t : Table String α) :
    (w.shelve t).TimelessEq (w'.shelve t) :=
  { h with store := by rw [shelve_store, shelve_store, Untimed.setTable, h.store, Untimed.setTable] }

theorem shelveKeys (h : w.TimelessEq w') {t t' : Table String AccountKey}
    (same : t.mapValues AccountKey.timeless = t'.mapValues AccountKey.timeless) :
    (w.shelve t).TimelessEq (w'.shelve t') := by
  refine { h with store := ?_ }
  have rest : ∀ u : Table String AccountKey, ∀ v : World, (v.shelve u).store.timeless =
      { v.store.timeless with keys := u.mapValues AccountKey.timeless } := fun _ _ => rfl
  rw [rest, rest, h.store, same]

/-! ### Calls -/

theorem fails (call : Call) : Act.FailsAlike World.TimelessEq call := ⟨counted, fun h => by rw [h.outages, h.calls]⟩

theorem get {ε : Type} : Matches World.TimelessEq (Agree World.TimelessEq)
    (MonadState.get : ExceptT ε (StateM World) World).run (MonadState.get : ExceptT ε (StateM World) World).run :=
  fun _ _ same => ⟨.ok same, same⟩

theorem ask (call : Call) (answer : Chain.Node → Except Error α) :
    Parallel World.TimelessEq (Act.ask call answer).run :=
  (fails _).attempt (fun _ => rfl) fun _ _ same => ⟨congrArg answer same.node, same⟩

theorem read {call : Call} {answer : Store → α} {v : α → α → Prop}
    (h : ∀ {w w' : World}, w.TimelessEq w' → v (answer w.store) (answer w'.store)) :
    Matches World.TimelessEq (Agree v) (Act.read call answer).run (Act.read call answer).run :=
  (fails _).attempt .error fun _ _ same => ⟨.ok (h same), same⟩

section
variable {π : Type} [Shelved α π] [Untimed α]

theorem table (h : w.TimelessEq w') : (Shelved.table w.store : Table String α) = Shelved.table w'.store := by
  rw [← Untimed.table w.store, h.store, Untimed.table]

theorem write (call : Call) (change : Table String α → Except Error (Table String α)) :
    Parallel World.TimelessEq (Act.write call change).run :=
  (fails call).write table shelve change

theorem findAll : Parallel World.TimelessEq (Act.findAll α).run :=
  (fails _).attempt (fun _ => rfl) fun _ _ same =>
    ⟨congrArg (fun t : Table String α => Except.ok t.values) same.table, same⟩

theorem find (id : String) : Parallel World.TimelessEq (Act.find α id).run :=
  (fails _).attempt (fun _ => rfl) fun _ _ same =>
    ⟨congrArg (fun t : Table String α => Except.ok (t.get? id)) same.table, same⟩

end

theorem findKey (id : String) :
    Matches World.TimelessEq (Agree (Option.Rel AccountKey.TimelessEq)) (Act.find AccountKey id).run
      (Act.find AccountKey id).run :=
  read fun same => AccountKey.TimelessEq.get? same.keys id

/-! ### Writes of keys -/

theorem write_keys (call : Call) {change change' : Table String AccountKey → Except Error (Table String AccountKey)}
    (h : ∀ {t t' : Table String AccountKey}, t.mapValues AccountKey.timeless = t'.mapValues AccountKey.timeless →
      Agree (fun u u' => u.mapValues AccountKey.timeless = u'.mapValues AccountKey.timeless) (change t) (change' t')) :
    Matches World.TimelessEq Eq (Act.write call change).run (Act.write call change').run := by
  refine (fails call).attempt (fun _ => rfl) fun w w' same => ?_
  have changed := h same.keys
  simp only [StateT.run]
  generalize change _ = result, change' _ = result' at changed
  cases changed with
  | ok after => exact ⟨rfl, same.shelveKeys after⟩
  | error e => exact ⟨rfl, same⟩

theorem upsert {k k' : AccountKey} (h : k.TimelessEq k') :
    Matches World.TimelessEq Eq (Act.upsert k).run (Act.upsert k').run := by
  have id : Entity.id k = Entity.id k' := h.id
  unfold Act.upsert
  rw [id]
  refine write_keys _ fun {t t'} same => .ok ?_
  have timeless : k.timeless = k'.timeless := h
  rw [Index.upsert, Index.upsert, Table.mapValues_insert, Table.mapValues_insert, same, id, timeless]

theorem update (id : String) {k k' : AccountKey} (h : k.TimelessEq k') :
    Matches World.TimelessEq Eq (Act.update AccountKey id k).run (Act.update AccountKey id k').run := by
  refine write_keys _ fun {t t'} same => ?_
  have found := AccountKey.TimelessEq.get? same id
  unfold Index.update
  generalize t.get? id = stored, t'.get? id = stored' at found
  cases found with
  | none => exact .error _
  | some _ =>
    refine .ok ?_
    rw [Table.mapValues_insert, Table.mapValues_insert, same]
    exact congrArg _ h

theorem delete (id : String) : Parallel World.TimelessEq (Act.delete AccountKey id).run := by
  refine write_keys _ fun {t t'} same => .ok ?_
  rw [Index.delete, Index.delete, Table.mapValues_erase, Table.mapValues_erase, same]

end World.TimelessEq

/-! ### Reconciling keys -/

namespace KeySync

theorem keysOf_anytime (address : String) :
    Matches World.TimelessEq (Agree (List.Forall₂ AccountKey.TimelessEq)) (keysOf address).run
      (keysOf address).run := by
  refine .map (World.TimelessEq.read World.TimelessEq.values) fun stored stored' alike => ?_
  exact List.rel_filter (fun _ _ h => Bool.eq_iff_iff.mp (h.field fun k => k.address == address)) alike

/-- Times are neither places nor reasons for an update, so that the same operations are made without them. -/
theorem diff_timeless (stored reported : List AccountKey) :
    diff (stored.map AccountKey.timeless) (reported.map AccountKey.timeless) =
      (diff stored reported).map AccountKey.timeless := by
  have operations : Diff.reconcile AccountKey.slot AccountKey.merge _ _ = _ :=
    Diff.reconcile_map (f := AccountKey.timeless) (fun _ => rfl) AccountKey.merge_timeless AccountKey.merge_beq_timeless
      stored reported
  simp only [diff, operations, Diff.map, List.filter_map]
  rfl

theorem idAt?_timeless (stored : List AccountKey) (index : UInt32) :
    idAt? (stored.map AccountKey.timeless) index = idAt? stored index := by
  unfold idAt?
  rw [List.filter_map, List.getLast?_map, Option.map_map]
  rfl

theorem diff_anytime {stored stored' reported reported' : List AccountKey}
    (hs : List.Forall₂ AccountKey.TimelessEq stored stored')
    (hr : List.Forall₂ AccountKey.TimelessEq reported reported') :
    (diff stored reported).map AccountKey.timeless = (diff stored' reported').map AccountKey.timeless := by
  rw [← diff_timeless, ← diff_timeless, AccountKey.TimelessEq.forall₂_iff.mp hs,
    AccountKey.TimelessEq.forall₂_iff.mp hr]

theorem replace_anytime {stored stored' : List AccountKey} {k k' : AccountKey}
    (hs : List.Forall₂ AccountKey.TimelessEq stored stored') (hk : k.TimelessEq k') :
    Matches World.TimelessEq Eq (replace stored k).run (replace stored' k').run := by
  have previous : idAt? stored k.index = idAt? stored' k'.index := by
    rw [← idAt?_timeless stored, ← idAt?_timeless stored', AccountKey.TimelessEq.forall₂_iff.mp hs, hk.index]
  unfold replace
  rw [previous, hk.id]
  split
  · split
    · exact World.TimelessEq.update _ hk
    · exact .seqEq (World.TimelessEq.delete _) fun _ => World.TimelessEq.upsert hk
  · exact World.TimelessEq.update _ hk

theorem sync_anytime (address : String) (account : Chain.Account) (observedAt observedAt' : Timestamp) :
    Matches World.TimelessEq Eq (sync address account observedAt).run (sync address account observedAt').run := by
  refine .seq (keysOf_anytime address) fun stored stored' hs => ?_
  have reported : List.Forall₂ AccountKey.TimelessEq
      (account.keys.map fun k => AccountKey.ofChain address k observedAt)
      (account.keys.map fun k => AccountKey.ofChain address k observedAt') :=
    List.forall₂_map_left_iff.mpr <| List.forall₂_map_right_iff.mpr <| List.forall₂_same.mpr fun k _ =>
      .ofChain address k _ _
  refine .lift (Diff.matches_apply (diff_anytime hs reported) ?_ ?_ ?_)
  · exact fun _ _ => World.TimelessEq.upsert
  · exact fun _ _ => replace_anytime hs
  · intro k k' alike
    rw [AccountKey.TimelessEq.id alike]
    exact World.TimelessEq.delete _

end KeySync

/-! ### Effects -/

namespace Account

theorem look_anytime (address : String) : Parallel World.TimelessEq (look address).run := World.TimelessEq.ask _ _

theorem upsertAll_anytime (contracts : List Indexed.Contract) :
    Parallel World.TimelessEq (Attempt.forEach Act.upsert contracts) :=
  Uses.parallel id (.forEach fun _ _ => .piece (World.TimelessEq.write _ _))

theorem index_anytime (address : String) (observedAt observedAt' : Timestamp) :
    Matches World.TimelessEq Eq (index address observedAt).run (index address observedAt').run := by
  refine .seqEq (look_anytime address) fun account => .seqEq (World.TimelessEq.write _ _) fun _ => ?_
  refine .seqEq (.result (KeySync.sync_anytime _ account _ _)) fun keys => ?_
  refine .seqEq (.lift (upsertAll_anytime (contracts account))) fun _ => ?_
  split
  · exact .pure rfl
  · split <;> exact .pure rfl

theorem indexKey_anytime (address publicKey : String) (observedAt observedAt' : Timestamp) :
    Matches World.TimelessEq Eq (indexKey address publicKey observedAt).run
      (indexKey address publicKey observedAt').run := by
  refine .seqEq (look_anytime address) fun account => ?_
  split
  · exact .pure rfl
  · next reported _ =>
    have key := AccountKey.TimelessEq.ofChain address reported observedAt observedAt'
    refine .seq (World.TimelessEq.findKey _) fun stored stored' found => ?_
    cases found with
    | none => exact World.TimelessEq.upsert key
    | some old => exact World.TimelessEq.upsert (key.merge old)

theorem indexContract_anytime (address name : String) : Parallel World.TimelessEq (indexContract address name).run := by
  refine .seqEq (look_anytime address) fun account => ?_
  split
  · exact .pure rfl
  · exact World.TimelessEq.write _ _

theorem refresh_anytime (address : String) : Parallel World.TimelessEq (refresh address).run := by
  refine .seqEq (.result (look_anytime address)) fun found => ?_
  split
  · exact World.TimelessEq.write _ _
  · split <;> exact .pure rfl

end Account

namespace Meaning

theorem apply_anytime (m : Meaning) (observedAt observedAt' : Timestamp) :
    Matches World.TimelessEq Eq (m.apply observedAt).run (m.apply observedAt').run := by
  cases m with
  | accountCreated address => exact Account.index_anytime address _ _
  | keyAdded address publicKey => exact Account.indexKey_anytime address publicKey _ _
  | keyRemoved address publicKey => exact World.TimelessEq.delete _
  | contractAdded address contract => exact Account.indexContract_anytime address contract
  | contractUpdated address contract => exact Account.indexContract_anytime address contract
  | contractRemoved address contract => exact World.TimelessEq.write _ _
  | tokensWithdrawn source =>
    simp only [apply]
    split
    · exact .pure rfl
    · exact Account.refresh_anytime _
  | tokensDeposited destination =>
    cases destination with
    | none => exact .pure rfl
    | some address => exact Account.refresh_anytime address
  | unrecognized type => exact .pure rfl

/-- The effect of an event is the same at any time, apart from the times of keys. -/
theorem dispatch_anytime (classifier : Classifier) (e : Chain.Event) (observedAt observedAt' : Timestamp) :
    Matches World.TimelessEq Eq (dispatch classifier observedAt e).run (dispatch classifier observedAt' e).run := by
  refine .seqEq (.pure rfl) fun m => .seqEq (.result (apply_anytime m _ _)) fun done => ?_
  split <;> exact .pure rfl

end Meaning

/-! ### Ticks -/

namespace WellKnown

/-- The clock tells no more than when an account is indexed. -/
theorem ensure_anytime (address : String) : Parallel World.TimelessEq (ensure address).run := by
  refine .seqEq (World.TimelessEq.find _) fun found => ?_
  split
  · exact .pure rfl
  · exact .seq World.TimelessEq.get fun w w' _ => .seqEq (Account.index_anytime address _ _) fun _ => .pure rfl

theorem run_anytime : Parallel World.TimelessEq run :=
  Uses.parallel id (.bind (.forEach fun address _ => .piece (ensure_anytime address)) fun _ => .pure _)

end WellKnown

namespace Recording

theorem replaySafe_anytime {work : Act Unit} (h : Parallel World.TimelessEq work.run) :
    Parallel World.TimelessEq (replaySafe work).run := by
  refine .seqEq (.result h) fun result => ?_
  split <;> exact .pure rfl

end Recording

namespace Watch

theorem modify_anytime {f : World → World} (h : ∀ {w w' : World}, w.TimelessEq w' → (f w).TimelessEq (f w')) :
    Parallel World.TimelessEq (modify f : StateM World Unit) := fun _ _ same => ⟨rfl, h same⟩

theorem spawn_anytime (id : String) : Parallel World.TimelessEq (spawn id) := by
  intro w w' same
  simp only [spawn, StateT.run, same.watchers]
  split
  · exact ⟨rfl, same⟩
  · exact ⟨rfl, { same with watchers := rfl }⟩

theorem setStage_anytime (id : String) (stage : Stage) : Parallel World.TimelessEq (setStage id stage) :=
  modify_anytime fun same => { same with watchers := congrArg (Table.insert · id stage) same.watchers }

theorem leave_anytime (id : String) : Parallel World.TimelessEq (leave id) :=
  modify_anytime fun same => { same with watchers := congrArg (Table.erase · id) same.watchers }

theorem finish_anytime (id : String) : Parallel World.TimelessEq (finish id) :=
  modify_anytime fun same => { same with
    watchers := congrArg (Table.erase · id) same.watchers
    node := congrArg Chain.Node.release same.node }

theorem subscribe_anytime (id : String) : Parallel World.TimelessEq (subscribe id).run := by
  refine (World.TimelessEq.fails _).attempt (fun _ => rfl) fun w w' same => ?_
  simp only [StateT.run, same.node]
  split
  · exact ⟨rfl, { same with node := rfl }⟩
  · exact ⟨rfl, same⟩

theorem receive_anytime (id : String) (item : Item) : Parallel World.TimelessEq (receive id item) := by
  cases item with
  | error e => exact .pure rfl
  | ok status =>
    refine .bind (.bind (World.TimelessEq.write _ _) fun _ _ _ => .pure rfl) fun _ _ _ => .pure rfl

/-- Watchers do not look at keys. -/
theorem step_anytime (id : String) : Parallel World.TimelessEq (step id) := by
  refine .bind (v := World.TimelessEq) (fun _ _ same => ⟨same, same⟩) fun w w' same => ?_
  rw [same.watchers, same.outages, same.node]
  split
  · exact .pure rfl
  · refine .bind (subscribe_anytime id) fun subscription _ same => same ▸ ?_
    split
    · exact .bind (setStage_anytime id _) fun _ _ _ => .pure rfl
    · exact .bind (leave_anytime id) fun _ _ _ => .pure rfl
  · split
    · refine .bind (setStage_anytime id _) fun _ _ _ => .bind (receive_anytime id _) fun last _ same => same ▸ ?_
      split
      · exact .bind (finish_anytime id) fun _ _ _ => .pure rfl
      · exact .pure rfl
    · exact .bind (finish_anytime id) fun _ _ _ => .pure rfl
    · exact .pure rfl

end Watch

theorem StorageScan.run_anytime : Parallel World.TimelessEq StorageScan.run.run := by
  refine .seqEq World.TimelessEq.findAll fun accounts => .seqEq (.lift ?_) fun _ => .pure rfl
  refine Uses.parallel id (.forEach fun a _ => .seq (.piece (World.TimelessEq.ask _ _)) fun items => ?_)
  exact .seq (.lift (.forEach fun _ _ => .piece (World.TimelessEq.write _ _))) fun _ => .ok _

namespace Tick
variable {setup : Setup}

/-- The scan of account storage that an indexer is given neither reads nor writes the times of keys. -/
def ScansAnytime (setup : Setup) : Prop :=
  ∀ {scan}, setup.scanStorage = some scan → Parallel World.TimelessEq scan.run

theorem scansAnytime_of_own {setup : Setup} (own : setup.scanStorage = some StorageScan.run) : ScansAnytime setup := by
  intro scan found
  obtain rfl := Option.some.inj (own.symm.trans found)
  exact StorageScan.run_anytime

theorem covers_anytime (scans : ScansAnytime setup) : Covers setup fun _ => Parallel World.TimelessEq where
  ask := World.TimelessEq.ask
  block _ := Recording.replaySafe_anytime (World.TimelessEq.write _ _)
  transaction _ _ := Recording.replaySafe_anytime (World.TimelessEq.write _ _)
  event _ := Recording.replaySafe_anytime (World.TimelessEq.write _ _)
  effect observedAt e := Meaning.dispatch_anytime setup.classifier e observedAt observedAt
  scan := scans
  spawn := Watch.spawn_anytime

theorem bounds_anytime : Parallel World.TimelessEq bounds.run := by
  refine .seqEq (.seqEq World.TimelessEq.findAll fun _ => .pure rfl) fun last => ?_
  exact .seqEq (.seqEq (World.TimelessEq.ask _ _) fun _ => .pure rfl) fun _ => .pure rfl

theorem bootstrap_anytime (setup : Setup) : Parallel World.TimelessEq (bootstrap setup) := by
  unfold bootstrap
  split
  · exact WellKnown.run_anytime
  · exact .pure rfl

/-- A tick does the same at any time, apart from the times of keys. -/
theorem run_anytime (scans : ScansAnytime setup) : Parallel World.TimelessEq (run setup).run := by
  have phase (p : Phase) : Parallel World.TimelessEq (modify (World.setPhase p)) :=
    Watch.modify_anytime fun same => same.setPhase p
  refine .seq World.TimelessEq.get fun w w' same => ?_
  rw [same.node]
  split
  · exact .seqEq (.lift (phase _)) fun _ => .pure rfl
  · refine .seqEq (.lift (phase _)) fun _ => .seqEq (.lift bounds_anytime) fun found => ?_
    split
    · exact .seqEq (.lift (bootstrap_anytime setup)) fun _ => .seqEq (.lift (phase _)) fun _ => .pure rfl
    · split
      · exact .pure rfl
      · refine .seqEq (.lift (bootstrap_anytime setup)) fun _ => ?_
        refine .seqEq (.lift (((covers_anytime scans).climb _ _).parallel id)) fun _ => ?_
        exact .seqEq (.lift (phase _)) fun _ => .pure rfl

end Tick

/-! ### Runs -/

/-- What is done in a step of a run, but for the time of it. -/
inductive Doing where
  | tick (setup : Setup)
  | bootstrap
  | dispatch (classifier : Classifier) (e : Chain.Event)
  /-- The watcher of a transaction makes a step. -/
  | watch (id : String)
  | chain (change : Chain.Node → Chain.Node)
  /-- Other calls fail from here on. -/
  | outages (o : Outages)

namespace Doing

/-- What a step gives. -/
inductive Result where
  | report (outcome : Except Abort TickReport)
  | created (accounts : Nat)
  | handled (outcome : Except Error Meaning)
  | nothing
  deriving DecidableEq

/-- The step at a time: the clock shows it, and events are dispatched as observed at it. -/
def run (time : Timestamp) : Doing → StateM World Result
  | tick setup => do
    modify fun w => { w with clock := time }
    return .report (← (Tick.run setup).run)
  | bootstrap => do
    modify fun w => { w with clock := time }
    return .created (← WellKnown.run)
  | dispatch classifier e => return .handled (← (Meaning.dispatch classifier time e).run)
  | watch id => do
    let _ ← Watch.step id
    return .nothing
  | chain change => do
    modify fun w => { w with node := change w.node }
    return .nothing
  | outages o => do
    modify fun w => { w with outages := o }
    return .nothing

/-- What the steps of a run give and leave, one by one. -/
def trace : List (Doing × Timestamp) → World → List (Result × World)
  | [], _ => []
  | (doing, time) :: rest, w => (doing.run time).run w :: trace rest ((doing.run time).run w).2

/-- The ticks among these steps, if any, scan storage without regard to times. -/
def ScansAnytime (doing : Doing) : Prop := ∀ setup, doing = tick setup → Tick.ScansAnytime setup

theorem run_anytime {doing : Doing} (scans : doing.ScansAnytime) (time time' : Timestamp) :
    Matches World.TimelessEq Eq (doing.run time) (doing.run time') := by
  have clock : Matches World.TimelessEq Eq (modify fun w => { w with clock := time } : StateM World Unit)
      (modify fun w => { w with clock := time' }) := fun _ _ same => ⟨rfl, { same with }⟩
  cases doing with
  | tick setup =>
    exact .bind clock fun _ _ _ => .bind (Tick.run_anytime (scans setup rfl)) fun _ _ same => .pure (congrArg _ same)
  | bootstrap => exact .bind clock fun _ _ _ => .bind WellKnown.run_anytime fun _ _ same => .pure (congrArg _ same)
  | dispatch classifier e =>
    exact .bind (Meaning.dispatch_anytime classifier e _ _) fun _ _ same => .pure (congrArg _ same)
  | watch id => exact .bind (Watch.step_anytime id) fun _ _ _ => .pure rfl
  | chain change =>
    have changed : Parallel World.TimelessEq (modify fun w => { w with node := change w.node } : StateM World Unit) :=
      Watch.modify_anytime fun same => { same with node := congrArg change same.node }
    exact .bind changed fun _ _ _ => .pure rfl
  | outages o =>
    have changed : Parallel World.TimelessEq (modify fun w => { w with outages := o } : StateM World Unit) :=
      Watch.modify_anytime fun same => { same with outages := rfl }
    exact .bind changed fun _ _ _ => .pure rfl

/-- Two runs of the same steps at different times, from worlds that differ at most in the times at which keys
were first seen: every step gives the same in both, and leaves worlds that differ in such times at most. -/
theorem trace_anytime {run run' : List (Doing × Timestamp)} (same : run.map Prod.fst = run'.map Prod.fst)
    (scans : ∀ doing ∈ run.map Prod.fst, doing.ScansAnytime) {w w' : World} (start : w.TimelessEq w') :
    List.Forall₂ (fun a a' => a.1 = a'.1 ∧ a.2.TimelessEq a'.2) (trace run w) (trace run' w') := by
  have steps := Diff.forall₂_iff_map.mpr same
  clear same
  induction steps generalizing w w' with
  | nil => exact .nil
  | @cons step step' rest rest' h _ ih =>
    obtain ⟨doing, time⟩ := step
    obtain ⟨doing', time'⟩ := step'
    subst h
    obtain ⟨first, others⟩ := List.forall_mem_cons.mp scans
    have after := run_anytime first time time' w w' start
    exact .cons after (ih others after.2)

/-! ### An account seen early and late -/

/-- A chain of one block with the service account, which has the key `aa`. -/
def serviceKey : World :=
  .start ((Chain.Node.empty.putBlock (.bare "a" 0 [])).putAccount { Account.holding [(0, "aa")] with
    address := "0x0000000000000001" }) .empty .epoch

/-- A tick, and another account with a key of its own, of which an event tells. -/
def newAccount : List Doing :=
  [.tick .bare, .chain (·.putAccount (Account.holding [(1, "bb")])), .dispatch Setup.bare.classifier secondKeyAdded]

def noon : Timestamp := { Timestamp.epoch with hour := ⟨12, by decide⟩ }

def keyTimes (trace : List (Result × World)) : List (List (String × Timestamp)) :=
  trace.map fun step => step.2.store.keys.values.map fun k => (k.id, k.createdAt)

def newAccountAt (time : Timestamp) : List (Result × World) := trace (newAccount.map (·, time)) serviceKey

theorem trace_anytime_newAccount :
    (newAccountAt .epoch).map Prod.fst =
        [.report (.ok { TickReport.idle with processed := [0], bootstrapped := 1 }), .nothing,
          .handled (.ok (.keyAdded "0x01" "bb"))] ∧
      keyTimes (newAccountAt .epoch) ≠ keyTimes (newAccountAt noon) ∧
        List.Forall₂ (fun a a' => a.1 = a'.1 ∧ a.2.TimelessEq a'.2) (newAccountAt .epoch) (newAccountAt noon) := by
  have doings (time : Timestamp) : (newAccount.map (·, time)).map Prod.fst = newAccount := by
    simp [Function.comp_def]
  have scans : ∀ doing ∈ newAccount, doing.ScansAnytime := by
    rintro _ member setup rfl
    obtain rfl : setup = .bare := by simpa [newAccount] using member
    exact Tick.scansAnytime_of_own rfl
  refine ⟨by decide +kernel, by decide +kernel, trace_anytime ((doings _).trans (doings _).symm) ?_ (.refl _)⟩
  rw [doings]
  exact scans

end Doing

end ChainIndex
