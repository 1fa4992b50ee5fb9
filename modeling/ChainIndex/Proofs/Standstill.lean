import ChainIndex.Proofs.Additions
import ChainIndex.Proofs.Bootstrapping
import ChainIndex.Proofs.Gapless

/-!
# A tick on an unchanged chain

A tick without a failing call that ends with no failed height leaves nothing to do: a block at the height
of the head or above it is on record, and so are the well-known accounts. From there on a tick changes no
index, whatever calls fail, until the chain grows. It ends with an empty report, except where the highest
indexed block has the greatest height of all: then there is no next height, and the tick aborts.
-/

set_option autoImplicit false

namespace ChainIndex

/-- The blocks of the node have distinct ids, and a record under the id of one has its height. -/
structure Chain.Node.Consistent (n : Chain.Node) (records : Table String Indexed.Block) : Prop where
  ids : ∀ h h' b b', n.blocks.get? h = some b → n.blocks.get? h' = some b' → b.id = b'.id → h = h'
  records : ∀ h b r, n.blocks.get? h = some b → records.get? b.id = some r → r.height = h

/-- Nothing is left to do for a tick: a stored block reaches the head, and the well-known accounts are on
record if they are to be. -/
structure World.UpToDate (setup : Setup) (w : World) : Prop where
  head : ∀ b, w.node.latestBlock = .ok b →
    ∃ id r, w.store.blocks.get? id = some r ∧ b.height.toNat ≤ r.height.toNat
  accounts : setup.config.bootstraps = true → ∀ address ∈ Address.wellKnown, w.OnRecord address

namespace World

theorem OnRecord.of_same {address : String} {w w' : World} (h : w.OnRecord address) (node : w'.node = w.node)
    (store : w'.store = w.store) : w'.OnRecord address := by
  unfold OnRecord
  rw [node, store]
  exact h

theorem UpToDate.of_same {setup : Setup} {w w' : World} (h : w.UpToDate setup) (node : w'.node = w.node)
    (store : w'.store = w.store) : w'.UpToDate setup where
  head := by
    rw [node, store]
    exact h.head
  accounts wanted address known := (h.accounts wanted address known).of_same node store

end World

/-! ### Heights -/

/-- Recording a block of the node keeps its height apart from others. -/
theorem Chain.Node.Consistent.recorded {n : Chain.Node} {records : Table String Indexed.Block}
    (h : n.Consistent records) (keyed : n.Keyed) {height : UInt64} {b : Chain.Block}
    (here : n.blocks.get? height = some b) :
    n.Consistent (Recording.recorded records b) ∧
      ∃ id r, (Recording.recorded records b).get? id = some r ∧ r.height = height := by
  rcases Recording.recorded_cases records b with ⟨old, taken, same⟩ | ⟨free, same⟩
  · rw [same]
    exact ⟨h, b.id, old, taken, h.records height b old here taken⟩
  · rw [same]
    refine ⟨{ h with records := fun h' b' r hb' hr => ?_ }, b.id, .ofChain b, Table.get?_insert_self _ _ _,
      keyed.blocks _ _ here⟩
    rw [Table.get?_insert] at hr
    split at hr
    · next ids =>
      obtain rfl := Option.some.inj hr
      exact (keyed.blocks _ _ here).trans (h.ids _ _ _ _ hb' here ids).symm
    · exact h.records h' b' r hb' hr

namespace Tick
variable {setup : Setup}

/-- A height that succeeds has a block on record afterwards. -/
theorem processHeight_reaches (hs : ScansStorageOnly setup) {height : UInt64} {w w' : World} {counts : ItemCounts}
    (answers : w.Answers fun _ => True) (keyed : w.node.Keyed) (consistent : w.node.Consistent w.store.blocks)
    (run : (processHeight setup height).run.run w = (.ok counts, w')) :
    w.node.Consistent w'.store.blocks ∧ ∃ id r, w'.store.blocks.get? id = some r ∧ r.height = height := by
  have still : w.Within [] ((BlockData.fetch height).run.run w).2 := Only.fetch height w
  rcases fetched : (BlockData.fetch height).run.run w with ⟨e | data, u⟩
  · rw [processHeight_of_unfetched fetched] at run
    cases run
  rw [fetched] at still
  have here := Chain.Node.block_eq_ok (Chain.Node.dataAt_eq_ok (BlockData.fetch_ok fetched).1).1
  obtain ⟨v, recorded, blocks⟩ := Recording.recordBlock_of_answers (still.answers answers) data.block
  obtain ⟨_, u', behind, ended⟩ := processHeight_of_fetch hs fetched
  rw [recorded] at behind
  obtain rfl : u' = w' := congrArg Prod.snd (ended.symm.trans run)
  have table : u'.store.blocks = Recording.recorded w.store.blocks data.block := by
    rw [← show u.store.blocks = w.store.blocks from still.shelf .block (by simp), ← blocks]
    exact behind.shelf .block (by decide)
  rw [table]
  exact consistent.recorded keyed here

/-- A climb without a failed height has a block of its last height on record afterwards. -/
theorem climb_reaches (hs : ScansStorageOnly setup) (n : Nat) {height : UInt64} (room : height.toNat + n < UInt64.size)
    {w w' : World} {report : TickReport} (answers : w.Answers fun _ => True) (keyed : w.node.Keyed)
    (consistent : w.node.Consistent w.store.blocks) (run : (climb setup (n + 1) height).run w = (report, w'))
    (complete : report.failedHeight = none) :
    ∃ id r, w'.store.blocks.get? id = some r ∧ r.height.toNat = height.toNat + n := by
  induction n generalizing height w report with
  | zero =>
    rcases first : (processHeight setup height).run.run w with ⟨e | counts, v⟩
    · rw [climb_of_error first] at run
      obtain ⟨rfl, rfl⟩ := Prod.mk.inj run
      cases complete
    · rw [climb_of_ok first] at run
      obtain ⟨-, rfl⟩ := Prod.mk.inj run
      obtain ⟨-, id, r, hr, same⟩ := processHeight_reaches hs answers keyed consistent first
      exact ⟨id, r, hr, congrArg UInt64.toNat same⟩
  | succ n ih =>
    rcases first : (processHeight setup height).run.run w with ⟨e | counts, v⟩
    · rw [climb_of_error first] at run
      obtain ⟨rfl, rfl⟩ := Prod.mk.inj run
      cases complete
    · have within := only_processHeight hs height w
      rw [first] at within
      obtain ⟨consistent, -⟩ := processHeight_reaches hs answers keyed consistent first
      have node := within.node (by decide)
      rw [← node] at consistent
      have next := Store.toNat_succ (by omega : height.toNat + 1 < UInt64.size)
      rw [climb_of_ok first] at run
      obtain ⟨rfl, rfl⟩ := Prod.mk.inj run
      obtain ⟨id, r, hr, same⟩ := ih (by omega) (within.answers answers) (node ▸ keyed) consistent rfl complete
      exact ⟨id, r, hr, by omega⟩

/-- A climb up to the head without a failed height leaves a block on record that reaches the head. -/
theorem head_reached (hs : ScansStorageOnly setup) {latest : UInt64} {range : HeightRange} {w w' : World}
    {report : TickReport} (answers : w.Answers fun _ => True) (keyed : w.node.Keyed)
    (consistent : w.node.Consistent w.store.blocks)
    (next : HeightRange.after? w.store.lastIndexedHeight latest = some range)
    (run : (climb setup range.count range.next).run w = (report, w')) (complete : report.failedHeight = none) :
    ∃ id r, w'.store.blocks.get? id = some r ∧ latest.toNat ≤ r.height.toNat := by
  have word := latest.toNat_lt_size
  have upward {n : Nat} (count : range.count = n + 1) (upTo : range.latest = latest) :
      ∃ id r, w'.store.blocks.get? id = some r ∧ latest.toNat ≤ r.height.toNat := by
    have last : range.next.toNat + n = latest.toNat := by
      rw [HeightRange.count, upTo] at count
      omega
    rw [count] at run
    obtain ⟨id, r, hr, same⟩ := climb_reaches hs n (by omega) answers keyed consistent run complete
    exact ⟨id, r, hr, by omega⟩
  rcases w.store.after?_cases latest with ⟨-, fromZero⟩ | ⟨id, r, hr, -, ⟨room, behind⟩ | ⟨-, full⟩⟩
  · obtain rfl := Option.some.inj (next.symm.trans fromZero)
    exact upward rfl rfl
  · obtain rfl := Option.some.inj (next.symm.trans behind)
    cases count : HeightRange.count ⟨r.height + 1, latest⟩ with
    | zero =>
      -- The highest stored block is at the head or above it, and the climb is none.
      rw [count] at run
      obtain ⟨-, rfl⟩ := Prod.mk.inj run
      refine ⟨id, r, hr, ?_⟩
      have succ := Store.toNat_succ room
      simp only [HeightRange.count] at count
      omega
    | succ n => exact upward count rfl
  · cases next.symm.trans full

/-! ### Ticks -/

/-- A tick without a failing call that ends with no failed height leaves nothing to do. -/
theorem run_upToDate (hs : ScansStorageOnly setup) {w w' : World} {report : TickReport}
    (answers : w.Answers fun _ => True) (keyed : w.node.Keyed) (consistent : w.node.Consistent w.store.blocks)
    (run : (Tick.run setup).run.run w = (.ok report, w')) (done : report.skipped = none)
    (complete : report.failedHeight = none) : w'.UpToDate setup := by
  have ends := run_ends setup w
  rw [run] at ends
  cases ends with
  | offline off => cases done
  | unbounded wrong asked booted => cases done
  | @climbed u v bootstrapped head range known asked booted next =>
    have before := bootstrap_within asked booted
    have climbed := only_climb hs range.count range.next v
    rcases reached : (climb setup range.count range.next).run v with ⟨rest, x⟩
    rw [reached] at complete climbed
    have node : x.node = w.node := (climbed.node (by decide)).trans (before.node (by decide))
    have blocks : v.store.blocks = w.store.blocks := before.shelf .block (by decide)
    have same : v.node = w.node := before.node (by decide)
    have consistent' : v.node.Consistent v.store.blocks := by
      rw [same, blocks]
      exact consistent
    have next' : HeightRange.after? v.store.lastIndexedHeight head.height = some range := by
      rw [Store.lastIndexedHeight, blocks]
      exact next
    suffices upToDate : x.UpToDate setup from upToDate.of_same rfl rfl
    refine ⟨fun b hb => ?_, fun wanted address known => ?_⟩
    · rw [node, known] at hb
      obtain rfl := Except.ok.inj hb
      exact head_reached hs (before.answers answers) (same ▸ keyed) consistent' next' reached complete
    · have booted' := bootstrap_records wanted (asked.answers answers) (asked.node (by decide) ▸ keyed) address known
      rw [booted] at booted'
      intro a ha
      rw [climbed.node (by decide)] at ha
      obtain ⟨r, hr⟩ := booted' a ha
      have keeps := ((TickCall.covers setup).climb range.count range.next).leads (TickCall.keepsAccounts hs) v
      rw [reached] at keeps
      exact keeps.get? hr

/-- What a tick does where nothing is left to do: it changes no index, and it ends with an empty report or
aborts behind a block of the greatest height. -/
inductive Idles (w : World) : Except Abort TickReport × World → Prop where
  | idle {u : World} (skipped : Option SkipReason) (still : u.store = w.store) :
      Idles w (.ok { TickReport.idle with skipped }, u)
  | full {u : World} {id : String} {r : Indexed.Block} (last : w.store.blocks.get? id = some r)
      (greatest : r.height.toNat + 1 = UInt64.size) (still : u.store = w.store) :
      Idles w (.error .heightOverflow, u)

/-- Where nothing is left to do a tick does nothing, whatever calls fail. -/
theorem run_idles {w : World} (upToDate : w.UpToDate setup) : Idles w ((Tick.run setup).run.run w) := by
  have quiet {u : World} (asked : w.Within [.phase] u) {bootstrapped : Nat} {v : World}
      (booted : (bootstrap setup).run u = (bootstrapped, v)) : bootstrapped = 0 ∧ v.store = w.store := by
    have same : u.store = w.store := asked.still (by simp)
    have idle := bootstrap_of_onRecord (upToDate.of_same (asked.node (by simp)) same).accounts
    rw [booted] at idle
    exact ⟨idle.1, idle.2.trans same⟩
  have ends := run_ends setup w
  generalize (Tick.run setup).run.run w = ended at ends ⊢
  cases ends with
  | offline off => exact .idle (some .gatewayUnreachable) rfl
  | unbounded wrong asked booted =>
    obtain ⟨rfl, same⟩ := quiet asked booted
    exact .idle (some .rangeUnavailable) same
  | @overflow u head known asked full =>
    rcases w.store.after?_cases head.height with ⟨-, fromZero⟩ | ⟨id, r, hr, -, ⟨-, behind⟩ | ⟨greatest, -⟩⟩
    · cases full.symm.trans fromZero
    · cases full.symm.trans behind
    · exact .full hr greatest (asked.still (by simp))
  | @climbed u v bootstrapped head range known asked booted next =>
    obtain ⟨rfl, same⟩ := quiet asked booted
    obtain ⟨id', r', hr', reaches⟩ := upToDate.head head known
    have count : range.count = 0 := by
      rcases w.store.after?_cases head.height with ⟨none, fromZero⟩ | ⟨id, r, hr, all, ⟨room, behind⟩ | ⟨-, full⟩⟩
      · exact absurd hr' (none id' r')
      · obtain rfl := Option.some.inj (next.symm.trans behind)
        have highest := all id' r' hr'
        have succ := Store.toNat_succ room
        simp only [HeightRange.count]
        omega
      · cases next.symm.trans full
    rw [count]
    exact .idle none same

/-- After a tick without a failing call that is not skipped and has no failed height, a tick over the same
chain and the same indexes does nothing, whatever calls fail. No two heights of the chain may have blocks of
one id, and no indexed block the id of a block of another height. -/
theorem run_again_idles (hs : ScansStorageOnly setup) {w w' v : World} {report : TickReport}
    (answers : w.Answers fun _ => True) (keyed : w.node.Keyed) (consistent : w.node.Consistent w.store.blocks)
    (run : (Tick.run setup).run.run w = (.ok report, w')) (done : report.skipped = none)
    (complete : report.failedHeight = none) (node : v.node = w'.node) (store : v.store = w'.store) :
    Idles v ((Tick.run setup).run.run v) :=
  run_idles ((run_upToDate hs answers keyed consistent run done complete).of_same node store)

/-- A chain of one block with the service account. -/
def serviceChain : World :=
  .start ((Chain.Node.empty.putBlock (.bare "a" 0 [])).putAccount { Account.holding [(0, "aa")] with
    address := "0x0000000000000001" }) .empty .epoch

def serviceChainTick : Except Abort TickReport × World := (Tick.run .bare).run.run serviceChain

theorem run_again_idles_serviceChain :
    serviceChainTick.1 = .ok { TickReport.idle with processed := [0], bootstrapped := 1 } ∧
      Idles serviceChainTick.2 ((Tick.run .bare).run.run serviceChainTick.2) := by
  have keyed : serviceChain.node.Keyed := (Chain.Node.keyed_empty.change (.block _)).change (.account _)
  have one : ∀ e ∈ serviceChain.node.blocks.entries, e.1 = 0 := by decide
  have height {h : UInt64} {b : Chain.Block} (hb : serviceChain.node.blocks.get? h = some b) : h = 0 :=
    one (h, b) ((Table.mem_entries_iff _ h b).mpr hb)
  have consistent : serviceChain.node.Consistent serviceChain.store.blocks :=
    ⟨fun _ _ _ _ hb hb' _ => (height hb).trans (height hb').symm, fun _ _ _ _ => nofun⟩
  have first : serviceChainTick.1 = .ok { TickReport.idle with processed := [0], bootstrapped := 1 } := by decide +kernel
  have run : (Tick.run .bare).run.run serviceChain = (serviceChainTick.1, serviceChainTick.2) := (Prod.eta _).symm
  rw [first] at run
  exact ⟨first, run_again_idles Setup.bare_scans (fun _ _ _ _ => rfl) keyed consistent run rfl rfl rfl rfl⟩

/-! ### The greatest height -/

/-- The index holds a block of the last height but one, and the chain one of the last height. -/
def lastHeights : World :=
  .start (Chain.Node.empty.putBlock (.bare "b" 18446744073709551615 []))
    { Store.empty with blocks := .ofList [("a", .ofChain (.bare "a" 18446744073709551614 []))] } .epoch

/-- A setup that watches no transactions. -/
def unwatched : Setup := { Setup.bare with config := { Config.default with watches := false } }

def lastHeightsTick : Except Abort TickReport × World := (Tick.run unwatched).run.run lastHeights

/-- A tick that has reached the last height of all is not followed by one that does nothing: that one aborts. -/
theorem aborts_lastHeights :
    lastHeights.outages = .none ∧ lastHeights.node.Made ∧ lastHeights.node.Consistent lastHeights.store.blocks ∧
      lastHeightsTick.1 = .ok { TickReport.idle with processed := [18446744073709551615] } ∧
        ((Tick.run unwatched).run.run lastHeightsTick.2).1 = .error .heightOverflow := by
  have one : ∀ e ∈ lastHeights.node.blocks.entries, e.1 = 18446744073709551615 ∧ e.2.id = "b" := by decide
  have block {h : UInt64} {b : Chain.Block} (hb : lastHeights.node.blocks.get? h = some b) :
      h = 18446744073709551615 ∧ b.id = "b" := one (h, b) ((Table.mem_entries_iff _ h b).mpr hb)
  refine ⟨rfl, .change .empty (.block _), ⟨fun _ _ _ _ hb hb' _ => ?_, fun _ b r hb hr => ?_⟩, ?_, ?_⟩
  · exact (block hb).1.trans (block hb').1.symm
  · rw [(block hb).2] at hr
    cases hr
  · decide +kernel
  · decide +kernel

end Tick

end ChainIndex
