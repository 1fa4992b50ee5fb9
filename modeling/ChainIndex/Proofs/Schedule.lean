import ChainIndex.Proofs.Gapless
import ChainIndex.Proofs.Settling

/-!
# Every schedule ends with the same index

Ticks that are skipped, that fail on their way or that see only the first blocks of a chain lead to the
index that one tick over the whole chain leads to. `ideal` is the store after the first heights, each
processed once and without failure. Whatever fails, the blocks on record are those of an ideal store,
and all other indexes are those of that store or of the next one (`Schedule.At`).
-/

set_option autoImplicit false

namespace ChainIndex

open Indexed (AccountKey)

/-! ### Chains -/

namespace Chain.Node

/-- A chain of which nothing is missing: its blocks up to the head have distinct ids, and whatever they
lead to can be looked up. -/
structure Complete (full : Node) (head : UInt64) : Prop where
  blocks : ∀ h, (full.blocks.get? h).isSome ↔ h ≤ head
  ids : ∀ h h' b b', full.blocks.get? h = some b → full.blocks.get? h' = some b' → b.id = b'.id → h = h'
  data : ∀ h, h ≤ head → ∃ data, full.dataAt h = .ok data
  reachable : full.reachable = true
  orderly : full.Orderly

/-- A node that holds a chain and shows its first `r` blocks. It may be out of reach, and blocks may be
unavailable. -/
structure Shows (full : Node) (r : Nat) (n : Node) : Prop where
  blocks : ∀ h b, n.blocks.get? h = some b ↔ h.toNat < r ∧ full.blocks.get? h = some b
  collections : n.collections = full.collections
  transactions : n.transactions = full.transactions
  channels : n.channels = full.channels
  accounts : n.accounts = full.accounts
  storage : n.storage = full.storage

variable {full n : Node} {head height : UInt64} {r : Nat}

theorem Complete.dataAt_of_shows (complete : full.Complete head) (shown : full.Shows r n) {data : BlockData}
    (h : n.dataAt height = .ok data) : full.dataAt height = .ok data := by
  obtain ⟨block, collections, bodies, statuses, hbodies, hstatuses, transactions, events⟩ := dataAt_eq_ok h
  obtain ⟨-, found⟩ := (shown.blocks _ _).mp (block_eq_ok block)
  obtain ⟨data', h'⟩ := complete.data height ((complete.blocks height).mp (by rw [found]; rfl))
  obtain ⟨block', collections', bodies', statuses', hbodies', hstatuses', transactions', events'⟩ := dataAt_eq_ok h'
  have eqBlock : data'.block = data.block := Option.some.inj ((block_eq_ok block').symm.trans found)
  simp only [collection, transaction, status, shown.collections, shown.transactions, shown.channels]
    at collections hbodies hstatuses
  simp only [collection, transaction, status, eqBlock] at collections' hbodies' hstatuses'
  have eqCollections : data'.collections = data.collections := Except.ok.inj (collections'.symm.trans collections)
  rw [eqCollections] at hbodies' hstatuses'
  obtain rfl : bodies' = bodies := Except.ok.inj (hbodies'.symm.trans hbodies)
  obtain rfl : statuses' = statuses := Except.ok.inj (hstatuses'.symm.trans hstatuses)
  have eqTransactions : data'.transactions = data.transactions := transactions'.trans transactions.symm
  have same : data' = data := by
    cases data
    cases data'
    simp_all
  rw [h', same]

theorem Complete.latestBlock (complete : full.Complete head) : ∃ b, full.latestBlock = .ok b := by
  obtain ⟨c, hc⟩ := Option.isSome_iff_exists.mp ((complete.blocks head).mpr (UInt64.le_refl head))
  cases last : full.blocks.last? with
  | none =>
    have mem := (full.blocks.mem_entries_iff head c).mpr hc
    rw [List.getLast?_eq_none_iff.mp last] at mem
    cases mem
  | some e =>
    refine ⟨e.2, ?_⟩
    rw [Node.latestBlock, last]
    rfl

namespace Shows

theorem none (full : Node) : full.Shows 0 { full with blocks := .empty } := by
  refine ⟨fun h b => ⟨fun hb => ?_, fun both => absurd both.1 (Nat.not_lt_zero _)⟩, rfl, rfl, rfl, rfl, rfl⟩
  cases hb

theorem all (complete : full.Complete head) : full.Shows (head.toNat + 1) full := by
  refine ⟨fun h b => ⟨fun found => ⟨?_, found⟩, fun both => both.2⟩, rfl, rfl, rfl, rfl, rfl⟩
  have le := (complete.blocks h).mp (by rw [found]; rfl)
  exact Nat.lt_succ_of_le (UInt64.le_iff_toNat_le.mp le)

theorem putBlock (shown : full.Shows r n) {b : Block} (next : b.height.toNat = r)
    (known : full.blocks.get? b.height = some b) : full.Shows (r + 1) (n.putBlock b) := by
  refine ⟨fun height c => ?_, shown.collections, shown.transactions, shown.channels, shown.accounts, shown.storage⟩
  rw [Node.putBlock, Table.get?_insert]
  split
  · next same =>
    subst same
    rw [known]
    exact ⟨fun eq => ⟨by omega, eq⟩, fun both => both.2⟩
  · next other =>
    have ne : height.toNat ≠ r := fun same => other (UInt64.toNat_inj.mp (same.trans next.symm))
    rw [shown.blocks]
    exact ⟨fun both => ⟨by omega, both.2⟩, fun both => ⟨by omega, both.2⟩⟩

/-- What is out of reach is shown all the same. -/
theorem outage (shown : full.Shows r n) (reachable : Bool) (failing : List UInt64) :
    full.Shows r { n with reachable, failing } :=
  ⟨shown.blocks, shown.collections, shown.transactions, shown.channels, shown.accounts, shown.storage⟩

end Shows

end Chain.Node

/-! ### A height -/

/-- Processing a height that was fetched does everything behind its block. -/
theorem Tick.processHeight_settles {full : Chain.Node} {setup : Setup} (quiet : setup.Quiet) (orderly : full.Orderly)
    {w u w' : World} (hw : w.Steady full) {height : UInt64} {data : BlockData} {result : Except Error ItemCounts}
    (hf : (BlockData.fetch height).run.run w = (.ok data, u))
    (run : (processHeight setup height).run.run w = (result, w')) :
    w'.Steady full ∧ (data.settle setup w).store.SameBehind w'.store := by
  have still : w.Within [] u := by
    have step := (Only.fetch height : Only [] _) w
    rw [hf] at step
    exact step
  have hu := hw.within still (by simp) ((still.shelf .key (by simp) : u.store.keys = _) ▸ hw.reported)
  have first : u.Within [.shelf .block] ((Piece.block data.block).apply setup u) := Only.recordBlock data.block u
  have pieces (recorded : Bool) : Piece.applyAll setup (data.pieces setup recorded) u =
      data.settle setup ((Piece.block data.block).apply setup u) := by
    rw [BlockData.pieces, quiet.watches, Bool.and_false]
    rfl
  obtain ⟨counts, whole⟩ := processHeight_pieces setup hf
  obtain ⟨-, rfl⟩ := Prod.mk.inj (run.symm.trans whole)
  rw [pieces]
  generalize (Piece.block data.block).apply setup u = v at first
  have hv := hu.within first (by decide) ((first.shelf .key (by decide) : v.store.keys = _) ▸ hu.reported)
  refine ⟨data.settle_steady quiet orderly hv, data.settle_unique quiet orderly hw hv fun kind behind => ?_⟩
  exact (still.shelf kind (by simp)).trans (first.shelf kind (by simpa using behind))

/-! ### The ideal stores -/

theorem World.start_steady {full : Chain.Node} {store : Store} (reported : AllReported full store.keys) (clock : Timestamp) :
    (World.start full store clock).Steady full where
  accounts := rfl
  storage := rfl
  tolerable := Outages.none_tolerable
  reported := reported

/-- The store after the first heights of a chain, each processed once and without failure. -/
def ideal (setup : Setup) (full : Chain.Node) : Nat → Store
  | 0 => .empty
  | n + 1 =>
    ((Tick.processHeight setup (UInt64.ofNat n)).run.run (.start full (ideal setup full n) .epoch)).2.store

section
variable {full : Chain.Node} {setup : Setup} {head : UInt64} (quiet : setup.Quiet) (complete : full.Complete head)
include complete

omit complete in
theorem toNat_height {n : Nat} (h : n ≤ head.toNat) : (UInt64.ofNat n).toNat = n :=
  UInt64.toNat_ofNat_of_lt' (Nat.lt_of_le_of_lt h head.toNat_lt_size)

theorem data_of_le {n : Nat} (h : n ≤ head.toNat) : ∃ data, full.dataAt (UInt64.ofNat n) = .ok data := by
  refine complete.data _ (UInt64.le_iff_toNat_le.mpr ?_)
  rw [toNat_height h]
  exact h

include quiet

/-- One more height: its block is recorded, and everything behind it is done. -/
theorem ideal_succ {n : Nat} (reported : AllReported full (ideal setup full n).keys) {data : BlockData}
    (hd : full.dataAt (UInt64.ofNat n) = .ok data) :
    AllReported full (ideal setup full (n + 1)).keys ∧
      (ideal setup full (n + 1)).blocks = Recording.recorded (ideal setup full n).blocks data.block ∧
      (data.settle setup (.start full (ideal setup full n) .epoch)).store.SameBehind (ideal setup full (n + 1)) := by
  have steady := World.start_steady reported .epoch
  obtain ⟨result, w', run, -, cases⟩ := Tick.processHeight_cases (Tick.scansStorageOnly_of_own quiet.own)
    (UInt64.ofNat n) (.start full (ideal setup full n) .epoch) steady.honest
  rcases hf : (BlockData.fetch (UInt64.ofNat n)).run.run (.start full (ideal setup full n) .epoch) with ⟨fetched, u⟩
  have answers : (World.start full (ideal setup full n) .epoch).Answers BlockData.Looks := fun _ _ _ _ => rfl
  have same := BlockData.fetch_of_answers answers (UInt64.ofNat n)
  rw [hf] at same
  obtain rfl : fetched = .ok data := same.trans hd
  obtain ⟨steady', behind⟩ := Tick.processHeight_settles quiet complete.orderly steady hf run
  rw [ideal, run]
  rcases cases with ⟨e, -, -, wrong⟩ | ⟨counts, b, -, hb, blocks⟩
  · obtain ⟨e, he⟩ := wrong rfl
    cases he.symm.trans hd
  · obtain rfl := Except.ok.inj (hb.symm.trans (Chain.Node.dataAt_eq_ok hd).1)
    exact ⟨steady'.reported, blocks, behind⟩

theorem ideal_reported {n : Nat} (h : n ≤ head.toNat + 1) : AllReported full (ideal setup full n).keys := by
  induction n with
  | zero =>
    intro id k hk
    cases hk
  | succ n ih =>
    obtain ⟨data, hd⟩ := data_of_le complete (by omega : n ≤ head.toNat)
    exact (ideal_succ quiet complete (ih (by omega)) hd).1

/-- The blocks of an ideal store are those of the first heights. -/
theorem mem_ideal {n : Nat} (h : n ≤ head.toNat + 1) (id : String) (b : Indexed.Block) :
    (ideal setup full n).blocks.get? id = some b ↔
      ∃ height c, height.toNat < n ∧ full.blocks.get? height = some c ∧ id = c.id ∧ b = .ofChain c := by
  induction n generalizing id b with
  | zero =>
    constructor
    · intro hb
      cases hb
    · rintro ⟨height, c, lt, -⟩
      exact absurd lt (Nat.not_lt_zero _)
  | succ n ih =>
    have le : n ≤ head.toNat := by omega
    obtain ⟨data, hd⟩ := data_of_le complete le
    have at_ := Chain.Node.block_eq_ok (Chain.Node.dataAt_eq_ok hd).1
    have nat := toNat_height le
    -- No block of an earlier height has the id of the next one.
    have new : ¬ (ideal setup full n).blocks.contains data.block.id = true := by
      intro there
      obtain ⟨old, hold⟩ := Option.isSome_iff_exists.mp there
      obtain ⟨height, c, lt, hc, ids, -⟩ := (ih (by omega) _ old).mp hold
      rw [complete.ids _ _ _ _ hc at_ ids.symm, nat] at lt
      exact Nat.lt_irrefl _ lt
    obtain ⟨-, blocks, -⟩ := ideal_succ quiet complete (ideal_reported quiet complete (by omega)) hd
    rw [blocks, Recording.recorded, if_neg new, Table.get?_insert]
    constructor
    · intro hb
      split at hb
      · next same => exact ⟨UInt64.ofNat n, data.block, by omega, at_, same, (Option.some.inj hb).symm⟩
      · obtain ⟨height, c, lt, rest⟩ := (ih (by omega) id b).mp hb
        exact ⟨height, c, by omega, rest⟩
    · rintro ⟨height, c, lt, hc, rfl, rfl⟩
      by_cases top : height.toNat = n
      · obtain rfl : height = UInt64.ofNat n := UInt64.toNat_inj.mp (top.trans nat.symm)
        obtain rfl := Option.some.inj (at_.symm.trans hc)
        rw [if_pos rfl]
      · have other : c.id ≠ data.block.id := by
          intro ids
          rw [complete.ids _ _ _ _ hc at_ ids, nat] at top
          exact top rfl
        rw [if_neg other]
        exact (ih (by omega) _ _).mpr ⟨height, c, by omega, hc, rfl, rfl⟩

theorem ideal_last {n : Nat} (h : n ≤ head.toNat) :
    (ideal setup full (n + 1)).lastIndexedHeight = some (UInt64.ofNat n) := by
  have nat := toNat_height h
  have mem := mem_ideal quiet complete (by omega : n + 1 ≤ head.toNat + 1)
  obtain ⟨c, hc⟩ := Option.isSome_iff_exists.mp
    ((complete.blocks (UInt64.ofNat n)).mpr (UInt64.le_iff_toNat_le.mpr (nat.symm ▸ h)))
  have own := complete.orderly.keyed.blocks
  have here : Indexed.Block.ofChain c ∈ (ideal setup full (n + 1)).blocks.values :=
    (Table.mem_values_iff _ _).mpr ⟨c.id, (mem _ _).mpr ⟨_, c, by omega, hc, rfl, rfl⟩⟩
  rcases Store.greatestHeight?_cases (ideal setup full (n + 1)).blocks.values with ⟨none, -⟩ | ⟨b, hb, greatest, all⟩
  · rw [none] at here
    cases here
  · obtain ⟨id, hid⟩ := (Table.mem_values_iff _ _).mp hb
    obtain ⟨height, c', lt, hc', -, rfl⟩ := (mem id b).mp hid
    have low : c'.height.toNat < n + 1 := own height c' hc' ▸ lt
    have top := all _ here
    rw [show (Indexed.Block.ofChain c).height = c.height from rfl, own _ c hc, nat] at top
    have same : c'.height = UInt64.ofNat n := UInt64.toNat_inj.mp (by
      rw [nat]
      exact Nat.le_antisymm (Nat.le_of_lt_succ low) top)
    rw [Store.lastIndexedHeight, greatest]
    exact congrArg some same

end

/-! ### Schedules -/

/-- Runs of an indexer that begins with empty indexes on a node that holds a chain. The blocks of the chain
are revealed one by one; `r` is their number. Between ticks the node is out of reach or not, the blocks of
some heights are unavailable, and the calls that may fail change. -/
inductive Schedule (setup : Setup) (full : Chain.Node) : Nat → World → Prop where
  | start (clock : Timestamp) : Schedule setup full 0 (.start { full with blocks := .empty } .empty clock)
  | reveal {r : Nat} {w : World} {b : Chain.Block} (schedule : Schedule setup full r w)
      (next : b.height.toNat = r) (known : full.blocks.get? b.height = some b) :
      Schedule setup full (r + 1) { w with node := w.node.putBlock b }
  | reach {r : Nat} {w : World} (schedule : Schedule setup full r w) (reachable : Bool) :
      Schedule setup full r { w with node := w.node.setReachable reachable }
  | unavailable {r : Nat} {w : World} (schedule : Schedule setup full r w) (failing : List UInt64) :
      Schedule setup full r { w with node := { w.node with failing } }
  | outages {r : Nat} {w : World} (schedule : Schedule setup full r w) {outages : Outages}
      (tolerable : outages.Tolerable) : Schedule setup full r { w with outages }
  | tick {r : Nat} {w : World} (schedule : Schedule setup full r w) :
      Schedule setup full r ((Tick.run setup).run.run w).2

namespace Schedule

/-- The first `n` heights are done, and of the next one nothing or everything but its block. -/
structure At (setup : Setup) (full : Chain.Node) (n r : Nat) (w : World) : Prop where
  shown : full.Shows r w.node
  tolerable : w.outages.Tolerable
  reported : AllReported full w.store.keys
  le : n ≤ r
  blocks : w.store.blocks = (ideal setup full n).blocks
  behind : (ideal setup full n).SameBehind w.store ∨ n < r ∧ (ideal setup full (n + 1)).SameBehind w.store

namespace At
variable {setup : Setup} {full : Chain.Node} {n r : Nat} {w w' : World}

theorem steady (h : At setup full n r w) : w.Steady full :=
  ⟨h.shown.accounts, h.shown.storage, h.tolerable, h.reported⟩

theorem start {node : Chain.Node} (shown : full.Shows r node) (clock : Timestamp) :
    At setup full 0 r (.start node .empty clock) where
  shown := shown
  tolerable := Outages.none_tolerable
  reported _ _ hk := nomatch hk
  le := Nat.zero_le r
  blocks := rfl
  behind := .inl (.refl _)

theorem reveal (h : At setup full n r w) {b : Chain.Block} (next : b.height.toNat = r)
    (known : full.blocks.get? b.height = some b) : At setup full n (r + 1) { w with node := w.node.putBlock b } where
  shown := h.shown.putBlock next known
  tolerable := h.tolerable
  reported := h.reported
  le := Nat.le_succ_of_le h.le
  blocks := h.blocks
  behind := h.behind.imp_right fun next => ⟨Nat.lt_succ_of_lt next.1, next.2⟩

theorem of_same (h : At setup full n r w) (shown : full.Shows r w'.node) (tolerable : w'.outages.Tolerable)
    (same : ∀ kind, w.store.Same w'.store kind) : At setup full n r w' where
  shown := shown
  tolerable := tolerable
  reported := (same .key : w'.store.keys = _) ▸ h.reported
  le := h.le
  blocks := by
    have kept : w'.store.blocks = w.store.blocks := same .block
    rw [kept, h.blocks]
  behind := by
    have behind : w.store.SameBehind w'.store := fun kind _ => same kind
    rcases h.behind with now | ⟨lt, next⟩
    · exact .inl (now.trans behind)
    · exact .inr ⟨lt, next.trans behind⟩

theorem of_within (h : At setup full n r w) (within : w.Within [.phase] w') : At setup full n r w' := by
  refine h.of_same ?_ ?_ fun kind => within.shelf kind (by simp)
  · rw [within.node (by decide)]
    exact h.shown
  · rw [within.outages]
    exact h.tolerable

/-- Where no height is left the store is an ideal one. -/
theorem store_eq (h : At setup full r r w) : w.store = ideal setup full r := by
  rcases h.behind with now | ⟨lt, -⟩
  · refine Store.eq_of_same fun kind => ?_
    by_cases block : kind = .block
    · subst block
      exact h.blocks
    · exact now kind block
  · exact absurd lt (Nat.lt_irrefl _)

section
variable {head : UInt64} (quiet : setup.Quiet) (complete : full.Complete head) (top : r ≤ head.toNat + 1)
include quiet complete top

/-- Processing the next height leaves it untouched, or everything but its block done, or all of it. It
fails only if something is wrong with the node or with calls. -/
theorem height (h : At setup full n r w) (lt : n < r) :
    ∃ result w', (Tick.processHeight setup (UInt64.ofNat n)).run.run w = (result, w') ∧
      w.Within (.shelf .block :: Tick.besidesBlocks) w' ∧
      ((∃ e, result = .error e) ∧ (w.outages = .none → ∃ e, w.node.dataAt (UInt64.ofNat n) = .error e) ∧
          At setup full n r w' ∨
        (∃ counts, result = .ok counts) ∧ At setup full (n + 1) r w') := by
  obtain ⟨result, w', run, within, cases⟩ := Tick.processHeight_cases (Tick.scansStorageOnly_of_own quiet.own)
    (UInt64.ofNat n) w h.steady.honest
  refine ⟨result, w', run, within, ?_⟩
  have fetching : w.Within [] ((BlockData.fetch (UInt64.ofNat n)).run.run w).2 := Only.fetch (UInt64.ofNat n) w
  rcases hf : (BlockData.fetch (UInt64.ofNat n)).run.run w with ⟨e | data, u⟩
  · -- Nothing was fetched, so nothing was written.
    rw [hf] at fetching
    obtain ⟨rfl, rfl⟩ := Prod.mk.inj (run.symm.trans (Tick.processHeight_of_unfetched hf))
    rcases cases with ⟨_, -, -, wrong⟩ | ⟨_, _, fetched, -⟩
    · exact Or.inl ⟨⟨e, rfl⟩, wrong, h.of_within (fetching.mono (List.nil_subset _))⟩
    · cases fetched
  · have found := (BlockData.fetch_ok hf).1
    have hd := complete.dataAt_of_shows h.shown found
    have fresh := World.start_steady (ideal_reported quiet complete (by have := h.le; omega : n ≤ head.toNat + 1)) .epoch
    obtain ⟨-, recorded, done⟩ := ideal_succ quiet complete fresh.reported hd
    obtain ⟨steady, after⟩ := Tick.processHeight_settles quiet complete.orderly h.steady hf run
    have settled : (data.settle setup (.start full (ideal setup full n) .epoch)).store.SameBehind
        (data.settle setup w).store := by
      rcases h.behind with now | ⟨-, next⟩
      · exact data.settle_unique quiet complete.orderly fresh h.steady now
      · exact data.settle_again quiet complete.orderly fresh h.steady (done.trans next)
    have next := done.symm.trans (settled.trans after)
    have shown : full.Shows r w'.node := within.node (by decide) ▸ h.shown
    rcases cases with ⟨e, rfl, blocks, wrong⟩ | ⟨counts, b, rfl, hb, blocks⟩
    · refine Or.inl ⟨⟨e, rfl⟩, wrong, ?_⟩
      exact ⟨shown, steady.tolerable, steady.reported, h.le, blocks.trans h.blocks, Or.inr ⟨lt, next⟩⟩
    · obtain rfl := Except.ok.inj (hb.symm.trans (Chain.Node.dataAt_eq_ok found).1)
      refine Or.inr ⟨⟨counts, rfl⟩, shown, steady.tolerable, steady.reported, lt, ?_, Or.inl next⟩
      rw [blocks, h.blocks, recorded]

/-- A climb from the next height on goes on with it, and if nothing is wrong it comes to its end. -/
theorem climb (count : Nat) (h : At setup full n r w) (room : n + count ≤ r) :
    ∃ report m w', (Tick.climb setup count (UInt64.ofNat n)).run w = (report, w') ∧ At setup full m r w' ∧
      (w.outages = .none → (∀ height, height.toNat < r → ∃ data, w.node.dataAt height = .ok data) → m = n + count) := by
  induction count generalizing n w with
  | zero => exact ⟨_, n, w, rfl, h, fun _ _ => rfl⟩
  | succ count ih =>
    have lt : n < r := by omega
    obtain ⟨result, v, run, within, ⟨⟨e, rfl⟩, wrong, hv⟩ | ⟨⟨counts, rfl⟩, hv⟩⟩ :=
      h.height quiet complete top lt
    · refine ⟨_, n, v, Tick.climb_of_error run count, hv, fun calm whole => ?_⟩
      obtain ⟨e, he⟩ := wrong calm
      obtain ⟨data, hd⟩ := whole (UInt64.ofNat n) (by rw [toNat_height (by omega : n ≤ head.toNat)]; exact lt)
      cases he.symm.trans hd
    · obtain ⟨report, m, w', rest, hw', complete⟩ := ih hv (by omega)
      have next : UInt64.ofNat n + 1 = UInt64.ofNat (n + 1) := (UInt64.ofNat_add n 1).symm
      have steps := Tick.climb_of_ok run count
      rw [next, rest] at steps
      refine ⟨_, m, w', steps, hw', fun calm whole => ?_⟩
      · rw [complete (within.outages.trans calm) (within.node (by decide) ▸ whole)]
        omega

omit quiet in
theorem latest (h : At setup full n r w) {b : Chain.Block} (hb : w.node.latestBlock = .ok b) : b.height.toNat + 1 = r := by
  obtain ⟨height, last, found⟩ := Chain.Node.latestBlock_eq_ok hb
  obtain ⟨lt, known⟩ := (h.shown.blocks height b).mp found
  obtain rfl : b.height = height := complete.orderly.keyed.blocks _ _ known
  -- The block of the height before `r` is shown too, so it is not behind the last one.
  have le : r - 1 ≤ head.toNat := by omega
  have nat := toNat_height le
  obtain ⟨c, hc⟩ := Option.isSome_iff_exists.mp
    ((complete.blocks (UInt64.ofNat (r - 1))).mpr (UInt64.le_iff_toNat_le.mpr (nat.symm ▸ le)))
  have there := (h.shown.blocks _ c).mpr ⟨by omega, hc⟩
  obtain ⟨e, he, hlast⟩ := Option.map_eq_some_iff.mp last
  rcases Table.last?_greatest he there with same | before
  · rw [← hlast, ← same, nat]
    omega
  · have less : UInt64.ofNat (r - 1) < b.height := hlast ▸ of_decide_eq_true before
    rw [UInt64.lt_iff_toNat_lt, nat] at less
    omega

theorem after? (h : At setup full n r w) (latest : UInt64) :
    (HeightRange.after? w.store.lastIndexedHeight latest = none ∧ n = UInt64.size) ∨
      n < UInt64.size ∧ HeightRange.after? w.store.lastIndexedHeight latest = some ⟨UInt64.ofNat n, latest⟩ := by
  have le := h.le
  have word := head.toNat_lt_size
  have last : w.store.lastIndexedHeight = (ideal setup full n).lastIndexedHeight := by
    rw [Store.lastIndexedHeight, h.blocks]
    rfl
  rw [last]
  cases n with
  | zero => exact .inr ⟨by decide, rfl⟩
  | succ k =>
    have nat := toNat_height (by omega : k ≤ head.toNat)
    rw [ideal_last quiet complete (by omega), HeightRange.after?, HeightRange.succ?, nat]
    by_cases room : k + 1 < UInt64.size
    · refine .inr ⟨room, ?_⟩
      rw [if_pos room, show UInt64.ofNat k + 1 = UInt64.ofNat (k + 1) from (UInt64.ofNat_add k 1).symm]
      rfl
    · refine .inl ⟨?_, by omega⟩
      rw [if_neg room]
      rfl

/-- A tick goes on with the next height. If nothing is wrong it comes to the head. -/
theorem tick (h : At setup full n r w) :
    ∃ result m w', (Tick.run setup).run.run w = (result, w') ∧ At setup full m r w' ∧
      (n < r → w.node.reachable = true → w.outages = .none →
        (∀ height, height.toNat < r → ∃ data, w.node.dataAt height = .ok data) →
        (∃ b, w.node.latestBlock = .ok b) → (∃ report, result = .ok report) ∧ m = r) := by
  have ends := Tick.run_ends setup w
  generalize (Tick.run setup).run.run w = ended at ends
  have bare {u v : World} {bootstrapped : Nat} (booted : (Tick.bootstrap setup).run u = (bootstrapped, v)) : v = u := by
    have none : (Tick.bootstrap setup).run u = (0, u) := by
      unfold Tick.bootstrap
      rw [quiet.bootstraps]
      rfl
    exact congrArg Prod.snd (booted.symm.trans none)
  cases ends with
  | offline off =>
    refine ⟨_, n, _, rfl, h.of_within (World.Within.setPhase .offline w), fun _ on => ?_⟩
    rw [off] at on
    cases on
  | unbounded wrong asked booted =>
    obtain rfl := bare booted
    refine ⟨_, n, _, rfl, (h.of_within asked).of_within (World.Within.setPhase .idle _), fun _ _ calm _ known => ?_⟩
    obtain ⟨e, he⟩ := wrong calm
    obtain ⟨b, hb⟩ := known
    cases hb.symm.trans he
  | overflow known asked none =>
    refine ⟨_, n, _, rfl, h.of_within asked, fun lt => ?_⟩
    have word := head.toNat_lt_size
    rcases h.after? quiet complete top _ with ⟨-, big⟩ | ⟨-, some_⟩
    · omega
    · cases none.symm.trans some_
  | @climbed u v bootstrapped b range known asked booted some_ =>
    obtain rfl := bare booted
    have last := h.latest complete top known
    rcases h.after? quiet complete top b.height with ⟨none, -⟩ | ⟨small, next⟩
    · cases none.symm.trans some_
    · cases next.symm.trans some_
      have le := h.le
      have count : n + (HeightRange.count ⟨UInt64.ofNat n, b.height⟩) = r := by
        show n + (b.height.toNat + 1 - (UInt64.ofNat n).toNat) = r
        rw [UInt64.toNat_ofNat_of_lt' small]
        omega
      obtain ⟨report, m, w', climbed, hw', comes⟩ :=
        (h.of_within asked).climb quiet complete top _ (Nat.le_of_eq count)
      rw [climbed]
      refine ⟨_, m, _, rfl, hw'.of_within (World.Within.setPhase .idle w'), fun _ _ calm whole _ => ⟨⟨_, rfl⟩, ?_⟩⟩
      have same := asked.node (by decide)
      rw [comes (asked.outages.trans calm) (same ▸ whole), count]

end

end At

/-! ### The end of a schedule -/

section
variable {setup : Setup} {full : Chain.Node} {head : UInt64} (quiet : setup.Quiet) (complete : full.Complete head)
include quiet complete

/-- Whatever fails in a schedule, some heights are done, and the next one perhaps but for its block. -/
theorem at_ {r : Nat} {w : World} (schedule : Schedule setup full r w) :
    r ≤ head.toNat + 1 ∧ ∃ n, At setup full n r w := by
  induction schedule with
  | start clock => exact ⟨Nat.zero_le _, 0, .start (.none full) clock⟩
  | @reveal r w b schedule next known ih =>
    obtain ⟨-, n, h⟩ := ih
    have le := UInt64.le_iff_toNat_le.mp ((complete.blocks b.height).mp (by rw [known]; rfl))
    exact ⟨by omega, n, h.reveal next known⟩
  | @reach r w schedule reachable ih =>
    obtain ⟨top, n, h⟩ := ih
    exact ⟨top, n, h.of_same (h.shown.outage reachable w.node.failing) h.tolerable fun kind => .refl _ kind⟩
  | @unavailable r w schedule failing ih =>
    obtain ⟨top, n, h⟩ := ih
    exact ⟨top, n, h.of_same (h.shown.outage w.node.reachable failing) h.tolerable fun kind => .refl _ kind⟩
  | outages schedule tolerable ih =>
    obtain ⟨top, n, h⟩ := ih
    exact ⟨top, n, h.of_same h.shown tolerable fun kind => .refl _ kind⟩
  | tick schedule ih =>
    obtain ⟨top, n, h⟩ := ih
    obtain ⟨result, m, w', run, hw', -⟩ := h.tick quiet complete top
    exact ⟨top, m, by rw [run]; exact hw'⟩

/-- A schedule that ends with the head of the chain on record ends with the store of one tick that sees the
whole chain and that nothing disturbs. -/
theorem converges {r : Nat} {w : World} (schedule : Schedule setup full r w)
    (done : ∃ id b, w.store.blocks.get? id = some b ∧ b.height = head) (clock : Timestamp) :
    ∃ report w', (Tick.run setup).run.run (.start full .empty clock) = (.ok report, w') ∧ w.store = w'.store := by
  obtain ⟨top, n, h⟩ := schedule.at_ quiet complete
  have le := h.le
  -- The head is on record, so no height is left.
  obtain ⟨id, b, hb, last⟩ := done
  rw [h.blocks] at hb
  obtain ⟨height, c, lt, hc, -, rfl⟩ := (mem_ideal quiet complete (by omega) id b).mp hb
  have own : c.height = height := complete.orderly.keyed.blocks height c hc
  rw [show (Indexed.Block.ofChain c).height = c.height from rfl, own] at last
  subst last
  obtain rfl : n = height.toNat + 1 := by omega
  obtain rfl : r = height.toNat + 1 := by omega
  -- One tick from the start leaves no height either.
  obtain ⟨result, m, w', run, hw', finishes⟩ :=
    (At.start (Chain.Node.Shows.all complete) clock).tick quiet complete top
  have whole : ∀ h', h'.toNat < height.toNat + 1 → ∃ data, full.dataAt h' = .ok data :=
    fun h' lt => complete.data h' (UInt64.le_iff_toNat_le.mpr (Nat.le_of_lt_succ lt))
  obtain ⟨⟨report, rfl⟩, rfl⟩ := finishes (Nat.succ_pos _) complete.reachable rfl whole complete.latestBlock
  refine ⟨report, w', run, ?_⟩
  rw [h.store_eq, hw'.store_eq]

end

/-! ### A block that is written at the second attempt -/

/-- An indexer that leaves well-known accounts and watchers alone. -/
def lone : Setup := { Setup.bare with config := { Config.default with bootstraps := false, watches := false } }

theorem lone_quiet : lone.Quiet := ⟨rfl, rfl, rfl, rfl⟩

def accountEvent (type : String) (index : UInt32) (fields : List (String × Json)) : Chain.Event :=
  ⟨type, "", "", 0, index, .ofJson (.object (("address", .string "0x01") :: fields))⟩

/-- Two blocks; in the first one the account `0x01` is created and loses the key `bb`. -/
def twoBlocks : Chain.Node :=
  let events := [accountEvent "flow.AccountCreated" 0 [],
    accountEvent "flow.AccountKeyRemoved" 1 [("publicKey", .array [.number (.natural 187)])]]
  let blocks := (Chain.Node.empty.putBlock (.bare "a" 0 ["c"])).putBlock (.bare "b" 1 [])
  let executed := (blocks.putCollection ⟨"c", ["t"]⟩).putTransaction (.bare "t") ⟨.sealed, 0, "", events⟩
  (executed.putAccount (Account.holding [(0, "aa"), (1, "bb")])).putStorage "0x01" [⟨.storagePath, "vault", .null⟩]

/-- The world after a tick that cannot write the first block. -/
def refused : World :=
  ((Tick.run lone).run.run
    { World.start { twoBlocks with blocks := .empty } .empty .epoch with
      node := { twoBlocks with blocks := .empty }.putBlock (.bare "a" 0 ["c"])
      outages := ⟨fun _ call => if call = .create .block "a" then some (.storage "full") else none, fun _ => none⟩ }).2

/-- The world after a tick that nothing disturbs and that sees the second block. -/
def retry (w : World) : World :=
  ((Tick.run lone).run.run { { w with node := w.node.putBlock (.bare "b" 1 []) } with outages := .none }).2

theorem twoBlocks_complete : twoBlocks.Complete 1 := by
  have made : twoBlocks.Made := (((((Chain.Node.Made.empty.change (.block _)).change (.block _)).change
    (.collection _)).change (.transaction _ _)).change (.account _)).change (.storage _ _)
  have low (h : UInt64) (le : h ≤ 1) : h = 0 ∨ h = 1 := by
    rw [UInt64.le_iff_toNat_le] at le
    have cases : h.toNat = 0 ∨ h.toNat = 1 := by
      have one : (1 : UInt64).toNat = 1 := rfl
      omega
    exact cases.imp (fun eq => UInt64.toNat_inj.mp eq) fun eq => UInt64.toNat_inj.mp eq
  have blocks : ∀ h b, twoBlocks.blocks.get? h = some b → (h, b) ∈ twoBlocks.blocks.entries :=
    fun h b => (twoBlocks.blocks.mem_entries_iff h b).mpr
  have accounts : ∀ address a, twoBlocks.accounts.get? address = some a → (address, a) ∈ twoBlocks.accounts.entries :=
    fun address a => (twoBlocks.accounts.mem_entries_iff address a).mpr
  refine ⟨fun h => ⟨fun found => ?_, fun le => ?_⟩, fun h h' b b' hb hb' same => ?_, fun h le => ?_, rfl,
    made.keyed, fun address a ha => ?_, fun address a ha => ?_, fun address a ha => ?_⟩
  · obtain ⟨b, hb⟩ := Option.isSome_iff_exists.mp found
    exact (by decide : ∀ e ∈ twoBlocks.blocks.entries, e.1 ≤ 1) (h, b) (blocks h b hb)
  · rcases low h le with rfl | rfl <;> decide
  · exact (by decide : ∀ e ∈ twoBlocks.blocks.entries, ∀ e' ∈ twoBlocks.blocks.entries, e.2.id = e'.2.id → e.1 = e'.1)
      (h, b) (blocks h b hb) (h', b') (blocks h' b' hb') same
  · rcases low h le with rfl | rfl <;> exact ⟨_, rfl⟩
  · exact (by decide : ∀ e ∈ twoBlocks.accounts.entries, '.' ∉ e.2.address.toList) (address, a) (accounts address a ha)
  · exact (by decide : ∀ e ∈ twoBlocks.accounts.entries, (e.2.keys.map (·.index)).Nodup) (address, a)
      (accounts address a ha)
  · exact (by decide : ∀ e ∈ twoBlocks.accounts.entries, (e.2.keys.map (·.publicKey)).Nodup) (address, a)
      (accounts address a ha)

theorem schedule_refused : Schedule lone twoBlocks 1 refused := by
  have shown : Schedule lone twoBlocks 1 _ := (Schedule.start .epoch).reveal (b := .bare "a" 0 ["c"]) rfl rfl
  refine (shown.outages ⟨fun n call e he => ?_, fun n kind id what => ?_⟩).tick
  · change (if call = .create .block "a" then some (.storage "full") else none) = some e at he
    split at he
    · next block =>
      rw [block]
      trivial
    · cases he
  · change (if Call.create kind id = .create .block "a" then some (Error.storage "full") else none) ≠ _
    split <;> nofun

theorem schedule_retry {w : World} (schedule : Schedule lone twoBlocks 1 w) : Schedule lone twoBlocks 2 (retry w) := by
  have shown : Schedule lone twoBlocks 2 _ := schedule.reveal (b := .bare "b" 1 []) rfl rfl
  exact (shown.outages Outages.none_tolerable).tick

/-- The tick that cannot write the first block leaves the key of the account behind, and the next one
leads to the store of a single tick. -/
theorem converges_retried :
    refused.store.blocks.size = 0 ∧ refused.store.keys.keys = ["0x01.aa"] ∧
      ∃ report w', (Tick.run lone).run.run (.start twoBlocks .empty .epoch) = (.ok report, w') ∧
        (retry refused).store = w'.store := by
  have done : ∃ id b, (retry refused).store.blocks.get? id = some b ∧ b.height = 1 := by
    have found : ((retry refused).store.blocks.get? "b").map (·.height) = some 1 := by decide +kernel
    obtain ⟨b, hb, height⟩ := Option.map_eq_some_iff.mp found
    exact ⟨"b", b, hb, height⟩
  exact ⟨by decide +kernel, by decide +kernel,
    (schedule_retry schedule_refused).converges lone_quiet twoBlocks_complete done .epoch⟩

end Schedule

end ChainIndex
