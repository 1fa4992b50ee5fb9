import ChainIndex.Proofs.Gapless

/-!
# What a tick adds to the index

Blocks, transactions and events are written once and never again, so a tick adds to their indexes what
the chain holds at the heights that it processes, and nothing else. Of several records with one id the
first one counts: one that was there before, then one of the lowest height.
-/

set_option autoImplicit false

namespace ChainIndex

open Store (Shelved)
open Indexed (Entity)

/-! ### Tables that only grow -/

/-- The second table is the first one with the first of the records added under each id that is free. -/
def Table.Extended {α π : Type} [Entity α π] (records : List α) (t t' : Table String α) : Prop :=
  ∀ id, t'.get? id = (t.get? id).or (records.find? fun a => Entity.id a == id)

namespace Table.Extended
variable {α π : Type} [Entity α π] {l r : List α} {t t' t'' : Table String α}

theorem of_eq (h : t' = t) : Extended [] t t' := by
  intro id
  simp [h]

theorem append (h₁ : Extended l t t') (h₂ : Extended r t' t'') : Extended (l ++ r) t t'' := by
  intro id
  rw [h₂ id, h₁ id, List.find?_append, Option.or_assoc]

theorem of_taken {a b : α} (h : t.get? (Entity.id a) = some b) : Extended [a] t t := by
  intro id
  by_cases same : Entity.id a = id
  · subst same
    simp [h]
  · simp [same]

theorem of_free {a : α} (h : t.get? (Entity.id a) = none) : Extended [a] t (t.insert (Entity.id a) a) := by
  intro id
  by_cases same : Entity.id a = id
  · subst same
    simp [h]
  · rw [t.get?_insert_of_ne (Ne.symm same)]
    simp [same]

end Table.Extended

/-- Records to be added to the three indexes. -/
structure Additions where
  blocks : List Indexed.Block
  transactions : List Indexed.Transaction
  events : List Indexed.Event

namespace Additions

def none : Additions := ⟨[], [], []⟩

def append (a b : Additions) : Additions :=
  ⟨a.blocks ++ b.blocks, a.transactions ++ b.transactions, a.events ++ b.events⟩

/-- The additions of all members of a list, in its order. -/
def all {α : Type} (f : α → Additions) (l : List α) : Additions where
  blocks := l.flatMap fun a => (f a).blocks
  transactions := l.flatMap fun a => (f a).transactions
  events := l.flatMap fun a => (f a).events

end Additions

/-- From `s` to `t` the three indexes grow by these records. -/
structure Store.Grown (a : Additions) (s t : Store) : Prop where
  blocks : s.blocks.Extended a.blocks t.blocks
  transactions : s.transactions.Extended a.transactions t.transactions
  events : s.events.Extended a.events t.events

namespace Store.Grown
variable {a b : Additions} {s t u : Store}

theorem of_same (blocks : t.blocks = s.blocks) (transactions : t.transactions = s.transactions)
    (events : t.events = s.events) : s.Grown .none t :=
  ⟨.of_eq blocks, .of_eq transactions, .of_eq events⟩

theorem append (h₁ : s.Grown a t) (h₂ : t.Grown b u) : s.Grown (a.append b) u :=
  ⟨h₁.blocks.append h₂.blocks, h₁.transactions.append h₂.transactions, h₁.events.append h₂.events⟩

/-- Work on other parts than the three indexes adds nothing. -/
theorem of_within {parts : List Part} {w w' : World} (h : w.Within parts w') (block : .shelf .block ∉ parts)
    (transaction : .shelf .transaction ∉ parts) (event : .shelf .event ∉ parts) : w.store.Grown .none w'.store :=
  of_same (h.shelf .block block) (h.shelf .transaction transaction) (h.shelf .event event)

end Store.Grown

/-! ### What the chain holds at a height -/

namespace Chain.Node

/-- The ids of the transactions of a block: collections in the order of the guarantees, each in its own
order. -/
def listed (n : Node) (b : Block) : List String :=
  b.guarantees.flatMap fun g => ((n.collections.get? g.collectionId).map (·.transactionIds)).getD []

/-- A transaction with its latest status. -/
def withStatus? (n : Node) (id : String) : Option FetchedTransaction :=
  match n.transactions.get? id, n.channels.get? id with
  | some transaction, some channel => some ⟨transaction, channel.status⟩
  | _, _ => none

/-- The block stands at the height, and everything that it refers to is there. -/
structure Resolves (n : Node) (height : UInt64) (b : Block) : Prop where
  block : n.blocks.get? height = some b
  available : height ∉ n.failing
  collections : ∀ g ∈ b.guarantees, (n.collections.get? g.collectionId).isSome
  transactions : ∀ id ∈ n.listed b, (n.withStatus? id).isSome

/-- The record of a transaction of a block, with what the parser makes of its script. -/
def transactionRecord (parse : String → Script.Outcome) (b : Block) (t : FetchedTransaction) :
    Indexed.Transaction :=
  .ofChain b t.transaction t.status (parse t.transaction.script).interaction

/-- The records of the events of a transaction, with its id and the block that it refers to. -/
def eventRecords (t : FetchedTransaction) : List Indexed.Event :=
  t.status.events.map fun e =>
    .ofChain { e with transactionId := t.transaction.id, blockId := t.transaction.referenceBlockId }

/-- The records of a block with its transactions and their events. -/
def blockAdditions (parse : String → Script.Outcome) (n : Node) (b : Block) : Additions where
  blocks := [.ofChain b]
  transactions := ((n.listed b).filterMap n.withStatus?).map (transactionRecord parse b)
  events := ((n.listed b).filterMap n.withStatus?).flatMap eventRecords

/-- The records of a height. -/
def additions (parse : String → Script.Outcome) (n : Node) (height : UInt64) : Additions :=
  .all (n.blockAdditions parse) (n.blocks.get? height).toList

theorem mapM_require_ok {α : Type} {what : String} {ids : List String} {lookup : String → Option α} {l : List α}
    (h : (ids.mapM fun id => require what id (lookup id)) = .ok l) : l.map some = ids.map lookup := by
  induction ids generalizing l with
  | nil =>
    cases h
    rfl
  | cons id ids ih =>
    rw [List.mapM_cons] at h
    obtain ⟨a, ha, h⟩ := bind_eq_ok h
    obtain ⟨rest, hrest, h⟩ := bind_eq_ok h
    cases h
    rw [List.map_cons, List.map_cons, ih hrest, require_eq_ok ha]

theorem filterMap_of_map {α β : Type} {f : α → Option β} {l : List α} {m : List β} (h : m.map some = l.map f) :
    l.filterMap f = m := by
  have := congrArg (List.filterMap id) h
  simpa [List.filterMap_map] using this.symm

theorem isSome_of_map {α β : Type} {f : α → Option β} {l : List α} {m : List β} (h : m.map some = l.map f)
    {a : α} (ha : a ∈ l) : (f a).isSome := by
  have mem := List.mem_map_of_mem (f := f) ha
  rw [← h] at mem
  obtain ⟨b, -, eq⟩ := List.mem_map.mp mem
  rw [← eq]
  rfl

theorem available_of_block {n : Node} {height : UInt64} {b : Block} (h : n.block height = .ok b) :
    height ∉ n.failing := by
  intro failing
  rw [block, if_pos (by simpa using failing)] at h
  cases h

theorem pair_of_map {n : Node} {ids : List String} {bodies : List Transaction} {statuses : List TransactionStatus}
    (hb : bodies.map some = ids.map n.transactions.get?)
    (hs : statuses.map some = ids.map fun id => (n.channels.get? id).map (·.status)) :
    (FetchedTransaction.pair bodies statuses).map some = ids.map n.withStatus? := by
  induction ids generalizing bodies statuses with
  | nil =>
    obtain rfl := List.map_eq_nil_iff.mp hb
    rfl
  | cons id ids ih =>
    obtain ⟨body, bodies, rfl, first, restBodies⟩ := List.map_eq_cons_iff.mp hb
    obtain ⟨status, statuses, rfl, latest, restStatuses⟩ := List.map_eq_cons_iff.mp hs
    obtain ⟨channel, found, rfl⟩ := Option.map_eq_some_iff.mp latest.symm
    rw [FetchedTransaction.pair, List.map_cons, List.map_cons, ih restBodies restStatuses]
    simp [withStatus?, ← first, found]

theorem listed_of_collections {n : Node} {b : Block} {collections : List Collection}
    (held : collections.map some = (b.guarantees.map (·.collectionId)).map n.collections.get?) :
    n.listed b = collections.flatMap (·.transactionIds) := by
  have flat := congrArg (List.flatMap fun c : Option Collection => (c.map (·.transactionIds)).getD []) held
  simpa [listed, List.flatMap_map, Function.comp_def] using flat.symm

/-- The data of a height is there only if the height resolves, and then it leads to the records of the
height. -/
theorem resolves_of_dataAt {n : Node} {height : UInt64} {data : BlockData} (h : n.dataAt height = .ok data) :
    n.Resolves height data.block ∧ data.transactions = (n.listed data.block).filterMap n.withStatus? ∧
      data.events = data.transactions.flatMap FetchedTransaction.events := by
  obtain ⟨block, collections, bodies, statuses, hb, hs, transactions, events⟩ := dataAt_eq_ok h
  have held := mapM_require_ok collections
  have pairs := pair_of_map (mapM_require_ok hb) (mapM_require_ok hs)
  rw [← listed_of_collections held, ← transactions] at pairs
  refine ⟨⟨block_eq_ok block, available_of_block block, fun g hg => ?_, fun id hid => isSome_of_map pairs hid⟩,
    (filterMap_of_map pairs).symm, events⟩
  exact isSome_of_map held (List.mem_map_of_mem hg)

theorem additions_of_resolves {parse : String → Script.Outcome} {n : Node} {height : UInt64} {data : BlockData}
    (h : n.Resolves height data.block) (transactions : data.transactions = (n.listed data.block).filterMap n.withStatus?)
    (events : data.events = data.transactions.flatMap FetchedTransaction.events) :
    n.additions parse height = ⟨[.ofChain data.block],
      data.transactions.map (transactionRecord parse data.block), data.events.map .ofChain⟩ := by
  have stamped (t : FetchedTransaction) : t.events.map Indexed.Event.ofChain = eventRecords t := by
    simp [FetchedTransaction.events, eventRecords]
  simp only [events, List.map_flatMap, stamped]
  rw [additions, h.block, transactions]
  simp [Additions.all, blockAdditions]

end Chain.Node

/-! ### What pieces add -/

/-- Between two worlds no record failed to be created for want of an answer. -/
def World.Creates (w w' : World) : Prop :=
  ∀ n kind id, w.calls ≤ n → n < w'.calls → w.outages.call n (.create kind id) = none

theorem World.Creates.split {parts more : List Part} {u v w : World} (h : u.Creates w) (first : u.Within parts v)
    (second : v.Within more w) : u.Creates v ∧ v.Creates w := by
  refine ⟨fun n kind id low high => h n kind id low (Nat.lt_of_lt_of_le high second.calls), ?_⟩
  intro n kind id low high
  rw [first.outages]
  exact h n kind id (Nat.le_trans first.calls low) high

namespace Recording

/-- A record that can be created is on record afterwards: the one that was there, or the new one. -/
theorem replaySafe_create_extends {α π : Type} [Shelved α π] [LawfulShelf α] (a : α) {w : World}
    (h : w.Creates ((replaySafe (Act.create a)).run.run w).2) :
    ((replaySafe (Act.create a)).run.run w).1 = .ok () ∧
      (Shelved.table w.store : Table String α).Extended [a]
        (Shelved.table ((replaySafe (Act.create a)).run.run w).2.store) := by
  rw [replaySafe_run] at h ⊢
  rcases Act.create_cases a w with ⟨e, he, run⟩ | ⟨-, ⟨b, hb, run⟩ | ⟨free, run⟩⟩
  · rw [run] at h
    cases he.symm.trans (h _ _ _ (Nat.le_refl _) (Nat.lt_succ_self _))
  · rw [run]
    exact ⟨rfl, .of_taken hb⟩
  · rw [run]
    refine ⟨rfl, ?_⟩
    rw [World.shelve_store, LawfulShelf.table_setTable]
    exact .of_free free

end Recording

namespace Piece
variable {setup : Setup}

/-- The records that a piece adds. -/
def additions (parse : String → Script.Outcome) : Piece → Additions
  | block b => ⟨[.ofChain b], [], []⟩
  | transaction b t => ⟨[], [Chain.Node.transactionRecord parse b t], []⟩
  | event e => ⟨[], [], [.ofChain e]⟩
  | _ => .none

theorem apply_grown (hs : Tick.ScansStorageOnly setup) (p : Piece) {w : World} (h : w.Creates (p.apply setup w)) :
    w.store.Grown (p.additions setup.parse) (p.apply setup w).store := by
  have within := p.within hs w
  cases p with
  | block b =>
    exact ⟨(Recording.replaySafe_create_extends _ h).2, .of_eq (within.shelf .transaction (by simp [parts])),
      .of_eq (within.shelf .event (by simp [parts]))⟩
  | transaction b t =>
    exact ⟨.of_eq (within.shelf .block (by simp [parts])), (Recording.replaySafe_create_extends _ h).2,
      .of_eq (within.shelf .event (by simp [parts]))⟩
  | event e =>
    exact ⟨.of_eq (within.shelf .block (by simp [parts])), .of_eq (within.shelf .transaction (by simp [parts])),
      (Recording.replaySafe_create_extends _ h).2⟩
  | effect observedAt e =>
    exact .of_within within (by simp [parts, Only.effects]) (by simp [parts, Only.effects])
      (by simp [parts, Only.effects])
  | scan => exact .of_within within (by simp [parts]) (by simp [parts]) (by simp [parts])
  | spawn id => exact .of_within within (by simp [parts]) (by simp [parts]) (by simp [parts])

/-- The parts that pieces of heights change. -/
def allParts : List Part := .shelf .block :: Tick.besidesBlocks

theorem parts_subset (p : Piece) : p.parts ⊆ allParts := by
  cases p <;> simp only [parts] <;> decide

theorem applyAll_grown (hs : Tick.ScansStorageOnly setup) (l : List Piece) {w : World}
    (h : w.Creates (applyAll setup l w)) :
    w.store.Grown (.all (additions setup.parse) l) (applyAll setup l w).store := by
  induction l generalizing w with
  | nil => exact .of_same rfl rfl rfl
  | cons p l ih =>
    obtain ⟨first, rest⟩ := h.split (p.within hs w) (applyAll_within hs (fun q _ => parts_subset q) _)
    exact (apply_grown hs p first).append (ih rest)

end Piece

/-- The pieces of a height add the records of its block, of its transactions and of their events. -/
theorem BlockData.additions_pieces (setup : Setup) (data : BlockData) (recorded : Bool) :
    Additions.all (Piece.additions setup.parse) (data.pieces setup recorded) =
      ⟨[.ofChain data.block], data.transactions.map (Chain.Node.transactionRecord setup.parse data.block),
        data.events.map .ofChain⟩ := by
  have nothing {α β : Type} (l : List α) : l.flatMap (fun _ => ([] : List β)) = [] :=
    List.flatMap_eq_nil_iff.mpr fun _ _ => rfl
  unfold BlockData.pieces BlockData.details BlockData.spawns
  split <;> simp [Additions.all, Piece.additions, Additions.none, List.flatMap_map, nothing, ← List.map_eq_flatMap]

/-! ### What heights add -/

namespace Tick
variable {setup : Setup}

theorem only_processHeight (hs : ScansStorageOnly setup) (height : UInt64) :
    Only Piece.allParts (processHeight setup height).run := by
  intro w
  have still : w.Within [] ((BlockData.fetch height).run.run w).2 := Only.fetch height w
  rcases hf : (BlockData.fetch height).run.run w with ⟨e | data, u⟩
  · rw [hf] at still
    rw [processHeight_of_unfetched hf]
    exact still.mono (List.nil_subset _)
  · rw [hf] at still
    obtain ⟨counts, run⟩ := processHeight_pieces setup hf
    rw [run]
    exact (still.mono (List.nil_subset _)).trans (Piece.applyAll_within hs (fun p _ => p.parts_subset) u)

theorem only_climb (hs : ScansStorageOnly setup) (n : Nat) (height : UInt64) :
    Only Piece.allParts (climb setup n height) := by
  induction n generalizing height with
  | zero => exact .pure _
  | succ n ih =>
    refine .bind (only_processHeight hs height) fun result => ?_
    split
    · exact .bind (ih _) fun _ => .pure _
    · exact .pure _

/-- A height that succeeds resolves and adds its records; one that fails adds nothing. -/
theorem processHeight_grown (hs : ScansStorageOnly setup) (height : UInt64) {w w' : World}
    {r : Except Error ItemCounts} (run : (processHeight setup height).run.run w = (r, w')) (h : w.Creates w') :
    (∃ e, r = .error e ∧ w.store.Grown .none w'.store) ∨
      ∃ counts b, r = .ok counts ∧ w.node.Resolves height b ∧
        w.store.Grown (w.node.additions setup.parse height) w'.store := by
  have still : w.Within [] ((BlockData.fetch height).run.run w).2 := Only.fetch height w
  rcases hf : (BlockData.fetch height).run.run w with ⟨e | data, u⟩
  · rw [hf] at still
    rw [processHeight_of_unfetched hf] at run
    obtain ⟨rfl, rfl⟩ := Prod.mk.inj run
    exact .inl ⟨e, rfl, .of_within still (by simp) (by simp) (by simp)⟩
  · rw [hf] at still
    obtain ⟨counts, pieces⟩ := processHeight_pieces setup hf
    obtain ⟨rfl, rfl⟩ := Prod.mk.inj (run.symm.trans pieces)
    have after := h.split still (Piece.applyAll_within hs (fun p _ => p.parts_subset) u)
    have block := after.2.split (Piece.within hs (.block data.block) u)
      (Piece.applyAll_within hs (fun p _ => p.parts_subset) _)
    have recorded := (Recording.replaySafe_create_extends (Indexed.Block.ofChain data.block) block.1).1
    obtain ⟨resolves, transactions, events⟩ := Chain.Node.resolves_of_dataAt (BlockData.fetch_ok hf).1
    have grown := Piece.applyAll_grown hs _ after.2
    rw [BlockData.additions_pieces, ← Chain.Node.additions_of_resolves resolves transactions events] at grown
    refine .inr ⟨counts, data.block, by rw [Recording.recordBlock, recorded]; rfl, resolves, ?_⟩
    exact Store.Grown.append (.of_within still (by simp) (by simp) (by simp)) grown

/-- From `w` to `w'` the three indexes grow by what the node of `w` holds at these heights. -/
structure Adds (setup : Setup) (w w' : World) (heights : List UInt64) : Prop where
  ascending : heights.Pairwise (· < ·)
  resolved : ∀ h ∈ heights, ∃ b, w.node.Resolves h b
  grown : w.store.Grown (.all (w.node.additions setup.parse) heights) w'.store

theorem Adds.of_grown {w w' : World} (h : w.store.Grown .none w'.store) : Adds setup w w' [] :=
  ⟨.nil, nofun, h⟩

theorem Adds.cons {w v w' : World} {height : UInt64} {heights : List UInt64} {b : Chain.Block}
    (resolves : w.node.Resolves height b) (grown : w.store.Grown (w.node.additions setup.parse height) v.store)
    (node : v.node = w.node) (below : ∀ h ∈ heights, height < h) (rest : Adds setup v w' heights) :
    Adds setup w w' (height :: heights) where
  ascending := rest.ascending.cons below
  resolved h hh := by
    rcases List.mem_cons.mp hh with rfl | hh
    · exact ⟨b, resolves⟩
    · exact node ▸ rest.resolved h hh
  grown := by
    have later := rest.grown
    rw [node] at later
    exact grown.append later

/-- A climb adds what the heights that it processes hold; they lie within the climb. -/
theorem climb_adds (hs : ScansStorageOnly setup) (n : Nat) (height : UInt64) (room : height.toNat + n ≤ UInt64.size)
    {w w' : World} {report : TickReport} (run : (climb setup n height).run w = (report, w')) (h : w.Creates w') :
    (∀ k ∈ report.processed, height.toNat ≤ k.toNat ∧ 0 < n) ∧ Adds setup w w' report.processed := by
  induction n generalizing height w report with
  | zero =>
    cases run
    exact ⟨nofun, .of_grown (.of_same rfl rfl rfl)⟩
  | succ n ih =>
    rcases hp : (processHeight setup height).run.run w with ⟨r, v⟩
    have first := only_processHeight hs height w
    rw [hp] at first
    rcases r with e | counts
    · rw [climb_of_error hp n] at run
      obtain ⟨rfl, rfl⟩ := Prod.mk.inj run
      rcases processHeight_grown hs height hp h with ⟨_, -, grown⟩ | ⟨_, _, wrong, _⟩
      · exact ⟨nofun, .of_grown grown⟩
      · cases wrong
    · rw [climb_of_ok hp n] at run
      rcases hc : (climb setup n (height + 1)).run v with ⟨rest, w''⟩
      have second := only_climb hs n (height + 1) v
      rw [hc] at run second
      obtain ⟨rfl, rfl⟩ := Prod.mk.inj run
      obtain ⟨here, later⟩ := h.split first second
      rcases processHeight_grown hs height hp here with ⟨_, wrong, _⟩ | ⟨_, b, _, resolves, grown⟩
      · cases wrong
      -- Where a height follows it is a word.
      have next : 0 < n → (height + 1).toNat = height.toNat + 1 := fun more => Store.toNat_succ (by omega)
      have room' : (height + 1).toNat + n ≤ UInt64.size := by
        cases n with
        | zero => exact Nat.le_of_lt (height + 1).toNat_lt
        | succ n =>
          rw [next (Nat.succ_pos n)]
          omega
      obtain ⟨from', adds⟩ := ih (height + 1) room' hc later
      have below (k : UInt64) (hk : k ∈ rest.processed) : height.toNat < k.toNat := by
        obtain ⟨le, more⟩ := from' k hk
        rw [next more] at le
        exact le
      refine ⟨fun k hk => ?_, .cons resolves grown (first.node (by decide)) (fun k hk => ?_) adds⟩
      · rcases List.mem_cons.mp hk with rfl | hk
        · exact ⟨Nat.le_refl _, Nat.succ_pos n⟩
        · exact ⟨Nat.le_of_lt (below k hk), Nat.succ_pos n⟩
      · exact UInt64.lt_iff_toNat_lt.mpr (below k hk)

/-- The heights that a tick processed; one that aborts processed none. -/
def heightsOf : Except Abort TickReport → List UInt64
  | .ok report => report.processed
  | .error _ => []

/-- A tick in which no record fails to be created for want of an answer extends the three indexes by the
records of the heights that it processes, each of which resolves, and by nothing else. -/
theorem run_adds (hs : ScansStorageOnly setup) {w w' : World} {result : Except Abort TickReport}
    (run : (Tick.run setup).run.run w = (result, w')) (answered : w.Creates w') :
    Adds setup w w' (heightsOf result) := by
  have ends := run_ends setup w
  rw [run] at ends
  cases ends with
  | offline off => exact .of_grown (.of_same rfl rfl rfl)
  | @unbounded u v bootstrapped wrong asked booted =>
    have same : w.store.Grown .none v.store :=
      .of_within (bootstrap_within asked booted) (by decide) (by decide) (by decide)
    exact .of_grown same
  | @overflow u head known asked full =>
    exact .of_grown (.of_within asked (by decide) (by decide) (by decide))
  | @climbed u v bootstrapped head range known asked booted next =>
    have before := bootstrap_within asked booted
    have same : w.store.Grown .none v.store := .of_within before (by decide) (by decide) (by decide)
    have after := only_climb hs range.count range.next v
    rcases hc : (climb setup range.count range.next).run v with ⟨report, u'⟩
    rw [hc] at answered after
    have called : w.Creates u' := answered
    have room : range.next.toNat + range.count ≤ UInt64.size := by
      have size : UInt64.size = 2 ^ 64 := rfl
      have := range.next.toNat_lt
      have := range.latest.toNat_lt
      unfold HeightRange.count
      omega
    obtain ⟨-, ascending, resolved, grown⟩ := climb_adds hs range.count range.next room hc (called.split before after).2
    rw [before.node (by decide)] at resolved grown
    exact ⟨ascending, resolved, same.append grown⟩

/-- Two blocks with one collection, which lists its transaction twice, and a block whose collection is not
there. -/
def sharedCollection : Chain.Node :=
  let blocks := ((Chain.Node.empty.putBlock (.bare "a" 0 ["c"])).putBlock (.bare "b" 1 ["c"])).putBlock (.bare "d" 2 ["e"])
  (blocks.putCollection ⟨"c", ["t", "t"]⟩).putTransaction (.bare "t") ⟨.sealed, 0, "", [⟨"x", "", "", 0, 3, .null⟩]⟩

def sharedCollectionTick : Except Abort TickReport × World :=
  (Tick.run .bare).run.run (.start sharedCollection .empty .epoch)

/-- The transaction and its event are on record once, with the lower block. -/
theorem run_adds_sharedCollection :
    heightsOf sharedCollectionTick.1 = [0, 1] ∧
      Adds .bare (.start sharedCollection .empty .epoch) sharedCollectionTick.2 [0, 1] ∧
      sharedCollectionTick.2.store.transactions.values.map (·.blockId) = ["a"] ∧
      sharedCollectionTick.2.store.events.keys = ["t.3"] := by
  have run : (Tick.run .bare).run.run (.start sharedCollection .empty .epoch) =
      (sharedCollectionTick.1, sharedCollectionTick.2) := (Prod.eta _).symm
  have answered : (World.start sharedCollection .empty .epoch).Creates sharedCollectionTick.2 := by
    intro n kind id low high
    rfl
  have heights : heightsOf sharedCollectionTick.1 = [0, 1] := by decide +kernel
  have adds := run_adds Setup.bare_scans run answered
  rw [heights] at adds
  exact ⟨heights, adds, by decide +kernel, by decide +kernel⟩

end Tick

end ChainIndex
