import ChainIndex.Proofs.Additions

/-!
# The data of a height, all or nothing

A block leads to its collections and they lead to its transactions, over as many places as the chain names
them. What is fetched has every one of them in its place (`Node.Assembled`), and it is there exactly if all
look-ups on the way succeed. A height of which anything is missing leaves no trace.
-/

set_option autoImplicit false

namespace ChainIndex

namespace Chain.Node

variable {n : Node} {height : UInt64} {b : Block} {data : BlockData}

/-- The data of a height as it follows from what the node holds. -/
structure Assembled (n : Node) (height : UInt64) (data : BlockData) : Prop where
  block : n.blocks.get? height = some data.block
  available : height ∉ n.failing
  /-- A collection for each guarantee, in their order. -/
  collections : data.collections.map some = (data.block.guarantees.map (·.collectionId)).map n.collections.get?
  /-- A body with its status for each id in the collections, in their order. -/
  transactions : data.transactions.map some = (data.collections.flatMap (·.transactionIds)).map n.withStatus?
  /-- The events of each status with the ids of its transaction. -/
  events : data.events = data.transactions.flatMap fun t => t.status.events.map fun e =>
    { e with transactionId := t.transaction.id, blockId := t.transaction.referenceBlockId }

theorem block_of_available (found : n.blocks.get? height = some b) (available : height ∉ n.failing) :
    n.block height = .ok b := by
  rw [block, if_neg (by simpa using available), found]
  rfl

theorem mapM_require_eq_ok {α : Type} (what : String) {ids : List String} {lookup : String → Option α} {l : List α}
    (h : l.map some = ids.map lookup) : (ids.mapM fun id => require what id (lookup id)) = .ok l := by
  induction ids generalizing l with
  | nil =>
    obtain rfl := List.map_eq_nil_iff.mp h
    rfl
  | cons id ids ih =>
    obtain ⟨a, rest, rfl, first, others⟩ := List.map_eq_cons_iff.mp h
    rw [List.mapM_cons, ← first, ih others]
    rfl

/-- Where every look-up has a result there is a list of the results. -/
theorem exists_of_isSome {α β : Type} {f : α → Option β} {l : List α} (h : ∀ a ∈ l, (f a).isSome) :
    ∃ m : List β, m.map some = l.map f := by
  induction l with
  | nil => exact ⟨[], rfl⟩
  | cons a l ih =>
    obtain ⟨b, found⟩ := Option.isSome_iff_exists.mp (h a List.mem_cons_self)
    obtain ⟨m, rest⟩ := ih fun c hc => h c (List.mem_cons_of_mem a hc)
    exact ⟨b :: m, by rw [List.map_cons, List.map_cons, rest, found]⟩

theorem withStatus?_eq_some {id : String} {t : FetchedTransaction} (h : n.withStatus? id = some t) :
    n.transactions.get? id = some t.transaction ∧ (n.channels.get? id).map (·.status) = some t.status := by
  unfold withStatus? at h
  split at h
  · next transaction channel body latest =>
    cases h
    exact ⟨body, by rw [latest]; rfl⟩
  · cases h

/-- Paired bodies and statuses come apart again. -/
theorem pair_split (l : List FetchedTransaction) :
    FetchedTransaction.pair (l.map (·.transaction)) (l.map (·.status)) = l := by
  induction l with
  | nil => rfl
  | cons t l ih => rw [List.map_cons, List.map_cons, FetchedTransaction.pair, ih]

/-- Each part of what was found together is what a look-up of that part alone finds. -/
theorem map_of_withStatus {β : Type} {ids : List String} {l : List FetchedTransaction}
    (h : l.map some = ids.map n.withStatus?) (part : FetchedTransaction → β) (lookup : String → Option β)
    (same : ∀ id t, n.withStatus? id = some t → lookup id = some (part t)) : (l.map part).map some = ids.map lookup := by
  induction ids generalizing l with
  | nil =>
    obtain rfl := List.map_eq_nil_iff.mp h
    rfl
  | cons id ids ih =>
    obtain ⟨t, rest, rfl, first, others⟩ := List.map_eq_cons_iff.mp h
    rw [List.map_cons, List.map_cons, List.map_cons, ih others, same id t first.symm]

theorem Assembled.bodies (h : n.Assembled height data) : (data.transactions.map (·.transaction)).map some =
    (data.collections.flatMap (·.transactionIds)).map n.transactions.get? :=
  map_of_withStatus h.transactions (·.transaction) _ fun _ _ found => (withStatus?_eq_some found).1

theorem Assembled.statuses (h : n.Assembled height data) : (data.transactions.map (·.status)).map some =
    (data.collections.flatMap (·.transactionIds)).map fun id => (n.channels.get? id).map (·.status) :=
  map_of_withStatus h.transactions (·.status) _ fun _ _ found => (withStatus?_eq_some found).2

/-- The node gives exactly the data that follows from what it holds. -/
theorem dataAt_eq_ok_iff : n.dataAt height = .ok data ↔ n.Assembled height data := by
  constructor
  · intro h
    obtain ⟨block, collections, bodies, statuses, hb, hs, transactions, events⟩ := dataAt_eq_ok h
    refine ⟨block_eq_ok block, available_of_block block, mapM_require_ok collections, ?_, events⟩
    rw [transactions]
    exact pair_of_map (mapM_require_ok hb) (mapM_require_ok hs)
  · intro h
    have bodies := h.bodies
    have statuses := h.statuses
    obtain ⟨block, collections, transactions, events⟩ := data
    obtain rfl : events = transactions.flatMap FetchedTransaction.events := h.events
    unfold dataAt collection transaction status
    rw [block_of_available h.block h.available]
    simp only [bind, Except.bind, mapM_require_eq_ok _ h.collections, mapM_require_eq_ok _ bodies,
      mapM_require_eq_ok _ statuses, pair_split]
    rfl

theorem Assembled.resolves (h : n.Assembled height data) : n.Resolves height data.block :=
  (resolves_of_dataAt (dataAt_eq_ok_iff.mpr h)).1

/-- Where everything is there the data can be put together. -/
theorem Resolves.assembled (h : n.Resolves height b) : ∃ data, n.Assembled height data := by
  have guaranteed : ∀ id ∈ b.guarantees.map (·.collectionId), (n.collections.get? id).isSome := by
    intro id hid
    obtain ⟨g, hg, rfl⟩ := List.mem_map.mp hid
    exact h.collections g hg
  obtain ⟨collections, held⟩ := exists_of_isSome guaranteed
  obtain ⟨transactions, found⟩ := exists_of_isSome h.transactions
  rw [listed_of_collections held] at found
  exact ⟨⟨b, collections, transactions, transactions.flatMap FetchedTransaction.events⟩,
    h.block, h.available, held, found, rfl⟩

/-- What stands under its own id has the ids that were asked for. -/
theorem ids_of_map {α : Type} {t : Table String α} (id : α → String) (own : ∀ k a, t.get? k = some a → id a = k)
    {ids : List String} {l : List α} (h : l.map some = ids.map t.get?) : l.map id = ids := by
  induction ids generalizing l with
  | nil => exact List.map_eq_nil_iff.mpr (List.map_eq_nil_iff.mp h)
  | cons k ids ih =>
    obtain ⟨a, rest, rfl, first, others⟩ := List.map_eq_cons_iff.mp h
    rw [List.map_cons, ih others, own k a first.symm]

/-- Every part is where its id is named. -/
theorem Assembled.ids (h : n.Assembled height data) (keyed : n.Keyed) :
    data.block.height = height ∧ data.collections.map (·.id) = data.block.guarantees.map (·.collectionId) ∧
      data.transactions.map (·.transaction.id) = data.collections.flatMap (·.transactionIds) := by
  refine ⟨keyed.blocks _ _ h.block, ids_of_map _ keyed.collections h.collections, ?_⟩
  rw [← ids_of_map Transaction.id keyed.transactions h.bodies, List.map_map]
  rfl

end Chain.Node

namespace BlockData

/-- Where no look-up fails but for what the chain does not hold, a height is fetched exactly if everything
that its block refers to is there. What is fetched is complete and in order, with each transaction under the
ids that name it, and a height that is not fetched changes nothing when it is processed. -/
theorem fetch_all_or_nothing {w : World} (made : w.node.Made) (answers : w.Answers Looks) (height : UInt64) :
    ((∃ data, ((fetch height).run.run w).1 = .ok data) ↔ ∃ b, w.node.Resolves height b) ∧
      (∀ data, ((fetch height).run.run w).1 = .ok data → w.node.Assembled height data ∧ data.block.height = height ∧
        data.collections.map (·.id) = data.block.guarantees.map (·.collectionId) ∧
        data.transactions.map (·.transaction.id) = data.collections.flatMap (·.transactionIds)) ∧
      ∀ e, ((fetch height).run.run w).1 = .error e → ∀ setup : Setup,
        ((Tick.processHeight setup height).run.run w).1 = .error e ∧
          ((Tick.processHeight setup height).run.run w).2.store = w.store ∧
          ((Tick.processHeight setup height).run.run w).2.watchers = w.watchers := by
  have exactly (data : BlockData) : ((fetch height).run.run w).1 = .ok data ↔ w.node.Assembled height data := by
    rw [fetch_of_answers answers height]
    exact Chain.Node.dataAt_eq_ok_iff
  refine ⟨⟨?_, ?_⟩, fun data h => ?_, fun e h setup => ?_⟩
  · rintro ⟨data, h⟩
    exact ⟨data.block, ((exactly data).mp h).resolves⟩
  · rintro ⟨b, h⟩
    obtain ⟨data, assembled⟩ := h.assembled
    exact ⟨data, (exactly data).mpr assembled⟩
  · have assembled := (exactly data).mp h
    exact ⟨assembled, assembled.ids made.keyed⟩
  · have still : w.Within [] ((fetch height).run.run w).2 := Only.fetch height w
    have unfetched : (fetch height).run.run w = (.error e, ((fetch height).run.run w).2) := Prod.ext h rfl
    rw [Tick.processHeight_of_unfetched unfetched]
    exact ⟨rfl, still.still (by simp), still.watchers (by simp)⟩

/-- One collection guaranteed by two blocks names its transaction twice, and the collection of a third block is
not there. -/
theorem fetch_all_or_nothing_sharedCollection :
    Tick.sharedCollection.Made ∧
      (∃ data, ((fetch 1).run.run (.start Tick.sharedCollection .empty .epoch)).1 = .ok data ∧
        data.transactions.map (·.transaction.id) = ["t", "t"]) ∧
      ¬(∃ b, Tick.sharedCollection.Resolves 2 b) ∧
      ((Tick.processHeight .bare 2).run.run (.start Tick.sharedCollection .empty .epoch)).2.store = .empty := by
  have made : Tick.sharedCollection.Made :=
    .change (.change (.change (.change (.change .empty (.block _)) (.block _)) (.block _)) (.collection _))
      (.transaction _ _)
  have answers : (World.start Tick.sharedCollection .empty .epoch).Answers Looks := fun _ _ _ _ => rfl
  obtain ⟨there, complete, -⟩ := fetch_all_or_nothing made answers 1
  obtain ⟨missing, -, nothing⟩ := fetch_all_or_nothing made answers 2
  have named : Tick.sharedCollection.Resolves 1 (.bare "b" 1 ["c"]) :=
    ⟨by decide +kernel, by decide +kernel, by decide +kernel, by decide +kernel⟩
  have failed : ((fetch 2).run.run (.start Tick.sharedCollection .empty .epoch)).1 =
      .error (.notFound "collection e") := by decide +kernel
  obtain ⟨data, fetched⟩ := there.mpr ⟨_, named⟩
  obtain ⟨assembled, -, collections, transactions⟩ := complete data fetched
  refine ⟨made, ⟨data, fetched, ?_⟩, fun found => ?_, (nothing _ failed .bare).2.1⟩
  · have block : data.block = .bare "b" 1 ["c"] := Option.some.inj (assembled.block.symm.trans named.block)
    have held := assembled.collections
    rw [block] at held
    obtain ⟨c, rest, same, first, others⟩ := List.map_eq_cons_iff.mp held
    obtain rfl := List.map_eq_nil_iff.mp others
    have names : Tick.sharedCollection.collections.get? "c" = some ⟨"c", ["t", "t"]⟩ := by decide +kernel
    rw [transactions, same, Option.some.inj (first.trans names)]
    rfl
  · obtain ⟨data, fetched⟩ := missing.mpr found
    cases failed.symm.trans fetched

end BlockData

end ChainIndex
