import ChainIndex.Proofs.Node

/-!
# The pieces of a height

Processing a height that was fetched is a list of pieces: its block, its transactions and its events
are written, the effects of the events are applied, account storage is scanned, and watchers are
started. Each piece runs from where the one before it left the world, whatever its result, and only
the result of writing the block decides whether the height succeeds.
-/

set_option autoImplicit false

namespace ChainIndex

/-- A piece of the work on a height. -/
inductive Piece where
  | block (b : Chain.Block)
  | transaction (b : Chain.Block) (t : FetchedTransaction)
  | event (e : Chain.Event)
  | effect (observedAt : Timestamp) (e : Chain.Event)
  | scan
  | spawn (id : String)

namespace Piece

def apply (setup : Setup) (w : World) : Piece → World
  | block b => ((Recording.recordBlock b).run.run w).2
  | transaction b t => ((Recording.recordTransaction setup.parse b t).run.run w).2
  | event e => ((Recording.recordEvent e).run.run w).2
  | effect observedAt e => ((Meaning.dispatch setup.classifier observedAt e).run.run w).2
  | scan => ((Tick.scanStorage setup).run w).2
  | spawn id => ((Watch.spawn id).run w).2

def applyAll (setup : Setup) (pieces : List Piece) (w : World) : World :=
  pieces.foldl (apply setup) w

/-- The parts of a world that a piece may change. -/
def parts : Piece → List Part
  | block _ => [.shelf .block]
  | transaction _ _ => [.shelf .transaction]
  | event _ => [.shelf .event]
  | effect _ _ => Only.effects
  | scan => [.shelf .storageItem]
  | spawn _ => [.watchers]

end Piece

namespace BlockData

/-- The pieces that write the data of a height behind its block. -/
def details (data : BlockData) : List Piece :=
  data.transactions.map (.transaction data.block) ++ data.events.map .event ++
    data.events.map (.effect data.block.timestamp)

theorem mem_details {data : BlockData} {p : Piece} (h : p ∈ data.details) :
    (∃ t, p = .transaction data.block t) ∨ (∃ e, p = .event e) ∨ ∃ e, p = .effect data.block.timestamp e := by
  simp only [details, List.mem_append, List.mem_map] at h
  rcases h with (⟨t, -, rfl⟩ | ⟨e, -, rfl⟩) | ⟨e, -, rfl⟩
  · exact .inl ⟨t, rfl⟩
  · exact .inr (.inl ⟨e, rfl⟩)
  · exact .inr (.inr ⟨e, rfl⟩)

/-- The pieces that start watchers. -/
def spawns (data : BlockData) : List Piece := data.transactions.map fun t => .spawn t.transaction.id

/-- The pieces of a height; watchers are started if its block was `recorded`. -/
def pieces (setup : Setup) (data : BlockData) (recorded : Bool) : List Piece :=
  .block data.block :: data.details ++ .scan :: if recorded && setup.config.watches then data.spawns else []

end BlockData

/-- The indexer's own scan of account storage writes storage items only. -/
def Tick.ScansStorageOnly (setup : Setup) : Prop :=
  ∀ scan, setup.scanStorage = some scan → Only [.shelf .storageItem] scan.run

theorem Tick.scansStorageOnly_of_own {setup : Setup} (own : setup.scanStorage = some StorageScan.run) :
    ScansStorageOnly setup := by
  intro scan h
  obtain rfl := Option.some.inj (own.symm.trans h)
  exact Only.scanStorage

theorem Tick.only_scanStorage {setup : Setup} (hs : ScansStorageOnly setup) :
    Only [.shelf .storageItem] (scanStorage setup) := by
  unfold scanStorage
  cases h : setup.scanStorage with
  | none => exact .pure _
  | some scan =>
    show Only _ (if setup.config.reindexes then scan.run >>= fun _ => pure () else pure ())
    split
    · exact .bind (hs scan h) fun _ => .pure _
    · exact .pure _

/-! ### What pieces change -/

theorem Only.spawn (id : String) : Only [.watchers] (Watch.spawn id) := by
  intro w
  show w.Within [.watchers] (if w.watchers.contains id then (false, w) else
    (true, { w with watchers := w.watchers.insert id .spawned })).2
  split
  · exact .refl _ w
  · exact ⟨fun _ _ => .refl _ _, fun _ => rfl, fun h => absurd (List.mem_singleton_self _) h,
      fun _ => ⟨rfl, rfl⟩, rfl, rfl, Nat.le_refl _⟩

namespace Piece
variable {setup : Setup}

theorem within (hs : Tick.ScansStorageOnly setup) (p : Piece) (w : World) : w.Within p.parts (p.apply setup w) := by
  cases p with
  | block b => exact Only.recordBlock b w
  | transaction b t => exact Only.recordTransaction setup.parse b t w
  | event e => exact Only.recordEvent e w
  | effect observedAt e => exact Only.dispatch setup.classifier observedAt e w
  | scan => exact Tick.only_scanStorage hs w
  | spawn id => exact Only.spawn id w

theorem applyAll_append (l r : List Piece) (w : World) :
    applyAll setup (l ++ r) w = applyAll setup r (applyAll setup l w) := List.foldl_append

theorem applyAll_within (hs : Tick.ScansStorageOnly setup) {parts : List Part} {l : List Piece}
    (h : ∀ p ∈ l, p.parts ⊆ parts) (w : World) : w.Within parts (applyAll setup l w) := by
  induction l generalizing w with
  | nil => exact .refl _ w
  | cons p l ih =>
    have first := (p.within hs w).mono (h p List.mem_cons_self)
    exact first.trans (ih (fun q hq => h q (List.mem_cons_of_mem _ hq)) _)

/-- Attempts that are made one after the other are pieces of work. -/
theorem applyAll_map (setup : Setup) {α β : Type} (piece : α → Piece) (work : α → Act β)
    (same : ∀ a w, (piece a).apply setup w = ((work a).run.run w).2) (l : List α) (w : World) :
    ((Attempt.forEach work l).run w).2 = applyAll setup (l.map piece) w := by
  induction l generalizing w with
  | nil => rfl
  | cons a l ih =>
    rw [Attempt.forEach_cons, List.map_cons, ih]
    show applyAll setup (l.map piece) _ = applyAll setup (l.map piece) ((piece a).apply setup w)
    rw [same]

end Piece

/-! ### A height in pieces -/

namespace Recording

/-- The counts of transactions, events and effects with these results. -/
def tally (transactions events : List (Except Error Unit)) (effects : List (Except Error Meaning)) : ItemCounts where
  transactions := Attempt.successes transactions
  events := Attempt.successes events
  dispatched := Attempt.successes effects
  failed := transactions.length + events.length + effects.length -
    (Attempt.successes transactions + Attempt.successes events + Attempt.successes effects)

/-- Recording a height ends like recording its block; everything else is done and counted. -/
theorem run_eq (parse : String → Script.Outcome) (classifier : Classifier) (data : BlockData) (w : World) :
    (run parse classifier data).run.run w =
      let block := (recordBlock data.block).run.run w
      let transactions := (Attempt.forEach (recordTransaction parse data.block) data.transactions).run block.2
      let events := (Attempt.forEach recordEvent data.events).run transactions.2
      let effects := (Attempt.forEach (Meaning.dispatch classifier data.block.timestamp) data.events).run events.2
      (block.1.map fun _ => tally transactions.1 events.1 effects.1, effects.2) := by
  rcases hb : (recordBlock data.block).run.run w with ⟨r, v⟩
  have first := Attempt.run_result (recordBlock data.block) w
  rw [hb] at first
  unfold run
  rw [Attempt.run_bind_of_ok first, Attempt.run_bind_of_ok (Attempt.run_lift _ _),
    Attempt.run_bind_of_ok (Attempt.run_lift _ _), Attempt.run_bind_of_ok (Attempt.run_lift _ _)]
  cases r <;> rfl

theorem run_pieces (setup : Setup) (data : BlockData) (w : World) :
    ∃ counts, (run setup.parse setup.classifier data).run.run w =
      (((recordBlock data.block).run.run w).1.map fun _ => counts,
        Piece.applyAll setup (.block data.block :: data.details) w) := by
  have ts := Piece.applyAll_map setup (Piece.transaction data.block)
    (recordTransaction setup.parse data.block) (fun _ _ => rfl) data.transactions
  have es := Piece.applyAll_map setup Piece.event recordEvent (fun _ _ => rfl) data.events
  have ds := Piece.applyAll_map setup (Piece.effect data.block.timestamp)
    (Meaning.dispatch setup.classifier data.block.timestamp) (fun _ _ => rfl) data.events
  refine ⟨_, (run_eq setup.parse setup.classifier data w).trans (Prod.ext rfl ?_)⟩
  show ((Attempt.forEach (Meaning.dispatch setup.classifier data.block.timestamp) data.events).run _).2 =
    Piece.applyAll setup data.details ((recordBlock data.block).run.run w).2
  rw [ds, es, ts, BlockData.details, Piece.applyAll_append, Piece.applyAll_append]

end Recording

theorem Tick.spawnAll_pieces (setup : Setup) (ts : List FetchedTransaction) (w : World) :
    ((spawnAll ts).run w).2 = Piece.applyAll setup (ts.map fun t => .spawn t.transaction.id) w := by
  induction ts generalizing w with
  | nil => rfl
  | cons t ts ih => exact ih _

/-- Processing a height that was fetched ends like recording its block, and leaves the world that its
pieces lead to. -/
theorem Tick.processHeight_pieces (setup : Setup) {height : UInt64} {w u : World} {data : BlockData}
    (hf : (BlockData.fetch height).run.run w = (.ok data, u)) :
    ∃ counts, (processHeight setup height).run.run w =
      (((Recording.recordBlock data.block).run.run u).1.map fun _ => counts,
        Piece.applyAll setup
          (data.pieces setup (Attempt.isSuccess ((Recording.recordBlock data.block).run.run u).1)) u) := by
  obtain ⟨counts, hrun⟩ := Recording.run_pieces setup data u
  have recorded := Attempt.run_result (Recording.run setup.parse setup.classifier data) u
  rw [hrun] at recorded
  unfold processHeight BlockData.pieces
  rw [Attempt.run_bind_of_ok hf, Attempt.run_bind_of_ok recorded, Attempt.run_bind_of_ok (Attempt.run_lift _ _),
    Piece.applyAll_append]
  cases ((Recording.recordBlock data.block).run.run u).1 with
  | error e => exact ⟨.zero, rfl⟩
  | ok _ =>
    refine ⟨counts, ?_⟩
    show (if setup.config.watches = true then liftM (spawnAll data.transactions) >>= fun _ => pure counts
      else pure counts : Act ItemCounts).run.run _ = _
    cases watches : setup.config.watches with
    | false => rfl
    | true =>
      rw [if_pos rfl, Attempt.run_bind_of_ok (Attempt.run_lift _ _), spawnAll_pieces setup]
      rfl

end ChainIndex
