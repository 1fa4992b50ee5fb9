import ChainIndex.Command
import ChainIndex.Proofs.Additions
import ChainIndex.Proofs.Classification
import ChainIndex.Proofs.Subscriptions

/-!
# What a replay reaches

A chain that stands still is caught up with in one tick: a tick that no height ends has processed the head of the
chain, or had nothing to do. Only blocks of the chain are added to those on record, so the last indexed height is
the head unless the head could not be processed, its block could not be told from another one, or a block above it
was on record before (`Replay.isComplete_iff`).
-/

set_option autoImplicit false

namespace ChainIndex

/-! ### The head of a snapshot -/

namespace Chain

/-- The greatest height of the blocks of a snapshot. -/
def Snapshot.IsHead (s : Snapshot) (head : UInt64) : Prop :=
  (∃ b ∈ s.blocks, b.height = head) ∧ ∀ b ∈ s.blocks, b.height ≤ head

namespace Node

theorem foldl_blocks {α : Type} (change : Node → α → Node) (still : ∀ n a, (change n a).blocks = n.blocks)
    (l : List α) (n : Node) : (l.foldl change n).blocks = n.blocks := by
  induction l generalizing n with
  | nil => rfl
  | cons a l ih => exact (ih _).trans (still n a)

theorem foldl_putBlock (l : List Block) (n : Node) :
    (l.foldl (fun n b => n.putBlock b) n).blocks = (l.map fun b => (b.height, b)).foldl (fun t e => t.insert e.1 e.2)
      n.blocks := by
  induction l generalizing n with
  | nil => rfl
  | cons b l ih => exact ih _

theorem blocks_ofSnapshot (s : Snapshot) : (ofSnapshot s).blocks = .ofList (s.blocks.map fun b => (b.height, b)) := by
  have storage := foldl_blocks (fun n (e : String × List StorageItem) => n.putStorage e.1 e.2) fun _ _ => rfl
  have accounts := foldl_blocks (fun n a => n.putAccount a) fun _ _ => rfl
  have statuses := foldl_blocks (fun n (e : String × TransactionStatus) => n.setStatus e.1 e.2) fun _ _ => rfl
  have bodies := foldl_blocks (fun n t => n.putBody t) fun _ _ => rfl
  have collections := foldl_blocks (fun n c => n.putCollection c) fun _ _ => rfl
  unfold ofSnapshot
  dsimp only
  rw [storage, accounts, statuses, bodies, collections, foldl_putBlock]
  rfl

theorem isSome_blocks_ofSnapshot (s : Snapshot) (h : UInt64) :
    ((ofSnapshot s).blocks.get? h).isSome ↔ ∃ b ∈ s.blocks, b.height = h := by
  rw [blocks_ofSnapshot, Table.isSome_ofList_iff, List.map_map, List.mem_map]
  rfl

/-- The head of a node with the data of a snapshot is the greatest height there. -/
theorem head_ofSnapshot (s : Snapshot) :
    s.blocks = [] ∧ (ofSnapshot s).headHeight? = none ∨
      ∃ head, s.IsHead head ∧ (ofSnapshot s).headHeight? = some head := by
  have stored := isSome_blocks_ofSnapshot s
  unfold headHeight?
  cases last : (ofSnapshot s).blocks.last? with
  | none =>
    refine .inl ⟨List.eq_nil_iff_forall_not_mem.mpr fun b hb => ?_, rfl⟩
    obtain ⟨c, hc⟩ := Option.isSome_iff_exists.mp ((stored b.height).mpr ⟨b, hb, rfl⟩)
    have listed := ((ofSnapshot s).blocks.mem_entries_iff b.height c).mpr hc
    rw [List.getLast?_eq_none_iff.mp last] at listed
    cases listed
  | some e =>
    have top := ((ofSnapshot s).blocks.mem_entries_iff e.1 e.2).mp (List.mem_of_getLast? last)
    refine .inr ⟨e.1, ⟨(stored e.1).mp (Option.isSome_iff_exists.mpr ⟨e.2, top⟩), fun b hb => ?_⟩, rfl⟩
    obtain ⟨c, hc⟩ := Option.isSome_iff_exists.mp ((stored b.height).mpr ⟨b, hb, rfl⟩)
    rcases Table.last?_greatest last hc with same | before
    · exact same ▸ UInt64.le_refl _
    · exact UInt64.le_of_lt (of_decide_eq_true before)

end Node

end Chain

/-! ### One tick -/

theorem HeightRange.after?_latest {last : Option UInt64} {latest : UInt64} {range : HeightRange}
    (h : after? last latest = some range) : range.latest = latest := by
  cases last with
  | none =>
    cases h
    rfl
  | some last =>
    obtain ⟨next, -, rfl⟩ := Option.map_eq_some_iff.mp h
    rfl

namespace Tick
variable {setup : Setup}

/-- A climb that no height ends has processed its last height, if it has one. -/
theorem climb_processes_last (setup : Setup) (n : Nat) (height : UInt64) (room : height.toNat + n ≤ UInt64.size)
    (w : World) :
    ((climb setup n height).run w).1.failedHeight.isSome = true ∨
      n = 0 ∧ ((climb setup n height).run w).1.processed = [] ∨
        ∃ last, ((climb setup n height).run w).1.processed.getLast? = some last ∧ 0 < n ∧
          last.toNat + 1 = height.toNat + n := by
  induction n generalizing height w with
  | zero => exact .inr (.inl ⟨rfl, rfl⟩)
  | succ n ih =>
    rcases run : (processHeight setup height).run.run w with ⟨e | counts, v⟩
    · rw [climb_of_error run]
      exact .inl rfl
    · rw [climb_of_ok run]
      cases n with
      | zero => exact .inr (.inr ⟨height, rfl, Nat.one_pos, rfl⟩)
      | succ n =>
        have next : (height + 1).toNat = height.toNat + 1 := Store.toNat_succ (by omega)
        rcases ih (height + 1) (by omega) v with failed | ⟨zero, -⟩ | ⟨last, found, -, reached⟩
        · exact .inl failed
        · cases zero
        · refine .inr (.inr ⟨last, ?_, Nat.succ_pos _, by omega⟩)
          rw [List.getLast?_cons, found]
          rfl

/-- No tick follows one over a chain that stands still, whatever it came to. -/
theorem run_isLast {w w' : World} {report : TickReport} (keyed : w.node.Keyed)
    (ran : (run setup).run.run w = (.ok report, w')) : Replay.isLast w.node.headHeight? report = true := by
  have ends := run_ends setup w
  rw [ran] at ends
  cases ends with
  | offline => rfl
  | unbounded => rfl
  | @climbed u v bootstrapped head range known asked booted next =>
    obtain ⟨top, headed, stored⟩ := Chain.Node.latestBlock_eq_ok known
    obtain rfl := keyed.blocks top head stored
    have latest := HeightRange.after?_latest next
    have size : UInt64.size = 2 ^ 64 := rfl
    have nextLow := range.next.toNat_lt
    have latestLow := range.latest.toNat_lt
    unfold Replay.isLast
    rw [headed]
    have room : range.next.toNat + range.count ≤ UInt64.size := by
      unfold HeightRange.count
      omega
    rcases climb_processes_last setup range.count range.next room v with
      failed | ⟨-, nothing⟩ | ⟨last, found, some, reached⟩
    · simp only [failed, Bool.or_true, Bool.true_or]
    · simp only [nothing, List.getLast?_nil, Bool.or_true]
    · have top : last = head.height := by
        apply UInt64.toNat_inj.mp
        rw [← latest]
        unfold HeightRange.count at some reached
        omega
      simp only [found, top, UInt64.le_refl, decide_true, Bool.or_true]

end Tick

/-! ### The blocks of a tick -/

/-- Blocks that were on record stay, and those that are added are blocks of the chain. -/
structure Store.GrewFrom (node : Chain.Node) (s t : Store) : Prop where
  kept : ∀ id b, s.blocks.get? id = some b → t.blocks.get? id = some b
  added : ∀ id b, t.blocks.get? id = some b → s.blocks.get? id = some b ∨ (node.blocks.get? b.height).isSome

theorem Tick.run_grows {setup : Setup} (hs : ScansStorageOnly setup) {w w' : World} {result : Except Abort TickReport}
    (keyed : w.node.Keyed) (calm : w.outages = .none) (ran : (run setup).run.run w = (result, w')) :
    w.store.GrewFrom w.node w'.store := by
  have adds := run_adds hs ran fun n kind id _ _ => by rw [calm]; rfl
  have blocks := adds.grown.blocks
  refine ⟨fun id b hb => by rw [blocks id, hb]; rfl, fun id b hb => ?_⟩
  rw [blocks id, Option.or_eq_some_iff] at hb
  refine hb.imp_right fun ⟨_, found⟩ => ?_
  have listed := List.mem_of_find?_eq_some found
  simp only [Additions.all, Chain.Node.additions, Chain.Node.blockAdditions, List.mem_flatMap] at listed
  obtain ⟨h, -, c, hc, here⟩ := listed
  obtain rfl := List.mem_singleton.mp here
  have stored := Option.mem_toList.mp hc
  rw [show (Indexed.Block.ofChain c).height = h from keyed.blocks h c stored]
  exact Option.isSome_iff_exists.mpr ⟨c, stored⟩

/-! ### Behind the ticks -/

namespace Watch

/-- The parts that watchers change. -/
def parts : List Part := [.shelf .transaction, .node, .watchers]

theorem only_subscribe (id : String) : Only parts (subscribe id).run := by
  intro w
  rcases subscribe_cases id w with ⟨e, run⟩ | ⟨subscription, run⟩
  · rw [run]
    exact .counted parts w
  · rw [run]
    exact ⟨fun _ _ => .refl _ _, fun out => absurd (by decide) out, fun _ => rfl, fun _ => ⟨rfl, rfl⟩, rfl, rfl,
      Nat.le_succ _⟩

theorem only_setStage (id : String) (stage : Stage) : Only parts (setStage id stage) := fun _ =>
  ⟨fun _ _ => .refl _ _, fun _ => rfl, fun out => absurd (by decide) out, fun _ => ⟨rfl, rfl⟩, rfl, rfl, Nat.le_refl _⟩

theorem only_leave (id : String) : Only parts (leave id) := fun _ =>
  ⟨fun _ _ => .refl _ _, fun _ => rfl, fun out => absurd (by decide) out, fun _ => ⟨rfl, rfl⟩, rfl, rfl, Nat.le_refl _⟩

theorem only_finish (id : String) : Only parts (finish id) := fun _ =>
  ⟨fun _ _ => .refl _ _, fun out => absurd (by decide) out, fun out => absurd (by decide) out, fun _ => ⟨rfl, rfl⟩, rfl,
    rfl, Nat.le_refl _⟩

theorem only_step (id : String) : Only parts (step id) := by
  refine .bind .get fun w => ?_
  split
  · exact .pure _
  · refine .bind (only_subscribe id) fun subscription => ?_
    split
    · exact .bind (only_setStage id _) fun _ => .pure _
    · exact .bind (only_leave id) fun _ => .pure _
  · split
    · refine .bind (only_setStage id _) fun _ => .bind ((receive_only id _).mono (by decide)) fun done => ?_
      split
      · exact .bind (only_finish id) fun _ => .pure _
      · exact .pure _
    · exact .bind (only_finish id) fun _ => .pure _
    · exact .pure _

theorem only_steps (id : String) (n : Nat) : Only parts (steps id n) := by
  induction n with
  | zero => exact .pure _
  | succ n ih =>
    refine .bind (only_step id) fun more => ?_
    split
    · exact ih
    · exact .pure _

theorem only_settle : Only parts settle := by
  refine .bind .get fun w => ?_
  generalize w.watchers.keys = ids
  induction ids with
  | nil => exact .pure _
  | cons id ids ih => exact .bind (only_steps id 4) fun _ => ih

end Watch

/-! ### A whole replay -/

namespace Replay
variable {setup : Setup} {w w' : World} {report : TickReport}

/-- However many ticks are left, catching up ends with the first one. -/
theorem catchUp_of_run {head : Option UInt64} (ran : (Tick.run setup).run.run w = (.ok report, w'))
    (last : isLast head report = true) (n : Nat) : (catchUp setup head (n + 1)).run.run w = (.ok report.items, w') := by
  unfold catchUp
  rw [Attempt.run_bind_of_ok ran, if_pos last]
  rfl

/-- The replay of a tick that did not abort ends, and writes no block behind it. -/
theorem run_of_run {indexer : Indexer} (keyed : indexer.world.node.Keyed)
    (ran : (Tick.run indexer.setup).run.run indexer.world = (.ok report, w')) :
    ∃ after : Store, after.blocks = w'.store.blocks ∧
      run false indexer = (.ok ⟨.of after report.items, indexer.world.node.headHeight?⟩, after) := by
  obtain ⟨setup, w⟩ := indexer
  have caught := catchUp_of_run ran (Tick.run_isLast keyed ran) w.node.blocks.size
  have settled := Watch.only_settle w'
  refine ⟨(Watch.settle.run w').2.store, settled.shelf .block (by decide), ?_⟩
  have course : (course setup).run.run w = (.ok report.items, (Watch.shutdown.run (Watch.settle.run w').2).2) := by
    unfold course
    rw [Attempt.run_bind_of_ok (show (get : Tick.Course World).run.run w = (.ok w, w) from rfl),
      Attempt.run_bind_of_ok caught]
    rfl
  unfold run
  simp only [Bool.false_eq_true, if_false, course]
  rfl

/-- A replay is complete if the chain has no block, or if its head was reached and no block above it was there
before. -/
theorem isComplete_iff {snapshot : Chain.Snapshot} {prior after : Store}
    (grew : prior.GrewFrom (.ofSnapshot snapshot) after) (counts : ItemCounts) :
    Outcome.isComplete ⟨.of after counts, (Chain.Node.ofSnapshot snapshot).headHeight?⟩ = true ↔
      snapshot.blocks = [] ∨ ∃ head, snapshot.IsHead head ∧ (∃ b ∈ after.blocks.values, head ≤ b.height) ∧
        ∀ b ∈ prior.blocks.values, b.height ≤ head := by
  rcases Chain.Node.head_ofSnapshot snapshot with ⟨nothing, headless⟩ | ⟨head, isHead, headed⟩
  · rw [headless]
    exact ⟨fun _ => .inl nothing, fun _ => rfl⟩
  have below : ∀ b ∈ prior.blocks.values, b ∈ after.blocks.values := by
    intro b hb
    obtain ⟨id, hid⟩ := (prior.blocks.mem_values_iff b).mp hb
    exact (after.blocks.mem_values_iff b).mpr ⟨id, grew.kept id b hid⟩
  have complete : Outcome.isComplete ⟨.of after counts, some head⟩ = true ↔ after.lastIndexedHeight = some head := by
    unfold Outcome.isComplete
    rw [Option.isNone_some, Bool.false_or, beq_iff_eq]
    rfl
  rw [headed, complete]
  unfold Store.lastIndexedHeight
  constructor
  · intro reached
    rcases Store.greatestHeight?_cases after.blocks.values with ⟨-, none⟩ | ⟨b, hb, greatest, all⟩
    · rw [reached] at none
      cases none
    · obtain rfl := Option.some.inj (greatest.symm.trans reached)
      refine .inr ⟨b.height, isHead, ⟨b, hb, UInt64.le_refl _⟩, fun c hc => ?_⟩
      exact UInt64.le_iff_toNat_le.mpr (all c (below c hc))
  · rintro (nothing | ⟨top, isTop, ⟨c, hc, reached⟩, low⟩)
    · obtain ⟨⟨b, hb, -⟩, -⟩ := isHead
      rw [nothing] at hb
      cases hb
    obtain ⟨⟨b, hb, rfl⟩, all⟩ := isHead
    obtain ⟨⟨d, hd, rfl⟩, most⟩ := isTop
    have same : b.height = d.height := UInt64.le_antisymm (most b hb) (all d hd)
    rcases Store.greatestHeight?_cases after.blocks.values with ⟨none, -⟩ | ⟨g, hg, greatest, highest⟩
    · rw [none] at hc
      cases hc
    · rw [greatest, same]
      refine congrArg some (UInt64.le_antisymm ?_ ?_)
      · -- The highest block on record was there before or comes from the chain.
        obtain ⟨id, hid⟩ := (after.blocks.mem_values_iff g).mp hg
        rcases grew.added id g hid with old | new
        · exact low g ((prior.blocks.mem_values_iff g).mpr ⟨id, old⟩)
        · obtain ⟨e, he, own⟩ := (Chain.Node.isSome_blocks_ofSnapshot snapshot g.height).mp new
          exact own ▸ most e he
      · exact UInt64.le_trans reached (UInt64.le_iff_toNat_le.mpr (highest c hc))

end Replay

/-- A tick does not abort if a height follows every block on record. -/
theorem Tick.run_of_room (setup : Setup) {w : World}
    (room : ∀ b ∈ w.store.blocks.values, b.height.toNat + 1 < UInt64.size) :
    ∃ report w', (run setup).run.run w = (.ok report, w') := by
  have ends := run_ends setup w
  generalize (run setup).run.run w = result at ends
  cases ends with
  | offline | unbounded | climbed => exact ⟨_, _, rfl⟩
  | @overflow u head known asked full =>
    rcases w.store.after?_cases head.height with ⟨-, some⟩ | ⟨id, b, hb, -, ⟨-, some⟩ | ⟨top, -⟩⟩
    · cases full.symm.trans some
    · cases full.symm.trans some
    · have := room b ((w.store.blocks.mem_values_iff b).mpr ⟨id, hb⟩)
      omega

/-! ### The command -/

namespace Command

theorem putArchive_of_name {path name : String} (h : Directory.name? path = some name) (store : Store) (d : Directory) :
    (putArchive Directory.disk path store).run.run d = (.ok (), d.insert name (.archive store)) := by
  have put : (Directory.disk.put path store).run d = (true, d.insert name (.archive store)) := by
    unfold Directory.disk
    simp only [h]
    rfl
  unfold putArchive
  rw [Attempt.run_bind_of_ok (Attempt.run_lift _ d), put]
  rfl

theorem putArchive_of_nameless {path : String} (h : Directory.name? path = none) (store : Store) (d : Directory) :
    (putArchive Directory.disk path store).run.run d = (.error (.error cannotOpen), d) := by
  have put : (Directory.disk.put path store).run d = (false, d) := by
    unfold Directory.disk
    simp only [h]
    rfl
  unfold putArchive
  rw [Attempt.run_bind_of_ok (Attempt.run_lift _ d), put]
  rfl

/-- Only a path that leads to a file of the directory can be opened. -/
theorem name_of_opens {l : Location} {path : String} {d d' : Directory} {store : Store} (kept : l.path = some path)
    (opens : (openArchive Directory.disk l).run.run d = (.ok store, d')) : ∃ name, Directory.name? path = some name := by
  cases h : Directory.name? path with
  | some name => exact ⟨name, rfl⟩
  | none =>
    have found : (Directory.disk.find? path).run d = (none, d) := by
      show ((Directory.name? path).bind d.get?, d) = _
      rw [h]
      rfl
    unfold openArchive at opens
    rw [kept] at opens
    dsimp only at opens
    rw [Attempt.run_bind_of_ok (Attempt.run_lift _ d), found] at opens
    dsimp only at opens
    split at opens
    · rw [Attempt.run_bind_of_error (putArchive_of_nameless h .empty d)] at opens
      cases opens
    · cases opens

theorem closeArchive_of_name {l : Location} (writable : l.access.readOnly = false)
    (named : ∀ path, l.path = some path → ∃ name, Directory.name? path = some name) (store : Store) (d : Directory) :
    ∃ d', (closeArchive Directory.disk l store).run.run d = (.ok (), d') ∧
      ∀ path, l.path = some path → (Directory.disk.find? path).run d' = (some (.archive store), d') := by
  unfold closeArchive
  cases kept : l.path with
  | none => exact ⟨d, rfl, nofun⟩
  | some path =>
    obtain ⟨name, h⟩ := named path kept
    rw [writable]
    refine ⟨_, putArchive_of_name h store d, fun path' same => ?_⟩
    obtain rfl := Option.some.inj same
    show ((Directory.name? path).bind (d.insert name (.archive store)).get?, _) = _
    rw [h, Option.bind_some, Table.get?_insert_self]

/-- A replay to its end that the files of a directory allow for: the arguments can be read and lead to a snapshot, a
valid configuration and an archive that can be written. -/
structure Job (d : Directory) (arguments : List String) where
  path : String
  options : Options
  snapshot : Chain.Snapshot
  config : Config
  classifier : Classifier
  location : Location
  /-- What the archive held before. -/
  prior : Store
  /-- The directory with the archive in it. -/
  opened : Directory
  parsed : Options.ofArguments arguments = .ok (path, options)
  ends : options.follows = false
  chain : (load Directory.disk Chain.Snapshot path).run.run d = (.ok snapshot, d)
  configured : match options.config with
    | some path => (load Directory.disk Config path).run.run d = (.ok config, d)
    | none => config = .default
  valid : Classifier.ofConfig config = .ok classifier
  located : match options.archive with
    | some place => Location.ofText place = .ok location
    | none => location = ⟨none, false, false⟩
  writable : location.access.readOnly = false
  opens : (openArchive Directory.disk location).run.run d = (.ok prior, opened)

namespace Job
variable {d : Directory} {arguments : List String} (job : Job d arguments) (clock : Timestamp)

/-- The indexer that makes the replay. -/
def indexer : Indexer where
  setup := ⟨job.config, job.classifier, Script.parse, some StorageScan.run⟩
  world := .start (.ofSnapshot job.snapshot) job.prior clock

theorem build_plan : Plan.build { Plan.default with
    config := job.config, store := job.prior, node := some (.ofSnapshot job.snapshot), readsStorage := true } clock =
      .ok (job.indexer clock) := by
  unfold Plan.build Plan.scan?
  show (Classifier.ofConfig job.config).bind _ = _
  rw [job.valid]
  rfl

theorem ofResult_ok {ε α : Type} (failure : ε → Failure) (a : α) (d : Directory) :
    (ofResult failure (.ok a) : Attempted (StateM Directory) α).run.run d = (.ok a, d) := rfl

theorem run_configured {β : Type} (rest : Config → Attempted (StateM Directory) β) :
    (match job.options.config with
      | some path => load Directory.disk Config path >>= rest
      | none => (pure Config.default : Attempted (StateM Directory) Config) >>= rest :
        Attempted (StateM Directory) β).run.run d = (rest job.config).run.run d := by
  have configured := job.configured
  cases given : job.options.config with
  | some path =>
    rw [given] at configured
    exact Attempt.run_bind_of_ok configured
  | none =>
    rw [given] at configured
    rw [show job.config = .default from configured]
    rfl

theorem run_located {β : Type} (rest : Location → Attempted (StateM Directory) β) :
    (match job.options.archive with
      | some place => (ofResult .error (Location.ofText place) : Attempted (StateM Directory) Location) >>= rest
      | none => (pure ⟨none, false, false⟩ : Attempted (StateM Directory) Location) >>= rest :
        Attempted (StateM Directory) β).run.run d = (rest job.location).run.run d := by
  have located := job.located
  cases given : job.options.archive with
  | some place =>
    rw [given] at located
    dsimp only at located ⊢
    rw [located, Attempt.run_bind_of_ok (ofResult_ok _ _ _)]
  | none =>
    rw [given] at located
    rw [show job.location = ⟨none, false, false⟩ from located]
    rfl

/-- The command ends like the replay, and puts what it leaves into the archive. -/
theorem run_eq {outcome : Replay.Outcome} {after : Store}
    (replayed : Replay.run false (job.indexer clock) = (.ok outcome, after)) :
    ∃ d', (run Directory.disk clock ("replay" :: arguments)).run d = (.ofOutcome outcome, d') ∧
      ∀ path, job.location.path = some path → (Directory.disk.find? path).run d' = (some (.archive after), d') := by
  obtain ⟨d', closed, kept⟩ := closeArchive_of_name job.writable (fun _ path => name_of_opens path job.opens) after
    job.opened
  refine ⟨d', ?_, kept⟩
  have at_ : (replayAt Directory.disk clock job.snapshot job.config job.options.follows job.location).run.run d =
      (.ok outcome, d') := by
    unfold replayAt
    rw [Attempt.run_bind_of_ok job.opens]
    dsimp only
    rw [build_plan, Attempt.run_bind_of_ok (ofResult_ok _ _ _), job.writable, job.ends]
    simp only [Bool.false_eq_true, if_false]
    rw [replayed, Attempt.run_bind_of_ok closed]
    rfl
  have all : (replay Directory.disk clock arguments).run.run d = (.ok outcome, d') := by
    unfold replay
    rw [job.parsed, Attempt.run_bind_of_ok (ofResult_ok _ _ _)]
    dsimp only
    rw [Attempt.run_bind_of_ok job.chain]
    refine Eq.trans (job.run_configured _) ?_
    refine Eq.trans (job.run_located _) at_
  unfold run
  dsimp only
  rw [if_pos rfl, Attempt.state_bind, all]
  rfl

/-- Where a height follows every block on record, the replay ends: catching up takes one tick, however many are allowed
for. It ends successfully if the chain has no block, or if its head was reached and no block above it was on record
before. -/
theorem ends_at_head (room : ∀ b ∈ job.prior.blocks.values, b.height.toNat + 1 < UInt64.size) :
    ∃ counts w outcome after d',
      (∀ n, (Replay.catchUp (job.indexer clock).setup (job.indexer clock).world.node.headHeight? (n + 1)).run.run
        (job.indexer clock).world = (.ok counts, w)) ∧
      Replay.run false (job.indexer clock) = (.ok outcome, after) ∧
      (run Directory.disk clock ("replay" :: arguments)).run d = (.ofOutcome outcome, d') ∧
      (∀ path, job.location.path = some path → (Directory.disk.find? path).run d' = (some (.archive after), d')) ∧
      ((Output.ofOutcome outcome).code = 0 ↔
        job.snapshot.blocks = [] ∨ ∃ head, job.snapshot.IsHead head ∧ (∃ b ∈ after.blocks.values, head ≤ b.height) ∧
          ∀ b ∈ job.prior.blocks.values, b.height ≤ head) := by
  have keyed : (job.indexer clock).world.node.Keyed := (Chain.Node.made_ofSnapshot job.snapshot).keyed
  obtain ⟨report, w, ran⟩ := Tick.run_of_room (job.indexer clock).setup (w := (job.indexer clock).world) room
  obtain ⟨after, blocks, replayed⟩ := Replay.run_of_run keyed ran
  obtain ⟨d', ended, kept⟩ := job.run_eq clock replayed
  have grew := Tick.run_grows (Tick.scansStorageOnly_of_own rfl) keyed rfl ran
  have grew' : job.prior.GrewFrom (.ofSnapshot job.snapshot) after :=
    ⟨fun id b hb => blocks ▸ grew.kept id b hb, fun id b hb => grew.added id b (blocks ▸ hb)⟩
  refine ⟨report.items, w, _, after, d', Replay.catchUp_of_run ran (Tick.run_isLast keyed ran), replayed, ended, kept, ?_⟩
  rw [← Replay.isComplete_iff grew' report.items]
  unfold Output.ofOutcome
  split
  · next complete => exact iff_of_true rfl complete
  · next incomplete => exact iff_of_false (show ¬(1 : UInt8) = 0 by decide) incomplete

end Job

/-! ### One block -/

def oneBlock : Chain.Snapshot := ⟨[.bare "a" 0 []], [], [], .empty, [], .empty⟩

/-- A file with the block, and no archive. Records may be given by their fields in order. -/
def freshFiles : Directory := Table.empty.insert "one" (.text "[[[\"a\", \"\", 0, \"1970-01-01T00:00:00Z\"]]]")

/-- A store with the next block too. -/
def aheadStore : Store :=
  { Store.empty with blocks :=
      (Table.empty.insert "a" (.ofChain (.bare "a" 0 []))).insert "b" (.ofChain (.bare "b" 1 [])) }

def oneBlockJob : Job freshFiles ["one", "--sqlite", "index"] where
  path := "one"
  options := ⟨none, some "index", .default, false⟩
  snapshot := oneBlock
  config := .default
  classifier := ⟨Pattern.movement "TokensWithdrawn", Pattern.movement "TokensDeposited"⟩
  location := ⟨some "index", ⟨false, true⟩⟩
  prior := .empty
  opened := freshFiles.insert "index" (.archive .empty)
  parsed := rfl
  ends := rfl
  chain := Prod.ext (by decide +kernel) (by decide +kernel)
  configured := rfl
  valid := Classifier.ofConfig_default
  located := by decide +kernel
  writable := rfl
  opens := Prod.ext (by decide +kernel) (by decide +kernel)

/-- The first replay of a block ends successfully, with the block in the archive. -/
theorem ends_at_head_oneBlock :
    ∃ output d' after, (run Directory.disk .epoch ["replay", "one", "--sqlite", "index"]).run freshFiles = (output, d') ∧
      output.code = 0 ∧ (Directory.disk.find? "index").run d' = (some (.archive after), d') ∧
      after.blocks.values.map (·.height) = [0] := by
  obtain ⟨counts, w, outcome, after, d', -, replayed, ended, kept, code⟩ :=
    oneBlockJob.ends_at_head .epoch (by decide : ∀ b ∈ (Store.empty).blocks.values, b.height.toNat + 1 < UInt64.size)
  have blocks : ((Replay.run false (oneBlockJob.indexer .epoch)).2).blocks.values.map (·.height) = [0] := by
    decide +kernel
  rw [replayed] at blocks
  refine ⟨_, d', after, ended, code.mpr (.inr ⟨0, ?_, ?_, by decide⟩), kept "index" rfl, blocks⟩
  · exact ⟨⟨_, List.mem_singleton_self _, rfl⟩, by decide⟩
  · obtain ⟨b, hb, -⟩ := List.mem_map.mp (blocks ▸ List.mem_singleton_self (0 : UInt64))
    exact ⟨b, hb, UInt64.zero_le⟩

def aheadRun : Output × Directory :=
  (run Directory.disk .epoch ["replay", "one", "--sqlite", "index"]).run (freshFiles.insert "index" (.archive aheadStore))

/-- A replay into an archive that is ahead of the chain fails, although the archive has a block above the head. -/
theorem fails_ahead :
    oneBlock.IsHead 0 ∧ aheadRun.1.code = 1 ∧
      aheadRun.1.stderr = "Error: stopped at height Some(1) before reaching head Some(0)\n" ∧
      aheadRun.2.get? "index" = some (.archive aheadStore) ∧ ∃ b ∈ aheadStore.blocks.values, 0 < b.height :=
  ⟨⟨⟨_, List.mem_singleton_self _, rfl⟩, by decide⟩, by decide +kernel, by decide +kernel, by decide +kernel, by decide⟩

end Command

end ChainIndex
