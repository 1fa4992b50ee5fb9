import ChainIndex.Proofs.Pieces

/-!
# What a tick can do

One inversion lemma for each step of a tick: how the block of a height is written, what processing a
height does, what the bounds of a tick are, and what a whole tick does. A height succeeds exactly if
its block is on record afterwards.
-/

set_option autoImplicit false

namespace ChainIndex

/-- An index says that a record exists only if it does: no creation fails with that error. -/
def Outages.Honest (o : Outages) : Prop :=
  ∀ n kind id what, o.call n (.create kind id) ≠ some (.alreadyExists what)

def World.Honest (w : World) : Prop := w.outages.Honest

theorem World.Within.honest {parts : List Part} {w w' : World} (h : w.Within parts w') (hw : w.Honest) :
    w'.Honest := by
  rw [World.Honest, h.outages]
  exact hw

namespace Recording

/-- What becomes of the result of creating a record when the record may be there already. -/
def forgive : Except Error Unit → Except Error Unit
  | .error (.alreadyExists _) => .ok ()
  | r => r

theorem replaySafe_run (work : Act Unit) (w : World) :
    (replaySafe work).run.run w = (forgive (work.run.run w).1, (work.run.run w).2) := by
  unfold replaySafe
  rw [Attempt.run_bind_of_ok (Attempt.run_result work w)]
  unfold forgive
  split <;> simp_all <;> rfl

/-- Recording a record fails, or finds the record there, or writes it. -/
theorem replaySafe_create_cases {α π : Type} [Store.Shelved α π] (a : α) (w : World) (honest : w.Honest) :
    (∃ e, w.outages.call w.calls (.create (Store.Shelved.shelf α) (Indexed.Entity.id a)) = some e ∧
        (replaySafe (Act.create a)).run.run w = (.error e, w.counted)) ∨
      w.outages.call w.calls (.create (Store.Shelved.shelf α) (Indexed.Entity.id a)) = none ∧
        ((∃ b, (Store.Shelved.table w.store : Table String α).get? (Indexed.Entity.id a) = some b ∧
            (replaySafe (Act.create a)).run.run w = (.ok (), w.counted)) ∨
          (Store.Shelved.table w.store : Table String α).get? (Indexed.Entity.id a) = none ∧
            (replaySafe (Act.create a)).run.run w =
              (.ok (), w.counted.shelve
                ((Store.Shelved.table w.store : Table String α).insert (Indexed.Entity.id a) a))) := by
  rw [replaySafe_run]
  rcases Act.create_cases a w with ⟨e, he, h⟩ | ⟨hn, ⟨b, hb, h⟩ | ⟨hb, h⟩⟩
  · refine .inl ⟨e, he, ?_⟩
    rw [h]
    have kept : forgive (.error e) = .error e := by
      unfold forgive
      split
      · next what hr =>
        cases hr
        exact absurd he (honest _ _ _ what)
      · rfl
    rw [kept]
  · exact .inr ⟨hn, .inl ⟨b, hb, by rw [h]; rfl⟩⟩
  · exact .inr ⟨hn, .inr ⟨hb, by rw [h]; rfl⟩⟩

/-- The blocks with one more on record, if its id is not taken. -/
def recorded (blocks : Table String Indexed.Block) (b : Chain.Block) : Table String Indexed.Block :=
  if blocks.contains b.id then blocks else blocks.insert b.id (.ofChain b)

theorem recorded_cases (blocks : Table String Indexed.Block) (b : Chain.Block) :
    (∃ old, blocks.get? b.id = some old ∧ recorded blocks b = blocks) ∨
      blocks.get? b.id = none ∧ recorded blocks b = blocks.insert b.id (.ofChain b) := by
  unfold recorded Table.contains
  cases h : blocks.get? b.id with
  | some old => exact Or.inl ⟨old, rfl, rfl⟩
  | none => exact Or.inr ⟨rfl, rfl⟩

/-- A block is on record afterwards, or a call failed. -/
theorem recordBlock_cases (b : Chain.Block) (w : World) (honest : w.Honest) :
    (∃ e, (recordBlock b).run.run w = (.error e, w.counted) ∧ w.outages ≠ .none) ∨
      ∃ w', (recordBlock b).run.run w = (.ok (), w') ∧ w'.store.blocks = recorded w.store.blocks b := by
  rcases replaySafe_create_cases (Indexed.Block.ofChain b) w honest with
    ⟨e, he, h⟩ | ⟨-, ⟨old, hold, h⟩ | ⟨new, h⟩⟩
  · refine Or.inl ⟨e, h, fun calm => ?_⟩
    rw [calm] at he
    cases he
  · refine Or.inr ⟨w.counted, h, ?_⟩
    rcases recorded_cases w.store.blocks b with ⟨-, -, eq⟩ | ⟨new, -⟩
    · exact eq.symm
    · cases new.symm.trans hold
  · refine Or.inr ⟨_, h, ?_⟩
    rcases recorded_cases w.store.blocks b with ⟨old, hold, -⟩ | ⟨-, eq⟩
    · cases hold.symm.trans new
    · rw [eq]
      rfl

/-- Where no call fails a block is on record afterwards. -/
theorem recordBlock_of_answers {w : World} (answers : w.Answers fun _ => True) (b : Chain.Block) :
    ∃ w', (recordBlock b).run.run w = (.ok (), w') ∧ w'.store.blocks = recorded w.store.blocks b := by
  have run := replaySafe_run (Act.create (Indexed.Block.ofChain b)) w
  rcases Act.create_cases (Indexed.Block.ofChain b) w with ⟨e, wrong, -⟩ | ⟨-, ⟨old, taken, refused⟩ | ⟨free, written⟩⟩
  · rw [answers w.calls (Nat.le_refl _) _ trivial] at wrong
    cases wrong
  · refine ⟨w.counted, by rw [recordBlock, run, refused]; rfl, ?_⟩
    rcases recorded_cases w.store.blocks b with ⟨-, -, eq⟩ | ⟨none, -⟩
    · exact eq.symm
    · cases none.symm.trans taken
  · refine ⟨_, by rw [recordBlock, run, written]; rfl, ?_⟩
    rcases recorded_cases w.store.blocks b with ⟨old, taken, -⟩ | ⟨-, eq⟩
    · cases taken.symm.trans free
    · rw [eq]
      rfl

end Recording

namespace Tick

/-- The parts that processing a height changes behind its block. -/
def besidesBlocks : List Part :=
  .shelf .transaction :: .shelf .event :: .shelf .storageItem :: .watchers :: Only.effects

theorem parts_besidesBlocks {setup : Setup} {data : BlockData} {recorded : Bool} {p : Piece}
    (hp : p ∈ data.details ++ .scan :: if recorded && setup.config.watches then data.spawns else []) :
    p.parts ⊆ besidesBlocks := by
  rw [List.mem_append, List.mem_cons] at hp
  rcases hp with hp | rfl | hp
  · rcases BlockData.mem_details hp with ⟨t, rfl⟩ | ⟨e, rfl⟩ | ⟨e, rfl⟩
    · exact (by decide : [Part.shelf .transaction] ⊆ besidesBlocks)
    · exact (by decide : [Part.shelf .event] ⊆ besidesBlocks)
    · exact (by decide : Only.effects ⊆ besidesBlocks)
  · exact (by decide : [Part.shelf .storageItem] ⊆ besidesBlocks)
  · split at hp
    · obtain ⟨t, -, rfl⟩ := List.mem_map.mp hp
      exact (by decide : [Part.watchers] ⊆ besidesBlocks)
    · cases hp

theorem processHeight_of_unfetched {setup : Setup} {height : UInt64} {w u : World} {e : Error}
    (hf : (BlockData.fetch height).run.run w = (.error e, u)) :
    (processHeight setup height).run.run w = (.error e, u) := by
  unfold processHeight
  exact Attempt.run_bind_of_error hf

/-- Processing a height that was fetched ends like recording its block. -/
theorem processHeight_of_fetch {setup : Setup} (hs : ScansStorageOnly setup) {height : UInt64} {w u : World}
    {data : BlockData} (hf : (BlockData.fetch height).run.run w = (.ok data, u)) :
    ∃ counts w', ((Recording.recordBlock data.block).run.run u).2.Within besidesBlocks w' ∧
      (processHeight setup height).run.run w =
        (((Recording.recordBlock data.block).run.run u).1.map fun _ => counts, w') := by
  obtain ⟨counts, run⟩ := processHeight_pieces setup hf
  exact ⟨counts, _, Piece.applyAll_within hs (fun p hp => parts_besidesBlocks hp) _, run⟩

/-- A height fails with its block not written, because a call failed or the node does not hold its data,
or it succeeds with its block on record. -/
theorem processHeight_cases {setup : Setup} (hs : ScansStorageOnly setup) (height : UInt64) (w : World)
    (honest : w.Honest) :
    ∃ r w', (processHeight setup height).run.run w = (r, w') ∧ w.Within (.shelf .block :: besidesBlocks) w' ∧
      ((∃ e, r = .error e ∧ w'.store.blocks = w.store.blocks ∧
          (w.outages = .none → ∃ e, w.node.dataAt height = .error e)) ∨
        ∃ counts b, r = .ok counts ∧ w.node.block height = .ok b ∧
          w'.store.blocks = Recording.recorded w.store.blocks b) := by
  have still : w.Within [] ((BlockData.fetch height).run.run w).2 := Only.fetch height w
  rcases hf : (BlockData.fetch height).run.run w with ⟨e | data, u⟩
  · rw [hf] at still
    refine ⟨_, u, processHeight_of_unfetched hf, still.mono (List.nil_subset _),
      Or.inl ⟨e, rfl, still.shelf .block (by simp), fun calm => ⟨e, ?_⟩⟩⟩
    have answers : w.Answers BlockData.Looks := fun _ _ _ _ => by rw [calm]; rfl
    rw [← BlockData.fetch_of_answers answers, hf]
  · rw [hf] at still
    have same : u.store.blocks = w.store.blocks := still.shelf .block (by simp)
    obtain ⟨counts, w', hw', run⟩ := processHeight_of_fetch hs hf
    have block := (Chain.Node.dataAt_eq_ok (BlockData.fetch_ok hf).1).1
    have first := Only.recordBlock data.block u
    have kept : w'.store.blocks = _ := hw'.shelf .block (by decide)
    refine ⟨_, _, run, (still.mono (List.nil_subset _)).trans ((first.mono (by decide)).trans (hw'.mono (by decide))), ?_⟩
    rcases Recording.recordBlock_cases data.block u (still.honest honest) with ⟨e, h, wrong⟩ | ⟨v, h, blocks⟩
    · rw [h] at kept ⊢
      exact Or.inl ⟨e, rfl, kept.trans same, fun calm => absurd (still.outages.trans calm) wrong⟩
    · rw [h] at kept ⊢
      exact Or.inr ⟨counts, data.block, rfl, block, by rw [kept, blocks, same]⟩

theorem climb_of_ok {setup : Setup} {height : UInt64} {w v : World} {counts : ItemCounts}
    (h : (processHeight setup height).run.run w = (.ok counts, v)) (n : Nat) :
    (climb setup (n + 1) height).run w =
      ({ ((climb setup n (height + 1)).run v).1 with
          processed := height :: ((climb setup n (height + 1)).run v).1.processed
          items := counts.add ((climb setup n (height + 1)).run v).1.items },
        ((climb setup n (height + 1)).run v).2) := by
  rw [climb, Attempt.state_bind, h]
  rfl

theorem climb_of_error {setup : Setup} {height : UInt64} {w v : World} {e : Error}
    (h : (processHeight setup height).run.run w = (.error e, v)) (n : Nat) :
    (climb setup (n + 1) height).run w = ({ TickReport.idle with failedHeight := some height }, v) := by
  rw [climb, Attempt.state_bind, h]
  rfl

/-! ### Ticks -/

/-- The bounds of a tick are not found, for a call failed or the node has no head, or they are the last
indexed height and the head. -/
theorem bounds_cases (w : World) :
    (∃ e, (bounds.run.run w).1 = .error e) ∧ (w.outages = .none → ∃ e, w.node.latestBlock = .error e) ∨
      ∃ b, w.node.latestBlock = .ok b ∧ (bounds.run.run w).1 = .ok (w.store.lastIndexedHeight, b.height) := by
  have last := Act.read_cases (.findAll .block) (fun s : Store => s.blocks.values) w
  have latest := Act.ask_cases .latestBlock Chain.Node.latestBlock w.counted
  rcases last with ⟨e, he, h⟩ | ⟨-, h⟩
  · have failed : lastIndexedHeight.run.run w = (.error e, w.counted) := Attempt.run_bind_of_error h
    rw [show bounds.run.run w = (.error e, w.counted) from Attempt.run_bind_of_error failed]
    refine .inl ⟨⟨e, rfl⟩, fun calm => ?_⟩
    rw [calm] at he
    cases he
  · have found : lastIndexedHeight.run.run w = (.ok w.store.lastIndexedHeight, w.counted) :=
      Attempt.run_bind_of_ok h
    have next : bounds.run.run w = _ := Attempt.run_bind_of_ok found
    rcases latest with ⟨e, he, h⟩ | ⟨-, h⟩
    · have failed : BlockData.latestHeight.run.run w.counted = (.error e, w.counted.counted) :=
        Attempt.run_bind_of_error h
      rw [next, Attempt.run_bind_of_error failed]
      refine .inl ⟨⟨e, rfl⟩, fun calm => ?_⟩
      rw [World.counted_outages, calm] at he
      cases he
    · cases hb : w.node.latestBlock with
      | error e =>
        rw [World.counted_node, hb] at h
        have failed : BlockData.latestHeight.run.run w.counted = (.error e, w.counted.counted) :=
          Attempt.run_bind_of_error h
        rw [next, Attempt.run_bind_of_error failed]
        exact .inl ⟨⟨e, rfl⟩, fun _ => ⟨e, rfl⟩⟩
      | ok b =>
        rw [World.counted_node, hb] at h
        have known : BlockData.latestHeight.run.run w.counted = (.ok b.height, w.counted.counted) :=
          Attempt.run_bind_of_ok h
        rw [next, Attempt.run_bind_of_ok known]
        exact .inr ⟨b, rfl, rfl⟩

/-- What a tick can do. It is skipped at once, or for want of its bounds; it aborts because no height
follows the last indexed one; or it climbs. Before it climbs it indexes the well-known accounts. -/
inductive Ends (setup : Setup) (w : World) : Except Abort TickReport × World → Prop where
  | offline (off : w.node.reachable = false) :
      Ends setup w (.ok (.skip .gatewayUnreachable), w.setPhase .offline)
  | unbounded {u v : World} {bootstrapped : Nat} (wrong : w.outages = .none → ∃ e, w.node.latestBlock = .error e)
      (asked : w.Within [.phase] u) (booted : (bootstrap setup).run u = (bootstrapped, v)) :
      Ends setup w (.ok { TickReport.skip .rangeUnavailable with bootstrapped }, v.setPhase .idle)
  | overflow {u : World} {head : Chain.Block} (known : w.node.latestBlock = .ok head) (asked : w.Within [.phase] u)
      (full : HeightRange.after? w.store.lastIndexedHeight head.height = none) :
      Ends setup w (.error .heightOverflow, u)
  | climbed {u v : World} {bootstrapped : Nat} {head : Chain.Block} {range : HeightRange}
      (known : w.node.latestBlock = .ok head) (asked : w.Within [.phase] u)
      (booted : (bootstrap setup).run u = (bootstrapped, v))
      (next : HeightRange.after? w.store.lastIndexedHeight head.height = some range) :
      Ends setup w (.ok { ((climb setup range.count range.next).run v).1 with bootstrapped },
        ((climb setup range.count range.next).run v).2.setPhase .idle)

theorem run_ends (setup : Setup) (w : World) : Ends setup w ((run setup).run.run w) := by
  unfold run
  rw [Attempt.run_bind_of_ok (show (get : Course World).run.run w = (.ok w, w) from rfl)]
  cases hr : w.node.reachable with
  | false => exact .offline hr
  | true =>
    simp only [Bool.not_true, Bool.false_eq_true, if_false]
    rw [Attempt.run_bind_of_ok (show (modify (World.setPhase .syncing) : Course Unit).run.run w =
      (.ok (), w.setPhase .syncing) from rfl)]
    have cases := bounds_cases (w.setPhase .syncing)
    have asked := (World.Within.setPhase .syncing w).trans (Only.bounds (w.setPhase .syncing))
    rcases hb : bounds.run.run (w.setPhase .syncing) with ⟨found, u⟩
    rcases hw : (bootstrap setup).run u with ⟨bootstrapped, v⟩
    have bound : (ExceptT.lift bounds.run : Course _).run.run (w.setPhase .syncing) = (.ok found, u) := by
      rw [show (ExceptT.lift bounds.run : Course _).run.run (w.setPhase .syncing) = _ from
        Attempt.run_lift bounds.run (w.setPhase .syncing), hb]
    have booted : (liftM (bootstrap setup) : Course Nat).run.run u = (.ok bootstrapped, v) := by
      rw [show (liftM (bootstrap setup) : Course Nat).run.run u = _ from Attempt.run_lift _ _, hw]
    rw [Attempt.run_bind_of_ok bound]
    rw [hb] at cases asked
    rcases cases with ⟨⟨e, rfl⟩, wrong⟩ | ⟨head, known, rfl⟩
    · rw [Attempt.run_bind_of_ok booted]
      exact .unbounded wrong asked hw
    · cases ha : HeightRange.after? w.store.lastIndexedHeight head.height with
      | none =>
        have same : HeightRange.after? (w.setPhase .syncing).store.lastIndexedHeight head.height = none := ha
        simp only [same]
        exact .overflow known asked ha
      | some range =>
        have same : HeightRange.after? (w.setPhase .syncing).store.lastIndexedHeight head.height = some range := ha
        simp only [same]
        rw [Attempt.run_bind_of_ok booted]
        exact .climbed known asked hw ha

/-- Before it climbs a tick changes its phase and what indexing the well-known accounts changes. -/
theorem bootstrap_within {setup : Setup} {w u v : World} {bootstrapped : Nat} (asked : w.Within [.phase] u)
    (booted : (bootstrap setup).run u = (bootstrapped, v)) : w.Within (.phase :: Only.effects) v := by
  have step := Only.bootstrap setup u
  rw [booted] at step
  exact (asked.mono (by decide)).trans (step.mono (by decide))

end Tick

/-! ### For small chains -/

def Chain.Block.bare (id : String) (height : UInt64) (collections : List String) : Chain.Block :=
  ⟨id, "", height, .epoch, collections.map fun c => ⟨c, []⟩, [], []⟩

def Chain.Transaction.bare (id : String) : Chain.Transaction :=
  ⟨id, "", [], "", 0, ⟨"0x01", 0, 0⟩, "0x01", [], [], []⟩

def Setup.bare : Setup where
  config := .default
  classifier := ⟨.empty, .empty⟩
  parse _ := .failed ""
  scanStorage := some StorageScan.run

theorem Setup.bare_scans : Tick.ScansStorageOnly bare := Tick.scansStorageOnly_of_own rfl

end ChainIndex
