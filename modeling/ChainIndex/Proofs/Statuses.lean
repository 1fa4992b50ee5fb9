import ChainIndex.Proofs.Watching

/-!
# The statuses on record are the latest ones

Ticks, changes of the chain and polls of watchers come in any order, and a height that is being
processed may be interrupted between its pieces, and between its fetch and its pieces. Once every
watcher waits, the transactions of the heights that were processed show their latest statuses.
-/

set_option autoImplicit false

namespace ChainIndex.Watching

/-- How far an indexer and its chain have come. -/
structure Progress where
  world : World
  /-- The data of the height that is being processed, and the pieces of it that are left. -/
  underway : Option (BlockData × List Piece)
  /-- The data of the heights that were processed. -/
  processed : List BlockData

/-- One step of an indexer or of its chain, without failures. A tick is made as a whole or piece by piece:
the well-known accounts, and then each height. A height may have been fetched lookup by lookup, so nothing
is said of its data but that its transactions have statuses. -/
inductive Step (setup : Setup) : Progress → Progress → Prop
  | change {s : Progress} {c : Chain.Change} (forward : c.Forward s.world.node) :
      Step setup s { s with world := { s.world with node := c.apply s.world.node } }
  | poll {s : Progress} (id : String) : Step setup s { s with world := ((Watch.step id).run s.world).2 }
  | tick {w w' : World} {processed : List BlockData} {report : TickReport}
      (run : (Tick.run setup).run.run w = (.ok report, w')) :
      Step setup ⟨w, none, processed⟩
        ⟨w', none, processed ++ report.processed.filterMap fun h => (w.node.dataAt h).toOption⟩
  | bootstrap {w : World} {processed : List BlockData} :
      Step setup ⟨w, none, processed⟩ ⟨((Tick.bootstrap setup).run w).2, none, processed⟩
  | fetch {w : World} {processed : List BlockData} {data : BlockData}
      (known : ∀ t ∈ data.transactions, (w.node.channels.get? t.transaction.id).isSome) :
      Step setup ⟨w, none, processed⟩ ⟨w, some (data, data.pieces setup true), processed⟩
  | piece {w : World} {data : BlockData} {p : Piece} {left : List Piece} {processed : List BlockData} :
      Step setup ⟨w, some (data, p :: left), processed⟩ ⟨p.apply setup w, some (data, left), processed⟩
  | done {w : World} {data : BlockData} {processed : List BlockData} :
      Step setup ⟨w, some (data, []), processed⟩ ⟨w, none, data :: processed⟩

/-- What steps lead to from empty indexes, for a chain that is alive. -/
inductive Reached (setup : Setup) : Progress → Prop
  | start {node : Chain.Node} (made : node.Made) (alive : node.closed = false) (clock : Timestamp) :
      Reached setup ⟨.start node .empty clock, none, []⟩
  | step {s t : Progress} (reached : Reached setup s) (step : Step setup s t) : Reached setup t

/-- A watcher that has subscribed and has no change to see. -/
def waits (node : Chain.Node) : Stage → Bool
  | .spawned => false
  | .subscribed sub _ => (node.poll sub).1 == .pending

/-- Every watcher has subscribed and has no change to see. -/
def Settled (w : World) : Prop := ∀ id stage, w.watchers.get? id = some stage → waits w.node stage = true

/-- What holds of every progress that is reached. -/
structure Sound (s : Progress) : Prop where
  calm : Calm s.world
  processed : ∀ data ∈ s.processed, ∀ t ∈ data.transactions, Followed s.world t.transaction.id
  pending : ∀ data left, s.underway = some (data, left) → Pending s.world left
  started : ∀ data left, s.underway = some (data, left) → ∀ t ∈ data.transactions,
    Followed s.world t.transaction.id ∨ .spawn t.transaction.id ∈ left

variable {setup : Setup}

/-- A step of the world alone keeps a sound progress sound. -/
theorem Sound.advance {s : Progress} (sound : Sound s) {w : World} (h : Advance s.world w) :
    Sound { s with world := w } where
  calm := h.calm sound.calm
  processed data hd t ht := h.followed sound.calm _ (sound.processed data hd t ht)
  pending data left hl := (sound.pending data left hl).advance h
  started data left hl t ht := by
    rcases sound.started data left hl t ht with followed | later
    · exact Or.inl (h.followed sound.calm _ followed)
    · exact Or.inr later

theorem sound_start {node : Chain.Node} (made : node.Made) (alive : node.closed = false) (clock : Timestamp) :
    Sound ⟨.start node .empty clock, none, []⟩ where
  calm := ⟨made, alive, rfl, fun id _ h => nomatch (Table.get?_empty id).symm.trans h⟩
  processed _ hd := nomatch hd
  pending _ _ h := nomatch h
  started _ _ h := nomatch h

theorem Step.sound (hs : Tick.ScansStorageOnly setup) (watches : setup.config.watches = true) {s t : Progress}
    (step : Step setup s t) (sound : Sound s) : Sound t := by
  cases step with
  | change forward => exact sound.advance (advance_change forward)
  | poll id => exact sound.advance (advance_poll sound.calm id)
  | tick run =>
    obtain ⟨h, here⟩ := run_follows hs watches sound.calm run
    refine ⟨h.calm sound.calm, fun data hd t ht => ?_, fun _ _ => nofun, fun _ _ => nofun⟩
    rcases List.mem_append.mp hd with hd | hd
    · exact h.followed sound.calm _ (sound.processed data hd t ht)
    · obtain ⟨height, processed, hdata⟩ := List.mem_filterMap.mp hd
      refine here height processed data ?_ t ht
      revert hdata
      cases Chain.Node.dataAt _ height with
      | error e => exact nofun
      | ok data' =>
        intro same
        rw [Option.some.inj same]
  | @bootstrap w processed =>
    exact sound.advance (.of_within (Only.bootstrap setup w) (by decide) (by decide) (by decide))
  | fetch known =>
    refine ⟨sound.calm, sound.processed, fun data left hl => ?_, fun data left hl t ht => ?_⟩
    · cases hl
      exact pending_pieces watches known
    · cases hl
      exact Or.inr (spawn_mem_pieces watches ht)
  | piece =>
    obtain ⟨h, pending, here⟩ := advance_piece hs sound.calm (sound.pending _ _ rfl)
    refine ⟨h.calm sound.calm, fun data hd t ht => h.followed sound.calm _ (sound.processed data hd t ht),
      fun data left hl => ?_, fun data left hl t ht => ?_⟩
    · cases hl
      exact pending
    · cases hl
      rcases sound.started _ _ rfl t ht with followed | later
      · exact Or.inl (h.followed sound.calm _ followed)
      · rcases List.mem_cons.mp later with same | later
        · exact Or.inl (here _ same.symm)
        · exact Or.inr later
  | done =>
    refine ⟨sound.calm, fun data hd t ht => ?_, fun _ _ => nofun, fun _ _ => nofun⟩
    rcases List.mem_cons.mp hd with rfl | hd
    · rcases sound.started _ _ rfl t ht with followed | later
      · exact followed
      · cases later
    · exact sound.processed data hd t ht

/-- The pieces that are left of a height can be made without a break. -/
theorem Reached.pieces {w : World} {data : BlockData} {left : List Piece} {processed : List BlockData}
    (reached : Reached setup ⟨w, some (data, left), processed⟩) :
    Reached setup ⟨Piece.applyAll setup left w, some (data, []), processed⟩ := by
  induction left generalizing w with
  | nil => exact reached
  | cons p left ih => exact ih (reached.step .piece)

theorem Reached.sound (hs : Tick.ScansStorageOnly setup) (watches : setup.config.watches = true) {s : Progress}
    (reached : Reached setup s) : Sound s := by
  induction reached with
  | start made alive clock => exact sound_start made alive clock
  | step _ step ih => exact step.sound hs watches ih

/-- A followed transaction whose watcher waits, or that has none, shows its latest status. -/
theorem shown_of_followed {w : World} (settled : Settled w) {id : String} (followed : Followed w id) :
    ∃ r status, w.store.transactions.get? id = some r ∧ w.node.status id = .ok status ∧
      r.status = .ofChain status ∧ (status.status ≠ .sealed → w.watchers.contains id = true) := by
  obtain ⟨r, ch, hr, hch, tracks⟩ := followed
  have current : w.node.status id = .ok ch.status := by
    simp only [Chain.Node.status, hch, Option.map_some, Chain.Node.require]
  refine ⟨r, ch.status, hr, current, ?_⟩
  cases h : w.watchers.get? id with
  | none =>
    rw [h] at tracks
    obtain ⟨done, shown⟩ := tracks
    exact ⟨shown, fun live => absurd (beq_iff_eq.mp done) live⟩
  | some stage =>
    have quiet := settled id stage h
    rw [h] at tracks
    refine ⟨?_, fun _ => by rw [Table.contains, h]; rfl⟩
    rcases stage with _ | ⟨sub, breaks⟩
    · cases quiet
    · obtain ⟨-, rfl, seen⟩ := tracks
      -- Only a watcher that has seen the latest version has nothing to see.
      have latest : sub.seen = some ch.version := by
        by_cases news : sub.seen = some ch.version
        · exact news
        · simp [waits, Chain.Node.poll, hch, if_neg news] at quiet
      exact (seen _ latest).2 rfl

/-- Once every watcher has subscribed and has no change to see, every transaction of a processed height
is on record with the latest status of the chain, and has a watcher unless it is sealed. -/
theorem Reached.statuses_latest (hs : Tick.ScansStorageOnly setup) (watches : setup.config.watches = true)
    {s : Progress} (reached : Reached setup s) (settled : Settled s.world) :
    ∀ data ∈ s.processed, ∀ t ∈ data.transactions, ∃ r status,
      s.world.store.transactions.get? t.transaction.id = some r ∧
        s.world.node.status t.transaction.id = .ok status ∧ r.status = .ofChain status ∧
        (status.status ≠ .sealed → s.world.watchers.contains t.transaction.id = true) := by
  intro data hd t ht
  exact shown_of_followed settled ((reached.sound hs watches).processed data hd t ht)

/-! ### A transaction that is executed while it is written -/

def transfer (status : ExecutionStatus) : FetchedTransaction where
  transaction := .bare "t"
  status := ⟨status, 0, "", []⟩

/-- A height with that transaction, as it was fetched when the transaction was pending. -/
def transferData : BlockData := ⟨.bare "a" 0 ["c"], [⟨"c", ["t"]⟩], [transfer .pending], []⟩

/-- A chain with the pending transaction. -/
def transferNode : Chain.Node :=
  Chain.Node.empty.putTransaction (transfer .pending).transaction (transfer .pending).status

/-- The world in which the transaction was executed behind its fetch, was written as pending and got
its watcher. -/
def transferWritten : World :=
  Piece.applyAll .bare (transferData.pieces .bare true)
    { World.start transferNode .empty .epoch with
      node := transferNode.setStatus "t" (transfer .executed).status }

def transferPolled : World := ((Watch.step "t").run ((Watch.step "t").run transferWritten).2).2

theorem transfer_reached : Reached .bare ⟨transferPolled, none, [transferData]⟩ := by
  have start : Reached .bare ⟨.start transferNode .empty .epoch, none, []⟩ :=
    .start (.change .empty (.transaction _ _)) rfl .epoch
  have known : ∀ t ∈ transferData.transactions, (transferNode.channels.get? t.transaction.id).isSome := by decide
  have fetched := start.step (.fetch known)
  have forward : (Chain.Change.status "t" (transfer .executed).status).Forward transferNode := by
    intro ch hch done
    cases (show some _ = some ch from hch)
    cases done
  have written := (fetched.step (.change forward)).pieces
  exact ((written.step .done).step (.poll "t")).step (.poll "t")

/-- The record shows the status that was set between the fetch and the write. -/
theorem statuses_latest_transfer :
    Settled transferPolled ∧
      ∃ r status, transferPolled.store.transactions.get? "t" = some r ∧
        transferPolled.node.status "t" = .ok status ∧ r.status = .ofChain status ∧
        r.status.executionStatus = .executed ∧ transferPolled.watchers.contains "t" = true := by
  have settled : Settled transferPolled := by
    have all : ∀ e ∈ transferPolled.watchers.entries, waits transferPolled.node e.2 = true := by decide +kernel
    intro id stage h
    exact all (id, stage) ((Table.mem_entries_iff _ id stage).mpr h)
  obtain ⟨r, status, hr, hstatus, shown, watched⟩ := transfer_reached.statuses_latest Setup.bare_scans rfl settled
    transferData List.mem_cons_self (transfer .pending) List.mem_cons_self
  have executed : (transferPolled.node.status "t").toOption.map (·.status) = some .executed := by decide +kernel
  rw [show (transfer .pending).transaction.id = "t" from rfl] at hr hstatus watched
  rw [hstatus] at executed
  have now : status.status = .executed := Option.some.inj executed
  refine ⟨settled, r, status, hr, hstatus, shown, ?_, watched ?_⟩
  · rw [shown]
    exact now
  · rw [now]
    decide

end ChainIndex.Watching
