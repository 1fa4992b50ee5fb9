import ChainIndex.Proofs.Climb

/-!
# No height is skipped or processed twice

The blocks on record have the heights `0, 1, …` without a gap and without a double. A tick begins
with the first height that is missing, because the greatest height on record is one less than the
number of blocks, and every height that succeeds adds exactly its own block. So the heights that a
tick reports are the ones by which the index grew.
-/

set_option autoImplicit false

namespace ChainIndex

/-- The blocks have the heights from zero on up to their number, each once. -/
def Store.Gapless (s : Store) : Prop :=
  (s.blocks.values.map (·.height.toNat)).Perm (List.range s.blocks.size)

/-- The blocks are without a gap, each stands under an id of its height, and a height follows each. -/
structure Store.Grounded (heightOf : String → UInt64) (s : Store) : Prop where
  gapless : s.Gapless
  height : ∀ id b, s.blocks.get? id = some b → b.height = heightOf id
  low : ∀ id b, s.blocks.get? id = some b → b.height.toNat + 1 < UInt64.size

/-- A node and outages that a tick can work with: no block id is used for two heights, and every
height leaves room for the next one. -/
structure World.Fit (heightOf : String → UInt64) (w : World) : Prop where
  made : w.node.Made
  height : ∀ h b, w.node.blocks.get? h = some b → heightOf b.id = h
  low : ∀ h b, w.node.blocks.get? h = some b → h.toNat + 1 < UInt64.size
  honest : w.Honest

/-! ### The greatest height -/

namespace Store

theorem max_cases (a b : UInt64) :
    (max a b = a ∨ max a b = b) ∧ a.toNat ≤ (max a b).toNat ∧ b.toNat ≤ (max a b).toNat := by
  have eq : max a b = if a ≤ b then b else a := rfl
  rw [eq]
  split
  · next h => exact ⟨.inr rfl, UInt64.le_iff_toNat_le.mp h, Nat.le_refl _⟩
  · next h =>
    rw [UInt64.le_iff_toNat_le] at h
    exact ⟨.inl rfl, Nat.le_refl _, by omega⟩

theorem foldl_greatest (bs : List Indexed.Block) (g : UInt64) :
    ∃ m, bs.foldl (fun greatest b => some (max (greatest.getD b.height) b.height)) (some g) = some m ∧
      (m = g ∨ ∃ b ∈ bs, b.height = m) ∧ g.toNat ≤ m.toNat ∧ ∀ b ∈ bs, b.height.toNat ≤ m.toNat := by
  induction bs generalizing g with
  | nil => exact ⟨g, rfl, .inl rfl, Nat.le_refl _, by simp⟩
  | cons b bs ih =>
    obtain ⟨m, hm, origin, le, all⟩ := ih (max g b.height)
    obtain ⟨either, left, right⟩ := max_cases g b.height
    refine ⟨m, hm, ?_, Nat.le_trans left le, ?_⟩
    · rcases origin with rfl | ⟨b', hb', rfl⟩
      · rcases either with h | h
        · exact .inl h
        · exact .inr ⟨b, List.mem_cons_self, h.symm⟩
      · exact .inr ⟨b', List.mem_cons_of_mem _ hb', rfl⟩
    · intro b' hb'
      rcases List.mem_cons.mp hb' with rfl | hb'
      · exact Nat.le_trans right le
      · exact all b' hb'

/-- The greatest height of some blocks is the height of one of them, and none is higher. -/
theorem greatestHeight?_cases (bs : List Indexed.Block) :
    bs = [] ∧ greatestHeight? bs = none ∨
      ∃ b ∈ bs, greatestHeight? bs = some b.height ∧ ∀ b' ∈ bs, b'.height.toNat ≤ b.height.toNat := by
  cases bs with
  | nil => exact .inl ⟨rfl, rfl⟩
  | cons b bs =>
    right
    obtain ⟨m, hm, origin, le, all⟩ := foldl_greatest bs (max b.height b.height)
    obtain ⟨either, -, -⟩ := max_cases b.height b.height
    have first : max b.height b.height = b.height := either.elim id id
    rw [first] at hm origin le
    have eq : greatestHeight? (b :: bs) = some m := by
      rw [← hm, ← first]
      rfl
    have among : ∃ b' ∈ b :: bs, b'.height = m := by
      rcases origin with rfl | ⟨b', hb', h⟩
      · exact ⟨b, List.mem_cons_self, rfl⟩
      · exact ⟨b', List.mem_cons_of_mem _ hb', h⟩
    obtain ⟨b', hb', rfl⟩ := among
    refine ⟨b', hb', eq, fun c hc => ?_⟩
    rcases List.mem_cons.mp hc with rfl | hc
    · exact le
    · exact all c hc

/-- A tick begins at height zero if no block is stored, or else behind the highest stored block, if that has
not the greatest height of all. -/
theorem after?_cases (s : Store) (latest : UInt64) :
    (∀ id r, s.blocks.get? id ≠ some r) ∧ HeightRange.after? s.lastIndexedHeight latest = some ⟨0, latest⟩ ∨
      ∃ id r, s.blocks.get? id = some r ∧
        (∀ id' r', s.blocks.get? id' = some r' → r'.height.toNat ≤ r.height.toNat) ∧
        (r.height.toNat + 1 < UInt64.size ∧
            HeightRange.after? s.lastIndexedHeight latest = some ⟨r.height + 1, latest⟩ ∨
          r.height.toNat + 1 = UInt64.size ∧ HeightRange.after? s.lastIndexedHeight latest = none) := by
  unfold lastIndexedHeight
  rcases greatestHeight?_cases s.blocks.values with ⟨none, eq⟩ | ⟨r, hr, eq, all⟩
  · rw [eq]
    refine .inl ⟨fun id r hr => ?_, rfl⟩
    have stored := (s.blocks.mem_values_iff r).mpr ⟨id, hr⟩
    rw [none] at stored
    cases stored
  · obtain ⟨id, hid⟩ := (s.blocks.mem_values_iff r).mp hr
    refine .inr ⟨id, r, hid, fun id' r' hr' => all r' ((s.blocks.mem_values_iff r').mpr ⟨id', hr'⟩), ?_⟩
    have word := r.height.toNat_lt_size
    simp only [eq, HeightRange.after?, HeightRange.succ?]
    by_cases room : r.height.toNat + 1 < UInt64.size
    · rw [if_pos room]
      exact .inl ⟨room, rfl⟩
    · rw [if_neg room]
      exact .inr ⟨by omega, rfl⟩

/-! ### Blocks without a gap -/

theorem toNat_succ {height : UInt64} (room : height.toNat + 1 < UInt64.size) :
    (height + 1).toNat = height.toNat + 1 := by
  rw [UInt64.toNat_add]
  exact Nat.mod_eq_of_lt room

variable {heightOf : String → UInt64} {s t : Store}

theorem Gapless.mem_iff (h : s.Gapless) (n : Nat) :
    (∃ id b, s.blocks.get? id = some b ∧ b.height.toNat = n) ↔ n < s.blocks.size := by
  rw [← List.mem_range, ← List.Perm.mem_iff h, List.mem_map]
  constructor
  · rintro ⟨id, b, hb, rfl⟩
    exact ⟨b, (s.blocks.mem_values_iff b).mpr ⟨id, hb⟩, rfl⟩
  · rintro ⟨b, hb, rfl⟩
    obtain ⟨id, hid⟩ := (s.blocks.mem_values_iff b).mp hb
    exact ⟨id, b, hid, rfl⟩

theorem gapless_of_empty (h : s.blocks = .empty) : s.Gapless := by
  rw [Gapless, h]
  exact .refl _

theorem Grounded.of_empty (h : s.blocks = .empty) : s.Grounded heightOf where
  gapless := gapless_of_empty h
  height := by simp [h]
  low := by simp [h]

theorem Grounded.of_blocks (h : s.Grounded heightOf) (blocks : t.blocks = s.blocks) : t.Grounded heightOf where
  gapless := by
    rw [Gapless, blocks]
    exact h.gapless
  height := by
    rw [blocks]
    exact h.height
  low := by
    rw [blocks]
    exact h.low

theorem Grounded.insert (h : s.Grounded heightOf) {b : Chain.Block} (new : s.blocks.get? b.id = none)
    (height : heightOf b.id = b.height) (next : b.height.toNat = s.blocks.size)
    (low : b.height.toNat + 1 < UInt64.size)
    (blocks : t.blocks = s.blocks.insert b.id (Indexed.Block.ofChain b)) :
    t.Grounded heightOf ∧ t.blocks.size = s.blocks.size + 1 := by
  have size : t.blocks.size = s.blocks.size + 1 := by
    rw [blocks, s.blocks.size_insert_of_none _ new]
  have look : ∀ id b', t.blocks.get? id = some b' →
      (id = b.id ∧ b' = Indexed.Block.ofChain b) ∨ s.blocks.get? id = some b' := by
    intro id b' hb'
    rw [blocks, Table.get?_insert] at hb'
    split at hb'
    · next same => exact .inl ⟨same, (Option.some.inj hb').symm⟩
    · exact .inr hb'
  refine ⟨⟨?_, ?_, ?_⟩, size⟩
  · have perm := (s.blocks.values_insert_perm (Indexed.Block.ofChain b) new).map (·.height.toNat)
    rw [Gapless, size, blocks, List.range_succ, ← next]
    exact perm.trans (((h.gapless.trans (by rw [next])).cons _).trans (List.perm_append_singleton _ _).symm)
  · intro id b' hb'
    rcases look id b' hb' with ⟨rfl, rfl⟩ | hb'
    · exact height.symm
    · exact h.height id b' hb'
  · intro id b' hb'
    rcases look id b' hb' with ⟨rfl, rfl⟩ | hb'
    · exact low
    · exact h.low id b' hb'

/-- A tick over blocks without a gap begins with the first missing height. -/
theorem Grounded.after? (h : s.Grounded heightOf) (latest : UInt64) :
    ∃ range, HeightRange.after? s.lastIndexedHeight latest = some range ∧
      range.next.toNat = s.blocks.size ∧ range.latest = latest := by
  rcases s.after?_cases latest with ⟨none, eq⟩ | ⟨id, b, hid, all, ⟨room, eq⟩ | ⟨full, -⟩⟩
  · refine ⟨_, eq, ?_, rfl⟩
    -- If there were records, one of them would have the height zero.
    by_contra ne
    obtain ⟨id, b, hb, -⟩ := (h.gapless.mem_iff 0).mpr (Nat.pos_of_ne_zero fun zero => ne zero.symm)
    exact none id b hb
  · have below : b.height.toNat < s.blocks.size := (h.gapless.mem_iff _).mp ⟨id, b, hid, rfl⟩
    -- The record of the height before the number of records is not above the greatest one.
    obtain ⟨id', b', hb', top⟩ := (h.gapless.mem_iff (s.blocks.size - 1)).mpr (by omega)
    have le := all id' b' hb'
    refine ⟨_, eq, ?_, rfl⟩
    show (b.height + 1).toNat = _
    rw [toNat_succ room]
    omega
  · have low := h.low id b hid
    omega

end Store

/-! ### Ticks -/

namespace Tick
variable {setup : Setup} {heightOf : String → UInt64}

theorem fit_of_within {parts : List Part} {w w' : World} (h : w.Within parts w') (node : .node ∉ parts)
    (fit : w.Fit heightOf) : w'.Fit heightOf where
  made := h.node node ▸ fit.made
  height := h.node node ▸ fit.height
  low := h.node node ▸ fit.low
  honest := h.honest fit.honest

/-- Processing the first missing height adds it, or fails and leaves the blocks as they are. -/
theorem processHeight_grounded (hs : ScansStorageOnly setup) {w : World} (fit : w.Fit heightOf)
    (h : w.store.Grounded heightOf) {height : UInt64} (next : height.toNat = w.store.blocks.size) :
    ∃ r w', (processHeight setup height).run.run w = (r, w') ∧ w'.Fit heightOf ∧ w'.node = w.node ∧
      w'.store.Grounded heightOf ∧
      ((∃ e, r = .error e) ∧ w'.store.blocks.size = w.store.blocks.size ∨
        (∃ counts, r = .ok counts) ∧ w'.store.blocks.size = w.store.blocks.size + 1) := by
  obtain ⟨r, w', run, within, cases⟩ := processHeight_cases hs height w fit.honest
  refine ⟨r, w', run, fit_of_within within (by decide) fit, within.node (by decide), ?_⟩
  rcases cases with ⟨e, rfl, blocks, -⟩ | ⟨counts, b, rfl, hb, blocks⟩
  · exact ⟨h.of_blocks blocks, Or.inl ⟨⟨e, rfl⟩, by rw [blocks]⟩⟩
  · have at_ := Chain.Node.block_eq_ok hb
    rcases Recording.recorded_cases w.store.blocks b with ⟨old, hold, -⟩ | ⟨new, eq⟩
    · -- A record of this block would be a record of this height, which is missing.
      have same : old.height = height := (h.height _ _ hold).trans (fit.height _ _ at_)
      have below := (h.gapless.mem_iff height.toNat).mp ⟨b.id, old, hold, by rw [same]⟩
      omega
    · have own : b.height = height := fit.made.keyed.blocks _ _ at_
      obtain ⟨grounded, size⟩ := h.insert new ((fit.height _ _ at_).trans own.symm) (own ▸ next)
        (own ▸ fit.low _ _ at_) (blocks.trans eq)
      exact ⟨grounded, Or.inr ⟨⟨counts, rfl⟩, size⟩⟩

/-- A climb from the first missing height reports the heights by which it extends the blocks. -/
theorem climb_grounded (hs : ScansStorageOnly setup) (n : Nat) {w : World} (fit : w.Fit heightOf)
    (h : w.store.Grounded heightOf) {height : UInt64} (next : height.toNat = w.store.blocks.size)
    (room : height.toNat + n < UInt64.size) :
    ∃ report w', (climb setup n height).run w = (report, w') ∧ w'.store.Grounded heightOf ∧
      report.skipped = none ∧ w.store.blocks.size ≤ w'.store.blocks.size ∧
      report.processed.map (·.toNat) =
        List.range' w.store.blocks.size (w'.store.blocks.size - w.store.blocks.size) ∧
      (report.failedHeight = none → w'.store.blocks.size = w.store.blocks.size + n) ∧
      ∀ failed, report.failedHeight = some failed → failed.toNat = w'.store.blocks.size := by
  induction n generalizing w height with
  | zero => exact ⟨_, w, rfl, h, rfl, Nat.le_refl _, by simp [TickReport.idle], fun _ => rfl, by simp [TickReport.idle]⟩
  | succ n ih =>
    obtain ⟨r, v, run, fitV, -, groundedV, ⟨⟨e, rfl⟩, size⟩ | ⟨⟨counts, rfl⟩, size⟩⟩ :=
      processHeight_grounded hs fit h next
    · refine ⟨_, v, climb_of_error run n, groundedV, rfl, by omega, ?_, ?_, ?_⟩
      · simp [TickReport.idle, size]
      · intro hf
        cases hf
      · intro failed hf
        cases hf
        omega
    · have succ := Store.toNat_succ (by omega : height.toNat + 1 < UInt64.size)
      obtain ⟨report, w', rest, grounded, skipped, le, processed, complete, failed⟩ :=
        ih fitV groundedV (succ.trans (by omega)) (by omega)
      refine ⟨{ report with processed := height :: report.processed, items := counts.add report.items }, w',
        by rw [climb_of_ok run n, rest], grounded, skipped, by omega, ?_, ?_, failed⟩
      · rw [List.map_cons, processed, next, size,
          show w'.store.blocks.size - w.store.blocks.size = w'.store.blocks.size - (w.store.blocks.size + 1) + 1 by omega,
          List.range'_succ]
      · intro hf
        rw [complete hf, size]
        omega

theorem run_grounded (hs : ScansStorageOnly setup) {w : World} (fit : w.Fit heightOf)
    (h : w.store.Grounded heightOf) :
    ∃ report w', (run setup).run.run w = (.ok report, w') ∧ w'.store.Grounded heightOf ∧
      w.store.blocks.size ≤ w'.store.blocks.size ∧
      report.processed.map (·.toNat) =
        List.range' w.store.blocks.size (w'.store.blocks.size - w.store.blocks.size) ∧
      (∀ failed, report.failedHeight = some failed → failed.toNat = w'.store.blocks.size) ∧
      (report.skipped = none → report.failedHeight = none → ∃ head, w.node.headHeight? = some head ∧
        w'.store.blocks.size = max w.store.blocks.size (head.toNat + 1)) := by
  have idle (same : Nat) : ([] : List UInt64).map (·.toNat) = List.range' same (same - same) := by
    rw [Nat.sub_self]
    rfl
  have ends := run_ends setup w
  generalize (run setup).run.run w = ended at ends
  cases ends with
  | offline off =>
    refine ⟨_, _, rfl, h.of_blocks rfl, Nat.le_refl _, idle _, ?_, ?_⟩
    · intro failed hf
      cases hf
    · intro hskip
      cases hskip
  | @unbounded u v bootstrapped wrong asked booted =>
    have blocks : v.store.blocks = w.store.blocks := (bootstrap_within asked booted).shelf .block (by decide)
    have size : v.store.blocks.size = w.store.blocks.size := congrArg Table.size blocks
    refine ⟨_, _, rfl, h.of_blocks blocks, Nat.le_of_eq size.symm, ?_, ?_, ?_⟩
    · rw [World.setPhase, size]
      exact idle _
    · intro failed hf
      cases hf
    · intro hskip
      cases hskip
  | overflow known asked none =>
    obtain ⟨range, some_, -⟩ := h.after? _
    cases none.symm.trans some_
  | @climbed u v bootstrapped b range known asked booted some_ =>
    have before := bootstrap_within asked booted
    have fitB := fit_of_within before (by decide) fit
    have blocks : v.store.blocks = w.store.blocks := before.shelf .block (by decide)
    obtain ⟨head, hhead, at_⟩ := Chain.Node.latestBlock_eq_ok known
    have own : b.height = head := fit.made.keyed.blocks _ _ at_
    have low := fit.low _ _ at_
    obtain ⟨range', hrange, next, rlatest⟩ := h.after? b.height
    cases some_.symm.trans hrange
    have start : range.next.toNat = v.store.blocks.size := by rw [next, blocks]
    have count : range.count = head.toNat + 1 - range.next.toNat := by rw [HeightRange.count, rlatest, own]
    have word := range.next.toNat_lt_size
    obtain ⟨report, w', rest, grounded, -, le, processed, complete, failed⟩ :=
      climb_grounded hs range.count fitB (h.of_blocks blocks) start (by omega)
    rw [blocks] at le processed complete
    rw [rest]
    refine ⟨_, _, rfl, grounded.of_blocks rfl, le, processed, failed, fun _ hf => ⟨head, hhead, ?_⟩⟩
    show w'.store.blocks.size = _
    rw [complete hf, count, next]
    omega

end Tick

/-! ### Runs of ticks -/

/-- Ticks of an indexer whose blocks were empty at first, with their reports. Between two ticks anything
may change but the index of blocks: the node, the outages, the watchers, the other indexes. -/
inductive Ticks (setup : Setup) (heightOf : String → UInt64) : World → List TickReport → Prop where
  | start {w : World} (empty : w.store.blocks = .empty) : Ticks setup heightOf w []
  | between {v w : World} {reports : List TickReport} (ticks : Ticks setup heightOf v reports)
      (blocks : w.store.blocks = v.store.blocks) : Ticks setup heightOf w reports
  | tick {v w : World} {reports : List TickReport} {report : TickReport} (ticks : Ticks setup heightOf v reports)
      (fit : v.Fit heightOf) (run : (Tick.run setup).run.run v = (.ok report, w)) :
      Ticks setup heightOf w (reports ++ [report])

namespace Ticks
variable {setup : Setup} {heightOf : String → UInt64} {w : World} {reports : List TickReport}

/-- After any ticks the blocks are without a gap, and the heights processed so far are theirs. -/
theorem grounded (hs : Tick.ScansStorageOnly setup) (ticks : Ticks setup heightOf w reports) :
    w.store.Grounded heightOf ∧
      (reports.flatMap (·.processed)).map (·.toNat) = List.range w.store.blocks.size := by
  induction ticks with
  | start empty =>
    refine ⟨.of_empty empty, ?_⟩
    rw [empty]
    rfl
  | between _ blocks ih => exact ⟨ih.1.of_blocks blocks, by rw [ih.2, blocks]⟩
  | tick _ fit run ih =>
    obtain ⟨report, w', hrun, grounded, le, processed, -, -⟩ := Tick.run_grounded hs fit ih.1
    cases hrun.symm.trans run
    refine ⟨grounded, ?_⟩
    rename_i v w _ _ _
    have join := @List.range'_append_1 0 v.store.blocks.size (w.store.blocks.size - v.store.blocks.size)
    rw [Nat.zero_add, Nat.add_sub_cancel' le] at join
    rw [List.flatMap_append, List.map_append, ih.2, List.flatMap_singleton, processed, List.range_eq_range',
      List.range_eq_range', join]

/-- A tick that follows any ticks ends with a report. The blocks are then without a gap and without a
double, the tick processed exactly the heights by which they grew, a height that failed is the first
one missing, and otherwise the blocks reach the head if they did not reach further. No height was
processed by two of the ticks. -/
theorem processed_once (hs : Tick.ScansStorageOnly setup) (ticks : Ticks setup heightOf w reports)
    (fit : w.Fit heightOf) :
    ∃ report w', (Tick.run setup).run.run w = (.ok report, w') ∧
      w'.store.Gapless ∧
      w.store.blocks.size ≤ w'.store.blocks.size ∧
      report.processed.map (·.toNat) =
        List.range' w.store.blocks.size (w'.store.blocks.size - w.store.blocks.size) ∧
      (∀ failed, report.failedHeight = some failed → failed.toNat = w'.store.blocks.size) ∧
      (report.skipped = none → report.failedHeight = none → ∃ head, w.node.headHeight? = some head ∧
        w'.store.blocks.size = max w.store.blocks.size (head.toNat + 1)) ∧
      ((reports ++ [report]).flatMap (·.processed)).Nodup := by
  obtain ⟨report, w', run, grounded, le, processed, failed, reached⟩ :=
    Tick.run_grounded hs fit (ticks.grounded hs).1
  refine ⟨report, w', run, grounded.gapless, le, processed, failed, reached, ?_⟩
  have all := ((ticks.tick fit run).grounded hs).2
  have nodup := List.nodup_range (n := w'.store.blocks.size)
  rw [← all] at nodup
  exact List.Pairwise.of_map _ (fun a b ne same => ne (congrArg _ same)) nodup

/-! ### Two ticks -/

def oneBlock : World :=
  .start (Chain.Node.empty.putBlock (.bare "a" 0 [])) .empty .epoch

/-- The world after a tick and two more blocks, of which the last one cannot be written. -/
def threeBlocks : World :=
  { ((Tick.run Setup.bare).run.run oneBlock).2 with
    node := (oneBlock.node.putBlock (.bare "b" 1 [])).putBlock (.bare "c" 2 [])
    outages := ⟨fun _ call => if call = .create .block "c" then some (.storage "full") else none, fun _ => none⟩ }

def bareHeight (id : String) : UInt64 := if id = "a" then 0 else if id = "b" then 1 else 2

theorem fit_oneBlock : oneBlock.Fit bareHeight where
  made := .change .empty (.block (.bare "a" 0 []))
  height h b hb := (by decide : ∀ e ∈ oneBlock.node.blocks.entries, bareHeight e.2.id = e.1) (h, b)
    ((Table.mem_entries_iff _ h b).mpr hb)
  low h b hb := (by decide : ∀ e ∈ oneBlock.node.blocks.entries, e.1.toNat + 1 < UInt64.size) (h, b)
    ((Table.mem_entries_iff _ h b).mpr hb)
  honest _ _ _ _ := nofun

theorem fit_threeBlocks : threeBlocks.Fit bareHeight where
  made := (fit_oneBlock.made.change (.block (.bare "b" 1 []))).change (.block (.bare "c" 2 []))
  height h b hb := (by decide : ∀ e ∈ threeBlocks.node.blocks.entries, bareHeight e.2.id = e.1) (h, b)
    ((Table.mem_entries_iff _ h b).mpr hb)
  low h b hb := (by decide : ∀ e ∈ threeBlocks.node.blocks.entries, e.1.toNat + 1 < UInt64.size) (h, b)
    ((Table.mem_entries_iff _ h b).mpr hb)
  honest n kind id what := by
    change (if Call.create kind id = .create .block "c" then some (Error.storage "full") else none) ≠ _
    split <;> nofun

/-- The heights that a tick processes from a world on. -/
def processedFrom (w : World) : List UInt64 :=
  match ((Tick.run Setup.bare).run.run w).1 with
  | .ok report => report.processed
  | .error _ => []

/-- Of three blocks the first tick processes one, and the second one the next. -/
theorem processed_once_threeBlocks :
    ∃ first second w₁ w₂, (Tick.run Setup.bare).run.run oneBlock = (.ok first, w₁) ∧
      (Tick.run Setup.bare).run.run threeBlocks = (.ok second, w₂) ∧
      first.processed = [0] ∧ second.processed = [1] ∧ w₂.store.Gapless ∧
      (([first] ++ [second]).flatMap (·.processed)).Nodup := by
  have start : Ticks Setup.bare bareHeight oneBlock [] := .start rfl
  obtain ⟨first, w₁, run₁, -⟩ := start.processed_once Setup.bare_scans fit_oneBlock
  have blocks : threeBlocks.store.blocks = w₁.store.blocks := by
    unfold threeBlocks
    rw [run₁]
  have next : Ticks Setup.bare bareHeight threeBlocks [first] := (start.tick fit_oneBlock run₁).between blocks
  obtain ⟨second, w₂, run₂, gapless, -, -, -, -, once⟩ := next.processed_once Setup.bare_scans fit_threeBlocks
  have one : processedFrom oneBlock = [0] := by decide +kernel
  have two : processedFrom threeBlocks = [1] := by decide +kernel
  rw [processedFrom, run₁] at one
  rw [processedFrom, run₂] at two
  exact ⟨first, second, w₁, w₂, run₁, run₂, one, two, gapless, once⟩

end Ticks

end ChainIndex
