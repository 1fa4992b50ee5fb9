import ChainIndex.Proofs.Gapless

/-!
# Ranges of heights are exact

The range behind the last indexed height enumerates the heights that are still to be processed, in ascending order,
and tells whether there are any and how many. Words run out in two places only: no height follows the greatest one,
so no range begins behind it, and the number of all heights is not a word. A tick asks for the range but not for its
size, so it aborts behind a block of the greatest height only.
-/

set_option autoImplicit false

namespace ChainIndex

namespace HeightRange

/-- The greatest height of all. -/
def greatest : UInt64 := 18446744073709551615

/-- A height up to the head of the chain, behind the last indexed one if there is one. -/
def Unprocessed (lastIndexed : Option UInt64) (latest height : UInt64) : Prop :=
  height ≤ latest ∧ ∀ last ∈ lastIndexed, last < height

/-- A range has the unprocessed heights in ascending order, and knows whether there are any and how many; only the
number of all heights is not a word. -/
structure Exact (lastIndexed : Option UInt64) (latest : UInt64) (r : HeightRange) : Prop where
  ascending : r.heights.Pairwise (· < ·)
  mem_heights : ∀ height, height ∈ r.heights ↔ Unprocessed lastIndexed latest height
  isEmpty : r.isEmpty = true ↔ ∀ height, ¬ Unprocessed lastIndexed latest height
  size : r.size?.map UInt64.toNat = some r.heights.length ∨
    lastIndexed = none ∧ latest = greatest ∧ r.size? = none

variable {r : HeightRange} {lastIndexed : Option UInt64} {latest : UInt64}

/-- Only the greatest height is followed by none. -/
theorem eq_greatest_of_full {height : UInt64} (full : ¬ height.toNat + 1 < UInt64.size) : height = greatest := by
  have word := height.toNat_lt_size
  refine UInt64.toNat_inj.mp ?_
  rw [show greatest.toNat = UInt64.size - 1 from rfl]
  omega

/-! ### The heights of a range -/

theorem heights_eq (r : HeightRange) :
    r.heights = (List.range r.count).map fun i => r.next + UInt64.ofNat i := by
  rw [heights, firstHeights, Nat.min_self]

theorem length_heights (r : HeightRange) : r.heights.length = r.count := by
  rw [heights_eq, List.length_map, List.length_range]

/-- Counting up to the head stays within the words. -/
theorem toNat_height {i : Nat} (h : i < r.count) : (r.next + UInt64.ofNat i).toNat = r.next.toNat + i := by
  have head := r.latest.toNat_lt
  rw [count] at h
  have offset : (UInt64.ofNat i).toNat = i := UInt64.toNat_ofNat_of_lt' (show i < 2 ^ 64 by omega)
  rw [UInt64.toNat_add, offset]
  exact Nat.mod_eq_of_lt (by omega)

theorem mem_heights_iff (height : UInt64) : height ∈ r.heights ↔ r.next ≤ height ∧ height ≤ r.latest := by
  rw [heights_eq, List.mem_map, UInt64.le_iff_toNat_le, UInt64.le_iff_toNat_le]
  constructor
  · rintro ⟨i, hi, rfl⟩
    have below := List.mem_range.mp hi
    rw [toNat_height below]
    rw [count] at below
    omega
  · rintro ⟨from', upTo⟩
    have below : height.toNat - r.next.toNat < r.count := by
      rw [count]
      omega
    refine ⟨height.toNat - r.next.toNat, List.mem_range.mpr below, UInt64.toNat_inj.mp ?_⟩
    rw [toNat_height below]
    omega

theorem pairwise_heights (r : HeightRange) : r.heights.Pairwise (· < ·) := by
  rw [heights_eq, List.pairwise_map]
  refine List.pairwise_lt_range.imp_of_mem fun {i j} hi hj less => ?_
  rw [UInt64.lt_iff_toNat_lt, toNat_height (List.mem_range.mp hi), toNat_height (List.mem_range.mp hj)]
  omega

theorem isEmpty_iff (r : HeightRange) : r.isEmpty = true ↔ ∀ height, height ∉ r.heights := by
  rw [← List.eq_nil_iff_forall_not_mem, ← List.length_eq_zero_iff, length_heights, count, isEmpty, decide_eq_true_iff,
    UInt64.lt_iff_toNat_lt]
  omega

/-- The size is the number of heights, unless the range has all of them. -/
theorem size?_cases (r : HeightRange) :
    r.size?.map UInt64.toNat = some r.count ∨ r.next = 0 ∧ r.latest = greatest ∧ r.size? = none := by
  have head := r.latest.toNat_lt_size
  have start := r.next.toNat_lt_size
  rw [size?]
  split
  · next empty =>
    rw [isEmpty, decide_eq_true_iff, UInt64.lt_iff_toNat_lt] at empty
    refine .inl (congrArg some ?_)
    rw [count, UInt64.toNat_zero]
    omega
  · next filled =>
    rw [isEmpty, decide_eq_true_iff, UInt64.not_lt] at filled
    have distance := UInt64.toNat_sub_of_le _ _ filled
    rw [UInt64.le_iff_toNat_le] at filled
    rw [succ?, distance]
    split
    · next room =>
      refine .inl (congrArg some ?_)
      rw [count, Store.toNat_succ (by rw [distance]; exact room), distance]
      omega
    · next full =>
      refine .inr ⟨UInt64.toNat_inj.mp ?_, eq_greatest_of_full (by omega), rfl⟩
      rw [UInt64.toNat_zero]
      omega

/-! ### The range behind the last indexed height -/

/-- There is no range behind the greatest height; every other one ends at the head and begins behind the last indexed
height. -/
theorem after?_cases (lastIndexed : Option UInt64) (latest : UInt64) :
    lastIndexed = some greatest ∧ after? lastIndexed latest = none ∨
      lastIndexed ≠ some greatest ∧ ∃ next, after? lastIndexed latest = some ⟨next, latest⟩ ∧
        next.toNat = lastIndexed.elim 0 (·.toNat + 1) := by
  cases lastIndexed with
  | none => exact .inr ⟨nofun, 0, rfl, rfl⟩
  | some last =>
    rw [after?, succ?]
    split
    · next room =>
      refine .inr ⟨?_, last + 1, rfl, Store.toNat_succ room⟩
      rintro ⟨⟩
      exact absurd room (by decide)
    · next full => exact .inl ⟨congrArg some (eq_greatest_of_full full), rfl⟩

theorem le_iff_behind {next : UInt64} (h : next.toNat = lastIndexed.elim 0 (·.toNat + 1)) (height : UInt64) :
    next ≤ height ↔ ∀ last ∈ lastIndexed, last < height := by
  rw [UInt64.le_iff_toNat_le, h]
  cases lastIndexed with
  | none => simp
  | some last =>
    simp only [Option.elim_some, Option.mem_some_iff, forall_eq', UInt64.lt_iff_toNat_lt]
    exact Nat.succ_le_iff

theorem exact_of_next {next : UInt64} (h : next.toNat = lastIndexed.elim 0 (·.toNat + 1)) :
    Exact lastIndexed latest ⟨next, latest⟩ := by
  have members (height : UInt64) :
      height ∈ heights ⟨next, latest⟩ ↔ Unprocessed lastIndexed latest height := by
    rw [mem_heights_iff, Unprocessed, ← le_iff_behind h]
    exact And.comm
  refine ⟨pairwise_heights _, members, ?_, ?_⟩
  · rw [isEmpty_iff]
    exact forall_congr' fun height => not_congr (members height)
  · rw [length_heights]
    rcases size?_cases ⟨next, latest⟩ with size | ⟨zero, full, noSize⟩
    · exact .inl size
    · refine .inr ⟨?_, full, noSize⟩
      cases lastIndexed with
      | none => rfl
      | some last =>
        rw [show next = 0 from zero] at h
        cases h

end HeightRange

/-! ### Ticks -/

namespace Tick
open HeightRange (greatest)

variable {setup : Setup} {w : World}

/-- A tick that aborts found a block of the greatest height on record. -/
theorem completes_or_greatest (setup : Setup) (w : World) :
    w.store.lastIndexedHeight = some greatest ∨ ∃ report, ((run setup).run.run w).1 = .ok report := by
  have ends := run_ends setup w
  generalize (run setup).run.run w = ended at ends ⊢
  cases ends with
  | offline off => exact .inr ⟨_, rfl⟩
  | unbounded wrong asked booted => exact .inr ⟨_, rfl⟩
  | @overflow u head known asked full =>
    rcases HeightRange.after?_cases w.store.lastIndexedHeight head.height with ⟨last, -⟩ | ⟨-, next, some, -⟩
    · exact .inl last
    · cases full.symm.trans some
  | climbed known asked booted next => exact .inr ⟨_, rfl⟩

/-- Behind a block of the greatest height a tick aborts, if the node can be reached and tells its head. -/
theorem aborts_of_greatest {head : Chain.Block} (calm : w.outages = .none) (reachable : w.node.reachable = true)
    (known : w.node.latestBlock = .ok head) (last : w.store.lastIndexedHeight = some greatest) :
    ((run setup).run.run w).1 = .error .heightOverflow := by
  have ends := run_ends setup w
  generalize (run setup).run.run w = ended at ends ⊢
  cases ends with
  | offline off => cases reachable.symm.trans off
  | unbounded wrong asked booted =>
    obtain ⟨e, unknown⟩ := wrong calm
    cases known.symm.trans unknown
  | overflow known asked full => rfl
  | climbed known asked booted next =>
    rw [last] at next
    cases next

end Tick

/-! ### Both -/

namespace HeightRange

/-- There is a range behind every last indexed height but the greatest one, and what it tells is exact. A tick that
finds no block of the greatest height on record does not abort. -/
theorem exact_below_greatest (lastIndexed : Option UInt64) (latest : UInt64) (setup : Setup) (w : World) :
    (lastIndexed = some greatest ∧ after? lastIndexed latest = none ∨
      lastIndexed ≠ some greatest ∧ ∃ r, after? lastIndexed latest = some r ∧ r.Exact lastIndexed latest) ∧
      (w.store.lastIndexedHeight = some greatest ∨ ∃ report, ((Tick.run setup).run.run w).1 = .ok report) := by
  refine ⟨(after?_cases lastIndexed latest).imp id ?_, Tick.completes_or_greatest setup w⟩
  rintro ⟨other, next, found, behind⟩
  exact ⟨other, ⟨next, latest⟩, found, exact_of_next behind⟩

/-- Behind the last height but one the greatest one is left. -/
example : (after? (some 18446744073709551614) greatest).map heights = some [greatest] := by decide +kernel

/-- The head of the chain has the greatest height, and its block is on record. -/
def greatestReached : World :=
  .start (Chain.Node.empty.putBlock (.bare "a" greatest []))
    { Store.empty with blocks := .ofList [("a", .ofChain (.bare "a" greatest []))] } .epoch

/-- Behind the greatest height there is nothing to process, but neither a range nor a tick says so; and the number of
all heights has no word. -/
theorem inexact_greatest :
    (∀ height, ¬ Unprocessed (some greatest) greatest height) ∧ after? (some greatest) greatest = none ∧
      after? none greatest = some ⟨0, greatest⟩ ∧ size? ⟨0, greatest⟩ = none ∧
      greatestReached.store.lastIndexedHeight = some greatest ∧
      ((Tick.run .bare).run.run greatestReached).1 = .error .heightOverflow := by
  have last : greatestReached.store.lastIndexedHeight = some greatest := by decide +kernel
  have known : greatestReached.node.latestBlock = .ok (.bare "a" greatest []) := rfl
  refine ⟨?_, rfl, rfl, rfl, last, Tick.aborts_of_greatest rfl rfl known last⟩
  rintro height ⟨upTo, behind⟩
  exact absurd (behind greatest rfl) (UInt64.not_lt.mpr upTo)

end HeightRange

end ChainIndex
