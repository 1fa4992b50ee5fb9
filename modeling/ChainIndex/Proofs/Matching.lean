import ChainIndex.Pattern
import Mathlib.Data.Finset.Card
import Mathlib.Logic.Relation

/-!
# What a pattern matches

`Pattern.Spans` says which parts of a text a pattern matches, without saying how they are found. The matcher works
on sets of places: every part of a pattern takes a set to its image under the parts of the text that it matches
(`Pattern.image_after`). A repetition goes on from the places that are new, so it ends because a text has no more
places than its length and one.
-/

set_option autoImplicit false

namespace ChainIndex.Pattern

/-! ### Parts of a text -/

/-- So many steps lead from one place to another. -/
def Steps (r : Nat → Nat → Prop) : Nat → Nat → Nat → Prop
  | 0, i, j => i = j
  | n + 1, i, k => ∃ j, r i j ∧ Steps r n j k

/-- The pattern matches the part of a text between two places. -/
def Spans (text : Array Char) : Pattern → Nat → Nat → Prop
  | empty, i, j => i = j
  | char set, i, j => ∃ c, text[i]? = some c ∧ set.contains c = true ∧ i + 1 = j
  | look l, i, j => i = j ∧ l.holds (before text i) text[i]? = true
  | seq p q, i, k => ∃ j, Spans text p i j ∧ Spans text q j k
  | alt p q, i, j => Spans text p i j ∨ Spans text q i j
  | star p, i, j => Relation.ReflTransGen (Spans text p) i j
  | count p least none, i, j => ∃ n, least ≤ n ∧ Steps (Spans text p) n i j
  | count p least (some most), i, j => ∃ n, least ≤ n ∧ n ≤ max least most ∧ Steps (Spans text p) n i j

section
variable {r : Nat → Nat → Prop} {m n i j k : Nat}

theorem Steps.reaches (h : Steps r n i j) : Relation.ReflTransGen r i j := by
  induction n generalizing i with
  | zero => exact h ▸ .refl
  | succ n ih =>
    obtain ⟨k, first, rest⟩ := h
    exact .head first (ih rest)

theorem exists_steps (h : Relation.ReflTransGen r i j) : ∃ n, Steps r n i j := by
  induction h using Relation.ReflTransGen.head_induction_on with
  | refl => exact ⟨0, rfl⟩
  | head first _ ih =>
    obtain ⟨n, rest⟩ := ih
    exact ⟨n + 1, _, first, rest⟩

theorem Steps.append (h : Steps r m i j) (h' : Steps r n j k) : Steps r (m + n) i k := by
  induction m generalizing i with
  | zero =>
    rw [show i = j from h, Nat.zero_add]
    exact h'
  | succ m ih =>
    obtain ⟨l, first, rest⟩ := h
    rw [Nat.succ_add_eq_add_succ]
    exact ⟨l, first, ih rest⟩

theorem Steps.split (h : Steps r (m + n) i k) : ∃ j, Steps r m i j ∧ Steps r n j k := by
  induction m generalizing i with
  | zero => exact ⟨i, rfl, Nat.zero_add n ▸ h⟩
  | succ m ih =>
    rw [Nat.succ_add_eq_add_succ] at h
    obtain ⟨l, first, rest⟩ := h
    obtain ⟨j, front, back⟩ := ih rest
    exact ⟨j, ⟨l, first, front⟩, back⟩

end

/-! ### Sets of places -/

theorem mem_merge {i : Nat} (l r : List Nat) : i ∈ merge l r ↔ i ∈ l ∨ i ∈ r := by
  fun_induction merge l r with
  | case1 | case2 => simp
  | case3 _ _ _ _ _ ih => simp [ih, or_assoc]
  | case4 _ _ _ _ _ _ ih => simp [ih, or_left_comm, or_assoc]
  | case5 a _ b _ _ _ ih =>
    have same : a = b := by omega
    simp only [List.mem_cons, ih, same]
    tauto

/-- An ascending list of places of a text with `n` characters. -/
structure Places (n : Nat) (l : List Nat) : Prop where
  ascending : l.Pairwise (· < ·)
  bounded : ∀ i ∈ l, i ≤ n

namespace Places
variable {n : Nat} {l r : List Nat}

theorem nil (n : Nat) : Places n [] := ⟨.nil, nofun⟩

theorem merge (hl : Places n l) (hr : Places n r) : Places n (merge l r) := by
  refine ⟨?_, fun i hi => ((mem_merge l r).mp hi).elim (hl.bounded i) (hr.bounded i)⟩
  have left := hl.ascending
  have right := hr.ascending
  clear hl hr
  fun_induction Pattern.merge l r with
  | case1 => exact right
  | case2 => exact left
  | case3 a as b bs lt ih =>
    obtain ⟨below, tail⟩ := List.pairwise_cons.mp left
    refine .cons (fun i hi => ?_) (ih tail right)
    rcases (mem_merge _ _).mp hi with hi | hi
    · exact below i hi
    · rcases List.mem_cons.mp hi with rfl | hi
      · exact lt
      · exact Nat.lt_trans lt ((List.pairwise_cons.mp right).1 i hi)
  | case4 a as b bs _ lt ih =>
    obtain ⟨below, tail⟩ := List.pairwise_cons.mp right
    refine .cons (fun i hi => ?_) (ih left tail)
    rcases (mem_merge _ _).mp hi with hi | hi
    · rcases List.mem_cons.mp hi with rfl | hi
      · exact lt
      · exact Nat.lt_trans lt ((List.pairwise_cons.mp left).1 i hi)
    · exact below i hi
  | case5 a as b bs _ _ ih =>
    obtain ⟨belowA, tailA⟩ := List.pairwise_cons.mp left
    obtain ⟨belowB, tailB⟩ := List.pairwise_cons.mp right
    refine .cons (fun i hi => ?_) (ih tailA tailB)
    rcases (mem_merge _ _).mp hi with hi | hi
    · exact belowA i hi
    · have := belowB i hi
      omega

theorem mem_without (hl : Places n l) (hr : Places n r) (i : Nat) : i ∈ without l r ↔ i ∈ l ∧ i ∉ r := by
  have left := hl.ascending
  have right := hr.ascending
  clear hl hr
  fun_induction Pattern.without l r with
  | case1 => simp
  | case2 => simp
  | case3 a as b bs lt ih =>
    have others : a ∉ b :: bs := fun mem => by
      rcases List.mem_cons.mp mem with rfl | mem
      · exact Nat.lt_irrefl _ lt
      · exact Nat.lt_asymm lt ((List.pairwise_cons.mp right).1 a mem)
    have rest := ih (List.pairwise_cons.mp left).2 right
    grind
  | case4 a as b bs _ lt ih =>
    have others : b ∉ a :: as := fun mem => by
      rcases List.mem_cons.mp mem with rfl | mem
      · exact Nat.lt_irrefl _ lt
      · exact Nat.lt_asymm lt ((List.pairwise_cons.mp left).1 b mem)
    have rest := ih left (List.pairwise_cons.mp right).2
    grind
  | case5 a as b bs _ _ ih =>
    have same : a = b := by omega
    have others : a ∉ as := fun mem => Nat.lt_irrefl a ((List.pairwise_cons.mp left).1 a mem)
    have rest := ih (List.pairwise_cons.mp left).2 (List.pairwise_cons.mp right).2
    grind

theorem without_sublist (l r : List Nat) : (without l r).Sublist l := by
  fun_induction Pattern.without l r with
  | case1 | case2 => exact .refl _
  | case3 _ _ _ _ _ ih => exact ih.cons_cons _
  | case4 _ _ _ _ _ _ ih => exact ih
  | case5 _ _ _ _ _ _ ih => exact ih.cons _

theorem without (hl : Places n l) (r : List Nat) : Places n (without l r) where
  ascending := hl.ascending.sublist (without_sublist l r)
  bounded i hi := hl.bounded i ((without_sublist l r).subset hi)

theorem nodup (hl : Places n l) : l.Nodup := hl.ascending.imp Nat.ne_of_lt

/-- There are no more places than the length of the text and one. -/
theorem length_le (hl : Places n l) : l.length ≤ n + 1 := by
  have sub : l ⊆ List.range (n + 1) := fun i hi => List.mem_range.mpr (Nat.lt_succ_of_le (hl.bounded i hi))
  simpa using (hl.nodup.subperm sub).length_le

/-- Places that are new make a set longer. -/
theorem length_lt_merge (hl : Places n l) {i : Nat} (new : i ∈ r) (other : i ∉ l) :
    l.length < (Pattern.merge l r).length := by
  have sub : (i :: l) ⊆ Pattern.merge l r := by
    intro j hj
    rcases List.mem_cons.mp hj with rfl | hj
    · exact (mem_merge l r).mpr (.inr new)
    · exact (mem_merge l r).mpr (.inl hj)
  exact ((List.nodup_cons.mpr ⟨other, hl.nodup⟩).subperm sub).length_le

end Places

/-! ### Images -/

/-- A step takes each set of places to its image under a relation. -/
structure Image (n : Nat) (step : List Nat → List Nat) (r : Nat → Nat → Prop) : Prop where
  places : ∀ {l}, Places n l → Places n (step l)
  mem : ∀ {l}, Places n l → ∀ j, j ∈ step l ↔ ∃ i ∈ l, r i j

namespace Image
variable {n : Nat} {step : List Nat → List Nat} {r : Nat → Nat → Prop} (image : Image n step r) {l seen fresh : List Nat}
include image

/-- One round of a walk: the places of a step that are new, and the invariant with them. -/
theorem round (hs : Places n seen) (hf : Places n fresh) (done : ∀ i ∈ seen, i ∉ fresh → ∀ j, r i j → j ∈ seen) :
    Places n (merge seen (without (step fresh) seen)) ∧
      (∀ j ∈ without (step fresh) seen, j ∉ seen ∧ ∃ i ∈ fresh, r i j) ∧
      ∀ i ∈ seen, ∀ j, r i j → j ∈ merge seen (without (step fresh) seen) := by
  have stepped := image.places hf
  refine ⟨hs.merge (stepped.without seen), fun j hj => ?_, fun i hi j hij => ?_⟩
  · obtain ⟨reached, new⟩ := (stepped.mem_without hs j).mp hj
    exact ⟨new, (image.mem hf j).mp reached⟩
  · rw [mem_merge, stepped.mem_without hs, image.mem hf]
    by_cases known : j ∈ seen
    · exact .inl known
    · refine .inr ⟨⟨i, ?_, hij⟩, known⟩
      by_contra old
      exact known (done i hi old j hij)

theorem closure (fuel : Nat) (hs : Places n seen) (hf : Places n fresh) (sub : fresh ⊆ seen)
    (done : ∀ i ∈ seen, i ∉ fresh → ∀ j, r i j → j ∈ seen) (enough : n + 1 < fuel + seen.length) :
    Places n (closure step fuel seen fresh) ∧
      ∀ j, j ∈ Pattern.closure step fuel seen fresh ↔ ∃ i ∈ seen, Relation.ReflTransGen r i j := by
  induction fuel generalizing seen fresh with
  | zero =>
    have := hs.length_le
    omega
  | succ fuel ih =>
    obtain ⟨merged, new, next⟩ := image.round hs hf done
    rw [Pattern.closure]
    split
    · next nothing =>
      rw [nothing] at next
      have closed : ∀ i ∈ seen, ∀ j, r i j → j ∈ seen := fun i hi j hij => by
        simpa [mem_merge] using next i hi j hij
      refine ⟨hs, fun j => ⟨fun hj => ⟨j, hj, .refl⟩, ?_⟩⟩
      rintro ⟨i, hi, path⟩
      induction path with
      | refl => exact hi
      | tail _ last ih => exact closed _ ih _ last
    · next found some =>
      -- A new place shortens what is left of the text's places.
      obtain ⟨j, hj⟩ := List.exists_mem_of_ne_nil _ some
      have longer := hs.length_lt_merge hj (new j hj).1
      have stepped := (image.places hf).without seen
      obtain ⟨places, reaches⟩ := ih merged stepped (fun i hi => (mem_merge _ _).mpr (.inr hi)) (fun i hi old j hij => by
        rcases (mem_merge _ _).mp hi with hi | hi
        · exact next i hi j hij
        · exact absurd hi old) (by omega)
      refine ⟨places, fun j => (reaches j).trans ⟨?_, ?_⟩⟩
      · rintro ⟨i, hi, path⟩
        rcases (mem_merge _ _).mp hi with hi | hi
        · exact ⟨i, hi, path⟩
        · obtain ⟨-, k, hk, first⟩ := new i hi
          exact ⟨k, sub hk, .head first path⟩
      · rintro ⟨i, hi, path⟩
        exact ⟨i, (mem_merge _ _).mpr (.inl hi), path⟩

theorem mem_steps_succ (hl : Places n l) (k j : Nat) :
    (∃ i ∈ l, Steps r (k + 1) i j) ↔ ∃ i ∈ step l, Steps r k i j := by
  constructor
  · rintro ⟨i, hi, m, first, rest⟩
    exact ⟨m, (image.mem hl m).mpr ⟨i, hi, first⟩, rest⟩
  · rintro ⟨m, hm, rest⟩
    obtain ⟨i, hi, first⟩ := (image.mem hl m).mp hm
    exact ⟨i, hi, m, first, rest⟩

theorem iterate (k : Nat) (hl : Places n l) :
    Places n (iterate step k l) ∧ ∀ j, j ∈ Pattern.iterate step k l ↔ ∃ i ∈ l, Steps r k i j := by
  induction k generalizing l with
  | zero =>
    refine ⟨hl, fun j => ⟨fun hj => ⟨j, hj, rfl⟩, ?_⟩⟩
    rintro ⟨i, hi, rfl⟩
    exact hi
  | succ k ih =>
    rw [Pattern.iterate]
    split
    · next same =>
      refine ⟨hl, fun j => ?_⟩
      -- A set that is its own image is its image under any number of steps.
      have fixed : ∀ m, j ∈ l ↔ ∃ i ∈ l, Steps r m i j := by
        intro m
        induction m with
        | zero => exact ⟨fun hj => ⟨j, hj, rfl⟩, fun ⟨i, hi, same⟩ => show j ∈ l from same ▸ hi⟩
        | succ m ih => rw [image.mem_steps_succ hl, same, ih]
      exact fixed (k + 1)
    · obtain ⟨places, reaches⟩ := ih (image.places hl)
      exact ⟨places, fun j => (reaches j).trans (image.mem_steps_succ hl k j).symm⟩

theorem within (k : Nat) (hs : Places n seen) (hf : Places n fresh)
    (done : ∀ i ∈ seen, i ∉ fresh → ∀ j, r i j → j ∈ seen) :
    Places n (within step k seen fresh) ∧
      (∀ j ∈ Pattern.within step k seen fresh, j ∈ seen ∨ ∃ i ∈ fresh, ∃ m ≤ k, Steps r m i j) ∧
      ∀ i ∈ seen, ∀ m ≤ k, ∀ j, Steps r m i j → j ∈ Pattern.within step k seen fresh := by
  induction k generalizing seen fresh with
  | zero =>
    refine ⟨hs, fun j hj => .inl hj, fun i hi m hm j path => ?_⟩
    obtain rfl := Nat.le_zero.mp hm
    rw [← show i = j from path]
    exact hi
  | succ k ih =>
    obtain ⟨merged, new, next⟩ := image.round hs hf done
    rw [Pattern.within]
    split
    · next nothing =>
      rw [nothing] at next
      refine ⟨hs, fun j hj => .inl hj, fun i hi m _ j path => ?_⟩
      induction m generalizing i with
      | zero => exact (show i = j from path) ▸ hi
      | succ m ih =>
        obtain ⟨l, first, rest⟩ := path
        exact ih l (by simpa [mem_merge] using next i hi l first) (by omega) rest
    · have stepped := (image.places hf).without seen
      obtain ⟨places, sound, complete⟩ := ih merged stepped fun i hi old j hij =>
        next i (((mem_merge _ _).mp hi).resolve_right old) j hij
      refine ⟨places, fun j hj => ?_, fun i hi m hm j path => ?_⟩
      · rcases sound j hj with hj | ⟨i, hi, m, hm, rest⟩
        · rcases (mem_merge _ _).mp hj with hj | hj
          · exact .inl hj
          · obtain ⟨-, i, hi, first⟩ := new j hj
            exact .inr ⟨i, hi, 1, by omega, j, first, rfl⟩
        · obtain ⟨-, l, hl, first⟩ := new i hi
          exact .inr ⟨l, hl, m + 1, by omega, i, first, rest⟩
      · cases m with
        | zero => exact complete i ((mem_merge _ _).mpr (.inl hi)) 0 (Nat.zero_le k) j path
        | succ m =>
          obtain ⟨l, first, rest⟩ := path
          exact complete l (next i hi l first) m (by omega) j rest

/-- A walk from everywhere in a set takes it to what it leads to. -/
theorem closure_self (hl : Places n l) :
    Places n (Pattern.closure step (n + 1) l l) ∧
      ∀ j, j ∈ Pattern.closure step (n + 1) l l ↔ ∃ i ∈ l, Relation.ReflTransGen r i j := by
  cases l with
  | nil =>
    have nothing : step [] = [] :=
      List.eq_nil_iff_forall_not_mem.mpr fun j hj => by simpa using (image.mem (.nil n) j).mp hj
    have same : Pattern.closure step (n + 1) [] [] = [] := by
      rw [Pattern.closure, nothing, show without [] [] = [] by rw [Pattern.without]]
    rw [same]
    exact ⟨.nil n, by simp⟩
  | cons i l =>
    exact image.closure (n + 1) hl hl (List.Subset.refl _) (fun _ hi old => absurd hi old) (by simp)

end Image

/-! ### The matcher -/

variable (text : Array Char)

theorem pass?_eq_some_iff {set : CharSet} {i j : Nat} :
    pass? text set i = some j ↔ ∃ c, text[i]? = some c ∧ set.contains c = true ∧ i + 1 = j := by
  unfold pass?
  cases text[i]? with
  | none => simp
  | some c => by_cases h : set.contains c <;> simp [h]

/-- The matcher takes a set of places to the ends of the parts of the text that begin there and that the pattern
matches. -/
theorem image_after (p : Pattern) : Image text.size (p.after text) (Spans text p) := by
  induction p with
  | empty => exact ⟨id, fun _ j => by simp [after, Spans]⟩
  | char set =>
    refine ⟨fun {l} hl => ⟨?_, fun j hj => ?_⟩, fun _ j => by simp [after, Spans, pass?_eq_some_iff]⟩
    · refine List.pairwise_filterMap.mpr (hl.ascending.imp fun {a b} lt j hj k hk => ?_)
      obtain ⟨-, -, -, rfl⟩ := (pass?_eq_some_iff text).mp hj
      obtain ⟨-, -, -, rfl⟩ := (pass?_eq_some_iff text).mp hk
      omega
    · obtain ⟨i, -, found⟩ := List.mem_filterMap.mp hj
      obtain ⟨c, here, -, rfl⟩ := (pass?_eq_some_iff text).mp found
      exact (Array.getElem?_eq_some_iff.mp here).1
  | look l =>
    refine ⟨fun hl => ⟨hl.ascending.filter _, fun i hi => hl.bounded i (List.mem_of_mem_filter hi)⟩, fun _ j => ?_⟩
    simp [after, Spans]
  | seq p q ihp ihq =>
    refine ⟨fun hl => ihq.places (ihp.places hl), fun hl k => ?_⟩
    rw [after, ihq.mem (ihp.places hl)]
    simp only [ihp.mem hl, Spans]
    tauto
  | alt p q ihp ihq =>
    refine ⟨fun hl => (ihp.places hl).merge (ihq.places hl), fun hl j => ?_⟩
    rw [after, mem_merge, ihp.mem hl, ihq.mem hl]
    simp only [Spans, and_or_left, exists_or]
  | star p ih => exact ⟨fun hl => (ih.closure_self hl).1, fun hl => (ih.closure_self hl).2⟩
  | count p least most ih =>
    refine ⟨fun hl => ?_, fun hl j => ?_⟩
    · obtain ⟨reached, -⟩ := ih.iterate least hl
      cases most with
      | none => exact (ih.closure_self reached).1
      | some most => exact (ih.within (most - least) reached reached fun _ hi old => absurd hi old).1
    · obtain ⟨reached, ends⟩ := ih.iterate least hl
      cases most with
      | none =>
        refine ((ih.closure_self reached).2 j).trans ⟨?_, ?_⟩
        · rintro ⟨i, hi, path⟩
          obtain ⟨k, hk, front⟩ := (ends i).mp hi
          obtain ⟨m, back⟩ := exists_steps path
          exact ⟨k, hk, least + m, Nat.le_add_right _ _, front.append back⟩
        · rintro ⟨k, hk, m, enough, path⟩
          obtain ⟨i, front, back⟩ := Steps.split (m := least) (n := m - least) (by rwa [Nat.add_sub_cancel' enough])
          exact ⟨i, (ends i).mpr ⟨k, hk, front⟩, back.reaches⟩
      | some most =>
        obtain ⟨-, sound, complete⟩ := ih.within (most - least) reached reached fun _ hi old => absurd hi old
        refine ⟨fun hj => ?_, ?_⟩
        · rcases sound j hj with hj | ⟨i, hi, m, bound, back⟩
          · obtain ⟨k, hk, path⟩ := (ends j).mp hj
            exact ⟨k, hk, least, Nat.le_refl _, Nat.le_max_left _ _, path⟩
          · obtain ⟨k, hk, front⟩ := (ends i).mp hi
            exact ⟨k, hk, least + m, Nat.le_add_right _ _, by omega, front.append back⟩
        · rintro ⟨k, hk, m, enough, bound, path⟩
          obtain ⟨i, front, back⟩ := Steps.split (m := least) (n := m - least) (by rwa [Nat.add_sub_cancel' enough])
          exact complete i ((ends i).mpr ⟨k, hk, front⟩) (m - least) (by omega) j back

/-- A pattern is found in a text if it matches some part of it. -/
theorem isFoundIn_iff (p : Pattern) (text : String) :
    p.isFoundIn text = true ↔ ∃ i j, i ≤ text.toList.length ∧ Spans text.toList.toArray p i j := by
  have all : Places text.toList.toArray.size (List.range (text.toList.toArray.size + 1)) :=
    ⟨List.pairwise_lt_range, fun i hi => Nat.le_of_lt_succ (List.mem_range.mp hi)⟩
  unfold isFoundIn
  rw [Bool.not_eq_true', List.isEmpty_eq_false_iff_exists_mem]
  constructor
  · rintro ⟨j, hj⟩
    obtain ⟨i, hi, spans⟩ := ((image_after _ p).mem all j).mp hj
    exact ⟨i, j, all.bounded i hi, spans⟩
  · rintro ⟨i, j, hi, spans⟩
    exact ⟨j, ((image_after _ p).mem all j).mpr ⟨i, List.mem_range.mpr (Nat.lt_succ_of_le hi), spans⟩⟩

end ChainIndex.Pattern
