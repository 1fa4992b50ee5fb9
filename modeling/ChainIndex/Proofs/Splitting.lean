import ChainIndex.Script.Signature
import Mathlib.Algebra.Group.Int.Defs
import Mathlib.Data.List.Forall2
import Mathlib.Data.List.Infix
import Mathlib.Data.List.TakeDrop
import Mathlib.Data.List.TakeWhile
import Mathlib.Data.String.Basic

/-!
# Splitting a list loses nothing

A list is split at its commas at depth zero, and only there. Each part but the last closes what it opens, so the
depth in front of a comma inside of a part is the depth there from where the part begins (`Cut`). The parts are
slices of the list: where a part ends and the next one begins is told in bytes, and never inside of a character,
because the comma between them is one byte long.

Depths are counted in a word. As long as all of them are words (`Counted`) the word is the depth; else splitting
aborts, in front of the first bracket that leaves the words (`Uncounted`).
-/

set_option autoImplicit false

namespace ChainIndex.Script

variable {text before after part : List Char} {parts front back : List (List Char)} {c : Char} {depth : Int}

/-- How much deeper in brackets a text ends than it begins. -/
def depthOf (text : List Char) : Int := (text.countP isOpening : Int) - text.countP isClosing

/-- The comma between `before` and `after` stands between two parts. -/
def Removed (parts : List (List Char)) (before after : List Char) : Prop :=
  ∃ front back, front ≠ [] ∧ back ≠ [] ∧ parts = front ++ back ∧
    before = [','].intercalate front ∧ after = [','].intercalate back

/-- The comma between `before` and `after` stands inside of a part. -/
def Kept (parts : List (List Char)) (before after : List Char) : Prop :=
  ∃ front start rest back, parts = front ++ (start ++ ',' :: rest) :: back ∧
    before = [','].intercalate (front ++ [start]) ∧ after = [','].intercalate (rest :: back)

/-- No comma of the text is at depth zero. -/
def Whole (text : List Char) : Prop := ∀ before after, text = before ++ ',' :: after → depthOf before ≠ 0

/-- A text is cut at its commas at depth zero: no part has such a comma, and a part in front of a cut ends at depth
zero. -/
inductive Cut : List Char → List (List Char) → Prop where
  | last {part : List Char} (whole : Whole part) : Cut part [part]
  | more {part text : List Char} {parts : List (List Char)} (whole : Whole part) (closed : depthOf part = 0)
      (rest : Cut text parts) : Cut (part ++ ',' :: text) (part :: parts)

/-- From this depth on all depths in a text are words. -/
def Counted (depth : Int) (text : List Char) : Prop :=
  ∀ before, before <+: text → -2 ^ 31 ≤ depth + depthOf before ∧ depth + depthOf before < 2 ^ 31

/-- From this depth on all depths in a text are words up to a bracket behind which there would be none. -/
inductive Uncounted (depth : Int) : List Char → Abort → Prop where
  | above {before after : List Char} {c : Char} (counted : Counted depth before) (opening : isOpening c = true)
      (greatest : depth + depthOf before = 2 ^ 31 - 1) : Uncounted depth (before ++ c :: after) .depthOverflow
  | below {before after : List Char} {c : Char} (counted : Counted depth before) (closing : isClosing c = true)
      (least : depth + depthOf before = -2 ^ 31) : Uncounted depth (before ++ c :: after) .depthUnderflow

/-! ### Depths -/

theorem depthOf_append (text more : List Char) : depthOf (text ++ more) = depthOf text + depthOf more := by
  rw [depthOf, depthOf, depthOf, List.countP_append, List.countP_append]
  omega

theorem depthOf_cons (c : Char) (text : List Char) : depthOf (c :: text) = depthOf [c] + depthOf text :=
  depthOf_append [c] text

/-- A comma neither opens nor closes anything. -/
theorem depthOf_comma (text more : List Char) : depthOf (text ++ ',' :: more) = depthOf text + depthOf more := by
  rw [depthOf_append, depthOf_cons, show depthOf [','] = 0 from rfl, Int.zero_add]

theorem isClosing_of_isOpening (opening : isOpening c = true) : isClosing c = false := by
  simp only [isOpening, Bool.or_eq_true, decide_eq_true_eq] at opening
  rcases opening with ((rfl | rfl) | rfl) | rfl <;> rfl

theorem depthOf_opening (opening : isOpening c = true) : depthOf [c] = 1 := by
  simp [depthOf, opening, isClosing_of_isOpening opening]

theorem depthOf_closing (closing : isClosing c = true) : depthOf [c] = -1 := by
  have noOpening : isOpening c = false := by
    by_contra opening
    rw [isClosing_of_isOpening (Bool.not_eq_false _ ▸ opening)] at closing
    cases closing
  simp [depthOf, closing, noOpening]

/-- A text is nowhere deeper than it is long. -/
theorem natAbs_depthOf_le (text : List Char) : (depthOf text).natAbs ≤ text.length := by
  have opened : text.countP isOpening ≤ text.length := List.countP_le_length
  have closed : text.countP isClosing ≤ text.length := List.countP_le_length
  rw [depthOf]
  omega

theorem Whole.nil : Whole [] := fun before after same => by simp at same

/-- Text without a comma at depth zero goes on with anything but such a comma. -/
theorem Whole.concat (whole : Whole text) (inside : ¬ (c = ',' ∧ depthOf text = 0)) : Whole (text ++ [c]) := by
  intro before after same
  rcases List.eq_nil_or_concat after with rfl | ⟨rest, last, rfl⟩
  · obtain ⟨rfl, comma⟩ := List.append_inj' same rfl
    exact fun outside => inside ⟨List.head_eq_of_cons_eq comma, outside⟩
  · rw [List.concat_eq_append, ← List.cons_append, ← List.append_assoc] at same
    exact whole before rest (List.append_inj' same rfl).1

/-- Behind a text that closes what it opens the depth is what it was in front. -/
theorem Whole.append {more : List Char} (whole : Whole text) (closed : depthOf text = 0) (whole' : Whole more) :
    Whole (text ++ more) := by
  intro before after same
  rcases List.append_eq_append_iff.mp same with ⟨start, rfl, later⟩ | ⟨between, rfl, later⟩
  · rw [depthOf_append, closed, Int.zero_add]
    exact whole' start after later
  · cases between with
    | nil => exact absurd rfl (whole' [] after later.symm)
    | cons c rest =>
      obtain ⟨rfl, -⟩ := List.cons.inj later
      exact whole before rest rfl

/-! ### Counting in a word -/

theorem counted_nil_iff : Counted depth [] ↔ -2 ^ 31 ≤ depth ∧ depth < 2 ^ 31 := by
  simp [Counted, depthOf]

theorem counted_append_iff :
    Counted depth (text ++ after) ↔ Counted depth text ∧ Counted (depth + depthOf text) after := by
  constructor
  · intro counted
    refine ⟨fun before h => counted before (h.trans (List.prefix_append _ _)), fun before h => ?_⟩
    have further := counted (text ++ before) ((List.prefix_append_right_inj text).mpr h)
    rwa [depthOf_append, ← Int.add_assoc] at further
  · rintro ⟨here, further⟩ before h
    rcases List.prefix_or_prefix_of_prefix h (List.prefix_append text after) with inside | beyond
    · exact here before inside
    · obtain ⟨more, rfl⟩ := beyond
      rw [depthOf_append, ← Int.add_assoc]
      exact further more ((List.prefix_append_right_inj text).mp h)

theorem counted_cons_iff :
    Counted depth (c :: text) ↔ (-2 ^ 31 ≤ depth ∧ depth < 2 ^ 31) ∧ Counted (depth + depthOf [c]) text := by
  rw [← List.singleton_append, counted_append_iff]
  refine ⟨fun h => ⟨counted_nil_iff.mp fun before nothing => h.1 before (nothing.trans (List.nil_prefix)), h.2⟩,
    fun h => ⟨fun before inside => ?_, h.2⟩⟩
  rcases List.prefix_cons_iff.mp inside with rfl | ⟨rest, rfl, nothing⟩
  · exact counted_nil_iff.mpr h.1 [] List.nil_prefix
  · rw [List.prefix_nil.mp nothing]
    have next := h.2 [] List.nil_prefix
    rwa [show depthOf [] = 0 from rfl, Int.add_zero] at next

/-- In a text of less than 2³¹ characters all depths are words. -/
theorem counted_of_length (short : text.length < 2 ^ 31) : Counted 0 text := by
  intro before h
  have le := natAbs_depthOf_le before
  have shorter := h.length_le
  omega

/-- In a text of that many opening brackets one is not. -/
theorem counted_replicate_iff (n : Nat) : Counted 0 (List.replicate n '(') ↔ n < 2 ^ 31 := by
  refine ⟨fun counted => ?_, fun few => counted_of_length (by rwa [List.length_replicate])⟩
  have deepest := counted _ (List.prefix_refl _)
  rw [depthOf, List.countP_replicate, List.countP_replicate, if_pos (by decide), if_neg (by decide)] at deepest
  omega

theorem Uncounted.cons {a : Abort} (word : -2 ^ 31 ≤ depth ∧ depth < 2 ^ 31)
    (h : Uncounted (depth + depthOf [c]) text a) : Uncounted depth (c :: text) a := by
  cases h with
  | @above before after b counted opening greatest =>
    rw [Int.add_assoc, ← depthOf_cons] at greatest
    exact .above (counted_cons_iff.mpr ⟨word, counted⟩) opening greatest
  | @below before after b counted closing least =>
    rw [Int.add_assoc, ← depthOf_cons] at least
    exact .below (counted_cons_iff.mpr ⟨word, counted⟩) closing least

/-- Where counting aborts some depth is no word. -/
theorem Uncounted.not_counted {a : Abort} (h : Uncounted depth text a) : ¬ Counted depth text := by
  intro counted
  cases h with
  | @above before after c _ opening greatest =>
    have deeper := counted (before ++ [c]) ⟨after, by simp⟩
    rw [depthOf_append, depthOf_opening opening] at deeper
    omega
  | @below before after c _ closing least =>
    have deeper := counted (before ++ [c]) ⟨after, by simp⟩
    rw [depthOf_append, depthOf_closing closing] at deeper
    omega

/-- The bracket that leaves the words is the first one that does, and tells where to. -/
theorem Uncounted.exists_first {a : Abort} (h : Uncounted depth text a) :
    ∃ before c after, text = before ++ c :: after ∧ Counted depth before ∧
      (∀ more, ¬ Counted depth (before ++ c :: more)) ∧
      (a = .depthOverflow ∧ depth + depthOf before = 2 ^ 31 - 1 ∨
        a = .depthUnderflow ∧ depth + depthOf before = -2 ^ 31) := by
  cases h with
  | @above before after c counted opening greatest =>
    exact ⟨before, c, after, rfl, counted, fun more => (Uncounted.above counted opening greatest).not_counted,
      .inl ⟨rfl, greatest⟩⟩
  | @below before after c counted closing least =>
    exact ⟨before, c, after, rfl, counted, fun more => (Uncounted.below counted closing least).not_counted,
      .inr ⟨rfl, least⟩⟩

theorem Uncounted.unique {a b : Abort} (h : Uncounted depth text a) (h' : Uncounted depth text b) : a = b := by
  obtain ⟨before, c, after, rfl, counted, leaves, side⟩ := h.exists_first
  obtain ⟨before', c', after', same, counted', leaves', side'⟩ := h'.exists_first
  have here : before = before' := by
    rcases List.append_eq_append_iff.mp same with ⟨between, rfl, rest⟩ | ⟨between, rfl, rest⟩
    · cases between with
      | nil => exact (List.append_nil _).symm
      | cons b more =>
        obtain ⟨rfl, -⟩ := List.cons.inj rest
        exact absurd counted' (leaves more)
    · cases between with
      | nil => exact List.append_nil _
      | cons b more =>
        obtain ⟨rfl, -⟩ := List.cons.inj rest
        exact absurd counted (leaves' more)
  subst here
  rcases side with ⟨rfl, greatest⟩ | ⟨rfl, least⟩ <;> rcases side' with ⟨rfl, greatest'⟩ | ⟨rfl, least'⟩
  · rfl
  · omega
  · omega
  · rfl

theorem word_toInt (d : Int32) : -2 ^ 31 ≤ d.toInt ∧ d.toInt < 2 ^ 31 := ⟨d.le_toInt, d.toInt_lt⟩

/-- A character takes the depth to the next one, or there is no next one in the words. -/
theorem depthAfter_cases (d : Int32) (c : Char) :
    (∃ e, depthAfter d c = .ok e ∧ e.toInt = d.toInt + depthOf [c]) ∨
      ∃ a, depthAfter d c = .error a ∧ ∀ rest, Uncounted d.toInt (c :: rest) a := by
  have word := word_toInt d
  have start : Counted d.toInt [] := counted_nil_iff.mpr word
  have nowhere : d.toInt + depthOf [] = d.toInt := Int.add_zero _
  unfold depthAfter
  split
  · next opening =>
    split
    · next greatest =>
      refine .inr ⟨_, rfl, fun rest => .above start opening ?_⟩
      rw [nowhere, greatest, Int32.toInt_maxValue]
    · next less =>
      have ne : d.toInt ≠ 2 ^ 31 - 1 := fun same => less (Int32.toInt_inj.mp (same.trans Int32.toInt_maxValue.symm))
      refine .inl ⟨_, rfl, ?_⟩
      rw [depthOf_opening opening, Int32.toInt_add, Int32.toInt_one, Int.bmod_eq_of_le (by omega) (by omega)]
  · next noOpening =>
    split
    · next closing =>
      split
      · next least =>
        refine .inr ⟨_, rfl, fun rest => .below start closing ?_⟩
        rw [nowhere, least, Int32.toInt_minValue]
      · next more =>
        have ne : d.toInt ≠ -2 ^ 31 := fun same => more (Int32.toInt_inj.mp (same.trans Int32.toInt_minValue.symm))
        refine .inl ⟨_, rfl, ?_⟩
        rw [depthOf_closing closing, Int32.toInt_sub, Int32.toInt_one, Int.bmod_eq_of_le (by omega) (by omega),
          Int.sub_eq_add_neg]
    · next noClosing =>
      refine .inl ⟨d, rfl, ?_⟩
      simp [depthOf, noOpening, noClosing]

/-! ### The parts of a text -/

theorem intercalate_cons (part : List Char) (ne : parts ≠ []) :
    [','].intercalate (part :: parts) = part ++ ',' :: [','].intercalate parts := by
  rw [List.intercalate_cons_of_ne_nil ne, List.append_assoc, List.singleton_append]

/-- Behind what was read of a part, splitting cuts the rest of the text or aborts. What was cut off before is at depth
zero, so the depth is that of the part alone. -/
theorem splitParts_cases (d : Int32) (part : List Char) (same : d.toInt = depthOf part.reverse)
    (whole : Whole part.reverse) (text : List Char) :
    (∃ parts, splitParts d part text = .ok parts ∧ Cut (part.reverse ++ text) parts ∧ Counted d.toInt text) ∨
      ∃ a, splitParts d part text = .error a ∧ Uncounted d.toInt text a := by
  induction text generalizing d part with
  | nil =>
    refine .inl ⟨_, rfl, ?_, counted_nil_iff.mpr (word_toInt d)⟩
    rw [List.append_nil]
    exact .last whole
  | cons c text ih =>
    rw [splitParts]
    split
    · next comma =>
      obtain ⟨rfl, rfl⟩ := comma
      have still : (0 : Int32).toInt + depthOf [','] = (0 : Int32).toInt := rfl
      rcases ih 0 [] rfl Whole.nil with ⟨parts, run, cut, counted⟩ | ⟨a, run, uncounted⟩
      · refine .inl ⟨_, by rw [run]; rfl, .more whole same.symm cut, counted_cons_iff.mpr ⟨word_toInt 0, ?_⟩⟩
        rwa [still]
      · refine .inr ⟨a, by rw [run]; rfl, .cons (word_toInt 0) ?_⟩
        rwa [still]
    · next inside =>
      have grown : Whole (c :: part).reverse := by
        rw [List.reverse_cons]
        refine whole.concat fun comma => inside ⟨comma.1, Int32.toInt_inj.mp ?_⟩
        rw [same, comma.2]
        rfl
      rcases depthAfter_cases d c with ⟨e, next, deeper⟩ | ⟨a, aborts, uncounted⟩
      · have same' : e.toInt = depthOf (c :: part).reverse := by
          rw [List.reverse_cons, depthOf_append, ← same, deeper]
        rw [next]
        rcases ih e (c :: part) same' grown with ⟨parts, run, cut, counted⟩ | ⟨a, run, uncounted⟩
        · rw [List.reverse_cons, List.append_assoc] at cut
          exact .inl ⟨parts, run, cut, counted_cons_iff.mpr ⟨word_toInt d, deeper ▸ counted⟩⟩
        · exact .inr ⟨a, run, .cons (word_toInt d) (deeper ▸ uncounted)⟩
      · rw [aborts]
        exact .inr ⟨a, rfl, uncounted text⟩

/-- A list is cut into its parts, or splitting it aborts. -/
theorem splitParts_zero_cases (text : List Char) :
    (∃ parts, splitParts 0 [] text = .ok parts ∧ Cut text parts ∧ Counted 0 text) ∨
      ∃ a, splitParts 0 [] text = .error a ∧ Uncounted 0 text a :=
  splitParts_cases 0 [] rfl Whole.nil text

theorem splitParts_ok_iff : (∃ parts, splitParts 0 [] text = .ok parts) ↔ Counted 0 text := by
  rcases splitParts_zero_cases text with ⟨parts, run, -, counted⟩ | ⟨a, run, uncounted⟩
  · exact ⟨fun _ => counted, fun _ => ⟨parts, run⟩⟩
  · refine ⟨fun ⟨parts, other⟩ => ?_, fun counted => absurd counted uncounted.not_counted⟩
    cases run.symm.trans other

theorem cut_of_splitParts (h : splitParts 0 [] text = .ok parts) : Cut text parts := by
  rcases splitParts_zero_cases text with ⟨parts', run, cut, -⟩ | ⟨a, run, -⟩
  · cases h.symm.trans run
    exact cut
  · cases h.symm.trans run

namespace Cut

theorem ne_nil (h : Cut text parts) : parts ≠ [] := by cases h <;> exact List.cons_ne_nil _ _

/-- The parts with commas between them are the text. -/
theorem intercalate (h : Cut text parts) : [','].intercalate parts = text := by
  induction h with
  | last whole => exact List.intercalate_singleton
  | more whole closed rest ih => rw [intercalate_cons _ rest.ne_nil, ih]

theorem whole (h : Cut text parts) : ∀ part ∈ parts, Whole part := by
  induction h with
  | last whole => simpa using whole
  | more whole closed rest ih => exact List.forall_mem_cons.mpr ⟨whole, ih⟩

theorem tail (h : Cut text (part :: parts)) (ne : parts ≠ []) : depthOf part = 0 ∧ ∃ rest, Cut rest parts := by
  cases h with
  | last whole => exact absurd rfl ne
  | more whole closed rest => exact ⟨closed, _, rest⟩

end Cut

/-! ### The commas of a text -/

/-- A comma of a text behind a part and a comma is that one, or it stands in the part, or behind that one. -/
theorem comma_cases {x : List Char} (h : part ++ ',' :: x = before ++ ',' :: after) :
    (before = part ∧ after = x) ∨ (∃ rest, part = before ++ ',' :: rest ∧ after = rest ++ ',' :: x) ∨
      ∃ start, before = part ++ ',' :: start ∧ x = start ++ ',' :: after := by
  rcases List.append_eq_append_iff.mp h with ⟨between, rfl, same⟩ | ⟨between, rfl, same⟩
  · cases between with
    | nil => exact .inl ⟨List.append_nil part, (List.cons.inj same).2.symm⟩
    | cons c start =>
      obtain ⟨rfl, later⟩ := List.cons.inj same
      exact .inr (.inr ⟨start, rfl, later⟩)
  · cases between with
    | nil => exact .inl ⟨(List.append_nil before).symm, (List.cons.inj same).2⟩
    | cons c rest =>
      obtain ⟨rfl, later⟩ := List.cons.inj same
      exact .inr (.inl ⟨rest, rfl, later⟩)

theorem Removed.cons (h : Removed parts before after) (part : List Char) :
    Removed (part :: parts) (part ++ ',' :: before) after := by
  obtain ⟨front, back, hf, hb, rfl, rfl, rfl⟩ := h
  exact ⟨part :: front, back, by simp, hb, rfl, (intercalate_cons part hf).symm, rfl⟩

theorem Kept.cons (h : Kept parts before after) (part : List Char) :
    Kept (part :: parts) (part ++ ',' :: before) after := by
  obtain ⟨front, start, rest, back, rfl, rfl, rfl⟩ := h
  exact ⟨part :: front, start, rest, back, rfl, (intercalate_cons part (by simp)).symm, rfl⟩

theorem Removed.joined (h : Removed parts before after) : [','].intercalate parts = before ++ ',' :: after := by
  obtain ⟨front, back, hf, hb, rfl, rfl, rfl⟩ := h
  induction front with
  | nil => exact absurd rfl hf
  | cons part front ih =>
    rw [List.cons_append, intercalate_cons part (by simp [hb])]
    by_cases last : front = []
    · rw [last, List.nil_append, List.intercalate_singleton]
    · rw [ih last, intercalate_cons part last, List.append_assoc, List.cons_append]

theorem Kept.joined (h : Kept parts before after) : [','].intercalate parts = before ++ ',' :: after := by
  obtain ⟨front, start, rest, back, rfl, rfl, rfl⟩ := h
  induction front with
  | nil =>
    rw [List.nil_append, List.nil_append, List.intercalate_singleton]
    by_cases last : back = []
    · rw [last, List.intercalate_singleton, List.intercalate_singleton]
    · rw [intercalate_cons _ last, intercalate_cons _ last, List.append_assoc, List.cons_append]
  | cons part front ih =>
    rw [List.cons_append, intercalate_cons part (by simp), ih, List.cons_append, intercalate_cons part (by simp),
      List.append_assoc, List.cons_append]

/-- A comma of joined parts stands between two of them or inside of one. -/
theorem removed_or_kept (h : [','].intercalate parts = before ++ ',' :: after) :
    Removed parts before after ∨ Kept parts before after := by
  induction parts generalizing before with
  | nil => simp [List.intercalate_nil] at h
  | cons part parts ih =>
    by_cases last : parts = []
    · rw [last, List.intercalate_singleton] at h
      refine .inr ⟨[], before, after, [], by rw [last, h, List.nil_append], ?_, ?_⟩
      · rw [List.nil_append, List.intercalate_singleton]
      · rw [List.intercalate_singleton]
    rw [intercalate_cons part last] at h
    rcases comma_cases h with ⟨rfl, rfl⟩ | ⟨rest, rfl, rfl⟩ | ⟨start, rfl, later⟩
    · exact .inl ⟨[before], parts, by simp, last, rfl, by rw [List.intercalate_singleton], rfl⟩
    · refine .inr ⟨[], before, rest, parts, rfl, ?_, (intercalate_cons rest last).symm⟩
      rw [List.nil_append, List.intercalate_singleton]
    · exact (ih later).imp (·.cons part) (·.cons part)

namespace Cut

/-- In front of a comma between parts the text is at depth zero. -/
theorem depthOf_front (h : Cut text (front ++ back)) (hb : back ≠ []) : depthOf ([','].intercalate front) = 0 := by
  induction front generalizing text with
  | nil => rfl
  | cons part front ih =>
    obtain ⟨closed, rest, cut⟩ := h.tail (by simp [hb])
    by_cases last : front = []
    · rw [last, List.intercalate_singleton, closed]
    · rw [intercalate_cons part last, depthOf_comma, closed, ih cut, Int.add_zero]

/-- In front of a comma inside of a part the text is at another depth. -/
theorem depthOf_inside {start rest : List Char} (h : Cut text (front ++ (start ++ ',' :: rest) :: back)) :
    depthOf ([','].intercalate (front ++ [start])) ≠ 0 := by
  have whole := h.whole (start ++ ',' :: rest) (by simp)
  by_cases first : front = []
  · rw [first, List.nil_append, List.intercalate_singleton]
    exact whole start rest rfl
  · have joined : Removed (front ++ [start]) ([','].intercalate front) start :=
      ⟨front, [start], first, by simp, rfl, rfl, List.intercalate_singleton.symm⟩
    rw [joined.joined, depthOf_comma, h.depthOf_front (by simp), Int.zero_add]
    exact whole start rest rfl

theorem removed_iff (h : Cut text parts) :
    Removed parts before after ↔ text = before ++ ',' :: after ∧ depthOf before = 0 := by
  constructor
  · intro removed
    refine ⟨h.intercalate.symm.trans removed.joined, ?_⟩
    obtain ⟨front, back, -, hb, rfl, rfl, -⟩ := removed
    exact h.depthOf_front hb
  · rintro ⟨same, outside⟩
    rcases removed_or_kept (h.intercalate.trans same) with removed | ⟨front, start, rest, back, rfl, rfl, -⟩
    · exact removed
    · exact absurd outside h.depthOf_inside

theorem kept_iff (h : Cut text parts) :
    Kept parts before after ↔ text = before ++ ',' :: after ∧ depthOf before ≠ 0 := by
  constructor
  · intro kept
    refine ⟨h.intercalate.symm.trans kept.joined, ?_⟩
    obtain ⟨front, start, rest, back, rfl, rfl, -⟩ := kept
    exact h.depthOf_inside
  · rintro ⟨same, inside⟩
    rcases removed_or_kept (h.intercalate.trans same) with ⟨front, back, -, hb, rfl, rfl, -⟩ | kept
    · exact absurd (h.depthOf_front hb) inside
    · exact kept

end Cut

/-- A text is cut in one way only. -/
theorem Cut.unique {parts' : List (List Char)} (h : Cut text parts) (h' : Cut text parts') : parts = parts' := by
  induction h generalizing parts' with
  | last whole =>
    cases h' with
    | last => rfl
    | more _ closed _ => exact absurd closed (whole _ _ rfl)
  | @more part text parts whole closed rest ih =>
    generalize both : part ++ ',' :: text = whole_text at h'
    cases h' with
    | last whole' => exact absurd closed (whole' _ _ both.symm)
    | @more part' text' parts' whole' closed' rest' =>
      rcases comma_cases both with ⟨rfl, rfl⟩ | ⟨inner, rfl, -⟩ | ⟨inner, rfl, -⟩
      · rw [ih rest']
      · exact absurd closed' (whole _ _ rfl)
      · exact absurd closed (whole' _ _ rfl)

/-! ### Blank parts -/

theorem trimLeft_eq_nil_iff {text : List Char} : Text.trimLeft text = [] ↔ Text.isBlankText text = true := by
  rw [Text.trimLeft, List.dropWhile_eq_nil_iff, Text.isBlankText, List.all_eq_true]

/-- Nothing is left of a text that is trimmed if and only if it is blank. -/
theorem isEmpty_trim (text : List Char) : (Text.trim text).isEmpty = Text.isBlankText text := by
  rw [Bool.eq_iff_iff, List.isEmpty_iff, Text.trim, Text.trimRight, List.reverse_eq_nil_iff, trimLeft_eq_nil_iff,
    Text.isBlankText, List.all_reverse, ← trimLeft_eq_nil_iff]
  refine ⟨fun blank => ?_, fun nothing => by rw [nothing]; rfl⟩
  cases left : Text.trimLeft text with
  | nil => rfl
  | cons c rest =>
    -- what is left begins with a character that is not blank
    have first := List.head?_dropWhile_not Text.isBlank text
    rw [← Text.trimLeft, left] at first
    rw [left, List.all_cons, Bool.and_eq_true] at blank
    simp [blank.1] at first

/-! ### Slices -/

/-- Where the parts of a text begin and end, in bytes: the part that is being read begins at `start`, and what is
left of the text at `here`. A comma is one byte. -/
def partPlaces (depth : Int32) (start here : String.Pos.Raw) :
    List Char → Except Abort (List (String.Pos.Raw × String.Pos.Raw))
  | [] => .ok [(start, here)]
  | c :: rest =>
    if c = ',' ∧ depth = 0 then (partPlaces depth here.inc (here + c) rest).map ((start, here) :: ·)
    else
      match depthAfter depth c with
      | .ok depth => partPlaces depth start (here + c) rest
      | .error abort => .error abort

/-- The part is what stands between two places of the text, and at both of them a character begins or the text
ends. -/
structure IsSlice (text : String) (place : String.Pos.Raw × String.Pos.Raw) (part : List Char) : Prop where
  start : place.1.IsValid text
  stop : place.2.IsValid text
  ordered : place.1 ≤ place.2
  between : String.Pos.Raw.extract text place.1 place.2 = String.ofList part

/-- A part that was read, reversed, is a slice from where it begins up to where it ends. -/
theorem isSlice_of_read {text : List Char} (same : text = before ++ part.reverse ++ after) :
    IsSlice (String.ofList text) (⟨String.utf8Len before⟩, ⟨String.utf8Len before + String.utf8Len part⟩)
      part.reverse := by
  subst same
  rw [← String.utf8Len_reverse part]
  refine ⟨?_, ?_, Nat.le_add_right _ _, String.extract_of_valid before part.reverse after⟩ <;>
    refine String.Pos.Raw.isValid_iff_exists_append.mpr ?_
  · exact ⟨String.ofList before, String.ofList (part.reverse ++ after),
      by rw [← String.ofList_append, List.append_assoc], (String.rawEndPos_ofList before).symm⟩
  · exact ⟨String.ofList (before ++ part.reverse), String.ofList after, String.ofList_append,
      by rw [String.rawEndPos_ofList, String.utf8Len_append]⟩

/-- The slices are the parts, from the part on that is being read. -/
theorem slices_partPlaces {text rest : List Char} {d : Int32} (before part : List Char)
    (same : text = before ++ part.reverse ++ rest) (run : splitParts d part rest = .ok parts) :
    ∃ places, partPlaces d ⟨String.utf8Len before⟩ ⟨String.utf8Len before + String.utf8Len part⟩ rest = .ok places ∧
      List.Forall₂ (IsSlice (String.ofList text)) places parts := by
  induction rest generalizing d before part parts with
  | nil =>
    cases run
    exact ⟨_, rfl, .cons (isSlice_of_read same) .nil⟩
  | cons c rest ih =>
    rw [splitParts] at run
    rw [partPlaces]
    split at run
    · next comma =>
      rw [if_pos comma]
      obtain ⟨rfl, -⟩ := comma
      obtain ⟨others, later, rfl⟩ : ∃ others, splitParts d [] rest = .ok others ∧ parts = part.reverse :: others := by
        cases others : splitParts d [] rest with
        | error a => rw [others] at run; cases run
        | ok others => rw [others] at run; cases run; exact ⟨_, rfl, rfl⟩
      have next := ih (before ++ part.reverse ++ [',']) [] (by simp [same]) later
      rw [String.utf8Len_append, String.utf8Len_append, String.utf8Len_reverse] at next
      obtain ⟨places, told, slices⟩ := next
      exact ⟨_, congrArg (Except.map _) told, .cons (isSlice_of_read same) slices⟩
    · next inside =>
      rw [if_neg inside]
      cases deeper : depthAfter d c with
      | error a => rw [deeper] at run; cases run
      | ok e =>
        rw [deeper] at run
        have next := ih before (c :: part) (by simp [same]) run
        rwa [String.utf8Len_cons, ← Nat.add_assoc] at next

/-! ### Splitting -/

/-- The parts of a list that is split: with commas between them they are the list; the commas that are removed are
those at depth zero, and those inside of parts are the others; the blank parts are left out of the result; and all
parts are slices of the list. -/
structure Lossless (list : String) (parts : List (List Char)) : Prop where
  joined : [','].intercalate parts = list.toList
  removed : ∀ before after, Removed parts before after ↔ list.toList = before ++ ',' :: after ∧ depthOf before = 0
  kept : ∀ before after, Kept parts before after ↔ list.toList = before ++ ',' :: after ∧ depthOf before ≠ 0
  filled : splitTopLevel list.toList = .ok (parts.filter fun part => !(Text.trim part).isEmpty)
  slices : ∃ places, partPlaces 0 0 0 list.toList = .ok places ∧ List.Forall₂ (IsSlice list) places parts

theorem lossless_of_splitParts {list : String} (run : splitParts 0 [] list.toList = .ok parts) :
    Lossless list parts := by
  have cut := cut_of_splitParts run
  refine ⟨cut.intercalate, fun _ _ => cut.removed_iff, fun _ _ => cut.kept_iff, ?_, ?_⟩
  · simp only [splitTopLevel, isEmpty_trim, run]
    rfl
  · have slices := slices_partPlaces [] []
      (show list.toList = [] ++ [].reverse ++ list.toList from rfl) run
    rw [String.ofList_toList] at slices
    exact slices

theorem splitTopLevel_error_iff {a : Abort} : splitTopLevel text = .error a ↔ Uncounted 0 text a := by
  rcases splitParts_zero_cases text with ⟨parts, run, -, counted⟩ | ⟨b, run, uncounted⟩
  · rw [splitTopLevel, run]
    exact ⟨nofun, fun uncounted => absurd counted uncounted.not_counted⟩
  · rw [splitTopLevel, run]
    refine ⟨fun aborted => ?_, fun other => ?_⟩
    · cases aborted
      exact uncounted
    · rw [uncounted.unique other]
      rfl

/-- Brackets of different kinds count alike, and behind one that closes too much no comma is removed. -/
example : splitTopLevel "a: (B, C], ä: D>, e".toList = .ok ["a: (B, C]".toList, " ä: D>, e".toList] ∧
    partPlaces 0 0 0 "a: (B, C], ä: D>, e".toList = .ok [(⟨0⟩, ⟨9⟩), (⟨10⟩, ⟨20⟩)] := by decide +kernel

end ChainIndex.Script
