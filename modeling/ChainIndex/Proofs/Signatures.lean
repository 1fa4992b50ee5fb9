import ChainIndex.Proofs.Splitting

/-!
# A written signature is read back

The parameters of a transaction are written between parentheses, with commas between them and blanks around them.
A comma of a type stands inside of brackets, so the list is split between the parameters only; a parameter's first
colon stands behind its identifier; and the list ends at its own parenthesis if no other one in it looks like the end.
-/

set_option autoImplicit false

namespace ChainIndex.Script

/-! ### Written parameters -/

/-- A character that is neither a colon nor a comma nor a bracket. -/
def IsPlain (c : Char) : Prop := c ≠ ':' ∧ c ≠ ',' ∧ isOpening c = false ∧ isClosing c = false

instance (c : Char) : Decidable (IsPlain c) := inferInstanceAs (Decidable (_ ∧ _))

def IsBlank (text : String) : Prop := ∀ c ∈ text.toList, Text.isBlank c = true

instance (text : String) : Decidable (IsBlank text) :=
  decidable_of_iff (text.toList.all Text.isBlank = true) List.all_eq_true

/-- A name has no blanks, colons, commas or brackets. -/
structure IsName (name : String) : Prop where
  filled : name ≠ ""
  plain : ∀ c ∈ name.toList, Text.isBlank c = false ∧ IsPlain c

instance (name : String) : Decidable (IsName name) :=
  decidable_of_iff (name ≠ "" ∧ name.toList.all (fun c => decide (Text.isBlank c = false ∧ IsPlain c)) = true)
    ⟨fun h => ⟨h.1, by simpa using h.2⟩, fun h => ⟨h.1, by simpa using h.2⟩⟩

/-- In a type as many brackets are opened as closed, but not so in front of any of its commas. -/
structure IsType (type : String) : Prop where
  filled : type ≠ ""
  first : ∀ c ∈ type.toList.head?, Text.isBlank c = false
  last : ∀ c ∈ type.toList.getLast?, Text.isBlank c = false
  balanced : type.toList.countP isOpening = type.toList.countP isClosing
  commas : ∀ before, before ++ [','] <+: type.toList → before.countP isOpening ≠ before.countP isClosing

instance (type : String) : Decidable (IsType type) :=
  decidable_of_iff
    (type ≠ "" ∧ type.toList.head?.all (!Text.isBlank ·) = true ∧
      type.toList.getLast?.all (!Text.isBlank ·) = true ∧
      type.toList.countP isOpening = type.toList.countP isClosing ∧
      ∀ before ∈ type.toList.inits, before ++ [','] <+: type.toList →
        before.countP isOpening ≠ before.countP isClosing)
    ⟨fun ⟨filled, first, last, balanced, commas⟩ =>
        ⟨filled, by simpa [Option.all_eq_true] using first, by simpa [Option.all_eq_true] using last, balanced, fun before h =>
          commas before ((List.mem_inits _ _).mpr ((List.prefix_append _ _).trans h)) h⟩,
      fun h => ⟨h.filled, by simpa [Option.all_eq_true] using h.first, by simpa [Option.all_eq_true] using h.last,
        h.balanced, fun before _ => h.commas before⟩⟩

/-- A parameter as a script declares it. -/
structure Declaration where
  label : Option String
  identifier : String
  type : String

namespace Declaration

structure WellFormed (d : Declaration) : Prop where
  label : ∀ label ∈ d.label, IsName label
  identifier : IsName d.identifier
  type : IsType d.type

instance (d : Declaration) : Decidable d.WellFormed :=
  decidable_of_iff ((∀ label ∈ d.label, IsName label) ∧ IsName d.identifier ∧ IsType d.type)
    ⟨fun h => ⟨h.1, h.2.1, h.2.2⟩, fun h => ⟨h.1, h.2, h.3⟩⟩

def labelText (d : Declaration) : String :=
  match d.label with
  | some label => label ++ " "
  | none => ""

def text (d : Declaration) : String := d.labelText ++ d.identifier ++ ": " ++ d.type

def parameter (d : Declaration) : Parameter := ⟨d.identifier, d.type⟩

end Declaration

/-- A declaration in a list, with the blanks around it. -/
structure Listed where
  before : String
  declaration : Declaration
  after : String

namespace Listed

structure WellFormed (l : Listed) : Prop where
  before : IsBlank l.before
  declaration : l.declaration.WellFormed
  after : IsBlank l.after

instance (l : Listed) : Decidable l.WellFormed :=
  decidable_of_iff (IsBlank l.before ∧ l.declaration.WellFormed ∧ IsBlank l.after)
    ⟨fun h => ⟨h.1, h.2.1, h.2.2⟩, fun h => ⟨h.1, h.2, h.3⟩⟩

def text (l : Listed) : String := l.before ++ l.declaration.text ++ l.after

end Listed

def listText (l : List Listed) : String := ",".intercalate (l.map Listed.text)

/-- No closing parenthesis in the list looks like its end: behind it and behind blanks stands neither a body nor a
phase. -/
def NoEnd (list : String) : Prop :=
  ∀ blanks : String, IsBlank blanks → ∀ next ∈ ["\x7b", "prepare", "execute"],
    ¬ (')' :: (blanks.toList ++ next.toList)) <:+: list.toList

/-! ### Where the list ends -/

theorem after?_append (start rest : List Char) : after? start (start ++ rest) = some rest := by
  induction start with
  | nil => rfl
  | cons s start ih => rw [List.cons_append, after?, if_pos rfl, ih]

theorem search_of_here {α : Type} {find : Option Char → List Char → Option α} {before : Option Char} {text : List Char}
    {found : α} (h : find before text = some found) : search find before text = some found := by
  rw [search.eq_def, h]

/-- The list goes up to a parenthesis that is accepted, if none before it is. -/
theorem closing?_append {accept : List Char → Bool} {list tail : List Char} (here : accept tail = true)
    (before : ∀ front back, list = front ++ ')' :: back → accept (back ++ ')' :: tail) = false) (read : List Char) :
    closing? accept read (list ++ ')' :: tail) = some (read.reverse ++ list) := by
  induction list generalizing read with
  | nil => rw [List.nil_append, closing?, if_pos ⟨rfl, here⟩, List.append_nil]
  | cons c list ih =>
    have not : ¬ (c = ')' ∧ accept (list ++ ')' :: tail) = true) := by
      rintro ⟨rfl, accepted⟩
      rw [before [] list rfl] at accepted
      cases accepted
    rw [List.cons_append, closing?, if_neg not, ih fun front back h => before (c :: front) back (congrArg (c :: ·) h),
      List.reverse_cons, List.append_assoc]
    rfl

/-- What begins in front of a character that it does not have ends there. -/
theorem prefix_of_prefix_append_cons {text front back : List Char} {c : Char} (h : text <+: front ++ c :: back)
    (hc : c ∉ text) : text <+: front := by
  have upTo : front ++ [c] <+: front ++ c :: back := ⟨back, List.append_assoc ..⟩
  rcases List.prefix_or_prefix_of_prefix h upTo with inside | beyond
  · rcases List.prefix_concat_iff.mp inside with rfl | inside
    · exact absurd (by simp) hc
    · exact inside
  · exact absurd (beyond.subset (by simp)) hc

theorem isTransactionRest_eq_false_iff {text : List Char} :
    isTransactionRest text = false ↔
      ∀ next ∈ ["\x7b", "prepare", "execute"], Text.startsWith next.toList (Text.trimLeft text) = false := by
  have body : "\x7b".toList = ['\x7b'] := rfl
  simp only [isTransactionRest, Bool.or_eq_false_iff, List.forall_mem_cons, body, and_assoc]
  simp

/-- A list without an end has no parenthesis that is accepted. -/
theorem NoEnd.rejects {list : String} (noEnd : NoEnd list) {front back : List Char}
    (split : list.toList = front ++ ')' :: back) (tail : List Char) :
    isTransactionRest (back ++ ')' :: tail) = false := by
  have apart : ∀ next ∈ ["\x7b", "prepare", "execute"], next.toList ≠ [] ∧ ')' ∉ next.toList := by decide
  refine isTransactionRest_eq_false_iff.mpr fun next hn => Bool.eq_false_iff.mpr fun found => ?_
  have start := List.isPrefixOf_iff_prefix.mp found
  rw [Text.trimLeft, List.dropWhile_append] at start
  split at start
  · -- behind blanks only, the list's own parenthesis follows
    rw [List.dropWhile_cons_of_neg (by decide)] at start
    have nothing : next.toList <+: [] := prefix_of_prefix_append_cons start (apart next hn).2
    exact (apart next hn).1 (List.prefix_nil.mp nothing)
  · obtain ⟨more, same⟩ := prefix_of_prefix_append_cons start (apart next hn).2
    refine noEnd (String.ofList (back.takeWhile Text.isBlank)) ?_ next hn ⟨front, more, ?_⟩
    · rw [IsBlank, String.toList_ofList]
      exact List.all_eq_true.mp List.all_takeWhile
    · rw [split, String.toList_ofList, List.append_assoc, List.cons_append, List.append_assoc, same,
        List.takeWhile_append_dropWhile]

/-! ### Where the list is split -/

/-- Text at which a list is not split, and which closes what it opens. -/
structure Closed (text : List Char) : Prop where
  depth : depthOf text = 0
  whole : Whole text

theorem Closed.append {text more : List Char} (h : Closed text) (h' : Closed more) : Closed (text ++ more) where
  depth := by rw [depthOf_append, h.depth, h'.depth, Int.zero_add]
  whole := h.whole.append h.depth h'.whole

/-- A character that is neither a comma nor a bracket. -/
def IsLevel (c : Char) : Prop := c ≠ ',' ∧ isOpening c = false ∧ isClosing c = false

section
variable {text more : List Char}

theorem depthOf_of_level (level : ∀ c ∈ text, IsLevel c) : depthOf text = 0 := by
  rw [depthOf, List.countP_eq_zero.mpr fun c hc => by simp [(level c hc).2.1],
    List.countP_eq_zero.mpr fun c hc => by simp [(level c hc).2.2]]
  rfl

theorem Closed.of_level (level : ∀ c ∈ text, IsLevel c) : Closed text where
  depth := depthOf_of_level level
  whole before after split := absurd rfl (level ',' (by simp [split])).1

theorem counted_of_level (level : ∀ c ∈ text, IsLevel c) : Counted 0 text := by
  intro before h
  rw [depthOf_of_level fun c hc => level c (h.subset hc)]
  omega

theorem counted_append_closed_iff (h : Closed text) :
    Counted 0 (text ++ more) ↔ Counted 0 text ∧ Counted 0 more := by
  rw [counted_append_iff, h.depth, Int.add_zero]

end

/-- Closed texts with commas between them are cut at these commas. -/
theorem cut_intercalate {text : List Char} {parts : List (List Char)} (all : ∀ part ∈ text :: parts, Closed part) :
    Cut ([','].intercalate (text :: parts)) (text :: parts) := by
  obtain ⟨first, others⟩ := List.forall_mem_cons.mp all
  induction parts generalizing text with
  | nil =>
    rw [List.intercalate_singleton]
    exact .last first.whole
  | cons next parts ih =>
    obtain ⟨second, rest⟩ := List.forall_mem_cons.mp others
    rw [intercalate_cons text (List.cons_ne_nil _ _)]
    exact .more first.whole first.depth (ih others second rest)

theorem counted_intercalate_iff {parts : List (List Char)} (all : ∀ part ∈ parts, Closed part) :
    Counted 0 ([','].intercalate parts) ↔ ∀ part ∈ parts, Counted 0 part := by
  induction parts with
  | nil => exact ⟨fun _ => nofun, fun _ => counted_nil_iff.mpr (by omega)⟩
  | cons part parts ih =>
    obtain ⟨first, others⟩ := List.forall_mem_cons.mp all
    rw [List.forall_mem_cons]
    by_cases last : parts = []
    · simp [last]
    · rw [intercalate_cons part last, counted_append_closed_iff first, counted_cons_iff]
      show _ ∧ (_ ∧ Counted (0 + 0) _) ↔ _
      rw [Int.add_zero, ih others]
      exact and_congr_right fun _ => and_iff_right (by omega)

/-! ### How a parameter is read -/

section
variable {front back core name : List Char}

theorem trimLeft_append (blank : ∀ c ∈ front, Text.isBlank c = true)
    (first : ∀ c ∈ core.head?, Text.isBlank c = false) :
    Text.trimLeft (front ++ core) = core := by
  rw [Text.trimLeft, List.dropWhile_append_of_pos blank]
  cases core with
  | nil => rfl
  | cons c core => exact List.dropWhile_cons_of_neg (by simp [first c rfl])

/-- Blanks on both sides are trimmed. -/
theorem trim_append (before : ∀ c ∈ front, Text.isBlank c = true) (after : ∀ c ∈ back, Text.isBlank c = true)
    (filled : core ≠ []) (first : ∀ c ∈ core.head?, Text.isBlank c = false)
    (last : ∀ c ∈ core.getLast?, Text.isBlank c = false) : Text.trim (front ++ (core ++ back)) = core := by
  have start : ∀ c ∈ (core ++ back).head?, Text.isBlank c = false := by
    rwa [List.head?_append_of_ne_nil _ filled]
  rw [Text.trim, trimLeft_append before start, Text.trimRight, List.reverse_append,
    trimLeft_append (fun c hc => after c (List.mem_reverse.mp hc)) (by rwa [List.head?_reverse]), List.reverse_reverse]

/-- A text without blanks is one word. -/
theorem splitWords_plain (plain : ∀ c ∈ name, Text.isBlank c = false) {word : List Char}
    (filled : word.reverse ++ name ≠ []) :
    Text.splitWords word name = [word.reverse ++ name] := by
  induction name generalizing word with
  | nil =>
    rw [List.append_nil] at filled ⊢
    rw [Text.splitWords, if_neg (by simpa using filled)]
  | cons c name ih =>
    obtain ⟨here, rest⟩ := List.forall_mem_cons.mp plain
    rw [Text.splitWords, here, if_neg Bool.false_ne_true, ih rest (by simp)]
    simp

/-- The last word is what stands behind the last blank. -/
theorem splitWords_append (plain : ∀ c ∈ name, Text.isBlank c = false) (filled : name ≠ []) {blank : Char}
    (isBlank : Text.isBlank blank = true) (word : List Char) :
    ∃ words, Text.splitWords word (front ++ blank :: name) = words ++ [name] := by
  induction front generalizing word with
  | nil =>
    rw [List.nil_append, Text.splitWords, if_pos isBlank, splitWords_plain plain (by simpa using filled)]
    split
    · exact ⟨[], rfl⟩
    · exact ⟨[word.reverse], rfl⟩
  | cons c front ih =>
    rw [List.cons_append, Text.splitWords]
    split
    · obtain ⟨words, same⟩ := ih []
      rw [same]
      split
      · exact ⟨words, rfl⟩
      · exact ⟨word.reverse :: words, rfl⟩
    · exact ih (c :: word)

/-- The last word of a text that ends with a name, alone or behind a blank. -/
theorem getLast?_words (plain : ∀ c ∈ name, Text.isBlank c = false) (filled : name ≠ [])
    (apart : ∀ c ∈ front.getLast?, Text.isBlank c = true) : (Text.words (front ++ name)).getLast? = some name := by
  rcases List.eq_nil_or_concat front with rfl | ⟨front, blank, rfl⟩
  · rw [Text.words, List.nil_append, splitWords_plain plain (by simpa using filled)]
    rfl
  · have isBlank := apart blank (by simp)
    obtain ⟨words, same⟩ : ∃ words, Text.splitWords [] (front ++ blank :: name) = words ++ [name] :=
      splitWords_append plain filled isBlank []
    rw [Text.words, List.concat_eq_append, List.append_assoc, List.singleton_append, same, List.getLast?_concat]

theorem atColon?_append (label type : List Char) (plain : ∀ c ∈ label, c ≠ ':') :
    atColon? (label ++ ':' :: type) = some (label, type) := by
  have all : ∀ c ∈ label, decide (c ≠ ':') = true := fun c hc => decide_eq_true (plain c hc)
  rw [atColon?, List.span_eq_takeWhile_dropWhile, List.takeWhile_append_of_pos all, List.dropWhile_append_of_pos all]
  simp

end

/-! ### Written parameters are read -/

theorem isPlain_of_isBlank {c : Char} (h : Text.isBlank c = true) : IsPlain c := by
  refine ⟨?_, ?_, ?_, ?_⟩
  · rintro rfl
    cases h
  · rintro rfl
    cases h
  · rw [Bool.eq_false_iff]
    intro opening
    simp only [isOpening, Bool.or_eq_true, decide_eq_true_eq] at opening
    rcases opening with ((rfl | rfl) | rfl) | rfl <;> cases h
  · rw [Bool.eq_false_iff]
    intro closing
    simp only [isClosing, Bool.or_eq_true, decide_eq_true_eq] at closing
    rcases closing with ((rfl | rfl) | rfl) | rfl <;> cases h

/-- In front of the colon of a parameter stands plain text. -/
theorem Declaration.WellFormed.isPlain {d : Declaration} (h : d.WellFormed) :
    ∀ c ∈ d.labelText.toList ++ d.identifier.toList, IsPlain c := by
  have name {name : String} (isName : IsName name) : ∀ c ∈ name.toList, IsPlain c := fun c hc =>
    (isName.plain c hc).2
  intro c hc
  rcases List.mem_append.mp hc with hc | hc
  · cases hl : d.label with
    | none =>
      rw [labelText, hl] at hc
      cases hc
    | some label =>
      rw [labelText, hl, String.toList_append] at hc
      rcases List.mem_append.mp hc with hc | hc
      · exact name (h.label label hl) c hc
      · exact isPlain_of_isBlank (by rw [List.mem_singleton.mp hc]; rfl)
  · exact name h.identifier c hc

theorem Declaration.getLast?_labelText (d : Declaration) :
    ∀ c ∈ d.labelText.toList.getLast?, Text.isBlank c = true := by
  unfold labelText
  split
  · next label _ =>
    rw [String.toList_append]
    intro c hc
    obtain rfl : ' ' = c := by simpa using hc
    rfl
  · simp

namespace Listed
variable {l : Listed}

/-- The text in front of the colon and the text behind it. -/
theorem toList_text (l : Listed) :
    l.text.toList = (l.before.toList ++ (l.declaration.labelText.toList ++ l.declaration.identifier.toList)) ++
      ':' :: ([' '] ++ (l.declaration.type.toList ++ l.after.toList)) := by
  simp [text, Declaration.text]

/-- What stands in front of the colon. -/
theorem isPlain_head (h : l.WellFormed) :
    ∀ c ∈ l.before.toList ++ (l.declaration.labelText.toList ++ l.declaration.identifier.toList), IsPlain c := by
  intro c hc
  rcases List.mem_append.mp hc with hc | hc
  · exact isPlain_of_isBlank (h.before c hc)
  · exact h.declaration.isPlain c hc

theorem parameter?_text (h : l.WellFormed) : parameter? l.text.toList = some l.declaration.parameter := by
  have name : ∀ c ∈ l.declaration.identifier.toList, Text.isBlank c = false := fun c hc =>
    (h.declaration.identifier.plain c hc).1
  have apart : ∀ c ∈ (l.before.toList ++ l.declaration.labelText.toList).getLast?, Text.isBlank c = true := by
    rw [List.getLast?_append]
    cases last : l.declaration.labelText.toList.getLast? with
    | none => exact fun c hc => h.before c (List.mem_of_getLast? hc)
    | some blank =>
      rintro c ⟨⟩
      exact l.declaration.getLast?_labelText blank last
  have words : (Text.words (l.before.toList ++ (l.declaration.labelText.toList ++
      l.declaration.identifier.toList))).getLast? = some l.declaration.identifier.toList := by
    rw [← List.append_assoc]
    exact getLast?_words name (by simpa using h.declaration.identifier.filled) apart
  have type := h.declaration.type
  have trimmed : Text.trim ([' '] ++ (l.declaration.type.toList ++ l.after.toList)) = l.declaration.type.toList :=
    trim_append (by simp [Text.isBlank]) h.after (by simpa using type.filled) type.first type.last
  rw [toList_text, parameter?, atColon?_append _ _ fun c hc => (isPlain_head h c hc).1]
  simp only [words, trimmed]
  rw [if_neg (by simpa using type.filled)]
  simp [Declaration.parameter]

theorem closed_type (h : l.WellFormed) : Closed l.declaration.type.toList where
  depth := by
    have balanced := h.declaration.type.balanced
    rw [depthOf]
    omega
  whole before after split := by
    have inside := h.declaration.type.commas before ⟨after, by rw [split, List.append_assoc]; rfl⟩
    rw [depthOf]
    omega

/-- The type of a parameter, and what stands around it. -/
theorem exists_level_around (h : l.WellFormed) : ∃ front back : List Char,
    l.text.toList = front ++ (l.declaration.type.toList ++ back) ∧ (∀ c ∈ front, IsLevel c) ∧ ∀ c ∈ back, IsLevel c := by
  refine ⟨(l.before.toList ++ (l.declaration.labelText.toList ++ l.declaration.identifier.toList)) ++ [':', ' '],
    l.after.toList, by rw [toList_text]; simp, fun c hc => ?_, fun c hc => (isPlain_of_isBlank (h.after c hc)).2⟩
  rcases List.mem_append.mp hc with head | colon
  · exact (isPlain_head h c head).2
  · obtain rfl | rfl := List.mem_pair.mp colon
    · exact ⟨by decide, rfl, rfl⟩
    · exact ⟨by decide, rfl, rfl⟩

theorem closed_text (h : l.WellFormed) : Closed l.text.toList := by
  obtain ⟨front, back, same, before, after⟩ := exists_level_around h
  rw [same]
  exact (Closed.of_level before).append ((closed_type h).append (.of_level after))

/-- Only the brackets of its type can leave the words. -/
theorem counted_text_iff (h : l.WellFormed) :
    Counted 0 l.text.toList ↔ Counted 0 l.declaration.type.toList := by
  obtain ⟨front, back, same, before, after⟩ := exists_level_around h
  rw [same, counted_append_closed_iff (.of_level before), counted_append_closed_iff (closed_type h),
    and_iff_right (counted_of_level before), and_iff_left (counted_of_level after)]

theorem isBlankText_text (l : Listed) : Text.isBlankText l.text.toList = false := by
  rw [Text.isBlankText, List.all_eq_false]
  exact ⟨':', by simp [toList_text], by decide⟩

end Listed

theorem readParameters_map {l : List Listed} (h : ∀ p ∈ l, p.WellFormed) (read : List Parameter) :
    readParameters read (l.map (·.text.toList)) = ⟨some ⟨read.reverse ++ l.map (·.declaration.parameter)⟩, none⟩ := by
  induction l generalizing read with
  | nil => simp [readParameters]
  | cons p l ih =>
    obtain ⟨here, rest⟩ := List.forall_mem_cons.mp h
    rw [List.map_cons, readParameters, Listed.parameter?_text here]
    simp only [ih rest, List.reverse_cons, List.append_assoc, List.map_cons, List.singleton_append]

theorem toList_listText (l : List Listed) : (listText l).toList = [','].intercalate (l.map (·.text.toList)) := by
  simp [listText, Function.comp_def]

/-- The brackets of a list can be counted if and only if those of its types can. -/
theorem counted_listText_iff {l : List Listed} (h : ∀ p ∈ l, p.WellFormed) :
    Counted 0 (listText l).toList ↔ ∀ p ∈ l, Counted 0 p.declaration.type.toList := by
  rw [toList_listText, counted_intercalate_iff (List.forall_mem_map.mpr fun p hp => Listed.closed_text (h p hp)),
    List.forall_mem_map]
  exact forall₂_congr fun p hp => Listed.counted_text_iff (h p hp)

theorem splitTopLevel_listText {l : List Listed} (h : ∀ p ∈ l, p.WellFormed)
    (counted : Counted 0 (listText l).toList) : splitTopLevel (listText l).toList = .ok (l.map (·.text.toList)) := by
  obtain ⟨parts, run⟩ := splitParts_ok_iff.mpr counted
  have cut := cut_of_splitParts run
  rw [splitTopLevel, run]
  cases l with
  | nil =>
    cases run
    rfl
  | cons p l =>
    rw [toList_listText] at cut
    have written : Cut _ ((p :: l).map (·.text.toList)) :=
      cut_intercalate (List.forall_mem_map.mpr fun p hp => Listed.closed_text (h p hp))
    obtain rfl := cut.unique written
    refine congrArg Except.ok (List.filter_eq_self.mpr ?_)
    exact List.forall_mem_map.mpr fun p _ => by rw [p.isBlankText_text]; rfl

/-- Reading a written transaction splits its list. -/
theorem read_transaction {l : List Listed} (noEnd : NoEnd (listText l)) {blanks : String} (blank : IsBlank blanks)
    (rest : String) : read ("transaction(" ++ listText l ++ ")" ++ blanks ++ "\x7b" ++ rest) =
      (splitTopLevel (listText l).toList).map (readParameters []) := by
  have source : ("transaction(" ++ listText l ++ ")" ++ blanks ++ "\x7b" ++ rest).toList =
      "transaction".toList ++ ('(' :: ((listText l).toList ++ ')' :: (blanks.toList ++ '\x7b' :: rest.toList))) := by
    simp
  have body : isTransactionRest (blanks.toList ++ '\x7b' :: rest.toList) = true := by
    rw [isTransactionRest, trimLeft_append blank (by simp [Text.isBlank])]
    rfl
  have begins : transactionList? none ("transaction".toList ++ ('(' :: ((listText l).toList ++
      ')' :: (blanks.toList ++ '\x7b' :: rest.toList)))) = some (listText l).toList := by
    have closes := closing?_append body (fun front back split => noEnd.rejects split _) []
    rw [transactionList?, word?, Option.any_none, if_neg Bool.false_ne_true, after?_append, Option.bind_some, list?,
      Text.trimLeft, List.dropWhile_cons_of_neg (by decide)]
    exact closes
  rw [read, source, parameterList?, search_of_here begins]

/-- Whether a list has an end is seen from what stands behind its parentheses. -/
theorem noEnd_of_tails {list : String}
    (h : ∀ rest ∈ list.toList.tails, rest.head? = some ')' → isTransactionRest rest.tail = false) : NoEnd list := by
  rintro blanks blank next hn ⟨front, back, split⟩
  have tail : ')' :: (blanks.toList ++ (next.toList ++ back)) ∈ list.toList.tails :=
    (List.mem_tails _ _).mpr ⟨front, by simp [← split]⟩
  have rejected := isTransactionRest_eq_false_iff.mp (h _ tail rfl) next hn
  have first : ∀ next ∈ ["\x7b", "prepare", "execute"], next.toList.head?.all (!Text.isBlank ·) = true := by decide
  have filled : ∀ next ∈ ["\x7b", "prepare", "execute"], next.toList ≠ [] := by decide
  have behind : ∀ c ∈ (next.toList ++ back).head?, Text.isBlank c = false := by
    rw [List.head?_append_of_ne_nil _ (filled next hn)]
    simpa [Option.all_eq_true] using first next hn
  rw [List.tail_cons, trimLeft_append blank behind] at rejected
  exact absurd (List.isPrefixOf_iff_prefix.mpr (List.prefix_append _ _)) (Bool.eq_false_iff.mp rejected)

def sender : Declaration := ⟨some "from", "sender", "Address"⟩

def check : Declaration := ⟨none, "check", "((Int, Bool): \x7bString: [Int]\x7d)"⟩

def checkedList : List Listed := [⟨"\n  ", sender, ""⟩, ⟨" ", check, "\n"⟩]

end ChainIndex.Script
