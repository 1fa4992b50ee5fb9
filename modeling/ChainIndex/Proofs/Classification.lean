import ChainIndex.Proofs.Matching
import ChainIndex.Proofs.RemovedKeys

/-!
# What an event is taken for

Six types of events tell that an account changed. Each wants an address and one thing more from its payload
(`Classifier.changes`); a payload without them is refused. Every other type is a movement of tokens, if one of the
two patterns is found in it, or it is not recognized; its payload is never refused. What the default patterns are
found in is said without patterns (`Pattern.Moves`).
-/

set_option autoImplicit false

namespace ChainIndex

/-! ### Patterns of texts -/

namespace Pattern

/-- The word stands in a text between two places. -/
def Stands (word text : List Char) (i j : Nat) : Prop :=
  ∃ before after, text = before ++ word ++ after ∧ i = before.length ∧ j = i + word.length

/-- Wherever it begins, the pattern matches the words of a language. -/
def Denotes (p : Pattern) (words : List Char → Prop) : Prop :=
  ∀ text i j, i ≤ text.length → (Spans text.toArray p i j ↔ ∃ word, words word ∧ Stands word text i j)

namespace Stands
variable {s t text : List Char} {i j k : Nat}

theorem le (h : Stands s text i j) : j ≤ text.length := by
  obtain ⟨before, after, rfl, rfl, rfl⟩ := h
  simp

theorem append (h : Stands s text i j) (h' : Stands t text j k) : Stands (s ++ t) text i k := by
  obtain ⟨before, after, rfl, rfl, rfl⟩ := h
  obtain ⟨front, back, split, length, rfl⟩ := h'
  have split : (before ++ s) ++ after = front ++ (t ++ back) := by simpa using split
  have length : (before ++ s).length = front.length := by simpa using length
  obtain ⟨-, rest⟩ := List.append_inj split length
  refine ⟨before, back, by simp [rest], rfl, by simp [Nat.add_assoc]⟩

theorem split (h : Stands (s ++ t) text i k) : ∃ j, Stands s text i j ∧ Stands t text j k := by
  obtain ⟨before, after, rfl, rfl, rfl⟩ := h
  exact ⟨_, ⟨before, t ++ after, by simp, rfl, rfl⟩, before ++ s, after, by simp, by simp, by simp [Nat.add_assoc]⟩

theorem nil_iff (h : i ≤ text.length) : Stands [] text i j ↔ i = j := by
  constructor
  · rintro ⟨-, -, -, -, rfl⟩
    rfl
  · rintro rfl
    exact ⟨text.take i, text.drop i, by simp, by simp [h], by simp⟩

theorem singleton_iff {c : Char} : Stands [c] text i j ↔ text[i]? = some c ∧ i + 1 = j := by
  constructor
  · rintro ⟨before, after, rfl, rfl, rfl⟩
    simp
  · rintro ⟨here, rfl⟩
    obtain ⟨low, rfl⟩ := List.getElem?_eq_some_iff.mp here
    refine ⟨text.take i, text.drop (i + 1), ?_, by simp [Nat.le_of_lt low], rfl⟩
    simp
end Stands

namespace Denotes
variable {p q : Pattern} {P Q : List Char → Prop} {set : CharSet}

theorem empty : Denotes empty (· = []) := by
  intro text i j low
  simp [Spans, Stands.nil_iff low]

theorem char (set : CharSet) : Denotes (char set) fun word => ∃ c, set.contains c = true ∧ word = [c] := by
  intro text i j _
  simp only [Spans, List.getElem?_toArray]
  constructor
  · rintro ⟨c, here, member, rfl⟩
    exact ⟨[c], ⟨c, member, rfl⟩, Stands.singleton_iff.mpr ⟨here, rfl⟩⟩
  · rintro ⟨-, ⟨c, member, rfl⟩, stands⟩
    obtain ⟨here, rfl⟩ := Stands.singleton_iff.mp stands
    exact ⟨c, here, member, rfl⟩

theorem seq (hp : Denotes p P) (hq : Denotes q Q) :
    Denotes (seq p q) fun word => ∃ s t, P s ∧ Q t ∧ word = s ++ t := by
  intro text i k low
  constructor
  · rintro ⟨j, first, second⟩
    obtain ⟨s, hs, front⟩ := (hp text i j low).mp first
    obtain ⟨t, ht, back⟩ := (hq text j k front.le).mp second
    exact ⟨s ++ t, ⟨s, t, hs, ht, rfl⟩, front.append back⟩
  · rintro ⟨-, ⟨s, t, hs, ht, rfl⟩, stands⟩
    obtain ⟨j, front, back⟩ := stands.split
    exact ⟨j, (hp text i j low).mpr ⟨s, hs, front⟩, (hq text j k front.le).mpr ⟨t, ht, back⟩⟩

/-- Any number of characters of a set. -/
theorem star_char (set : CharSet) : Denotes (star (.char set)) fun word => ∀ c ∈ word, set.contains c = true := by
  intro text i j low
  constructor
  · intro path
    induction path with
    | refl => exact ⟨[], nofun, (Stands.nil_iff low).mpr rfl⟩
    | tail _ last ih =>
      obtain ⟨word, members, stands⟩ := ih
      obtain ⟨-, ⟨c, member, rfl⟩, next⟩ := (char set text _ _ stands.le).mp last
      refine ⟨word ++ [c], fun d hd => ?_, stands.append next⟩
      rcases List.mem_append.mp hd with hd | hd
      · exact members d hd
      · exact List.mem_singleton.mp hd ▸ member
  · rintro ⟨word, members, stands⟩
    induction word generalizing i with
    | nil => exact (Stands.nil_iff low).mp stands ▸ .refl
    | cons c word ih =>
      obtain ⟨k, first, rest⟩ := Stands.split (s := [c]) stands
      exact .head ((char set text i k low).mpr ⟨[c], ⟨c, members c List.mem_cons_self, rfl⟩, first⟩)
        (ih k first.le (fun d hd => members d (List.mem_cons_of_mem c hd)) rest)

/-- A pattern is found in a text that has one of its words in it. -/
theorem isFoundIn_iff (h : Denotes p P) (text : String) :
    p.isFoundIn text = true ↔ ∃ before word after, P word ∧ text.toList = before ++ word ++ after := by
  rw [Pattern.isFoundIn_iff]
  constructor
  · rintro ⟨i, j, low, spans⟩
    obtain ⟨word, hword, before, after, split, -, -⟩ := (h _ i j low).mp spans
    exact ⟨before, word, after, hword, split⟩
  · rintro ⟨before, word, after, hword, split⟩
    have low : before.length ≤ text.toList.length := by simp [split]
    exact ⟨before.length, _, low, (h _ _ _ low).mpr ⟨word, hword, before, after, split, rfl, rfl⟩⟩

end Denotes

theorem contains_single {c d : Char} : (CharSet.single c).contains d = true ↔ d = c := by
  rw [CharSet.single, CharSet.contains, Bool.and_eq_true, decide_eq_true_iff, decide_eq_true_iff]
  exact ⟨fun ⟨ge, le⟩ => Char.le_antisymm le ge, fun same => same ▸ ⟨Char.le_refl _, Char.le_refl _⟩⟩

/-- The pattern of one word. -/
def spelled : List Char → Pattern
  | [] => .empty
  | [c] => .char (.single c)
  | c :: d :: word => .seq (.char (.single c)) (spelled (d :: word))

theorem Denotes.letter (c : Char) : Denotes (.char (.single c)) (· = [c]) := by
  intro text i j low
  rw [Denotes.char _ text i j low]
  simp [contains_single]

theorem Denotes.spelled (word : List Char) : Denotes (spelled word) (· = word) := by
  induction word with
  | nil => exact .empty
  | cons c word ih =>
    cases word with
    | nil => exact .letter c
    | cons d word =>
      intro text i j low
      rw [Pattern.spelled, Denotes.seq (.letter c) ih text i j low]
      simp

/-- The pattern of a movement of tokens: an address, the contract and the name, with anything around them that
does not end the line. -/
def movement (name : String) : Pattern :=
  .seq (.char (.single 'A')) (.seq (.char (.single '.'))
    (.seq (.star (.char (.compl (.single '\n')))) (spelled (".FlowToken." ++ name).toList)))

/-- A type has the address and the name of a movement of tokens in it. -/
def Moves (name type : String) : Prop :=
  ∃ before address after : String, '\n' ∉ address.toList ∧
    type = before ++ ("A." ++ address ++ ".FlowToken." ++ name) ++ after

theorem isFoundIn_movement (name type : String) : (movement name).isFoundIn type = true ↔ Moves name type := by
  have line : Denotes (.star (.char (.compl (.single '\n')))) fun word => '\n' ∉ word := by
    intro text i j low
    rw [Denotes.star_char _ text i j low]
    have members (word : List Char) :
        (∀ c ∈ word, (CharSet.compl (.single '\n')).contains c = true) ↔ '\n' ∉ word := by
      simp only [CharSet.contains, Bool.not_eq_true', ← Bool.not_eq_true, contains_single]
      exact ⟨fun h mem => h _ mem rfl, fun h c hc same => h (same ▸ hc)⟩
    simp only [members]
  rw [movement, (Denotes.seq (.letter 'A') (.seq (.letter '.') (.seq line (.spelled _)))).isFoundIn_iff]
  constructor
  · rintro ⟨before, -, after, ⟨-, -, rfl, ⟨-, -, rfl, ⟨address, -, fits, rfl, rfl⟩, rfl⟩, rfl⟩, split⟩
    refine ⟨String.ofList before, String.ofList address, String.ofList after, by simpa using fits, ?_⟩
    apply String.toList_inj.mp
    simpa using split
  · rintro ⟨before, address, after, fits, rfl⟩
    refine ⟨before.toList, _, after.toList,
      ⟨_, _, rfl, ⟨_, _, rfl, ⟨address.toList, _, fits, rfl, rfl⟩, rfl⟩, rfl⟩, by simp⟩

end Pattern

/-! ### Payloads -/

/-- What is read is told by a relation; where that tells nothing, the payload is refused. -/
structure Decodes {α : Type} (result : Except Error α) (told : α → Prop) : Prop where
  ok_iff : ∀ a, result = .ok a ↔ told a
  refused : (∀ a, ¬ told a) → ∃ reason, result = .error (.decode reason)

namespace Decodes
variable {α β : Type} {told : α → Prop} {result : Except Error α}

theorem of_ok {a : α} (h : result = .ok a) (unique : ∀ b, told b ↔ a = b) : Decodes result told where
  ok_iff b := by
    rw [h, unique, Except.ok.injEq]
  refused none := absurd ((unique a).mpr rfl) (none a)

theorem of_error {reason : String} (h : result = .error (.decode reason)) (none : ∀ a, ¬ told a) :
    Decodes result told where
  ok_iff a := by
    rw [h]
    exact iff_of_false nofun (none a)
  refused _ := ⟨reason, h⟩

theorem map (h : Decodes result told) (f : α → β) : Decodes (result.map f) fun b => ∃ a, told a ∧ b = f a := by
  cases result with
  | ok a =>
    refine .of_ok rfl fun b => ⟨?_, fun same => ⟨a, (h.ok_iff a).mp rfl, same.symm⟩⟩
    rintro ⟨c, hc, rfl⟩
    obtain rfl := Except.ok.inj ((h.ok_iff c).mpr hc)
    rfl
  | error e =>
    have none : ∀ a, ¬ told a := fun a ha => nomatch (h.ok_iff a).mpr ha
    obtain ⟨reason, failed⟩ := h.refused none
    obtain rfl := Except.error.inj failed
    exact .of_error rfl fun b ⟨a, ha, _⟩ => none a ha

end Decodes

namespace Classifier
open PublicKey (Carries Writes hexText)

variable (payload : Json)

theorem stringField_decodes (name : String) :
    Decodes (stringField payload name) fun s => payload.field? name = some (.string s) := by
  unfold stringField
  cases found : payload.field? name with
  | none => exact .of_error rfl nofun
  | some value =>
    cases value with
    | string s => exact .of_ok rfl fun t => by simp
    | _ => exact .of_error rfl nofun

theorem publicKeyField_decodes :
    Decodes (publicKeyField payload) fun key =>
      ∃ items bytes, Carries payload items ∧ List.Forall₂ Writes items bytes ∧ key = hexText bytes := by
  have read {items : List Json} {bytes : List UInt8} (carried : Carries payload items)
      (written : List.Forall₂ Writes items bytes) : publicKeyField payload = .ok (hexText bytes) := by
    rw [PublicKey.publicKeyField_of_carries carried, PublicKey.readBytes_of_writes written,
      PublicKey.hexText_eq_ofBytes]
    rfl
  by_cases whole : ∃ items bytes, Carries payload items ∧ List.Forall₂ Writes items bytes
  · obtain ⟨items, bytes, carried, written⟩ := whole
    refine .of_ok (read carried written) fun key => ⟨?_, fun same => ⟨items, bytes, carried, written, same.symm⟩⟩
    rintro ⟨items', bytes', carried', written', rfl⟩
    exact Except.ok.inj ((read carried written).symm.trans (read carried' written'))
  · have unwritten : ∀ items, Carries payload items → ∃ item ∈ items, ∀ b, ¬ Writes item b := by
      intro items carried
      by_contra all
      push Not at all
      obtain ⟨bytes, written⟩ := PublicKey.exists_bytes all
      exact whole ⟨items, bytes, carried, written⟩
    obtain ⟨reason, failed⟩ := PublicKey.publicKeyField_of_unwritten unwritten
    exact .of_error failed fun key ⟨items, bytes, carried, written, _⟩ => whole ⟨items, bytes, carried, written⟩

theorem change_decodes (meaning : String → String → Meaning) {part : Json → Except Error String} {told : String → Prop}
    (h : Decodes (part payload) told) :
    Decodes (change meaning part payload) fun m =>
      ∃ address name, payload.field? "address" = some (.string address) ∧ told name ∧
        m = meaning (Address.prefixed address) name := by
  have address := stringField_decodes payload "address"
  unfold change addressField
  cases found : stringField payload "address" with
  | error e =>
    rw [found] at address
    have none : ∀ s, ¬ payload.field? "address" = some (.string s) := fun s hs => nomatch (address.ok_iff s).mpr hs
    obtain ⟨reason, failed⟩ := address.refused none
    obtain rfl := Except.error.inj failed
    exact .of_error rfl fun m ⟨s, _, hs, _⟩ => none s hs
  | ok a =>
    rw [found] at address
    have given := (address.ok_iff a).mp rfl
    have only {s : String} (hs : payload.field? "address" = some (.string s)) : s = a :=
      (Except.ok.inj ((address.ok_iff s).mpr hs)).symm
    show Decodes ((part payload).map (meaning (Address.prefixed a))) _
    have mapped := h.map (meaning (Address.prefixed a))
    have same (m : Meaning) : (∃ name, told name ∧ m = meaning (Address.prefixed a) name) ↔
        ∃ s name, payload.field? "address" = some (.string s) ∧ told name ∧ m = meaning (Address.prefixed s) name := by
      constructor
      · rintro ⟨name, hname, rfl⟩
        exact ⟨a, name, given, hname, rfl⟩
      · rintro ⟨s, name, hs, hname, rfl⟩
        exact ⟨name, hname, only hs ▸ rfl⟩
    simp only [same] at mapped
    exact mapped

/-! ### Changes of accounts -/

/-- The payload has an address. -/
def TellsAccount (payload : Json) (m : Meaning) : Prop :=
  ∃ address, payload.field? "address" = some (.string address) ∧ m = .accountCreated (Address.prefixed address)

/-- The payload has an address and the bytes of a key, in one of two shapes. -/
def TellsKey (meaning : String → String → Meaning) (payload : Json) (m : Meaning) : Prop :=
  ∃ address items bytes, payload.field? "address" = some (.string address) ∧ Carries payload items ∧
    List.Forall₂ Writes items bytes ∧ m = meaning (Address.prefixed address) (hexText bytes)

/-- The payload has an address and the name of a contract. -/
def TellsContract (meaning : String → String → Meaning) (payload : Json) (m : Meaning) : Prop :=
  ∃ address name, payload.field? "address" = some (.string address) ∧
    payload.field? "contract" = some (.string name) ∧ m = meaning (Address.prefixed address) name

/-- The types of events that tell of changes of accounts, each with what it tells by a payload. -/
def changes : List (String × (Json → Meaning → Prop)) := [
  ("flow.AccountCreated", TellsAccount),
  ("flow.AccountKeyAdded", TellsKey .keyAdded), ("flow.AccountKeyRemoved", TellsKey .keyRemoved),
  ("flow.AccountContractAdded", TellsContract .contractAdded),
  ("flow.AccountContractUpdated", TellsContract .contractUpdated),
  ("flow.AccountContractRemoved", TellsContract .contractRemoved)]

theorem key_decodes (meaning : String → String → Meaning) :
    Decodes (change meaning publicKeyField payload) (TellsKey meaning payload) := by
  have parts := change_decodes payload meaning (publicKeyField_decodes payload)
  have same (m : Meaning) : (∃ address name, payload.field? "address" = some (.string address) ∧
      (∃ items bytes, Carries payload items ∧ List.Forall₂ Writes items bytes ∧ name = hexText bytes) ∧
      m = meaning (Address.prefixed address) name) ↔ TellsKey meaning payload m := by
    constructor
    · rintro ⟨address, -, given, ⟨items, bytes, carried, written, rfl⟩, rfl⟩
      exact ⟨address, items, bytes, given, carried, written, rfl⟩
    · rintro ⟨address, items, bytes, given, carried, written, rfl⟩
      exact ⟨address, _, given, ⟨items, bytes, carried, written, rfl⟩, rfl⟩
  simp only [same] at parts
  exact parts

theorem contract_decodes (meaning : String → String → Meaning) :
    Decodes (change meaning contractField payload) (TellsContract meaning payload) :=
  change_decodes payload meaning (stringField_decodes payload "contract")

theorem account_decodes : Decodes ((addressField payload).map .accountCreated) (TellsAccount payload) := by
  have parts := (stringField_decodes payload "address").map (Meaning.accountCreated ∘ Address.prefixed)
  have same : (stringField payload "address").map (Meaning.accountCreated ∘ Address.prefixed) =
      (addressField payload).map .accountCreated := by
    unfold addressField
    cases stringField payload "address" <;> rfl
  exact same ▸ parts

theorem classify_changes (c : Classifier) (e : Chain.Event) {told : Json → Meaning → Prop}
    (known : (e.type, told) ∈ changes) : Decodes (c.classify e) (told e.data.json) := by
  simp only [changes, List.mem_cons, Prod.mk.injEq, List.not_mem_nil, or_false] at known
  unfold classify
  rcases known with ⟨type, rfl⟩ | ⟨type, rfl⟩ | ⟨type, rfl⟩ | ⟨type, rfl⟩ | ⟨type, rfl⟩ | ⟨type, rfl⟩ <;> rw [type]
  · exact account_decodes _
  · exact key_decodes _ _
  · exact key_decodes _ _
  · exact contract_decodes _ _
  · exact contract_decodes _ _
  · exact contract_decodes _ _

/-- Any other type is looked at with the patterns. -/
theorem classify_others (c : Classifier) {e : Chain.Event} (other : e.type ∉ changes.map (·.1)) :
    c.classify e =
      if c.withdrawn.isFoundIn e.type then .ok (.tokensWithdrawn (addressField? e.data.json "from"))
      else if c.deposited.isFoundIn e.type then .ok (.tokensDeposited (addressField? e.data.json "to"))
      else .ok (.unrecognized e.type) := by
  simp only [changes, List.map_cons, List.map_nil, List.mem_cons, List.not_mem_nil, or_false, not_or] at other
  obtain ⟨h₁, h₂, h₃, h₄, h₅, h₆⟩ := other
  unfold classify
  rw [if_neg h₁, if_neg h₂, if_neg h₃, if_neg h₄, if_neg h₅, if_neg h₆]

/-- An address in a payload counts if it is a text that is not empty. -/
theorem addressField?_eq_some_iff {name a : String} :
    addressField? payload name = some a ↔
      ∃ s, payload.field? name = some (.string s) ∧ s ≠ "" ∧ a = Address.prefixed s := by
  unfold addressField?
  cases payload.field? name with
  | none => simp
  | some value =>
    cases value with
    | string s =>
      have only : (∃ t, some (Json.string s) = some (.string t) ∧ t ≠ "" ∧ a = Address.prefixed t) ↔
          s ≠ "" ∧ Address.prefixed s = a := by
        simp [@eq_comm _ a]
      rw [only, Option.bind_some, Json.string?]
      by_cases empty : s = "" <;> simp [empty]
    | _ => simp [Json.string?]

/-- The classifier of the default patterns. -/
theorem ofConfig_default :
    ofConfig .default = .ok ⟨Pattern.movement "TokensWithdrawn", Pattern.movement "TokensDeposited"⟩ := by
  have withdrawn : Pattern.parse Config.default.withdrawnPattern = .ok (Pattern.movement "TokensWithdrawn") := by
    decide +kernel
  have deposited : Pattern.parse Config.default.depositedPattern = .ok (Pattern.movement "TokensDeposited") := by
    decide +kernel
  unfold ofConfig ofPatterns Classifier.pattern
  rw [withdrawn, deposited]
  rfl

open Pattern (Moves) in
/-- With the default patterns a change of an account is told by its payload or refused. Every other event is taken for
a withdrawal of tokens, else for a deposit, by its type alone, or it is not recognized; the account that it names is
the one in its payload, if that is a text that is not empty. -/
theorem classify_default :
    ∃ c, ofConfig .default = .ok c ∧ ∀ e : Chain.Event,
      (∀ told, (e.type, told) ∈ changes →
        (∀ m, c.classify e = .ok m ↔ told e.data.json m) ∧
          ((∀ m, ¬ told e.data.json m) → ∃ reason, c.classify e = .error (.decode reason))) ∧
      (e.type ∉ changes.map (·.1) →
        (Moves "TokensWithdrawn" e.type → ∃ source, c.classify e = .ok (.tokensWithdrawn source) ∧
          ∀ a, source = some a ↔
            ∃ s, e.data.json.field? "from" = some (.string s) ∧ s ≠ "" ∧ a = Address.prefixed s) ∧
        (¬ Moves "TokensWithdrawn" e.type → Moves "TokensDeposited" e.type →
          ∃ destination, c.classify e = .ok (.tokensDeposited destination) ∧
            ∀ a, destination = some a ↔
              ∃ s, e.data.json.field? "to" = some (.string s) ∧ s ≠ "" ∧ a = Address.prefixed s) ∧
        (¬ Moves "TokensWithdrawn" e.type → ¬ Moves "TokensDeposited" e.type →
          c.classify e = .ok (.unrecognized e.type))) := by
  refine ⟨_, ofConfig_default, fun e => ⟨fun told known => ?_, fun other => ?_⟩⟩
  · obtain ⟨ok, refused⟩ := classify_changes _ e known
    exact ⟨ok, refused⟩
  · rw [classify_others _ other, ← Pattern.isFoundIn_movement, ← Pattern.isFoundIn_movement]
    refine ⟨fun w => ?_, fun w d => ?_, fun w d => ?_⟩
    · exact ⟨_, if_pos w, fun a => addressField?_eq_some_iff _⟩
    · exact ⟨_, (if_neg w).trans (if_pos d), fun a => addressField?_eq_some_iff _⟩
    · exact (if_neg w).trans (if_neg d)

/-- An event of a type that both patterns are found in; its source is an empty text. -/
def bothMovements : Chain.Event :=
  ⟨"(A.1.FlowToken.TokensDeposited A..FlowToken.TokensWithdrawn)", "", "", 0, 0, .ofJson (.object [("from", .string "")])⟩

/-- The address is on two lines. -/
def brokenMovement : Chain.Event := ⟨"A.1\n.FlowToken.TokensDeposited", "", "", 0, 0, .null⟩

theorem classify_default_bothMovements :
    ∃ c, ofConfig .default = .ok c ∧
      c.classify (.ofAccount "flow.AccountKeyAdded" [("publicKey", .object [("publicKey", .array [.string "+0187"])])]) =
        .ok (.keyAdded "0x01" "bb") ∧
      (∃ reason, c.classify (.ofAccount "flow.AccountContractAdded" []) = .error (.decode reason)) ∧
      c.classify bothMovements = .ok (.tokensWithdrawn none) ∧
      c.classify brokenMovement = .ok (.unrecognized "A.1\n.FlowToken.TokensDeposited") := by
  obtain ⟨c, valid, all⟩ := classify_default
  refine ⟨c, valid, ?_, ?_, ?_, ?_⟩
  · have key := (all (.ofAccount "flow.AccountKeyAdded" [("publicKey", .object [("publicKey", .array [.string "+0187"])])])).1
      (TellsKey .keyAdded) (List.mem_cons_of_mem _ List.mem_cons_self)
    exact (key.1 _).mpr ⟨"0x01", [.string "+0187"], [187], by decide, .nested rfl rfl,
      .cons (PublicKey.byteOfJson?_eq_some_iff.mp (by decide)) .nil, by decide⟩
  · have contract := (all (.ofAccount "flow.AccountContractAdded" [])).1 (TellsContract .contractAdded)
      (List.mem_cons_of_mem _ (List.mem_cons_of_mem _ (List.mem_cons_of_mem _ List.mem_cons_self)))
    exact contract.2 fun m ⟨_, _, _, named, _⟩ => nomatch named
  · have moved := (all bothMovements).2 (by decide)
    obtain ⟨source, taken, named⟩ := moved.1 ⟨"(A.1.FlowToken.TokensDeposited ", "", ")", by decide, by decide⟩
    cases source with
    | none => exact taken
    | some a =>
      obtain ⟨s, given, some, -⟩ := (named a).mp rfl
      cases given
      exact absurd rfl some
  · have broken := (all brokenMovement).2 (by decide)
    exact broken.2.2 (fun moves => absurd ((Pattern.isFoundIn_movement _ _).mpr moves) (by decide +kernel))
      fun moves => absurd ((Pattern.isFoundIn_movement _ _).mpr moves) (by decide +kernel)

end Classifier

end ChainIndex
