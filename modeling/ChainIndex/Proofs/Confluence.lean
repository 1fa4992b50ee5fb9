import ChainIndex.Proofs.Slots
import ChainIndex.Proofs.Turns

/-!
# Events in any order

Two events conflict if one of them erases what the other one renews: the removal of a key or of a contract
and an event that writes it. The events of a list without conflicts may be dispatched in any order, and each
of them ends with the same result then (`Meaning.dispatch_perm`).
-/

set_option autoImplicit false

namespace ChainIndex

open Indexed (AccountKey keyId contractId)

namespace Meaning

/-- The account that an event is about. -/
def address? : Meaning → Option String
  | accountCreated address | keyAdded address _ | keyRemoved address _ | contractAdded address _
  | contractUpdated address _ | contractRemoved address _ => some address
  | tokensWithdrawn address => address
  | tokensDeposited address => address
  | unrecognized _ => none

/-- One event removes a key or a contract that the other one writes. -/
inductive Conflicts : Meaning → Meaning → Prop
  | keyOfAccount (address publicKey : String) : Conflicts (keyRemoved address publicKey) (accountCreated address)
  | key (address publicKey : String) : Conflicts (keyRemoved address publicKey) (keyAdded address publicKey)
  | contractOfAccount (address name : String) : Conflicts (contractRemoved address name) (accountCreated address)
  | contractAdded (address name : String) : Conflicts (contractRemoved address name) (contractAdded address name)
  | contractUpdated (address name : String) : Conflicts (contractRemoved address name) (contractUpdated address name)

end Meaning

/-! ### Addresses of classified events -/

namespace Classifier

theorem prefixed_of_addressField {payload : Json} {address : String} (h : addressField payload = .ok address) :
    Address.prefixed address = address := by
  unfold addressField at h
  cases field : stringField payload "address" with
  | error e => rw [field] at h; cases h
  | ok s =>
    rw [field] at h
    cases h
    exact Address.prefixed_prefixed s

theorem addressField?_eq_some {payload : Json} {name address : String} (h : addressField? payload name = some address) :
    ∃ s, (payload.field? name).bind Json.string? = some s ∧ s ≠ "" ∧ address = Address.prefixed s := by
  unfold addressField? at h
  split at h
  · next s found =>
    split at h
    · cases h
    · next filled =>
      refine ⟨s, found, ?_, (Option.some.inj h).symm⟩
      rintro rfl
      exact filled rfl
  · cases h

theorem prefixed_of_addressField? {payload : Json} {name address : String}
    (h : addressField? payload name = some address) : Address.prefixed address = address := by
  obtain ⟨s, -, -, rfl⟩ := addressField?_eq_some h
  exact Address.prefixed_prefixed s

theorem change_eq_ok {meaning : String → String → Meaning} {part : Json → Except Error String} {payload : Json}
    {m : Meaning} (h : change meaning part payload = .ok m) :
    ∃ address p, addressField payload = .ok address ∧ m = meaning address p := by
  unfold change at h
  cases ha : addressField payload with
  | error e => rw [ha] at h; cases h
  | ok address =>
    cases hp : part payload with
    | error e => rw [ha, hp] at h; cases h
    | ok p =>
      rw [ha, hp] at h
      cases h
      exact ⟨address, p, rfl, rfl⟩

/-- The account of a meaning is the one that the payload names. -/
def Names (payload : Json) : Meaning → Prop
  | .accountCreated address | .keyAdded address _ | .keyRemoved address _ | .contractAdded address _
  | .contractUpdated address _ | .contractRemoved address _ => addressField payload = .ok address
  | .tokensWithdrawn source => source = addressField? payload "from"
  | .tokensDeposited destination => destination = addressField? payload "to"
  | .unrecognized _ => True

theorem names_of_classify {classifier : Classifier} {e : Chain.Event} {m : Meaning}
    (h : classifier.classify e = .ok m) : Names e.data.json m := by
  have changed {meaning : String → String → Meaning} {part : Json → Except Error String}
      (h : change meaning part e.data.json = .ok m)
      (own : ∀ a p, addressField e.data.json = .ok a → Names e.data.json (meaning a p)) : Names e.data.json m := by
    obtain ⟨a, p, field, rfl⟩ := change_eq_ok h
    exact own a p field
  unfold classify at h
  simp only at h
  split at h
  · cases field : addressField e.data.json with
    | error e => rw [field] at h; cases h
    | ok a =>
      rw [field] at h
      cases h
      exact field
  iterate 5
    split at h
    · exact changed h fun _ _ field => field
  split at h
  · cases h
    rfl
  · split at h
    · cases h
      rfl
    · cases h
      trivial

/-- The address of a classified event has its prefix. -/
theorem prefixed_of_classify {classifier : Classifier} {e : Chain.Event} {m : Meaning}
    (h : classifier.classify e = .ok m) {address : String} (ha : m.address? = some address) :
    Address.prefixed address = address := by
  have names := names_of_classify h
  cases m with
  | accountCreated | keyAdded | keyRemoved | contractAdded | contractUpdated | contractRemoved =>
    obtain rfl := Option.some.inj ha
    exact prefixed_of_addressField names
  | tokensWithdrawn | tokensDeposited =>
    obtain rfl : _ = some address := ha
    exact prefixed_of_addressField? names.symm
  | unrecognized => cases ha

end Classifier

namespace Meaning

/-! ### Conflicts -/

section
variable {found : String → Except Error Chain.Account}
  (own : ∀ address a, found address = .ok a → Address.prefixed a.address = Address.prefixed address)
include own

/-- Keys are renewed by events that create their account or add them, and contracts by events that create
their account, add them or update them. -/
theorem renews_cases {m : Meaning} {kind : Kind} {id : String} (h : m.renews found kind id) :
    kind = .account ∨
      (kind = .key ∧ ∃ address publicKey, id = keyId address publicKey ∧
        (m = accountCreated address ∨ m = keyAdded address publicKey)) ∨
      kind = .contract ∧ ∃ address name, id = contractId address name ∧
        (m = accountCreated address ∨ m = contractAdded address name ∨ m = contractUpdated address name) := by
  cases m with
  | accountCreated address =>
    obtain ⟨a, ha, ⟨rfl, -⟩ | ⟨publicKey, rfl, rfl⟩ | ⟨name, h⟩⟩ := Reach.ofOk_iff.mp h
    · exact .inl rfl
    · exact .inr (.inl ⟨rfl, address, publicKey, by rw [keyId, own address a ha, keyId], .inl rfl⟩)
    · obtain ⟨c, -, rfl, rfl⟩ := Reach.contract_iff.mp h
      exact .inr (.inr ⟨rfl, address, name, by rw [contractId, own address a ha, contractId], .inl rfl⟩)
  | keyAdded address publicKey =>
    obtain ⟨a, ha, h⟩ := Reach.ofOk_iff.mp h
    unfold Reach.key at h
    split at h
    · obtain ⟨rfl, rfl⟩ := h
      exact .inr (.inl ⟨rfl, address, publicKey, by rw [keyId, own address a ha, keyId], .inr rfl⟩)
    · cases h
  | contractAdded address name =>
    obtain ⟨a, ha, h⟩ := Reach.ofOk_iff.mp h
    obtain ⟨c, -, rfl, rfl⟩ := Reach.contract_iff.mp h
    exact .inr (.inr ⟨rfl, address, name, by rw [contractId, own address a ha, contractId], .inr (.inl rfl)⟩)
  | contractUpdated address name =>
    obtain ⟨a, ha, h⟩ := Reach.ofOk_iff.mp h
    obtain ⟨c, -, rfl, rfl⟩ := Reach.contract_iff.mp h
    exact .inr (.inr ⟨rfl, address, name, by rw [contractId, own address a ha, contractId], .inr (.inr rfl)⟩)
  | tokensWithdrawn source =>
    simp only [renews] at h
    split at h
    · cases h
    · obtain ⟨a, -, rfl, -⟩ := Reach.ofOk_iff.mp h
      exact .inl rfl
  | tokensDeposited destination =>
    cases destination with
    | none => cases h
    | some address =>
      obtain ⟨a, -, rfl, -⟩ := Reach.ofOk_iff.mp h
      exact .inl rfl
  | keyRemoved address publicKey => cases h
  | contractRemoved address name => cases h
  | unrecognized type => cases h

/-- What one event renews and another one erases they conflict about. -/
theorem conflicts_of_reach {m m' : Meaning}
    (plain : ∀ a, m.address? = some a → Address.prefixed a = a ∧ '.' ∉ a.toList)
    (plain' : ∀ a, m'.address? = some a → Address.prefixed a = a ∧ '.' ∉ a.toList) {kind : Kind} {id : String}
    (renewed : m.renews found kind id) (erased : m'.erases kind id) : m'.Conflicts m := by
  have split {address address' x y : String} (ha : m.address? = some address) (ha' : m'.address? = some address')
      (ids : Address.prefixed address' ++ "." ++ x = Address.prefixed address ++ "." ++ y) :
      address' = address ∧ x = y := by
    rw [(plain _ ha).1, (plain' _ ha').1] at ids
    exact append_dot_inj (plain' _ ha').2 (plain _ ha).2 ids
  have cases := renews_cases own renewed
  cases m' with
  | keyRemoved address publicKey =>
    obtain ⟨rfl, rfl⟩ := erased
    obtain ⟨⟨⟩⟩ | ⟨-, _, _, ids, rfl | rfl⟩ | ⟨⟨⟩, -⟩ := cases
    · obtain ⟨rfl, -⟩ := split rfl rfl ids
      exact .keyOfAccount address publicKey
    · obtain ⟨rfl, rfl⟩ := split rfl rfl ids
      exact .key address publicKey
  | contractRemoved address name =>
    obtain ⟨rfl, rfl⟩ := erased
    obtain ⟨⟨⟩⟩ | ⟨⟨⟩, -⟩ | ⟨-, _, _, ids, rfl | rfl | rfl⟩ := cases
    · obtain ⟨rfl, -⟩ := split rfl rfl ids
      exact .contractOfAccount address name
    · obtain ⟨rfl, rfl⟩ := split rfl rfl ids
      exact .contractAdded address name
    · obtain ⟨rfl, rfl⟩ := split rfl rfl ids
      exact .contractUpdated address name
  | _ => cases erased

end

/-! ### Any order -/

/-- Events of which none conflicts with another have the same results and lead to the same indexes in
whatever order they are dispatched. -/
theorem dispatch_perm {node : Chain.Node} (orderly : node.Orderly) {fails : String → Option Error} {w : World}
    (even : w.Even node fails) (classifier : Classifier) (observedAt : Timestamp) {l l' : List Chain.Event}
    (perm : l.Perm l')
    (dotless : ∀ e ∈ l, ∀ m address, classifier.classify e = .ok m → m.address? = some address → '.' ∉ address.toList)
    (peaceful : ∀ e ∈ l, ∀ e' ∈ l, ∀ m m', classifier.classify e = .ok m → classifier.classify e' = .ok m' →
      ¬ m.Conflicts m') :
    ∃ verdict : Chain.Event → Except Error Meaning,
      ((Attempt.forEach (dispatch classifier observedAt) l).run w).1 = l.map verdict ∧
      ((Attempt.forEach (dispatch classifier observedAt) l').run w).1 = l'.map verdict ∧
      ((Attempt.forEach (dispatch classifier observedAt) l').run w).2.store =
        ((Attempt.forEach (dispatch classifier observedAt) l).run w).2.store := by
  have dispatched (e : Chain.Event) : ∃ verdict,
      Turns node fails observedAt _ _ (dispatch classifier observedAt e) verdict :=
    Turns.dispatch orderly classifier e
  choose verdict turns using dispatched
  have own (address : String) (a : Chain.Account) (h : node.found fails address = .ok a) := (orderly.get?_of_found h).1
  have plain : ∀ e ∈ l, ∀ m, classifier.classify e = .ok m →
      ∀ a, m.address? = some a → Address.prefixed a = a ∧ '.' ∉ a.toList :=
    fun e he m hm a ha => ⟨Classifier.prefixed_of_classify hm ha, dotless e he m a hm ha⟩
  have apart : ∀ e ∈ l, ∀ e' ∈ l, ∀ kind id,
      Reach.ofOk (classifier.classify e) (renews (node.found fails)) kind id →
      ¬ Reach.ofOk (classifier.classify e') erases kind id := by
    intro e he e' he' kind id renewed erased
    obtain ⟨m, hm, renewed⟩ := Reach.ofOk_iff.mp renewed
    obtain ⟨m', hm', erased⟩ := Reach.ofOk_iff.mp erased
    have conflict := conflicts_of_reach own (plain e he m hm) (plain e' he' m' hm') renewed erased
    exact peaceful e' he' e he m' m hm' hm conflict
  -- Both lists reach the same records, and these alone determine the store.
  obtain ⟨v, run, turned⟩ := Turns.forEach turns apart even
  obtain ⟨v', run', turned'⟩ := Turns.forEach turns
    (fun e he e' he' => apart e (perm.mem_iff.mpr he) e' (perm.mem_iff.mpr he')) even
  rw [← Reach.any_perm _ perm, ← Reach.any_perm _ perm] at turned'
  exact ⟨verdict, by rw [run], by rw [run'], by rw [run, run']; exact turned.unique turned'⟩

/-! ### A creation and a key -/

/-- The account `0x01` has a key that the index does not have yet. -/
def oneMissing : World := Account.holdingWorld [(0, "aa")] [(0, "aa"), (1, "bb")]

theorem oneMissing_orderly : oneMissing.node.Orderly where
  keyed := Chain.Node.keyed_empty.change (.account _)
  dotless := Table.all_empty.insert (by decide)
  indexes := Table.all_empty.insert (by decide)
  publicKeys := Table.all_empty.insert (by decide)

theorem oneMissing_even : oneMissing.Even oneMissing.node fun _ => none where
  chain := rfl
  indexes _ _ _ _ _ _ := rfl
  looks _ _ _ := rfl
  keys := KeySync.agrees_of_allReported oneMissing_orderly
    (Table.all_empty.insert ⟨"0x01", _, ⟨0, "aa", 0, 0, 1000, 0, false⟩, .epoch, rfl, List.mem_cons_self, rfl, rfl⟩)

/-- It does not matter whether the account is indexed before its new key or behind it. -/
theorem dispatch_perm_oneMissing :
    let created := Chain.Event.ofAccount "flow.AccountCreated" []
    let run := fun l => ((Attempt.forEach (dispatch Setup.bare.classifier .epoch) l).run oneMissing).2
    (run [created, secondKeyAdded]).store.keys.keys = ["0x01.aa", "0x01.bb"] ∧
      (run [secondKeyAdded, created]).store = (run [created, secondKeyAdded]).store := by
  intro created run
  have classified : ∀ e ∈ [created, secondKeyAdded], ∀ m, Setup.bare.classifier.classify e = .ok m →
      m = .accountCreated "0x01" ∨ m = .keyAdded "0x01" "bb" := by
    have first : (Setup.bare.classifier.classify created).toOption = some (.accountCreated "0x01") := by decide +kernel
    have second : (Setup.bare.classifier.classify secondKeyAdded).toOption = some (.keyAdded "0x01" "bb") := by
      decide +kernel
    intro e he m hm
    rcases List.mem_pair.mp he with rfl | rfl
    · rw [hm] at first
      exact .inl (Option.some.inj first)
    · rw [hm] at second
      exact .inr (Option.some.inj second)
  obtain ⟨verdict, -, -, same⟩ := dispatch_perm oneMissing_orderly oneMissing_even Setup.bare.classifier .epoch
    (.swap secondKeyAdded created [])
    (fun e he m address hm ha => by
      rcases classified e he m hm with rfl | rfl <;> cases ha <;> decide)
    (fun e he e' he' m m' hm hm' conflict => by
      rcases classified e he m hm with rfl | rfl <;> cases conflict)
  exact ⟨by decide +kernel, same⟩

end Meaning

end ChainIndex
