import ChainIndex.Proofs.KeyAgreement
import ChainIndex.Proofs.Reruns

/-!
# Effects as renewals

On a chain whose accounts stand still there are two things that an effect of an event does to a record: it
renews it, so that the record is as the chain has it now, or it erases it. What a renewed record is does not
depend on the event that renews it (`Chain.Node.renew`), and to renew it again changes nothing. So an effect
is told by the records that it renews and by those that it erases (`Meaning.renews`, `Meaning.erases`), and
where none is renewed that is erased, effects that follow each other are told by the records of both
(`Store.Turned.trans`).
-/

set_option autoImplicit false

namespace ChainIndex

open Indexed (AccountKey keyId contractId)

/-! ### Ids with an address in front -/

/-- The text in front of the first dot of an id. -/
def Indexed.idAddress (id : String) : String := String.ofList (id.toList.takeWhile (· ≠ '.'))

/-- The text behind the first dot of an id. -/
def Indexed.idName (id : String) : String := String.ofList ((id.toList.dropWhile (· ≠ '.')).drop 1)

open Indexed (idAddress idName)

section
variable {address : String} (dotless : '.' ∉ address.toList)
include dotless

theorem idAddress_append (name : String) : idAddress (address ++ "." ++ name) = address := by
  rw [idAddress, String.toList_append, String.toList_append, List.append_assoc, show ".".toList = ['.'] from rfl,
    List.singleton_append, Text.takeWhile_append_mark dotless, String.ofList_toList]

theorem idName_append (name : String) : idName (address ++ "." ++ name) = name := by
  have front : ∀ c ∈ address.toList, decide (c ≠ '.') = true := by
    intro c hc
    simpa using fun same : c = '.' => dotless (same ▸ hc)
  rw [idName, String.toList_append, String.toList_append, List.append_assoc, show ".".toList = ['.'] from rfl,
    List.singleton_append, List.dropWhile_append_of_pos front]
  simp

end

/-! ### What a record is renewed to -/

namespace Chain.Node
variable (node : Node) (observedAt : Timestamp)

def renewedAccount (id : String) (old : Option Indexed.Account) : Option Indexed.Account :=
  match node.accounts.get? id with
  | some a => some (.ofChain a)
  | none => old

def renewedKey (id : String) (old : Option Indexed.AccountKey) : Option Indexed.AccountKey :=
  match node.accounts.get? (idAddress id) with
  | some a => KeySync.renewed (idAddress id) a.keys observedAt (idName id) old
  | none => old

def renewedContract (id : String) (old : Option Indexed.Contract) : Option Indexed.Contract :=
  match node.accounts.get? (idAddress id) with
  | some a => Indexed.Contract.ofChain? a (idName id)
  | none => old

/-- What a record becomes when it is made anew from the accounts of a node. -/
def renew : (kind : Kind) → String → Option kind.Record → Option kind.Record
  | .account => node.renewedAccount
  | .key => node.renewedKey observedAt
  | .contract => node.renewedContract
  | _ => fun _ old => old

theorem renew_renew (kind : Kind) (id : String) (old : Option kind.Record) :
    node.renew observedAt kind id (node.renew observedAt kind id old) = node.renew observedAt kind id old := by
  cases kind with
  | account =>
    show node.renewedAccount id (node.renewedAccount id old) = node.renewedAccount id old
    unfold renewedAccount
    split <;> rfl
  | key =>
    show node.renewedKey observedAt id (node.renewedKey observedAt id old) = node.renewedKey observedAt id old
    unfold renewedKey
    split
    · exact KeySync.renewed_renewed _ _ _ _ _
    · rfl
  | contract =>
    show node.renewedContract id (node.renewedContract id old) = node.renewedContract id old
    unfold renewedContract
    split <;> rfl
  | _ => rfl

section
variable {node : Node} {address : String} {a : Account} (ha : node.accounts.get? (Address.prefixed address) = some a)
include ha

theorem renewedAccount_of_get? (old : Option Indexed.Account) :
    node.renewedAccount (Address.prefixed address) old = some (.ofChain a) := by
  rw [renewedAccount, ha]

variable (orderly : node.Orderly) (name : String)
include orderly

theorem renewedKey_of_get? (old : Option Indexed.AccountKey) : node.renewedKey observedAt (keyId address name) old =
    KeySync.renewed (Address.prefixed address) a.keys observedAt name old := by
  have dotless := orderly.dotless_get? ha
  rw [renewedKey, keyId, idAddress_append dotless, idName_append dotless, ha]

theorem renewedContract_of_get? (old : Option Indexed.Contract) :
    node.renewedContract (contractId address name) old = Indexed.Contract.ofChain? a name := by
  have dotless := orderly.dotless_get? ha
  rw [renewedContract, contractId, idAddress_append dotless, idName_append dotless, ha]

end

end Chain.Node

theorem Indexed.Contract.id_of_ofChain? {a : Chain.Account} {name : String} {c : Contract}
    (h : Contract.ofChain? a name = some c) : c.id = contractId a.address name := by
  obtain ⟨code, -, rfl⟩ := Option.map_eq_some_iff.mp h
  rfl

theorem Account.mem_contracts {a : Chain.Account} {c : Indexed.Contract} :
    c ∈ contracts a ↔ ∃ name, Indexed.Contract.ofChain? a name = some c := by
  constructor
  · intro h
    obtain ⟨name, -, part⟩ := List.mem_filterMap.mp h
    exact ⟨name, part⟩
  · rintro ⟨name, part⟩
    obtain ⟨code, found, -⟩ := Option.map_eq_some_iff.mp part
    have named : name ∈ a.contracts.keys := List.mem_map_of_mem ((a.contracts.mem_entries_iff name code).mpr found)
    exact List.mem_filterMap.mpr ⟨name, named, part⟩

/-- The contracts of an account have distinct ids. -/
theorem Account.eq_of_contract_id {a : Chain.Account} {c c' : Indexed.Contract} (hc : c ∈ contracts a)
    (hc' : c' ∈ contracts a) (same : c.id = c'.id) : c = c' := by
  obtain ⟨name, part⟩ := mem_contracts.mp hc
  obtain ⟨name', part'⟩ := mem_contracts.mp hc'
  rw [Indexed.Contract.id_of_ofChain? part, Indexed.Contract.id_of_ofChain? part'] at same
  obtain rfl := (String.append_right_inj _).mp same
  exact Option.some.inj (part.symm.trans part')

theorem Account.mem_contract_edits {a : Chain.Account} {id : String} {v : Option Indexed.Contract} :
    (id, v) ∈ (contracts a).flatMap (fun c => [(c.id, some c)]) ↔
      ∃ name c, Indexed.Contract.ofChain? a name = some c ∧ id = contractId a.address name ∧ v = some c := by
  rw [List.mem_flatMap]
  constructor
  · rintro ⟨c, hc, h⟩
    obtain ⟨name, part⟩ := mem_contracts.mp hc
    obtain ⟨rfl, rfl⟩ := Prod.mk.inj (List.mem_singleton.mp h)
    exact ⟨name, c, part, Indexed.Contract.id_of_ofChain? part, rfl⟩
  · rintro ⟨name, c, part, rfl, rfl⟩
    refine ⟨c, mem_contracts.mpr ⟨name, part⟩, ?_⟩
    rw [Indexed.Contract.id_of_ofChain? part]
    exact List.mem_singleton_self _

/-- Once the contracts of an account have been written each of them stands under its id. -/
theorem Account.get?_contract_edits {a : Chain.Account} {c : Indexed.Contract} (hc : c ∈ contracts a)
    (t : Table String Indexed.Contract) : (t.edit ((contracts a).flatMap fun c => [(c.id, some c)])).get? c.id = some c := by
  refine Table.get?_edit_of_forall (List.mem_flatMap.mpr ⟨c, hc, List.mem_singleton_self _⟩) fun u hu => ?_
  obtain ⟨c', hc', h⟩ := List.mem_flatMap.mp hu
  obtain ⟨same, rfl⟩ := Prod.mk.inj (List.mem_singleton.mp h)
  rw [eq_of_contract_id hc hc' same]

/-! ### Reaches -/

/-- The records that some work is about. -/
abbrev Reach : Type := Kind → String → Prop

namespace Reach

def none : Reach := fun _ _ => False

def one (kind : Kind) (i : String) : Reach := fun k id => k = kind ∧ id = i

/-- What is reached from a result that is there. -/
def ofOk {α : Type} (result : Except Error α) (reach : α → Reach) : Reach :=
  match result with
  | .ok a => reach a
  | .error _ => none

theorem ofOk_iff {α : Type} {result : Except Error α} {reach : α → Reach} {kind : Kind} {id : String} :
    ofOk result reach kind id ↔ ∃ a, result = .ok a ∧ reach a kind id := by
  cases result with
  | error e => simp [ofOk, none]
  | ok a => simp [ofOk]

/-- What is reached from any item of a list. -/
def any {β : Type} (reach : β → Reach) : List β → Reach
  | [] => none
  | b :: l => fun kind id => reach b kind id ∨ any reach l kind id

theorem any_iff {β : Type} {reach : β → Reach} {l : List β} {kind : Kind} {id : String} :
    any reach l kind id ↔ ∃ b ∈ l, reach b kind id := by
  induction l with
  | nil => simp [any, none]
  | cons b l ih => simp only [any, ih, List.exists_mem_cons_iff]

theorem any_perm {β : Type} (reach : β → Reach) {l l' : List β} (perm : l.Perm l') : any reach l = any reach l' := by
  funext kind id
  simp only [any_iff, perm.mem_iff]

/-! What is written once an account was found. -/

def account (a : Chain.Account) : Reach := one .account (Address.prefixed a.address)

def key (publicKey : String) (a : Chain.Account) : Reach :=
  if (a.keys.find? fun k => k.publicKey == publicKey).isSome then one .key (keyId a.address publicKey) else none

def contract (name : String) (a : Chain.Account) : Reach :=
  if (Indexed.Contract.ofChain? a name).isSome then one .contract (contractId a.address name) else none

theorem contract_iff {name : String} {a : Chain.Account} {kind : Kind} {id : String} :
    contract name a kind id ↔
      ∃ c, Indexed.Contract.ofChain? a name = some c ∧ kind = .contract ∧ id = contractId a.address name := by
  unfold contract
  cases Indexed.Contract.ofChain? a name with
  | none => simp [none]
  | some c => simp [one]

/-- Everything about an account: every key that it could have, and the contracts that it has. -/
def whole (a : Chain.Account) : Reach := fun kind id =>
  account a kind id ∨ (∃ publicKey, one .key (keyId a.address publicKey) kind id) ∨ ∃ name, contract name a kind id

end Reach

namespace Meaning

/-- The records that an effect renews. -/
def renews (found : String → Except Error Chain.Account) : Meaning → Reach
  | accountCreated address => .ofOk (found address) .whole
  | keyAdded address publicKey => .ofOk (found address) (.key publicKey)
  | contractAdded address name | contractUpdated address name => .ofOk (found address) (.contract name)
  | tokensWithdrawn source =>
    if Address.isNull source then .none else .ofOk (found (source.getD "")) .account
  | tokensDeposited (some address) => .ofOk (found address) .account
  | tokensDeposited none | keyRemoved _ _ | contractRemoved _ _ | unrecognized _ => .none

/-- The records that an effect erases. -/
def erases : Meaning → Reach
  | keyRemoved address publicKey => .one .key (keyId address publicKey)
  | contractRemoved address name => .one .contract (contractId address name)
  | _ => .none

end Meaning

/-! ### Turned stores -/

/-- From one store to the other some records were renewed and others were erased. -/
structure Store.Turned (renew : (kind : Kind) → String → Option kind.Record → Option kind.Record)
    (renews erases : Reach) (s t : Store) : Prop where
  renewed : ∀ kind id, renews kind id → (t.index kind).get? id = renew kind id ((s.index kind).get? id)
  erased : ∀ kind id, erases kind id → (t.index kind).get? id = none
  kept : ∀ kind id, ¬ renews kind id → ¬ erases kind id → (t.index kind).get? id = (s.index kind).get? id

namespace Store.Turned
variable {renew : (kind : Kind) → String → Option kind.Record → Option kind.Record} {renews erases : Reach}
  {s t u : Store}

theorem refl (s : Store) : s.Turned renew .none .none s := ⟨nofun, nofun, fun _ _ _ _ => rfl⟩

theorem unique (h : s.Turned renew renews erases t) (h' : s.Turned renew renews erases u) : u = t := by
  refine eq_of_same fun kind => same_iff.mpr (Table.ext_get? fun id => ?_)
  by_cases renewed : renews kind id
  · rw [h.renewed kind id renewed, h'.renewed kind id renewed]
  · by_cases erased : erases kind id
    · rw [h.erased kind id erased, h'.erased kind id erased]
    · rw [h.kept kind id renewed erased, h'.kept kind id renewed erased]

/-- Where nothing is renewed that is erased, two turns are one. -/
theorem trans {renews' erases' : Reach} (again : ∀ kind id old, renew kind id (renew kind id old) = renew kind id old)
    (h : s.Turned renew renews erases t) (h' : t.Turned renew renews' erases' u)
    (apart : ∀ kind id, renews kind id → ¬ erases' kind id) (apart' : ∀ kind id, renews' kind id → ¬ erases kind id) :
    s.Turned renew (fun kind id => renews kind id ∨ renews' kind id)
      (fun kind id => erases kind id ∨ erases' kind id) u where
  renewed kind id either := by
    -- A record that was renewed before it is renewed again is as if it had been renewed once.
    by_cases second : renews' kind id
    · rw [h'.renewed kind id second]
      by_cases first : renews kind id
      · rw [h.renewed kind id first, again]
      · rw [h.kept kind id first (apart' kind id second)]
    · have first := either.resolve_right second
      rw [h'.kept kind id second (apart kind id first), h.renewed kind id first]
  erased kind id either := by
    by_cases second : erases' kind id
    · exact h'.erased kind id second
    · have first := either.resolve_right second
      rw [h'.kept kind id (fun renewed => apart' kind id renewed first) second, h.erased kind id first]
  kept kind id notRenewed notErased := by
    rw [not_or] at notRenewed notErased
    rw [h'.kept kind id notRenewed.2 notErased.2, h.kept kind id notRenewed.1 notErased.1]

/-- One record is written, and no other part changes. -/
theorem write {w w' : World} {kind : Kind} {i : String} {v : Option kind.Record} (within : w.Within [.shelf kind] w')
    (table : w'.store.index kind = (w.store.index kind).edit [(i, v)])
    (only : ∀ k id, renews k id ∨ erases k id ↔ Reach.one kind i k id)
    (renewed : renews kind i → v = renew kind i ((w.store.index kind).get? i)) (erased : erases kind i → v = none) :
    w.store.Turned renew renews erases w'.store where
  renewed k id h := by
    obtain ⟨rfl, rfl⟩ := (only k id).mp (.inl h)
    rw [table, Table.get?_edit_self, renewed h]
  erased k id h := by
    obtain ⟨rfl, rfl⟩ := (only k id).mp (.inr h)
    rw [table, Table.get?_edit_self, erased h]
  kept k id notRenewed notErased := by
    by_cases same : k = kind
    · subst same
      have other : id ≠ i := by
        rintro rfl
        exact ((only k id).mpr ⟨rfl, rfl⟩).elim notRenewed notErased
      rw [table, Table.get?_edit_of_ne _ other]
    · rw [same_iff.mp (within.shelf k (by simpa using same))]

end Store.Turned

end ChainIndex
