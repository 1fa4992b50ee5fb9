import ChainIndex.Indexed.OfChain
import ChainIndex.Reconcile
import ChainIndex.Store

/-!
# Kinds of records and canonical records

`Kind.Record` is the type of the records of a kind. A canonical record stands under its own id, which is
made of its fields, and the addresses in it carry their prefix. The record of a thing of the chain is
canonical, and merging it with a stored one or giving it another status keeps it so.
-/

set_option autoImplicit false

namespace ChainIndex

/-- The type of the records of a kind. -/
def Kind.Record : Kind → Type
  | .block => Indexed.Block
  | .transaction => Indexed.Transaction
  | .event => Indexed.Event
  | .account => Indexed.Account
  | .key => Indexed.AccountKey
  | .contract => Indexed.Contract
  | .storageItem => Indexed.StorageItem

namespace Indexed

/-- A block under its own id; its other fields are those of the chain. -/
structure Block.Canonical (id : String) (b : Block) : Prop where
  own : b.id = id

structure Transaction.Canonical (id : String) (t : Transaction) : Prop where
  own : t.id = id
  payer : Address.isPrefixed t.payer = true
  authorizers : ∀ a ∈ t.authorizers, Address.isPrefixed a = true
  proposalKey : Address.isPrefixed t.proposalKey.address = true
  envelopeSignatures : ∀ s ∈ t.envelopeSignatures, Address.isPrefixed s.address = true
  payloadSignatures : ∀ s ∈ t.payloadSignatures, Address.isPrefixed s.address = true
  grpcStatus : t.status.grpcStatus = 0 ∨ t.status.grpcStatus = 1

structure Event.Canonical (id : String) (e : Event) : Prop where
  own : e.id = id
  named : id = eventId e.transactionId e.eventIndex

structure Account.Canonical (id : String) (a : Account) : Prop where
  own : a.id = id
  named : id = a.address
  address : Address.isPrefixed a.address = true

structure AccountKey.Canonical (id : String) (k : AccountKey) : Prop where
  own : k.id = id
  named : id = keyId k.address k.publicKey
  address : Address.isPrefixed k.address = true

/-- A key that is canonical under its own id. -/
abbrev AccountKey.Named (k : AccountKey) : Prop := k.Canonical k.id

structure Contract.Canonical (id : String) (c : Contract) : Prop where
  own : c.id = id
  named : id = contractId c.address c.name
  address : Address.isPrefixed c.address = true

structure StorageItem.Canonical (id : String) (i : StorageItem) : Prop where
  own : i.id = id
  named : id = i.address ++ "/" ++ i.pathDomain.text ++ "/" ++ i.pathIdentifier
  address : Address.isPrefixed i.address = true

/-! ### Records of the chain are canonical -/

theorem Block.Canonical.ofChain (b : Chain.Block) : Canonical b.id (Block.ofChain b) := ⟨rfl⟩

theorem TransactionStatus.grpcStatus_ofChain (s : Chain.TransactionStatus) :
    (ofChain s).grpcStatus = 0 ∨ (ofChain s).grpcStatus = 1 := by
  simp only [ofChain, resultCode]
  split
  · exact .inl rfl
  · exact .inr rfl

theorem isPrefixed_of_mem_prefixSignature {l : List Signature} {s : Signature} (h : s ∈ l.map prefixSignature) :
    Address.isPrefixed s.address = true := by
  obtain ⟨s, -, rfl⟩ := List.mem_map.mp h
  simp [prefixSignature]

theorem Transaction.Canonical.ofChain (block : Chain.Block) (t : Chain.Transaction)
    (status : Chain.TransactionStatus) (interaction : Option Script.Interaction) :
    Canonical t.id (Transaction.ofChain block t status interaction) where
  own := rfl
  payer := Address.isPrefixed_prefixed _
  authorizers a ha := by
    obtain ⟨b, -, rfl⟩ := List.mem_map.mp ha
    exact Address.isPrefixed_prefixed b
  proposalKey := Address.isPrefixed_prefixed _
  envelopeSignatures _ := isPrefixed_of_mem_prefixSignature
  payloadSignatures _ := isPrefixed_of_mem_prefixSignature
  grpcStatus := TransactionStatus.grpcStatus_ofChain status

/-- The statuses that watchers write keep a stored transaction canonical. -/
theorem Transaction.Canonical.patch {id : String} {t : Transaction} (h : t.Canonical id)
    (s : Chain.TransactionStatus) : Canonical id { t with status := .ofChain s } :=
  { h with grpcStatus := TransactionStatus.grpcStatus_ofChain s }

theorem Event.Canonical.ofChain (e : Chain.Event) : Canonical (Event.ofChain e).id (Event.ofChain e) := ⟨rfl, rfl⟩

theorem Account.Canonical.ofChain (a : Chain.Account) : Canonical (Account.ofChain a).id (Account.ofChain a) :=
  ⟨rfl, rfl, Address.isPrefixed_prefixed _⟩

theorem AccountKey.Canonical.ofChain (address : String) (k : Chain.AccountKey) (observedAt : Timestamp) :
    Canonical (AccountKey.ofChain address k observedAt).id (AccountKey.ofChain address k observedAt) where
  own := rfl
  named := by simp [AccountKey.ofChain, keyId]
  address := Address.isPrefixed_prefixed _

/-- What a key takes over from a stored one is no part of its id. -/
theorem AccountKey.Canonical.merge {k : AccountKey} (h : k.Canonical k.id) (stored : AccountKey) :
    Canonical (k.merge stored).id (k.merge stored) := ⟨rfl, h.named, h.address⟩

theorem Contract.Canonical.ofChain {a : Chain.Account} {name : String} {c : Contract}
    (h : Contract.ofChain? a name = some c) : c.Canonical c.id := by
  obtain ⟨code, -, rfl⟩ := Option.map_eq_some_iff.mp h
  exact ⟨rfl, by simp [contractId], Address.isPrefixed_prefixed _⟩

theorem StorageItem.Canonical.ofChain (address : String) (i : Chain.StorageItem) :
    Canonical (StorageItem.ofChain address i).id (StorageItem.ofChain address i) :=
  ⟨rfl, rfl, Address.isPrefixed_prefixed _⟩

end Indexed

end ChainIndex
