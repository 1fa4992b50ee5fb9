import ChainIndex.Proofs.Canonical

/-!
# History is append-only

A record of a block or an event stays as it was first written, whatever is done afterwards; a record of
a transaction stays too, and nothing but its status changes, which only watchers write. So a height that
is processed again, because an earlier attempt at it failed half-way, does not set back a status that a
watcher has stored. Records of accounts and storage items are written over but never go.
-/

set_option autoImplicit false

namespace ChainIndex

open Attempt (Leads Uses)

/-! ### Tables that lose nothing -/

/-- Every entry of `t` is still there in `t'`, as something it `may` have become. -/
def Table.Retains {κ α : Type} [Key κ] (may : α → α → Prop) (t t' : Table κ α) : Prop :=
  ∀ k a, t.get? k = some a → ∃ b, t'.get? k = some b ∧ may a b

namespace Table.Retains
variable {κ α : Type} [Key κ] {may : α → α → Prop}

instance [IsPreorder α may] : IsPreorder (Table κ α) (Table.Retains may) where
  refl _ _ _ h := ⟨_, h, refl_of may _⟩
  trans _ _ _ h₁ h₂ k a ha := by
    obtain ⟨b, hb, ab⟩ := h₁ k a ha
    obtain ⟨c, hc, bc⟩ := h₂ k b hb
    exact ⟨c, hc, trans_of may ab bc⟩

/-- What is written over an entry has to be something the entry may become. -/
theorem insert [IsPreorder α may] [DecidableEq κ] {t : Table κ α} {k : κ} {v : α}
    (h : ∀ a, t.get? k = some a → may a v) : t.Retains may (t.insert k v) := by
  intro j a ha
  by_cases same : j = k
  · subst same
    exact ⟨v, t.get?_insert_self j v, h a ha⟩
  · exact ⟨a, (t.get?_insert_of_ne same v).trans ha, refl_of may a⟩

/-- An entry may be added where there is none. -/
theorem insert_free [IsPreorder α may] [DecidableEq κ] {t : Table κ α} {k : κ} {v : α} (free : t.get? k = none) :
    t.Retains may (t.insert k v) :=
  insert fun _ ha => nomatch free.symm.trans ha

end Table.Retains

/-! ### Stores that lose no history -/

/-- A transaction with at most another status. -/
def Indexed.Transaction.Patched (t t' : Transaction) : Prop := ∃ status, t' = { t with status }

instance : IsPreorder Indexed.Transaction Indexed.Transaction.Patched where
  refl t := ⟨t.status, rfl⟩
  trans _ _ _ h₁ h₂ := by
    obtain ⟨s₁, rfl⟩ := h₁
    obtain ⟨s₂, rfl⟩ := h₂
    exact ⟨s₂, rfl⟩

/-- A record may be written over with any other. -/
def Indexed.Rewritten {α : Type} (_ _ : α) : Prop := True

instance {α : Type} : IsPreorder α Indexed.Rewritten where
  refl _ := trivial
  trans _ _ _ _ _ := trivial

/-- Blocks and events stay as they are, transactions become what they `may`, and accounts and storage
items are at least not lost. Keys and contracts come and go. -/
structure Store.Retains (may : Indexed.Transaction → Indexed.Transaction → Prop) (s t : Store) : Prop where
  blocks : s.blocks.Retains Eq t.blocks
  transactions : s.transactions.Retains may t.transactions
  events : s.events.Retains Eq t.events
  accounts : s.accounts.Retains Indexed.Rewritten t.accounts
  storageItems : s.storageItems.Retains Indexed.Rewritten t.storageItems

/-- From `w` to `w'` no history is lost. -/
def World.Retains (may : Indexed.Transaction → Indexed.Transaction → Prop) (w w' : World) : Prop :=
  w.store.Retains may w'.store

section
variable {may : Indexed.Transaction → Indexed.Transaction → Prop} [IsPreorder Indexed.Transaction may]

instance : IsPreorder World (World.Retains may) where
  refl _ := ⟨refl_of _ _, refl_of _ _, refl_of _ _, refl_of _ _, refl_of _ _⟩
  trans _ _ _ h₁ h₂ := ⟨trans_of _ h₁.blocks h₂.blocks, trans_of _ h₁.transactions h₂.transactions,
    trans_of _ h₁.events h₂.events, trans_of _ h₁.accounts h₂.accounts, trans_of _ h₁.storageItems h₂.storageItems⟩

theorem World.Retains.still {w w' : World} (same : w'.store = w.store) : w.Retains may w' := by
  unfold World.Retains
  rw [same]
  exact refl_of (World.Retains may) w

theorem EffectCall.retains {writes : Indexed.AccountKey → Prop} {α : Type} {work : StateM World α}
    (call : EffectCall writes α work) :
    Leads (World.Retains may) work := by
  have counted (w : World) : w.Retains may w.counted := .still rfl
  have all (w : World) : w.Retains may w := refl_of _ w
  cases call with
  | look address => exact Act.leads_attempt counted all
  | keys => exact Act.leads_attempt counted all
  | findKey id => exact Act.leads_attempt counted all
  | upsertAccount a => exact Act.leads_upsert counted fun w => { all w with accounts := .insert fun _ _ => trivial }
  | upsertKey hk => exact Act.leads_upsert counted fun w => { all w with }
  | updateKey hk => exact Act.leads_update counted fun w _ _ => { all w with }
  | deleteKey id => exact Act.leads_delete counted fun w => { all w with }
  | upsertContract hc => exact Act.leads_upsert counted fun w => { all w with }
  | deleteContract id => exact Act.leads_delete counted fun w => { all w with }

/-- Every call loses no history, if the status that a watcher writes is something a transaction may get. -/
theorem StoreCall.retains {watching : Prop} (patch : watching → ∀ t status, may t { t with status })
    {α : Type} {work : StateM World α} (call : StoreCall watching α work) : Leads (World.Retains may) work := by
  have counted (w : World) : w.Retains may w.counted := .still rfl
  have all (w : World) : w.Retains may w := refl_of _ w
  cases call with
  | quiet still => exact fun w => .still (still w)
  | block b => exact Act.leads_create counted fun w free => { all w with blocks := .insert_free free }
  | transaction b t status interaction =>
    exact Act.leads_create counted fun w free => { all w with transactions := .insert_free free }
  | event e => exact Act.leads_create counted fun w free => { all w with events := .insert_free free }
  | effect call => exact call.retains
  | storageItem address i =>
    exact Act.leads_upsert counted fun w => { all w with storageItems := .insert fun _ _ => trivial }
  | status watches id s =>
    refine Act.leads_update counted fun w t ht => { all w with transactions := .insert fun a ha => ?_ }
    obtain rfl := Option.some.inj (ht.symm.trans ha)
    exact patch watches t _

end

/-! ### Ticks and runs -/

theorem Indexed.Transaction.patched (t : Transaction) (status : TransactionStatus) :
    t.Patched { t with status } := ⟨status, rfl⟩

/-- What watchers have stored is as safe from ticks as everything else: a tick only adds transactions. -/
theorem Tick.retains {setup : Setup} (own : OwnScan setup) {α : Type} {work : StateM World α}
    (uses : Uses (TickCall setup) work) : Leads (World.Retains Eq) work :=
  (uses.expand (StoreCall.tickCall own.uses)).leads (StoreCall.retains False.elim)

theorem Deed.retains {w w' : World} (deed : Deed w w') : w.Retains Indexed.Transaction.Patched w' :=
  deed.leads .still (StoreCall.retains fun _ => Indexed.Transaction.patched)

/-- The chain may change between any two deeds. -/
theorem Deed.chain (change : Chain.Node → Chain.Node) (w : World) : Deed w { w with node := change w.node } :=
  .around rfl

/-- Ending the indexer ends its watchers and writes nothing. -/
theorem Deed.shutdown (w : World) : Deed w (Watch.shutdown.run w).2 := .around rfl

/-- Whatever is done, in any order and whatever calls fail, blocks and events stay as they are,
transactions but for their status, and accounts and storage items are not lost. A tick, or a piece of one,
leaves even the status of every transaction that is there. -/
theorem Store.history_of_deeds {w w' : World} (run : Relation.ReflTransGen Deed w w') :
    w.store.Retains Indexed.Transaction.Patched w'.store ∧
      ∀ setup, Tick.OwnScan setup →
        w'.store.Retains Eq ((Tick.run setup).run.run w').2.store ∧
          ∀ p : Piece, w'.store.Retains Eq (p.apply setup w').store := by
  constructor
  · induction run with
    | refl => exact refl_of (World.Retains Indexed.Transaction.Patched) w
    | tail _ deed ih => exact trans_of (World.Retains Indexed.Transaction.Patched) ih deed.retains
  · intro setup own
    refine ⟨Tick.retains own (TickCall.tick setup) w', fun p => ?_⟩
    obtain ⟨α, work, uses, same⟩ := TickCall.piece setup p w'
    rw [same]
    exact Tick.retains own uses w'

/-- The world after a tick that recorded a transfer. -/
def recordedTransfer : World := ((Tick.run .bare).run.run (.start failedTransfer .empty .epoch)).2

/-- The watcher of the transfer has subscribed. -/
def subscribedTransfer : World := ((Watch.step "t").run recordedTransfer).2

/-- The transfer is sealed on the chain. -/
def settledTransfer : World :=
  { subscribedTransfer with node := subscribedTransfer.node.setStatus "t" ⟨.sealed, 0, "", []⟩ }

/-- The watcher has stored that the transfer is sealed. -/
def sealedTransfer : World := ((Watch.step "t").run settledTransfer).2

/-- The transfer as it was fetched before it was sealed. -/
def staleTransfer : Piece := .transaction (.bare "a" 0 ["c"]) ⟨.bare "t", ⟨.executed, 7, "out of gas", []⟩⟩

theorem history_staleTransfer :
    recordedTransfer.store.Retains Indexed.Transaction.Patched (staleTransfer.apply .bare sealedTransfer).store ∧
      ((staleTransfer.apply .bare sealedTransfer).store.transactions.get? "t").map (·.status.executionStatus) =
        some .sealed := by
  have own : Tick.OwnScan .bare := fun scan found => .inl (Option.some.inj found).symm
  have subscribed : Deed recordedTransfer subscribedTransfer := .poll "t" recordedTransfer
  have settled : Deed subscribedTransfer settledTransfer := .chain _ subscribedTransfer
  have seen : Deed settledTransfer sealedTransfer := .poll "t" settledTransfer
  have again : Deed sealedTransfer (staleTransfer.apply .bare sealedTransfer) := .piece own staleTransfer sealedTransfer
  have run := (((Relation.ReflTransGen.single subscribed).tail settled).tail seen).tail again
  exact ⟨(Store.history_of_deeds run).1, by decide +kernel⟩

end ChainIndex
