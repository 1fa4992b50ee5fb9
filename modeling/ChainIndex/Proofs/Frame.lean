import ChainIndex.Proofs.Calls
import ChainIndex.Proofs.Effects
import ChainIndex.Tick

/-!
# What a piece of work leaves alone

A world falls into parts: the indexes of the store, the node, the watchers and the phase. `Only parts`
says of a piece of work that it changes no other part, whatever calls fail. Every piece of a tick is
listed here with the parts that it may change; no piece changes the clock or the outages.
-/

set_option autoImplicit false

namespace ChainIndex

open Store (Shelved)
open Indexed (Entity)

/-- A part of a world that some work changes. -/
inductive Part where
  | shelf (kind : Kind)
  | node
  | watchers
  | phase
  deriving DecidableEq

/-- The indexes of one kind are the same in two stores. -/
def Store.Same (s t : Store) : Kind → Prop
  | .block => t.blocks = s.blocks
  | .transaction => t.transactions = s.transactions
  | .event => t.events = s.events
  | .account => t.accounts = s.accounts
  | .key => t.keys = s.keys
  | .contract => t.contracts = s.contracts
  | .storageItem => t.storageItems = s.storageItems

namespace Store.Same
variable {s t u : Store}

theorem refl (s : Store) (kind : Kind) : s.Same s kind := by
  cases kind <;> rfl

theorem trans {kind : Kind} (h₁ : s.Same t kind) (h₂ : t.Same u kind) : s.Same u kind := by
  cases kind <;> exact Eq.trans h₂ h₁

end Store.Same

theorem Store.eq_of_same {s t : Store} (h : ∀ kind, s.Same t kind) : t = s := by
  obtain ⟨blocks, transactions, events, accounts, keys, contracts, storageItems⟩ := s
  obtain rfl := h .block
  obtain rfl := h .transaction
  obtain rfl := h .event
  obtain rfl := h .account
  obtain rfl := h .key
  obtain rfl := h .contract
  obtain rfl := h .storageItem
  rfl

/-- A shelf holds the table that was put on it last, and putting it there moves no other table. -/
class LawfulShelf (α : Type) {π : Type} [Shelved α π] : Prop where
  table_setTable (t : Table String α) (s : Store) : Shelved.table (Shelved.setTable t s) = t
  same_setTable (t : Table String α) (s : Store) {kind : Kind} (h : kind ≠ Shelved.shelf α) :
    s.Same (Shelved.setTable t s) kind

instance : LawfulShelf Indexed.Block where
  table_setTable _ _ := rfl
  same_setTable _ _ kind h := by cases kind <;> first | exact absurd rfl h | exact rfl

instance : LawfulShelf Indexed.Transaction where
  table_setTable _ _ := rfl
  same_setTable _ _ kind h := by cases kind <;> first | exact absurd rfl h | exact rfl

instance : LawfulShelf Indexed.Event where
  table_setTable _ _ := rfl
  same_setTable _ _ kind h := by cases kind <;> first | exact absurd rfl h | exact rfl

instance : LawfulShelf Indexed.Account where
  table_setTable _ _ := rfl
  same_setTable _ _ kind h := by cases kind <;> first | exact absurd rfl h | exact rfl

instance : LawfulShelf Indexed.AccountKey where
  table_setTable _ _ := rfl
  same_setTable _ _ kind h := by cases kind <;> first | exact absurd rfl h | exact rfl

instance : LawfulShelf Indexed.Contract where
  table_setTable _ _ := rfl
  same_setTable _ _ kind h := by cases kind <;> first | exact absurd rfl h | exact rfl

instance : LawfulShelf Indexed.StorageItem where
  table_setTable _ _ := rfl
  same_setTable _ _ kind h := by cases kind <;> first | exact absurd rfl h | exact rfl

/-- From `w` to `w'` no part changed but the ones that are listed. -/
structure World.Within (parts : List Part) (w w' : World) : Prop where
  shelf : ∀ kind, Part.shelf kind ∉ parts → w.store.Same w'.store kind
  node : Part.node ∉ parts → w'.node = w.node
  watchers : Part.watchers ∉ parts → w'.watchers = w.watchers
  phase : Part.phase ∉ parts → w'.phase = w.phase ∧ w'.phaseChanges = w.phaseChanges
  clock : w'.clock = w.clock
  outages : w'.outages = w.outages
  calls : w.calls ≤ w'.calls

namespace World.Within
variable {parts more : List Part} {w w' w'' : World}

theorem refl (parts : List Part) (w : World) : w.Within parts w :=
  ⟨fun _ _ => .refl _ _, fun _ => rfl, fun _ => rfl, fun _ => ⟨rfl, rfl⟩, rfl, rfl, Nat.le_refl _⟩

theorem trans (h₁ : w.Within parts w') (h₂ : w'.Within parts w'') : w.Within parts w'' where
  shelf kind hk := (h₁.shelf kind hk).trans (h₂.shelf kind hk)
  node hp := (h₂.node hp).trans (h₁.node hp)
  watchers hp := (h₂.watchers hp).trans (h₁.watchers hp)
  phase hp := ⟨(h₂.phase hp).1.trans (h₁.phase hp).1, (h₂.phase hp).2.trans (h₁.phase hp).2⟩
  clock := h₂.clock.trans h₁.clock
  outages := h₂.outages.trans h₁.outages
  calls := Nat.le_trans h₁.calls h₂.calls

theorem mono (h : w.Within parts w') (sub : parts ⊆ more) : w.Within more w' where
  shelf kind hk := h.shelf kind fun hp => hk (sub hp)
  node hp := h.node fun hq => hp (sub hq)
  watchers hp := h.watchers fun hq => hp (sub hq)
  phase hp := h.phase fun hq => hp (sub hq)
  clock := h.clock
  outages := h.outages
  calls := h.calls

/-- Where none of the indexes changed the store is as it was. -/
theorem still (h : w.Within parts w') (shelves : ∀ kind, Part.shelf kind ∉ parts) : w'.store = w.store :=
  Store.eq_of_same fun kind => h.shelf kind (shelves kind)

theorem counted (parts : List Part) (w : World) : w.Within parts w.counted :=
  ⟨fun _ _ => .refl _ _, fun _ => rfl, fun _ => rfl, fun _ => ⟨rfl, rfl⟩, rfl, rfl, Nat.le_succ _⟩

theorem setPhase (phase : Phase) (w : World) : w.Within [.phase] (w.setPhase phase) where
  shelf _ _ := .refl _ _
  node _ := rfl
  watchers _ := rfl
  phase hp := absurd (List.mem_singleton_self _) hp
  clock := rfl
  outages := rfl
  calls := Nat.le_refl _

theorem setTable {α π : Type} [Shelved α π] [LawfulShelf α] (t : Table String α) (w : World) :
    w.Within [.shelf (Shelved.shelf α)] (w.shelve t) where
  shelf _ hk := LawfulShelf.same_setTable t w.store fun h => hk (h ▸ List.mem_singleton_self _)
  node _ := rfl
  watchers _ := rfl
  phase _ := ⟨rfl, rfl⟩
  clock := rfl
  outages := rfl
  calls := Nat.le_refl _

theorem answers {which : Call → Prop} (h : w.Within parts w') (ha : w.Answers which) : w'.Answers which :=
  fun n hn call hc => by
    rw [h.outages]
    exact ha n (Nat.le_trans h.calls hn) call hc

instance : IsPreorder World (World.Within parts) where
  refl := .refl parts
  trans _ _ _ := .trans

end World.Within

open Attempt (Leads)

/-- Work that changes no other part than these. -/
def Only {α : Type} (parts : List Part) (work : StateM World α) : Prop :=
  ∀ w : World, w.Within parts (work.run w).2

namespace Only
variable {α β ε : Type} {parts more : List Part}

theorem mono {work : StateM World α} (h : Only parts work) (sub : parts ⊆ more) : Only more work :=
  fun w => (h w).mono sub

theorem pure (a : α) : Only parts (Pure.pure a : StateM World α) := Leads.pure a

theorem bind {x : StateM World α} {f : α → StateM World β} (hx : Only parts x)
    (hf : ∀ a, Only parts (f a)) : Only parts (x >>= f) :=
  Leads.bind (r := World.Within parts) hx hf

theorem get : Only parts (MonadState.get : StateM World World) := Leads.get

theorem ok (a : α) : Only parts (Pure.pure a : ExceptT ε (StateM World) α).run := Leads.ok a

theorem throw (e : ε) : Only parts (MonadExcept.throw e : ExceptT ε (StateM World) α).run := Leads.throw e

theorem seq {x : ExceptT ε (StateM World) α} {f : α → ExceptT ε (StateM World) β}
    (hx : Only parts x.run) (hf : ∀ a, Only parts (f a).run) : Only parts (x >>= f).run :=
  Leads.seq (r := World.Within parts) hx hf

theorem lift {x : StateM World α} (hx : Only parts x) :
    Only parts (liftM x : ExceptT ε (StateM World) α).run := hx

theorem result {x : Act α} (hx : Only parts x.run) : Only parts (Attempt.result x).run := hx

theorem forEach {work : α → Act β} {l : List α} (h : ∀ a ∈ l, Only parts (work a).run) :
    Only parts (Attempt.forEach work l) :=
  Leads.forEach (r := World.Within parts) h

theorem collect {work : α → Act β} {l : List α} (h : ∀ a ∈ l, Only parts (work a).run) :
    Only parts (Attempt.collect work l).run :=
  Leads.collect (r := World.Within parts) h

/-- Work that changes none of the indexes leaves the store as it is. -/
theorem still {work : StateM World α} (h : Only parts work) (shelves : ∀ kind, Part.shelf kind ∉ parts) (w : World) :
    (work.run w).2.store = w.store :=
  (h w).still shelves

/-! ### Calls -/

theorem attempt {call : Call} {run : World → Except Error α × World}
    (h : ∀ w : World, w.Within parts (run w).2) : Only parts (Act.attempt call run).run :=
  Act.leads_attempt (r := World.Within parts) (.counted parts) h

theorem ask (call : Call) (answer : Chain.Node → Except Error α) : Only parts (Act.ask call answer).run :=
  attempt fun w => .refl parts w

theorem read (call : Call) (answer : Store → α) : Only parts (Act.read call answer).run :=
  attempt fun w => .refl parts w

section
variable {π : Type} [Shelved α π] [LawfulShelf α]

theorem write {call : Call} {change : Table String α → Except Error (Table String α)}
    (h : .shelf (Shelved.shelf α) ∈ parts) : Only parts (Act.write call change).run := by
  refine attempt fun w => ?_
  split
  · exact (World.Within.setTable _ w).mono fun _ hp => List.mem_singleton.mp hp ▸ h
  · exact .refl _ w

theorem create (a : α) (h : .shelf (Shelved.shelf α) ∈ parts) : Only parts (Act.create a).run := write h

theorem update (id : String) (patch : π) (h : .shelf (Shelved.shelf α) ∈ parts) :
    Only parts (Act.update α id patch).run := write h

theorem upsert (a : α) (h : .shelf (Shelved.shelf α) ∈ parts) : Only parts (Act.upsert a).run := write h

theorem delete (id : String) (h : .shelf (Shelved.shelf α) ∈ parts) : Only parts (Act.delete α id).run :=
  write h

end

/-! ### Accounts, keys and contracts -/

/-- The parts that the effects of events may change. -/
def effects : List Part := [.shelf .account, .shelf .key, .shelf .contract]

theorem effectCall {writes : Indexed.AccountKey → Prop} {work : StateM World α} (call : EffectCall writes α work) :
    Only effects work := by
  cases call with
  | look address => exact ask _ _
  | keys => exact read _ _
  | findKey id => exact read _ _
  | upsertAccount a => exact upsert _ (by decide)
  | upsertKey hk => exact upsert _ (by decide)
  | updateKey hk => exact update _ _ (by decide)
  | deleteKey id => exact delete _ (by decide)
  | upsertContract hc => exact upsert _ (by decide)
  | deleteContract id => exact delete _ (by decide)

theorem index (address : String) (observedAt : Timestamp) : Only effects (Account.index address observedAt).run :=
  (Effects.index address observedAt).leads effectCall

theorem dispatch (classifier : Classifier) (observedAt : Timestamp) (e : Chain.Event) :
    Only effects (Meaning.dispatch classifier observedAt e).run :=
  (Effects.dispatch classifier observedAt e).leads effectCall

theorem ensure (address : String) : Only effects (WellKnown.ensure address).run := by
  refine .seq (.read _ _) fun found => ?_
  split
  · exact .ok _
  · exact .seq .get fun w => .seq (index _ _) fun _ => .ok _

theorem wellKnown : Only effects WellKnown.run :=
  .bind (.forEach fun address _ => ensure address) fun _ => .pure _

theorem sync (address : String) (account : Chain.Account) (observedAt : Timestamp) :
    Only [.shelf .key] (KeySync.sync address account observedAt).run := by
  let kinds : (α : Type) → StateM World α → Prop := fun _ => Only [.shelf .key]
  refine .seq (.seq (.read _ _) fun _ => .ok _) fun stored => .lift ?_
  refine Attempt.Uses.leads (id : ∀ {α work}, kinds α work → _) (Diff.uses_apply ?_ ?_ ?_)
  · exact fun k _ => .piece (upsert k (by decide))
  · intro k _
    refine KeySync.uses_replace (.piece ?_) (fun previous _ _ => .piece ?_) (.piece ?_)
    · exact update (α := Indexed.AccountKey) k.id k (by decide)
    · exact delete (α := Indexed.AccountKey) previous (by decide)
    · exact upsert k (by decide)
  · exact fun k _ => .piece (delete (α := Indexed.AccountKey) k.id (by decide))

/-- Behind its record only the keys and the contracts of an account are written. -/
theorem storeParts (observedAt : Timestamp) (account : Chain.Account) :
    Only [.shelf .key, .shelf .contract] (Account.storeParts observedAt account).run := by
  let kinds : (α : Type) → StateM World α → Prop := fun _ => Only [.shelf .key, .shelf .contract]
  refine Attempt.Uses.leads (id : ∀ {α work}, kinds α work → _) ?_
  refine Account.uses_storeParts (.piece ?_) fun c _ => .piece ?_
  · exact (sync _ account observedAt).mono (by decide)
  · exact upsert c (by decide)

theorem bootstrap (setup : Setup) : Only effects (Tick.bootstrap setup) := by
  unfold Tick.bootstrap
  split
  · exact wellKnown
  · exact .pure _

/-! ### Heights -/

theorem fetch (height : UInt64) : Only parts (BlockData.fetch height).run := by
  refine .seq (.ask _ _) fun block => .seq (.collect fun _ _ => .ask _ _) fun collections => ?_
  refine .seq (.collect fun _ _ => .ask _ _) fun bodies => ?_
  exact .seq (.collect fun _ _ => .ask _ _) fun statuses => .ok _

theorem bounds : Only parts Tick.bounds.run := by
  refine .seq (.seq (.read _ _) fun _ => .ok _) fun _ => ?_
  exact .seq (.seq (.ask _ _) fun _ => .ok _) fun _ => .ok _

theorem replaySafe {work : Act Unit} (h : Only parts work.run) : Only parts (Recording.replaySafe work).run := by
  refine .seq (.result h) fun done => ?_
  split
  · exact .ok _
  · exact .ok _
  · exact .throw _

theorem recordBlock (block : Chain.Block) : Only [.shelf .block] (Recording.recordBlock block).run :=
  replaySafe (create _ (by decide))

theorem recordTransaction (parse : String → Script.Outcome) (block : Chain.Block) (t : FetchedTransaction) :
    Only [.shelf .transaction] (Recording.recordTransaction parse block t).run :=
  replaySafe (create _ (by decide))

theorem recordEvent (e : Chain.Event) : Only [.shelf .event] (Recording.recordEvent e).run :=
  replaySafe (create _ (by decide))

theorem scanStorage : Only [.shelf .storageItem] StorageScan.run.run := by
  refine .seq (.read _ _) fun accounts => .seq (.lift (.forEach fun a _ => ?_)) fun _ => .ok _
  exact .seq (.ask _ _) fun items => .seq (.lift (.forEach fun i _ => upsert _ (by decide))) fun _ => .ok _

end Only

end ChainIndex
