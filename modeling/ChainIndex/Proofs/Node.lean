import ChainIndex.Proofs.Frame
import ChainIndex.Proofs.Tables

/-!
# Nodes and what they hold at a height

Everything a node holds stands under its own key (`Node.Keyed`), because it only comes there by the
changes of `Chain.Change`. `Node.dataAt` is the data of a height as the node holds it; fetching a
height gives that data or an error, and leaves the world as it is.
-/

set_option autoImplicit false

namespace ChainIndex

namespace Chain

/-- A change of a node from outside. -/
inductive Change where
  | block (b : Block)
  | collection (c : Collection)
  | transaction (t : Transaction) (status : TransactionStatus)
  /-- The body of a transaction without a status. -/
  | body (t : Transaction)
  | status (id : String) (status : TransactionStatus)
  | account (a : Account)
  | noAccount (address : String)
  | storage (address : String) (items : List StorageItem)
  | failure (height : UInt64)
  | noFailures
  | reachable (reachable : Bool)
  | close

def Change.apply : Change → Node → Node
  | block b => Node.putBlock b
  | collection c => Node.putCollection c
  | transaction t s => Node.putTransaction t s
  | body t => Node.putBody t
  | status id s => Node.setStatus id s
  | account a => Node.putAccount a
  | noAccount address => Node.removeAccount address
  | storage address items => Node.putStorage address items
  | failure height => Node.failHeight height
  | noFailures => Node.clearFailures
  | reachable r => Node.setReachable r
  | close => Node.close

namespace Node

/-- Blocks, collections, transactions and accounts stand under their own keys. -/
structure Keyed (n : Node) : Prop where
  blocks : ∀ h b, n.blocks.get? h = some b → b.height = h
  collections : ∀ id c, n.collections.get? id = some c → c.id = id
  transactions : ∀ id t, n.transactions.get? id = some t → t.id = id
  accounts : ∀ address a, n.accounts.get? address = some a → Address.prefixed a.address = address

theorem keyed_empty : Keyed empty where
  blocks := by simp [empty]
  collections := by simp [empty]
  transactions := by simp [empty]
  accounts := by simp [empty]

end Node

theorem get?_insert_own {κ α : Type} [Key κ] [DecidableEq κ] {t : Table κ α} (key : α → κ) {a : α}
    (h : ∀ k b, t.get? k = some b → key b = k) :
    ∀ k b, (t.insert (key a) a).get? k = some b → key b = k := by
  intro k b hb
  rw [Table.get?_insert] at hb
  split at hb
  · next same =>
    cases hb
    exact same.symm
  · exact h k b hb

theorem Node.Keyed.change {n : Node} (h : n.Keyed) (c : Change) : (c.apply n).Keyed := by
  cases c with
  | block b => exact { h with blocks := get?_insert_own Block.height h.blocks }
  | collection c => exact { h with collections := get?_insert_own Collection.id h.collections }
  | transaction t s => exact { h with transactions := get?_insert_own Transaction.id h.transactions }
  | body t => exact { h with transactions := get?_insert_own Transaction.id h.transactions }
  | account a =>
    exact { h with accounts := get?_insert_own (fun a : Account => Address.prefixed a.address) h.accounts }
  | noAccount address =>
    refine { h with accounts := fun k a ha => h.accounts k a ?_ }
    by_cases same : k = Address.prefixed address
    · subst same
      rw [show ((Change.noAccount address).apply n).accounts = n.accounts.erase (Address.prefixed address) from rfl,
        Table.get?_erase_self] at ha
      cases ha
    · rwa [show ((Change.noAccount address).apply n).accounts = n.accounts.erase (Address.prefixed address) from rfl,
        Table.get?_erase_of_ne _ same] at ha
  | status id s => exact ⟨h.blocks, h.collections, h.transactions, h.accounts⟩
  | storage address items => exact ⟨h.blocks, h.collections, h.transactions, h.accounts⟩
  | failure height => exact ⟨h.blocks, h.collections, h.transactions, h.accounts⟩
  | noFailures => exact ⟨h.blocks, h.collections, h.transactions, h.accounts⟩
  | reachable r => exact ⟨h.blocks, h.collections, h.transactions, h.accounts⟩
  | close => exact ⟨h.blocks, h.collections, h.transactions, h.accounts⟩

namespace Node

/-- A node that came about by changes; subscriptions are opened and released in between. -/
inductive Made : Node → Prop where
  | empty : Made empty
  | change {n : Node} (made : Made n) (c : Change) : Made (c.apply n)
  | count {n : Node} (made : Made n) (openCount : Nat) : Made { n with openCount }

theorem Made.keyed {n : Node} (made : n.Made) : n.Keyed := by
  induction made with
  | empty => exact keyed_empty
  | change _ c ih => exact ih.change c
  | count _ _ ih => exact ⟨ih.blocks, ih.collections, ih.transactions, ih.accounts⟩

theorem Made.foldl {α : Type} (change : α → Change) (l : List α) {n : Node} (made : n.Made) :
    (l.foldl (fun n a => (change a).apply n) n).Made := by
  induction l generalizing n with
  | nil => exact made
  | cons a l ih => exact ih (made.change (change a))

/-- A node that starts with the data of a file is made by changes too. -/
theorem made_ofSnapshot (s : Snapshot) : (ofSnapshot s).Made := by
  have blocks := Made.empty.foldl Change.block s.blocks
  have collections := blocks.foldl Change.collection s.collections
  have bodies := collections.foldl Change.body s.transactions
  have statuses := bodies.foldl (fun e => Change.status e.1 e.2) s.statuses.entries
  have accounts := statuses.foldl Change.account s.accounts
  exact accounts.foldl (fun e => Change.storage e.1 e.2) s.storage.entries

variable {n : Node}

theorem require_eq_ok {α : Type} {what id : String} {o : Option α} {a : α} (h : require what id o = .ok a) :
    o = some a := by
  cases o with
  | none => cases h
  | some b =>
    cases h
    rfl

theorem block_eq_ok {height : UInt64} {b : Block} (h : n.block height = .ok b) :
    n.blocks.get? height = some b := by
  unfold block at h
  split at h
  · cases h
  · exact require_eq_ok h

theorem latestBlock_eq_ok {b : Block} (h : n.latestBlock = .ok b) :
    ∃ head, n.headHeight? = some head ∧ n.blocks.get? head = some b := by
  obtain ⟨e, he, rfl⟩ := Option.map_eq_some_iff.mp (require_eq_ok h)
  refine ⟨e.1, ?_, (n.blocks.mem_entries_iff e.1 e.2).mp (List.mem_of_getLast? he)⟩
  rw [headHeight?, he]
  rfl

end Node

end Chain

/-! ### The data of a height -/

/-- The data of a height as a node holds it. -/
def Chain.Node.dataAt (n : Chain.Node) (height : UInt64) : Except Error BlockData := do
  let block ← n.block height
  let collections ← (block.guarantees.map (·.collectionId)).mapM fun id => n.collection id
  let ids := collections.flatMap (·.transactionIds)
  let bodies ← ids.mapM fun id => n.transaction id
  let statuses ← ids.mapM fun id => n.status id
  let transactions := FetchedTransaction.pair bodies statuses
  return { block, collections, transactions,
           events := transactions.flatMap FetchedTransaction.events }

theorem bind_eq_ok {α β ε : Type} {x : Except ε α} {f : α → Except ε β} {b : β} (h : (x >>= f) = .ok b) :
    ∃ a, x = .ok a ∧ f a = .ok b := by
  cases x with
  | error e => cases h
  | ok a => exact ⟨a, rfl, h⟩

/-- The parts of the data of a height: every lookup that leads to it succeeds. -/
theorem Chain.Node.dataAt_eq_ok {n : Chain.Node} {height : UInt64} {data : BlockData}
    (h : n.dataAt height = .ok data) :
    n.block height = .ok data.block ∧
      ((data.block.guarantees.map (·.collectionId)).mapM fun id => n.collection id) = .ok data.collections ∧
      ∃ bodies statuses,
        ((data.collections.flatMap (·.transactionIds)).mapM fun id => n.transaction id) = .ok bodies ∧
        ((data.collections.flatMap (·.transactionIds)).mapM fun id => n.status id) = .ok statuses ∧
        data.transactions = FetchedTransaction.pair bodies statuses ∧
        data.events = data.transactions.flatMap FetchedTransaction.events := by
  obtain ⟨block, hblock, h⟩ := bind_eq_ok h
  obtain ⟨collections, hcollections, h⟩ := bind_eq_ok h
  obtain ⟨bodies, hbodies, h⟩ := bind_eq_ok h
  obtain ⟨statuses, hstatuses, h⟩ := bind_eq_ok h
  cases h
  exact ⟨hblock, hcollections, bodies, statuses, hbodies, hstatuses, rfl, rfl⟩

namespace BlockData
variable {w u : World} {height : UInt64}

theorem ask_ok {α : Type} {call : Call} {answer : Chain.Node → Except Error α} {a : α}
    (h : (Act.ask call answer).run.run w = (.ok a, u)) : answer w.node = .ok a ∧ u.node = w.node := by
  rcases Act.ask_cases call answer w with ⟨e, -, he⟩ | ⟨-, ha⟩
  · rw [he] at h
    cases h
  · rw [ha] at h
    obtain ⟨hr, rfl⟩ := Prod.mk.inj h
    exact ⟨hr, rfl⟩

theorem collect_ok {α : Type} {call : String → Call} {answer : String → Chain.Node → Except Error α}
    {ids : List String} {as : List α}
    (h : (Attempt.collect (fun id => Act.ask (call id) (answer id)) ids).run.run w = (.ok as, u)) :
    (ids.mapM fun id => answer id w.node) = .ok as ∧ u.node = w.node := by
  induction ids generalizing w as with
  | nil =>
    cases h
    exact ⟨rfl, rfl⟩
  | cons id ids ih =>
    obtain ⟨a, v, ha, h⟩ := Attempt.run_bind_eq_ok h
    obtain ⟨rest, v', hrest, h⟩ := Attempt.run_bind_eq_ok h
    cases h
    obtain ⟨ha, hv⟩ := ask_ok ha
    obtain ⟨hrest, hu⟩ := ih hrest
    rw [hv] at hrest
    refine ⟨?_, hu.trans hv⟩
    rw [List.mapM_cons, ha, hrest]
    rfl

/-- What was fetched is what the node holds. -/
theorem fetch_ok {data : BlockData} (h : (fetch height).run.run w = (.ok data, u)) :
    w.node.dataAt height = .ok data ∧ u.node = w.node := by
  obtain ⟨block, v₁, hblock, h⟩ := Attempt.run_bind_eq_ok h
  obtain ⟨collections, v₂, hcollections, h⟩ := Attempt.run_bind_eq_ok h
  obtain ⟨bodies, v₃, hbodies, h⟩ := Attempt.run_bind_eq_ok h
  obtain ⟨statuses, v₄, hstatuses, h⟩ := Attempt.run_bind_eq_ok h
  cases h
  obtain ⟨hblock, n₁⟩ := ask_ok hblock
  obtain ⟨hcollections, n₂⟩ := collect_ok hcollections
  obtain ⟨hbodies, n₃⟩ := collect_ok hbodies
  obtain ⟨hstatuses, n₄⟩ := collect_ok hstatuses
  rw [n₁] at hcollections n₂
  rw [n₂] at hbodies n₃
  rw [n₃] at hstatuses n₄
  refine ⟨?_, n₄⟩
  simp only [Chain.Node.dataAt, bind, Except.bind, hblock, hcollections, hbodies, hstatuses]
  rfl

/-! ### Without outages -/

def Looks : Call → Prop
  | .block _ | .collection _ | .transaction _ | .status _ => True
  | _ => False

theorem ask_of_answers {α : Type} {which : Call → Prop} {call : Call} (answer : Chain.Node → Except Error α)
    (ha : w.Answers which) (hc : which call) : (Act.ask call answer).run.run w = (answer w.node, w.counted) :=
  Act.attempt_of_answer (ha w.calls (Nat.le_refl _) _ hc)

theorem collect_of_answers {α : Type} {which : Call → Prop} {call : String → Call}
    (answer : String → Chain.Node → Except Error α) (ids : List String) (ha : w.Answers which)
    (hc : ∀ id, which (call id)) :
    ((Attempt.collect (fun id => Act.ask (call id) (answer id)) ids).run.run w).1 =
      ids.mapM fun id => answer id w.node := by
  induction ids generalizing w with
  | nil => rfl
  | cons id ids ih =>
    rw [List.mapM_cons]
    refine Attempt.run_bind_fst (congrArg Prod.fst (ask_of_answers (answer id) ha (hc id))) fun a v hv => ?_
    rw [ask_of_answers (answer id) ha (hc id)] at hv
    obtain ⟨-, rfl⟩ := Prod.mk.inj hv
    exact Attempt.run_bind_fst (ih ((World.Within.counted [] w).answers ha)) fun _ _ _ => rfl

theorem collect_within {α : Type} {call : String → Call} {answer : String → Chain.Node → Except Error α}
    {ids : List String} {as : List α}
    (h : (Attempt.collect (fun id => Act.ask (call id) (answer id)) ids).run.run w = (.ok as, u)) : w.Within [] u := by
  have within : Only [] (Attempt.collect (fun id => Act.ask (call id) (answer id)) ids).run :=
    .collect fun id _ => .ask (call id) (answer id)
  have step := within w
  rw [h] at step
  exact step

/-- Where no lookup fails what is fetched is what the node holds. -/
theorem fetch_of_answers (ha : w.Answers Looks) (height : UInt64) :
    ((fetch height).run.run w).1 = w.node.dataAt height := by
  have asked : (Act.ask (.block height) (Chain.Node.block height)).run.run w = (w.node.block height, w.counted) :=
    ask_of_answers _ ha trivial
  have collected {α : Type} (call : String → Call) (answer : String → Chain.Node → Except Error α)
      (hc : ∀ id, Looks (call id)) (ids : List String) {v : World} (hv : w.Within [] v) :
      ((Attempt.collect (fun id => Act.ask (call id) (answer id)) ids).run.run v).1 =
        ids.mapM fun id => answer id w.node := by
    rw [← hv.node (by simp)]
    exact collect_of_answers answer ids (hv.answers ha) hc
  refine Attempt.run_bind_fst (congrArg Prod.fst asked) fun block v hv => ?_
  rw [asked] at hv
  obtain ⟨-, rfl⟩ := Prod.mk.inj hv
  have w₁ := World.Within.counted [] w
  refine Attempt.run_bind_fst (collected .collection Chain.Node.collection (fun _ => trivial) _ w₁) fun _ v₂ run₂ => ?_
  have w₂ := w₁.trans (collect_within run₂)
  refine Attempt.run_bind_fst (collected .transaction Chain.Node.transaction (fun _ => trivial) _ w₂) fun _ v₃ run₃ => ?_
  have w₃ := w₂.trans (collect_within run₃)
  exact Attempt.run_bind_fst (collected .status Chain.Node.status (fun _ => trivial) _ w₃) fun _ _ _ => rfl

end BlockData

end ChainIndex
