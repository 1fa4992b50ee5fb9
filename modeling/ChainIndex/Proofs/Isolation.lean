import ChainIndex.Proofs.Additions

/-!
# A record that cannot be written disturbs no other

The block, the transactions and the events of a height are created one by one, and the effects of the
events are applied behind them. Where creations are refused, what is refused is missing and nothing else
differs: the other records are written, the effects are those of a run without refusals, and every
transaction and every event is counted. Effects read nothing that creations write, which is shown on two
runs from worlds that differ in those parts only.
-/

set_option autoImplicit false

namespace ChainIndex

open Store (Shelved)
open Indexed (Entity)
open Attempt (Parallel)

/-! ### Worlds that are alike to effects -/

def Call.Creates : Call → Prop
  | .create _ _ => True
  | _ => False

/-- Two worlds that differ in nothing that effects read, write or are told. -/
structure World.Alike (a b : World) : Prop where
  node : a.node = b.node
  accounts : a.store.accounts = b.store.accounts
  keys : a.store.keys = b.store.keys
  contracts : a.store.contracts = b.store.contracts
  calls : a.calls = b.calls
  outages : ∀ n call, ¬ call.Creates → a.outages.call n call = b.outages.call n call

namespace World.Alike
variable {a b : World} {α : Type}

theorem counted (h : a.Alike b) : a.counted.Alike b.counted :=
  { h with calls := congrArg (· + 1) h.calls }

theorem fails {call : Call} (other : ¬ call.Creates) : Act.FailsAlike Alike call :=
  ⟨counted, fun alike => by rw [alike.outages _ _ other, alike.calls]⟩

theorem attempt {call : Call} (other : ¬ call.Creates) {run : World → Except Error α × World}
    (h : Parallel Alike (run : StateM World (Except Error α))) : Parallel Alike (Act.attempt call run).run :=
  (fails other).attempt (fun _ => rfl) h

/-- An index that is the same in worlds that are alike, and may be written in both. -/
class Shared (α : Type) {π : Type} [Shelved α π] : Prop where
  table {a b : World} (h : a.Alike b) : (Shelved.table a.store : Table String α) = Shelved.table b.store
  shelve {a b : World} (h : a.Alike b) (t : Table String α) : (a.shelve t).Alike (b.shelve t)

instance : Shared Indexed.Account := ⟨fun h => h.accounts, fun h _ => { h with accounts := rfl }⟩
instance : Shared Indexed.AccountKey := ⟨fun h => h.keys, fun h _ => { h with keys := rfl }⟩
instance : Shared Indexed.Contract := ⟨fun h => h.contracts, fun h _ => { h with contracts := rfl }⟩

theorem write {π : Type} [Shelved α π] [Shared α] {call : Call} (other : ¬ call.Creates)
    (change : Table String α → Except Error (Table String α)) : Parallel Alike (Act.write call change).run :=
  (fails other).write Shared.table Shared.shelve change

theorem read {call : Call} (other : ¬ call.Creates) {answer : Store → α}
    (h : ∀ {a b : World}, a.Alike b → answer a.store = answer b.store) : Parallel Alike (Act.read call answer).run :=
  attempt other fun _ _ alike => ⟨congrArg Except.ok (h alike), alike⟩

theorem effectCall {writes : Indexed.AccountKey → Prop} {work : StateM World α} (call : EffectCall writes α work) :
    Parallel Alike work := by
  cases call with
  | look address => exact attempt id fun a b alike => ⟨congrArg (Chain.Node.account address) alike.node, alike⟩
  | keys => exact read id fun alike => congrArg Table.values alike.keys
  | findKey key => exact read id fun alike => congrArg (Table.get? · key) alike.keys
  | upsertAccount a => exact write id _
  | upsertKey hk => exact write id _
  | updateKey hk => exact write id _
  | deleteKey _ => exact write id _
  | upsertContract hc => exact write id _
  | deleteContract _ => exact write id _

theorem dispatchAll (classifier : Classifier) (observedAt : Timestamp) (events : List Chain.Event) :
    Parallel Alike (Attempt.forEach (Meaning.dispatch classifier observedAt) events) := by
  have made : Effects.Made Indexed.AccountKey.Named (Attempt.forEach (Meaning.dispatch classifier observedAt) events) :=
    .forEach fun e _ => Effects.dispatch classifier observedAt e
  exact made.parallel effectCall

end World.Alike

/-! ### Refused creations -/

/-- Which creations are refused, by the ids of the records, and with which errors. -/
abbrev Refusals : Type := Kind → String → Option Error

/-- No creation is refused because the record is there already. -/
def Refusals.Honest (refuse : Refusals) : Prop := ∀ kind id what, refuse kind id ≠ some (.alreadyExists what)

/-- The world in which creations are refused in this way; other calls fail as before. -/
def World.refusing (refuse : Refusals) (w : World) : World :=
  { w with
    outages := { w.outages with
      call := fun n call => match call with
        | .create kind id => refuse kind id
        | other => w.outages.call n other } }

/-- In the world creations are refused in this way. -/
def World.Refuses (refuse : Refusals) (w : World) : Prop :=
  ∀ n kind id, w.outages.call n (.create kind id) = refuse kind id

theorem World.Refuses.within {refuse : Refusals} {parts : List Part} {w w' : World} (h : w.Refuses refuse)
    (within : w.Within parts w') : w'.Refuses refuse := by
  rw [World.Refuses, within.outages]
  exact h

theorem World.refusing_alike (refuse : Refusals) (w : World) : (w.refusing refuse).Alike w where
  node := rfl
  accounts := rfl
  keys := rfl
  contracts := rfl
  calls := rfl
  outages n call other := by
    cases call with
    | create kind id => exact absurd trivial other
    | _ => rfl

namespace Recording

section
variable {refuse : Refusals} {α π : Type} [Shelved α π] [LawfulShelf α]

/-- The result of creating a record. -/
def verdict : Option Error → Except Error Unit
  | some e => .error e
  | none => .ok ()

/-- The records whose creation is not refused. -/
def accepted (refuse : Refusals) (records : List α) : List α :=
  records.filter fun a => (refuse (Shelved.shelf α) (Entity.id a)).isNone

theorem replaySafe_create_refusing (honest : refuse.Honest) (a : α) {u : World} (hu : u.Refuses refuse) :
    ((replaySafe (Act.create a)).run.run u).1 = verdict (refuse (Shelved.shelf α) (Entity.id a)) ∧
      ((replaySafe (Act.create a)).run.run u).2.calls = u.calls + 1 ∧
      (Shelved.table u.store : Table String α).Extended (accepted refuse [a])
        (Shelved.table ((replaySafe (Act.create a)).run.run u).2.store) := by
  have honestly : u.Honest := fun n kind id what => by
    rw [hu]
    exact honest kind id what
  rcases replaySafe_create_cases a u honestly with ⟨e, he, run⟩ | ⟨hn, ⟨b, hb, run⟩ | ⟨free, run⟩⟩
  · rw [hu] at he
    rw [run]
    have left : accepted refuse [a] = [] := by simp [accepted, he]
    rw [left, he]
    exact ⟨rfl, rfl, .of_eq rfl⟩
  · rw [hu] at hn
    rw [run]
    have kept : accepted refuse [a] = [a] := by simp [accepted, hn]
    rw [kept, hn]
    exact ⟨rfl, rfl, .of_taken hb⟩
  · rw [hu] at hn
    rw [run]
    have kept : accepted refuse [a] = [a] := by simp [accepted, hn]
    rw [kept, hn]
    refine ⟨rfl, rfl, ?_⟩
    rw [World.shelve_store, LawfulShelf.table_setTable]
    exact .of_free free

theorem forEach_refusing (honest : refuse.Honest) {β : Type} (f : β → α) (work : β → Act Unit)
    (made : ∀ b, work b = replaySafe (Act.create (f b))) (l : List β) {u : World} (hu : u.Refuses refuse) :
    ((Attempt.forEach work l).run u).1 = l.map (fun b => verdict (refuse (Shelved.shelf α) (Entity.id (f b)))) ∧
      ((Attempt.forEach work l).run u).2.calls = u.calls + l.length ∧
      (Shelved.table u.store : Table String α).Extended (accepted refuse (l.map f))
        (Shelved.table ((Attempt.forEach work l).run u).2.store) := by
  induction l generalizing u with
  | nil => exact ⟨rfl, rfl, .of_eq rfl⟩
  | cons b l ih =>
    obtain ⟨result, calls, extended⟩ := replaySafe_create_refusing honest (f b) hu
    have within := Only.replaySafe (Only.create (f b) (List.mem_singleton_self (Part.shelf (Shelved.shelf α)))) u
    rw [← made] at result calls extended within
    obtain ⟨results, moreCalls, more⟩ := ih (hu.within within)
    rw [Attempt.forEach_cons, result, results, moreCalls, calls, List.length_cons]
    refine ⟨rfl, by omega, ?_⟩
    have split : accepted refuse ((b :: l).map f) = accepted refuse [f b] ++ accepted refuse (l.map f) := by
      rw [accepted, List.map_cons, ← List.singleton_append, List.filter_append]
      rfl
    rw [split]
    exact extended.append more

omit [LawfulShelf α] in
theorem find?_accepted (records : List α) (id : String) :
    ((accepted refuse records).find? fun a => Entity.id a == id) =
      if (refuse (Shelved.shelf α) id).isSome then none else records.find? fun a => Entity.id a == id := by
  rw [accepted, List.find?_filter]
  split
  · next refused =>
    refine List.find?_eq_none.mpr fun a _ both => ?_
    obtain ⟨free, own⟩ := of_decide_eq_true both
    rw [eq_of_beq own] at free
    simp_all
  · next free =>
    congr 1
    funext a
    by_cases own : Entity.id a = id <;> simp_all

omit [LawfulShelf α] in
/-- Refusals leave out the records of the refused ids and nothing else. -/
theorem get?_of_accepted {records : List α} {t t' t₀ : Table String α} (h : t.Extended (accepted refuse records) t')
    (h₀ : t.Extended records t₀) (id : String) :
    t'.get? id = if (refuse (Shelved.shelf α) id).isSome then t.get? id else t₀.get? id := by
  rw [h id, h₀ id, find?_accepted]
  split
  · exact Option.or_none
  · rfl

end

end Recording

/-! ### Counts -/

namespace Attempt
variable {β : Type}

/-- The number of results that are errors. -/
def failures (results : List (Except Error β)) : Nat := results.countP fun r => !isSuccess r

theorem successes_add_failures (results : List (Except Error β)) :
    successes results + failures results = results.length := by
  rw [List.length_eq_countP_add_countP isSuccess]
  simp [successes, failures]

end Attempt

/-- All items, whether they were handled or not. -/
def ItemCounts.total (c : ItemCounts) : Nat := c.transactions + c.events + c.dispatched + c.failed

/-- The number of items of a height: a transaction is written, an event is written and has an effect. -/
def BlockData.items (data : BlockData) : Nat := data.transactions.length + 2 * data.events.length

namespace Recording

theorem tally_total (ts es : List (Except Error Unit)) (ds : List (Except Error Meaning)) :
    (tally ts es ds).total = ts.length + es.length + ds.length := by
  have := Attempt.successes_add_failures ts
  have := Attempt.successes_add_failures es
  have := Attempt.successes_add_failures ds
  simp only [tally, ItemCounts.total]
  omega

theorem tally_failed (ts es : List (Except Error Unit)) (ds : List (Except Error Meaning)) :
    (tally ts es ds).failed = Attempt.failures ts + Attempt.failures es + Attempt.failures ds := by
  have := Attempt.successes_add_failures ts
  have := Attempt.successes_add_failures es
  have := Attempt.successes_add_failures ds
  simp only [tally]
  omega

/-- Every transaction and every event of a height is counted. -/
theorem run_total {parse : String → Script.Outcome} {classifier : Classifier} {data : BlockData} {w w' : World}
    {counts : ItemCounts} (h : (run parse classifier data).run.run w = (.ok counts, w')) : counts.total = data.items := by
  rw [run_eq] at h
  have counted := (Prod.mk.inj h).1
  cases hb : ((recordBlock data.block).run.run w).1 with
  | error e =>
    rw [hb] at counted
    cases counted
  | ok _ =>
    rw [hb] at counted
    cases counted
    rw [tally_total, Attempt.length_forEach, Attempt.length_forEach, Attempt.length_forEach, BlockData.items]
    omega

/-! ### Recording under refusals -/

/-- The world after as many calls as the records of a height take. -/
def called (data : BlockData) (w : World) : World :=
  { w with calls := w.calls + 1 + data.transactions.length + data.events.length }

/-- The results of the effects of a height's events, which no refusal changes. -/
def effects (classifier : Classifier) (data : BlockData) (w : World) : List (Except Error Meaning) :=
  ((Attempt.forEach (Meaning.dispatch classifier data.block.timestamp) data.events).run (called data w)).1

/-- What recording a height comes to where creations are refused: `w` is the world before, `v` the world
after, and `v₀` the world after recording without refusals. -/
structure Isolated (refuse : Refusals) (classifier : Classifier) (data : BlockData) (w v v₀ : World)
    (result : Except Error ItemCounts) : Prop where
  transactions : ∀ id, v.store.transactions.get? id =
    if (refuse .transaction id).isSome then w.store.transactions.get? id else v₀.store.transactions.get? id
  events : ∀ id, v.store.events.get? id =
    if (refuse .event id).isSome then w.store.events.get? id else v₀.store.events.get? id
  accounts : v.store.accounts = v₀.store.accounts
  keys : v.store.keys = v₀.store.keys
  contracts : v.store.contracts = v₀.store.contracts
  error : ∀ e, result = .error e ↔ refuse .block data.block.id = some e
  counts : ∀ c, result = .ok c → c.total = data.items ∧
    c.failed = data.transactions.countP (fun t => (refuse .transaction t.transaction.id).isSome) +
      data.events.countP (fun e => (refuse .event (Indexed.Event.ofChain e).id).isSome) +
      Attempt.failures (effects classifier data w)

theorem failures_verdict {β : Type} (refused : β → Option Error) (l : List β) :
    Attempt.failures (l.map fun b => verdict (refused b)) = l.countP fun b => (refused b).isSome := by
  rw [Attempt.failures, List.countP_map]
  congr 1
  funext b
  cases h : refused b <;> simp [h, verdict, Attempt.isSuccess]

/-- Effects do not tell the world behind the records of a height from the one before them. -/
theorem alike_called {refuse : Refusals} {data : BlockData} {w u : World}
    (within : (w.refusing refuse).Within [.shelf .block, .shelf .transaction, .shelf .event] u)
    (calls : u.calls = (called data w).calls) : u.Alike (called data w) where
  node := within.node (by decide)
  accounts := within.shelf .account (by decide)
  keys := within.shelf .key (by decide)
  contracts := within.shelf .contract (by decide)
  calls := calls
  outages n call other := by
    rw [within.outages]
    exact (w.refusing_alike refuse).outages n call other

/-- Under refusals the transactions and events that are not refused are written, and the effects are
those of the world before. -/
theorem run_refusing {refuse : Refusals} (honest : refuse.Honest) (parse : String → Script.Outcome)
    (classifier : Classifier) (data : BlockData) (w : World) :
    ∃ counts v, (run parse classifier data).run.run (w.refusing refuse) =
        ((verdict (refuse .block data.block.id)).map fun _ => counts, v) ∧
      w.store.transactions.Extended
        (accepted refuse (data.transactions.map (Chain.Node.transactionRecord parse data.block))) v.store.transactions ∧
      w.store.events.Extended (accepted refuse (data.events.map .ofChain)) v.store.events ∧
      v.Alike ((Attempt.forEach (Meaning.dispatch classifier data.block.timestamp) data.events).run (called data w)).2 ∧
      counts.failed = data.transactions.countP (fun t => (refuse .transaction t.transaction.id).isSome) +
        data.events.countP (fun e => (refuse .event (Indexed.Event.ofChain e).id).isSome) +
        Attempt.failures (effects classifier data w) := by
  have refuses : (w.refusing refuse).Refuses refuse := fun _ _ _ => rfl
  rw [run_eq]
  -- The block, the transactions and the events, each from where the one before it left the world.
  have block := replaySafe_create_refusing honest (Indexed.Block.ofChain data.block) refuses
  have within₁ := Only.recordBlock data.block (w.refusing refuse)
  rw [← recordBlock] at block
  generalize (recordBlock data.block).run.run (w.refusing refuse) = first at block within₁ ⊢
  obtain ⟨r, u₁⟩ := first
  have refuses₁ := refuses.within within₁
  have transactions := forEach_refusing honest (Chain.Node.transactionRecord parse data.block)
    (recordTransaction parse data.block) (fun _ => rfl) data.transactions refuses₁
  have onlyTransactions : Only [.shelf .transaction]
      (Attempt.forEach (recordTransaction parse data.block) data.transactions) :=
    .forEach fun t _ => .recordTransaction parse data.block t
  have within₂ := onlyTransactions u₁
  simp only
  generalize (Attempt.forEach (recordTransaction parse data.block) data.transactions).run u₁ = second
    at transactions within₂ ⊢
  obtain ⟨ts, u₂⟩ := second
  have refuses₂ := refuses₁.within within₂
  have events := forEach_refusing honest Indexed.Event.ofChain recordEvent (fun _ => rfl) data.events refuses₂
  have onlyEvents : Only [.shelf .event] (Attempt.forEach recordEvent data.events) :=
    .forEach fun e _ => .recordEvent e
  have within₃ := onlyEvents u₂
  generalize (Attempt.forEach recordEvent data.events).run u₂ = third at events within₃ ⊢
  obtain ⟨es, u₃⟩ := third
  obtain ⟨rfl, called₁, -⟩ := block
  obtain ⟨rfl, called₂, more⟩ := transactions
  obtain ⟨rfl, called₃, moreEvents⟩ := events
  have within : (w.refusing refuse).Within [.shelf .block, .shelf .transaction, .shelf .event] u₃ :=
    (within₁.mono (by decide)).trans ((within₂.mono (by decide)).trans (within₃.mono (by decide)))
  have alike : u₃.Alike (called data w) := alike_called within (by rw [called₃, called₂, called₁]; rfl)
  obtain ⟨same, after⟩ := World.Alike.dispatchAll classifier data.block.timestamp data.events _ _ alike
  have onlyEffects : Only Only.effects
      (Attempt.forEach (Meaning.dispatch classifier data.block.timestamp) data.events) :=
    .forEach fun e _ => .dispatch classifier _ e
  have within₄ := onlyEffects u₃
  refine ⟨_, _, rfl, ?_, ?_, after, ?_⟩
  · have before : u₁.store.transactions = w.store.transactions := within₁.shelf .transaction (by decide)
    have kept : _ = u₂.store.transactions :=
      (within₃.shelf .transaction (by decide)).trans (within₄.shelf .transaction (by decide))
    rw [kept, ← before]
    exact more
  · have before : u₂.store.events = w.store.events :=
      (within₁.shelf .event (by decide)).trans (within₂.shelf .event (by decide))
    have kept : _ = u₃.store.events := within₄.shelf .event (by decide)
    rw [kept, ← before]
    exact moreEvents
  · rw [tally_failed, failures_verdict, failures_verdict, effects, ← same]
    rfl

theorem accepted_none {α π : Type} [Shelved α π] (records : List α) : accepted (fun _ _ => none) records = records := by
  simp [accepted]

theorem run_isolated {refuse : Refusals} (honest : refuse.Honest) (parse : String → Script.Outcome)
    (classifier : Classifier) (data : BlockData) (w : World) :
    Isolated refuse classifier data w ((run parse classifier data).run.run (w.refusing refuse)).2
      ((run parse classifier data).run.run (w.refusing fun _ _ => none)).2
      ((run parse classifier data).run.run (w.refusing refuse)).1 := by
  obtain ⟨counts, v, recorded, transactions, events, alike, failed⟩ := run_refusing honest parse classifier data w
  have calm : Refusals.Honest fun _ _ => none := nofun
  obtain ⟨counts₀, v₀, recorded₀, transactions₀, events₀, alike₀, -⟩ := run_refusing calm parse classifier data w
  have total {c : ItemCounts} {w' : World} := @run_total parse classifier data (w.refusing refuse) w' c
  rw [recorded] at total
  rw [accepted_none] at transactions₀ events₀
  rw [recorded, recorded₀]
  refine ⟨get?_of_accepted transactions transactions₀, get?_of_accepted events events₀,
    alike.accounts.trans alike₀.accounts.symm, alike.keys.trans alike₀.keys.symm,
    alike.contracts.trans alike₀.contracts.symm, fun e => ?_, fun c hc => ⟨total (Prod.ext hc rfl), ?_⟩⟩
  · cases refuse .block data.block.id with
    | none => simp [verdict, Except.map]
    | some e' => simp [verdict, Except.map]
  · cases block : refuse .block data.block.id with
    | none =>
      rw [block] at hc
      cases hc
      exact failed
    | some e =>
      rw [block] at hc
      cases hc

end Recording

/-! ### The items of a tick -/

namespace ItemCounts

theorem total_add (a b : ItemCounts) : (a.add b).total = a.total + b.total := by
  simp only [total, add]
  omega

end ItemCounts

/-- The node holds as many items at these heights, all of which it has the data of. -/
def Chain.Node.Counts (n : Chain.Node) (heights : List UInt64) (items : Nat) : Prop :=
  ∃ datas : List BlockData, heights.map n.dataAt = datas.map .ok ∧ items = datas.foldr (fun data rest => data.items + rest) 0

namespace Tick
variable {setup : Setup}

/-- A height that succeeds counts the items that the node holds there. -/
theorem processHeight_items {height : UInt64} {w w' : World} {counts : ItemCounts}
    (h : (processHeight setup height).run.run w = (.ok counts, w')) :
    ∃ data, w.node.dataAt height = .ok data ∧ counts.total = data.items := by
  obtain ⟨data, u, fetched, h⟩ := Attempt.run_bind_eq_ok h
  obtain ⟨recorded, v, hv, h⟩ := Attempt.run_bind_eq_ok h
  obtain ⟨-, v', -, h⟩ := Attempt.run_bind_eq_ok h
  rw [Attempt.run_result] at hv
  obtain ⟨hr, -⟩ := Prod.mk.inj hv
  refine ⟨data, (BlockData.fetch_ok fetched).1, ?_⟩
  cases recorded with
  | error e => cases h
  | ok c =>
    have same : c = counts := by
      cases watches : setup.config.watches with
      | false =>
        rw [watches] at h
        cases h
        rfl
      | true =>
        rw [watches] at h
        obtain ⟨-, -, -, h⟩ := Attempt.run_bind_eq_ok h
        cases h
        rfl
    exact same ▸ Recording.run_total (Prod.ext (Except.ok.inj hr) rfl)

theorem climb_items (hs : ScansStorageOnly setup) (n : Nat) (height : UInt64) {w w' : World} {report : TickReport}
    (h : (climb setup n height).run w = (report, w')) :
    w.node.Counts report.processed report.items.total := by
  induction n generalizing height w report with
  | zero =>
    cases h
    exact ⟨[], rfl, rfl⟩
  | succ n ih =>
    have first := only_processHeight hs height w
    rcases hp : (processHeight setup height).run.run w with ⟨e | counts, v⟩
    · rw [climb_of_error hp n] at h
      cases h
      exact ⟨[], rfl, rfl⟩
    · rw [hp] at first
      rw [climb_of_ok hp n] at h
      rcases hc : (climb setup n (height + 1)).run v with ⟨rest, v'⟩
      rw [hc] at h
      cases h
      obtain ⟨data, found, here⟩ := processHeight_items hp
      obtain ⟨datas, later, sum⟩ := ih (height + 1) hc
      rw [first.node (by decide)] at later
      refine ⟨data :: datas, ?_, ?_⟩
      · rw [List.map_cons, List.map_cons, found, later]
      · rw [ItemCounts.total_add, here, sum, List.foldr_cons]

/-- The summed report of a tick counts the items of the heights that it processed, each once. -/
theorem run_items (hs : ScansStorageOnly setup) {w w' : World} {report : TickReport}
    (h : (Tick.run setup).run.run w = (.ok report, w')) :
    w.node.Counts report.processed report.items.total := by
  have ends := run_ends setup w
  rw [h] at ends
  cases ends with
  | offline off => exact ⟨[], rfl, rfl⟩
  | unbounded wrong asked booted => exact ⟨[], rfl, rfl⟩
  | @climbed u v bootstrapped head range known asked booted next =>
    rcases hc : (climb setup range.count range.next).run v with ⟨report, v'⟩
    have items := climb_items hs range.count range.next hc
    rw [(bootstrap_within asked booted).node (by decide)] at items
    exact items

end Tick

namespace Recording

/-- What is refused at a height is missing and counted, nothing else at the height differs, and a tick
counts every item of the heights that it processes. -/
theorem isolates {setup : Setup} (hs : Tick.ScansStorageOnly setup) {refuse : Refusals} (honest : refuse.Honest)
    (data : BlockData) (w : World) :
    Isolated refuse setup.classifier data w
        ((run setup.parse setup.classifier data).run.run (w.refusing refuse)).2
        ((run setup.parse setup.classifier data).run.run (w.refusing fun _ _ => none)).2
        ((run setup.parse setup.classifier data).run.run (w.refusing refuse)).1 ∧
      ∀ u u' report, (Tick.run setup).run.run u = (.ok report, u') →
        u.node.Counts report.processed report.items.total :=
  ⟨run_isolated honest setup.parse setup.classifier data w, fun _ _ _ h => Tick.run_items hs h⟩

/-- A height with two transactions, of which the first one comes twice, and their events. -/
def repeatedTransfer : BlockData :=
  let transfer (id : String) : FetchedTransaction := ⟨.bare id, ⟨.sealed, 0, "", []⟩⟩
  let event (id : String) : Chain.Event := ⟨"x", id, "", 0, 0, .null⟩
  ⟨.bare "a" 0 [], [], [transfer "t", transfer "s", transfer "t"], [event "t", event "s"]⟩

/-- The transaction that comes twice is refused. -/
def refuseTransfer : Refusals := fun kind id => if kind = .transaction ∧ id = "t" then some (.storage "full") else none

def repeatedTransferRun : Except Error ItemCounts × World :=
  (run Setup.bare.parse Setup.bare.classifier repeatedTransfer).run.run
    ((World.start .empty .empty .epoch).refusing refuseTransfer)

/-- Both its creations are counted as failed, the other transaction and both events are written. -/
theorem isolates_repeatedTransfer :
    Isolated refuseTransfer Setup.bare.classifier repeatedTransfer (.start .empty .empty .epoch)
        repeatedTransferRun.2
        ((run Setup.bare.parse Setup.bare.classifier repeatedTransfer).run.run
          ((World.start .empty .empty .epoch).refusing fun _ _ => none)).2
        repeatedTransferRun.1 ∧
      repeatedTransferRun.1.toOption = some ⟨1, 2, 2, 2⟩ ∧
      repeatedTransferRun.2.store.transactions.keys = ["s"] ∧
      repeatedTransferRun.2.store.events.keys = ["s.0", "t.0"] := by
  have honest : refuseTransfer.Honest := by
    intro kind id what
    unfold refuseTransfer
    split <;> nofun
  exact ⟨(isolates Setup.bare_scans honest repeatedTransfer (.start .empty .empty .epoch)).1, by decide +kernel,
    by decide +kernel, by decide +kernel⟩

end Recording

end ChainIndex
