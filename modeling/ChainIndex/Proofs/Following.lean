import ChainIndex.Proofs.Climb
import ChainIndex.Watch

/-!
# A stream is followed to its first sealed status

Of a stream the items are taken up to the first one that is an error or a sealed status. Each status that is taken is
written by one call, and one that cannot be written is passed over, so the transaction has in the end the last of the
statuses that were written. The steps of a watcher, between which the chain goes on, come to the same.
-/

set_option autoImplicit false

namespace ChainIndex.Watch

open Attempt (Parallel state_bind)
open Chain (TransactionStatus)

/-- No item is taken behind a sealed status, and none behind an error. -/
def isLast : Item → Bool
  | .ok status => status.status == .sealed
  | .error _ => true

/-- How the following of a stream ends: which items it took, which are left, and its result. -/
inductive Ends (id : String) : (items taken left : List Item) → Except Error Unit → Prop
  | closed {items : List Item} (none : ∀ item ∈ items, isLast item = false) :
      Ends id items items [] (.error (closedEarly id))
  | last {before left : List Item} {item : Item} (none : ∀ item ∈ before, isLast item = false)
      (last : isLast item = true) :
      Ends id (before ++ item :: left) (before ++ [item]) left (item.map fun _ => ())

/-- The statuses among the items. -/
def statuses (items : List Item) : List TransactionStatus := items.filterMap Except.toOption

/-- The statuses whose updates do not fail, where the update of the first one is the call with the number `n`. -/
def written (id : String) (outages : Outages) (n : Nat) (statuses : List TransactionStatus) : List TransactionStatus :=
  ((statuses.zipIdx n).filter fun s => (outages.call s.2 (.update .transaction id)).isNone).map (·.1)

/-- A transaction with the last of the statuses, if there is one. -/
def withLast (statuses : List TransactionStatus) (t : Indexed.Transaction) : Indexed.Transaction :=
  match statuses.getLast? with
  | some s => { t with status := ⟨s.status, if s.statusCode = 0 then 0 else 1, s.errorMessage⟩ }
  | none => t

/-- The statuses were written to the transaction, one by one and each by one call, as far as the calls did not fail
and the transaction is there; no other index changed. -/
structure Wrote (id : String) (statuses : List TransactionStatus) (w w' : World) : Prop where
  record : w'.store.transactions.get? id =
    (w.store.transactions.get? id).map (withLast (written id w.outages w.calls statuses))
  others : ∀ other, other ≠ id → w'.store.transactions.get? other = w.store.transactions.get? other
  calls : w'.calls = w.calls + statuses.length
  within : w.Within [.shelf .transaction] w'

/-! ### Where a stream is left -/

section
variable {id : String} {item : Item} {items taken left : List Item} {result : Except Error Unit}

theorem Ends.cons (ends : Ends id items taken left result) (more : isLast item = false) :
    Ends id (item :: items) (item :: taken) left result := by
  cases ends with
  | closed none => exact .closed (List.forall_mem_cons.mpr ⟨more, none⟩)
  | last none last => exact @Ends.last id (item :: _) _ _ (List.forall_mem_cons.mpr ⟨more, none⟩) last

/-- Every item is taken or left. -/
theorem Ends.append (ends : Ends id items taken left result) : items = taken ++ left := by
  cases ends with
  | closed none => exact (List.append_nil _).symm
  | last none last => exact List.append_cons ..

theorem exists_of_not_isLast (h : isLast item = false) : ∃ status, item = .ok status ∧ status.status ≠ .sealed := by
  cases item with
  | error e => cases h
  | ok status => exact ⟨status, rfl, beq_eq_false_iff_ne.mp h⟩

/-- The result tells whether the stream has a sealed status and no error before it. -/
theorem Ends.ok_iff (ends : Ends id items taken left result) :
    result = .ok () ↔ ∃ before status after, items = before ++ .ok status :: after ∧ status.status = .sealed ∧
      ∀ e, .error e ∉ before := by
  cases ends with
  | closed none =>
    refine ⟨nofun, ?_⟩
    rintro ⟨before, status, after, rfl, done, -⟩
    obtain ⟨other, same, live⟩ := exists_of_not_isLast (none (.ok status) (by simp))
    cases same
    exact absurd done live
  | @last before left last none isLast =>
    cases last with
    | ok status =>
      refine ⟨fun _ => ⟨before, status, left, rfl, beq_iff_eq.mp isLast, fun e he => ?_⟩, fun _ => rfl⟩
      obtain ⟨_, same, -⟩ := exists_of_not_isLast (none _ he)
      cases same
    | error e =>
      refine ⟨nofun, ?_⟩
      rintro ⟨before', status, after, split, done, clean⟩
      -- The sealed status stands before the error, where it would have been taken as the last item.
      rcases List.append_eq_append_iff.mp split with ⟨between, rfl, rest⟩ | ⟨between, rfl, rest⟩
      · cases between with
        | nil => cases rest
        | cons first more =>
          obtain ⟨rfl, -⟩ := List.cons.inj rest
          exact absurd (by simp) (clean e)
      · cases between with
        | nil => cases rest
        | cons first more =>
          obtain ⟨rfl, -⟩ := List.cons.inj rest
          obtain ⟨other, same, live⟩ := exists_of_not_isLast (none (.ok status) (by simp))
          cases same
          exact absurd done live

end

/-! ### What is written -/

theorem written_append (id : String) (outages : Outages) (n : Nat) (l more : List TransactionStatus) :
    written id outages n (l ++ more) = written id outages n l ++ written id outages (n + l.length) more := by
  simp only [written, List.zipIdx_append, List.filter_append, List.map_append]

/-- Later statuses take the place of earlier ones. -/
theorem withLast_append (l more : List TransactionStatus) : withLast (l ++ more) = withLast more ∘ withLast l := by
  funext t
  simp only [withLast, List.getLast?_append, Function.comp_apply]
  cases more.getLast? with
  | none => rfl
  | some s =>
    cases l.getLast? <;> rfl

theorem Wrote.nil (id : String) (w : World) : Wrote id [] w w :=
  ⟨Option.map_id'.symm, fun _ _ => rfl, rfl, .refl _ w⟩

theorem Wrote.append {id : String} {l more : List TransactionStatus} {w w' w'' : World} (first : Wrote id l w w')
    (rest : Wrote id more w' w'') : Wrote id (l ++ more) w w'' where
  record := by
    rw [rest.record, first.record, first.within.outages, first.calls, Option.map_map, ← withLast_append,
      ← written_append]
  others other ne := (rest.others other ne).trans (first.others other ne)
  calls := by rw [rest.calls, first.calls, List.length_append, Nat.add_assoc]
  within := first.within.trans rest.within

/-- A status is written unless the call fails or the transaction is not there. -/
theorem wrote_record (id : String) (status : TransactionStatus) (w : World) :
    Wrote id [status] w ((record id status).run w).2 := by
  have within : w.Within [.shelf .transaction] ((record id status).run w).2 :=
    Only.update (α := Indexed.Transaction) id (Indexed.TransactionStatus.ofChain status) (List.mem_singleton_self _) w
  have run {result : Except Error Unit} {w' : World}
      (made : (Act.update Indexed.Transaction id (Indexed.TransactionStatus.ofChain status)).run.run w = (result, w')) :
      ((record id status).run w).2 = w' := congrArg Prod.snd made
  cases answer : w.outages.call w.calls (.update .transaction id) with
  | some e =>
    rw [run (Act.write_of_outage answer)] at within ⊢
    refine ⟨?_, fun _ _ => rfl, rfl, within⟩
    simp only [written, List.zipIdx_singleton, List.filter_singleton, answer]
    exact Option.map_id'.symm
  | none =>
    cases stored : w.store.transactions.get? id with
    | none =>
      have refused : Index.update id (Indexed.TransactionStatus.ofChain status) w.store.transactions =
          .error (.notFound (Index.describe Indexed.Transaction id)) := by rw [Index.update, stored]
      rw [run (Act.write_of_refusal answer refused)] at within ⊢
      exact ⟨by rw [stored]; exact stored, fun _ _ => rfl, rfl, within⟩
    | some t =>
      have changed : Index.update id (Indexed.TransactionStatus.ofChain status) w.store.transactions =
          .ok (w.store.transactions.insert id { t with status := .ofChain status }) := by
        rw [Index.update, stored]
        rfl
      rw [run (Act.write_of_ok answer changed)] at within ⊢
      refine ⟨?_, fun other ne => Table.get?_insert_of_ne _ ne _, rfl, within⟩
      simp only [stored, written, List.zipIdx_singleton, List.filter_singleton, answer]
      exact Table.get?_insert_self _ _ _

/-! ### Following -/

theorem receive_fst (id : String) (item : Item) (w : World) :
    ((receive id item).run w).1 = if isLast item then some (item.map fun _ => ()) else none := by
  cases item <;> rfl

theorem wrote_receive (id : String) (item : Item) (w : World) :
    Wrote id (statuses [item]) w ((receive id item).run w).2 := by
  cases item with
  | error e => exact .nil id w
  | ok status => exact wrote_record id status w

theorem run_follow_cons (id : String) (item : Item) (rest : List Item) (w : World) :
    (follow id (item :: rest)).run w =
      if isLast item then ((item.map fun _ => (), rest), ((receive id item).run w).2)
      else (follow id rest).run ((receive id item).run w).2 := by
  rw [follow, state_bind, receive_fst]
  cases isLast item <;> rfl

theorem statuses_cons (item : Item) (items : List Item) :
    statuses (item :: items) = statuses [item] ++ statuses items :=
  List.filterMap_append (l := [item])

theorem follow_ends (id : String) (items : List Item) (w : World) :
    ∃ taken, Ends id items taken ((follow id items).run w).1.2 ((follow id items).run w).1.1 ∧
      Wrote id (statuses taken) w ((follow id items).run w).2 := by
  induction items generalizing w with
  | nil => exact ⟨[], .closed nofun, .nil id w⟩
  | cons item rest ih =>
    rw [run_follow_cons]
    have here := wrote_receive id item w
    split
    · next last => exact ⟨[item], @Ends.last id [] rest item nofun last, here⟩
    · next more =>
      obtain ⟨taken, ends, wrote⟩ := ih ((receive id item).run w).2
      refine ⟨item :: taken, ends.cons (Bool.eq_false_iff.mpr more), ?_⟩
      rw [statuses_cons]
      exact here.append wrote

/-! ### The steps of a watcher -/

/-- The watcher of a transaction takes these items, one in each step, while the chain goes on between the steps. -/
inductive Takes (id : String) : World → List Item → World → Prop
  | done (w : World) : Takes id w [] w
  | chain {w w' : World} {node : Chain.Node} {items : List Item} (rest : Takes id { w with node } items w') :
      Takes id w items w'
  | item {w w' : World} {sub sub' : Chain.Node.Subscription} {breaks : Option Break} {item : Item} {items : List Item}
      (stage : w.watchers.get? id = some (.subscribed sub breaks))
      (arrives : arrival w.node sub breaks = (.item item, sub')) (rest : Takes id ((step id).run w).2 items w') :
      Takes id w (item :: items) w'

/-- Two worlds in which the same calls lead to the same indexes. -/
structure Alike (v w : World) : Prop where
  store : v.store = w.store
  calls : v.calls = w.calls
  outages : v.outages = w.outages

theorem parallel_record (id : String) (status : TransactionStatus) : Parallel Alike (record id status) := by
  have alike (call : Call) : Act.FailsAlike Alike call :=
    ⟨fun h => ⟨h.store, congrArg (· + 1) h.calls, h.outages⟩, fun h => by rw [h.calls, h.outages]⟩
  have update := (alike (.update .transaction id)).write (α := Indexed.Transaction)
    (fun h => congrArg Store.transactions h.store)
    (fun h t => ⟨congrArg (Store.Shelved.setTable t) h.store, h.calls, h.outages⟩)
    (Index.update id (Indexed.TransactionStatus.ofChain status))
  exact .bind update fun _ _ _ => .pure rfl

theorem parallel_receive (id : String) (item : Item) : Parallel Alike (receive id item) := by
  cases item with
  | error e => exact .pure rfl
  | ok status => exact .bind (parallel_record id status) fun _ _ _ => .pure rfl

/-- In a step the watcher does to the indexes what receiving the item does, and it goes if the item is the last. -/
theorem step_item_alike {id : String} {v w : World} (alike : Alike v w) {sub sub' : Chain.Node.Subscription}
    {breaks : Option Break} {item : Item} (stage : w.watchers.get? id = some (.subscribed sub breaks))
    (arrives : arrival w.node sub breaks = (.item item, sub')) :
    Alike ((receive id item).run v).2 ((step id).run w).2 ∧
      (isLast item = true → ((step id).run w).2.watchers.get? id = none) := by
  generalize staged : { w with watchers := w.watchers.insert id (.subscribed sub' breaks) } = w₁
  have before : Alike v w₁ := staged ▸ ⟨alike.store, alike.calls, alike.outages⟩
  have after := (parallel_receive id item v w₁ before).2
  have run : (step id).run w =
      if isLast item then (true, ((finish id).run ((receive id item).run w₁).2).2)
      else (true, ((receive id item).run w₁).2) := by
    unfold step
    rw [state_bind, show (get : StateM World World).run w = (w, w) from rfl]
    simp only [stage, arrives]
    rw [state_bind, show (setStage id (.subscribed sub' breaks)).run w = ((), w₁) from by rw [← staged]; rfl,
      state_bind, receive_fst]
    cases isLast item <;> rfl
  rw [run]
  split
  · exact ⟨⟨after.store, after.calls, after.outages⟩, fun _ => Table.get?_erase_self _ id⟩
  · next more => exact ⟨after, fun last => absurd last more⟩

/-- A watcher that has gone takes nothing more. -/
theorem Takes.of_gone {id : String} {w w' : World} {items : List Item} (takes : Takes id w items w')
    (gone : w.watchers.get? id = none) : items = [] ∧ Alike w w' := by
  induction takes with
  | done w => exact ⟨rfl, rfl, rfl, rfl⟩
  | chain _ ih =>
    obtain ⟨none, alike⟩ := ih gone
    exact ⟨none, alike.store, alike.calls, alike.outages⟩
  | item stage => cases gone.symm.trans stage

theorem Takes.alike {id : String} {v w w' : World} {items : List Item} (takes : Takes id w items w')
    (alike : Alike v w) : ((follow id items).run v).1.2 = [] ∧ Alike ((follow id items).run v).2 w' := by
  induction takes generalizing v with
  | done w => exact ⟨rfl, alike⟩
  | chain _ ih => exact ih ⟨alike.store, alike.calls, alike.outages⟩
  | @item w w' sub sub' breaks item items stage arrives rest ih =>
    obtain ⟨after, goes⟩ := step_item_alike alike stage arrives
    rw [run_follow_cons]
    split
    · next last =>
      obtain ⟨rfl, left⟩ := rest.of_gone (goes last)
      exact ⟨rfl, after.store.trans left.store, after.calls.trans left.calls, after.outages.trans left.outages⟩
    · exact ih after

/-- A stream is followed to its first sealed status or its first error, and with success just in the first case. The
transaction gets the last status up to there whose update does not fail, and nothing else changes. A watcher that
takes items one by one leaves the same indexes. -/
theorem followed_to_sealed (id : String) (items : List Item) (w : World) :
    ∃ taken result left w', (follow id items).run w = ((result, left), w') ∧ Ends id items taken left result ∧
      (result = .ok () ↔ ∃ before status after, items = before ++ .ok status :: after ∧ status.status = .sealed ∧
        ∀ e, .error e ∉ before) ∧
      Wrote id (statuses taken) w w' ∧
      ∀ watched, Takes id w items watched → left = [] ∧ watched.store = w'.store := by
  obtain ⟨taken, ends, wrote⟩ := follow_ends id items w
  refine ⟨taken, _, _, _, rfl, ends, ends.ok_iff, wrote, fun watched takes => ?_⟩
  obtain ⟨all, alike⟩ := takes.alike ⟨rfl, rfl, rfl⟩
  exact ⟨all, alike.store.symm⟩

/-! ### A sealed status that is not written -/

def statusItem (status : ExecutionStatus) : Item := .ok ⟨status, 0, "", []⟩

/-- A transaction that is on record and watched, in a world where the second call fails. -/
def watchedTransfer : World :=
  { World.start (Chain.Node.empty.setStatus "t" ⟨.executed, 0, "", []⟩)
      { Store.empty with
        transactions := .ofList [("t", .ofChain (.bare "a" 0 []) (.bare "t") ⟨.pending, 0, "", []⟩ none)] } .epoch with
    watchers := .ofList [("t", .subscribed ⟨"t", none⟩ none)]
    outages := { Outages.none with call := fun n _ => if n = 1 then some (.storage "down") else none } }

def executedTransfer : World := ((step "t").run watchedTransfer).2

/-- The chain reports the sealed status. -/
def sealingTransfer : World :=
  { executedTransfer with node := executedTransfer.node.setStatus "t" ⟨.sealed, 0, "", []⟩ }

def sealedTransfer : World := ((step "t").run sealingTransfer).2

/-- The stream ends well, and the record keeps the status before the sealed one. -/
theorem followed_to_sealed_unwritten :
    Takes "t" watchedTransfer [statusItem .executed, statusItem .sealed] sealedTransfer ∧
      ((follow "t" [statusItem .executed, statusItem .sealed]).run watchedTransfer).1 = (.ok (), []) ∧
      (sealedTransfer.store.transactions.get? "t").map (·.status.executionStatus) = some .executed := by
  have first : watchedTransfer.watchers.get? "t" = some (.subscribed ⟨"t", none⟩ none) := by decide +kernel
  have second : sealingTransfer.watchers.get? "t" = some (.subscribed ⟨"t", some 0⟩ none) := by decide +kernel
  have takes : Takes "t" watchedTransfer [statusItem .executed, statusItem .sealed] sealedTransfer :=
    .item first rfl (.chain (.item second rfl (.done _)))
  obtain ⟨taken, result, left, w', run, ends, ok, wrote, same⟩ :=
    followed_to_sealed "t" [statusItem .executed, statusItem .sealed] watchedTransfer
  obtain ⟨rfl, store⟩ := same _ takes
  have success : result = .ok () := ok.mpr ⟨[statusItem .executed], _, [], rfl, rfl, by simp [statusItem]⟩
  subst success
  refine ⟨takes, by rw [run], ?_⟩
  obtain rfl : [statusItem .executed, statusItem .sealed] = taken := by
    rw [ends.append, List.append_nil]
  rw [store, wrote.record]
  decide +kernel

end ChainIndex.Watch
