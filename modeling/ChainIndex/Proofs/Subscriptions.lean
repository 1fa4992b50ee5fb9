import ChainIndex.Proofs.Climb
import ChainIndex.Proofs.TickCalls
import Mathlib.Data.List.Nodup
import Mathlib.Logic.Relation

/-!
# No subscription is leaked

The node counts the subscriptions that were not released yet. Each of them belongs to a watcher that has
subscribed and not finished, or to somebody else who holds it; no other step of anything opens or
releases one. Ending the indexer takes time: its watchers are cancelled wherever they are and taken off the
registry, and each of them finishes later, while everything else goes on. Meanwhile another watcher may be
started for the transaction of a cancelled one. So watchers are told apart by their generation too, which is
the number of calls to end the indexer that had begun before (`Ending.unfinished`): in each generation a
transaction has one watcher at most, and a call that returns leaves none of its generation.
-/

set_option autoImplicit false

namespace ChainIndex

open Attempt (Leads)

namespace Watch

/-- The number of these watchers that have subscribed. -/
def subscribed (watchers : Table String Stage) : Nat := watchers.values.countP Stage.isSubscribed

section
variable {watchers : Table String Stage} {id : String} {subscription : Chain.Node.Subscription} {breaks : Option Break}

theorem subscribed_insert (watchers : Table String Stage) (id : String) (stage : Stage) :
    subscribed (watchers.insert id stage) =
      subscribed (watchers.erase id) + if Stage.isSubscribed stage then 1 else 0 := by
  unfold subscribed
  rw [(watchers.values_insert_erase_perm id stage).countP_eq, List.countP_cons]

theorem subscribed_insert_spawned : subscribed (watchers.insert id .spawned) = subscribed (watchers.erase id) :=
  subscribed_insert watchers id .spawned

theorem subscribed_insert_subscribed :
    subscribed (watchers.insert id (.subscribed subscription breaks)) = subscribed (watchers.erase id) + 1 :=
  subscribed_insert watchers id (.subscribed subscription breaks)

theorem subscribed_of_spawned (h : watchers.get? id = some .spawned) :
    subscribed watchers = subscribed (watchers.erase id) := by
  rw [← subscribed_insert_spawned, Table.insert_of_get? h]

theorem subscribed_of_subscribed (h : watchers.get? id = some (.subscribed subscription breaks)) :
    subscribed watchers = subscribed (watchers.erase id) + 1 := by
  rw [← subscribed_insert_subscribed, Table.insert_of_get? h]

end

/-! ### Polls -/

/-- What a step of the watcher of a transaction does to the node and to the watchers. -/
inductive Turn (id : String) (w w' : World) : Prop
  | idle (node : w'.node = w.node) (watchers : w'.watchers = w.watchers)
  | subscribes (subscription : Chain.Node.Subscription) (breaks : Option Break)
      (before : w.watchers.get? id = some .spawned)
      (node : w'.node = { w.node with openCount := w.node.openCount + 1 })
      (watchers : w'.watchers = w.watchers.insert id (.subscribed subscription breaks))
  | leaves (before : w.watchers.get? id = some .spawned) (node : w'.node = w.node)
      (watchers : w'.watchers = w.watchers.erase id)
  | takes (old new : Chain.Node.Subscription) (breaks : Option Break)
      (before : w.watchers.get? id = some (.subscribed old breaks)) (node : w'.node = w.node)
      (watchers : w'.watchers = w.watchers.insert id (.subscribed new breaks))
  | finishes (subscription : Chain.Node.Subscription) (breaks : Option Break)
      (before : w.watchers.get? id = some (.subscribed subscription breaks)) (node : w'.node = w.node.release)
      (watchers : w'.watchers = w.watchers.erase id)

theorem receive_only (id : String) (item : Item) : Only [.shelf .transaction] (receive id item) := by
  cases item with
  | error e => exact .pure _
  | ok status => exact .bind (.bind (.update id _ (by decide)) fun _ => .pure _) fun _ => .pure _

theorem subscribe_cases (id : String) (w : World) :
    (∃ e, (subscribe id).run.run w = (.error e, w.counted)) ∨
      ∃ subscription, (subscribe id).run.run w =
        (.ok subscription, { w.counted with node := { w.node with openCount := w.node.openCount + 1 } }) := by
  unfold subscribe
  cases answer : w.outages.call w.calls (.subscribe id) with
  | some e => exact .inl ⟨e, Act.attempt_of_outage answer⟩
  | none =>
    rw [Act.attempt_of_answer answer]
    unfold Chain.Node.subscribe
    cases w.counted.node.status id with
    | error e => exact .inl ⟨e, rfl⟩
    | ok status => exact .inr ⟨⟨id, none⟩, rfl⟩

theorem step_turn (id : String) (w : World) : Turn id w ((step id).run w).2 := by
  unfold step
  rw [Attempt.state_bind, show (get : StateM World World).run w = (w, w) from rfl]
  cases before : w.watchers.get? id with
  | none => exact .idle rfl rfl
  | some stage =>
    cases stage with
    | spawned =>
      dsimp only
      rw [Attempt.state_bind]
      rcases subscribe_cases id w with ⟨e, run⟩ | ⟨subscription, run⟩
      · rw [run]
        exact .leaves before rfl rfl
      · rw [run]
        exact .subscribes subscription _ before rfl rfl
    | subscribed old breaks =>
      dsimp only
      cases arrives : arrival w.node old breaks with
      | mk found new =>
        cases found with
        | nothing => exact .idle rfl rfl
        | closed => exact .finishes old breaks before rfl rfl
        | item i =>
          dsimp only
          rw [Attempt.state_bind, Attempt.state_bind]
          have still := receive_only id i ((setStage id (.subscribed new breaks)).run w).2
          rcases received : (receive id i).run ((setStage id (.subscribed new breaks)).run w).2 with ⟨result, w'⟩
          rw [received] at still
          have node := still.node (by decide)
          have watchers := still.watchers (by decide)
          cases result with
          | none => exact .takes old new breaks before node watchers
          | some r =>
            refine .finishes old breaks before (congrArg Chain.Node.release node) ?_
            exact (congrArg (Table.erase · id) watchers).trans (Table.erase_insert _ _ _)

end Watch

/-! ### Who owns the open subscriptions -/

/-- The subscriptions that are open belong to the watchers but for this many. -/
def World.Owes (others : Nat) (w : World) : Prop :=
  w.node.openCount = Watch.subscribed w.watchers + others

/-- From `w` to `w'` no subscription changes hands. -/
def World.Settles (w w' : World) : Prop := ∀ others, w.Owes others → w'.Owes others

instance : IsPreorder World World.Settles where
  refl _ _ h := h
  trans _ _ _ h₁ h₂ others h := h₂ others (h₁ others h)

namespace World.Settles

theorem of_same {w w' : World} (openCount : w'.node.openCount = w.node.openCount)
    (subscribed : Watch.subscribed w'.watchers = Watch.subscribed w.watchers) : w.Settles w' := by
  intro others h
  unfold World.Owes
  rw [openCount, subscribed]
  exact h

theorem of_only {parts : List Part} {α : Type} {work : StateM World α} (only : Only parts work)
    (node : Part.node ∉ parts) (watchers : Part.watchers ∉ parts) : Leads World.Settles work := by
  intro w
  exact .of_same (congrArg Chain.Node.openCount ((only w).node node))
    (congrArg Watch.subscribed ((only w).watchers watchers))

/-- A watcher that is started has not subscribed. -/
theorem spawn (id : String) : Leads World.Settles (Watch.spawn id) := by
  intro w
  have node : ((Watch.spawn id).run w).2.node = w.node := (Only.spawn id w).node (by simp)
  refine .of_same (congrArg Chain.Node.openCount node) ?_
  show Watch.subscribed (if w.watchers.contains id then (false, w) else
    (true, { w with watchers := w.watchers.insert id .spawned })).2.watchers = _
  split
  · rfl
  · next free =>
    have absent : w.watchers.get? id = none := Option.not_isSome_iff_eq_none.mp free
    show Watch.subscribed (w.watchers.insert id .spawned) = _
    rw [Watch.subscribed_insert_spawned, Table.erase_of_none absent]

theorem tickCall {setup : Setup} (scans : Tick.ScansStorageOnly setup) {α : Type} {work : StateM World α}
    (call : TickCall setup α work) : Leads World.Settles work :=
  call.confined scans (fun only => of_only only (by decide) (by decide))
    (fun observedAt e => of_only (.dispatch setup.classifier observedAt e) (by decide) (by decide))
    (fun address observedAt => of_only (.index address observedAt) (by decide) (by decide)) spawn

/-- A watcher that subscribes opens a subscription, and one that has subscribed releases it when it
finishes. -/
theorem poll (id : String) : Leads World.Settles (Watch.step id) := by
  intro w others owes
  unfold World.Owes at owes ⊢
  generalize turned : ((Watch.step id).run w).2 = w'
  have turn : Watch.Turn id w w' := turned ▸ Watch.step_turn id w
  cases turn with
  | idle node watchers => rw [node, watchers, owes]
  | subscribes subscription breaks before node watchers =>
    rw [Watch.subscribed_of_spawned before] at owes
    rw [node, watchers, Watch.subscribed_insert_subscribed]
    show w.node.openCount + 1 = _
    omega
  | leaves before node watchers =>
    rw [Watch.subscribed_of_spawned before] at owes
    rw [node, watchers, owes]
  | takes old new breaks before node watchers =>
    rw [Watch.subscribed_of_subscribed before] at owes
    rw [node, watchers, owes, Watch.subscribed_insert_subscribed]
  | finishes subscription breaks before node watchers =>
    rw [Watch.subscribed_of_subscribed before] at owes
    rw [node, watchers]
    show w.node.openCount - 1 = _
    omega

end World.Settles

theorem Chain.Change.openCount (c : Change) (n : Node) : (c.apply n).openCount = n.openCount := by
  cases c <;> rfl

theorem Chain.Node.openCount_subscribe {n m : Node} {id : String} {subscription : Subscription}
    (h : n.subscribe id = .ok (subscription, m)) : m.openCount = n.openCount + 1 := by
  unfold subscribe at h
  cases status : n.status id with
  | error e =>
    rw [status] at h
    cases h
  | ok _ =>
    rw [status] at h
    cases h
    rfl

/-! ### Sessions -/

/-- An indexer beside others who hold subscriptions to its node. -/
structure Session where
  world : World
  /-- The subscriptions of others that were not released yet. -/
  held : List Chain.Node.Subscription

namespace Session

/-- What is done beside ending the indexer. A tick is made as a whole, or in pieces that anything may come
between. -/
inductive Move : Session → Session → Prop
  | tick {setup : Setup} (scans : Tick.ScansStorageOnly setup) (s : Session) :
      Move s { s with world := ((Tick.run setup).run.run s.world).2 }
  | piece {setup : Setup} (scans : Tick.ScansStorageOnly setup) (p : Piece) (s : Session) :
      Move s { s with world := p.apply setup s.world }
  | spawn (id : String) (s : Session) : Move s { s with world := ((Watch.spawn id).run s.world).2 }
  | poll (id : String) (s : Session) : Move s { s with world := ((Watch.step id).run s.world).2 }
  | chain (c : Chain.Change) (s : Session) : Move s { s with world := { s.world with node := c.apply s.world.node } }
  | subscribe {id : String} {s : Session} {subscription : Chain.Node.Subscription} {node : Chain.Node}
      (h : s.world.node.subscribe id = .ok (subscription, node)) :
      Move s ⟨{ s.world with node }, subscription :: s.held⟩
  /-- A subscription is released by its holder, or dropped. -/
  | release {w : World} {before after : List Chain.Node.Subscription} {subscription : Chain.Node.Subscription} :
      Move ⟨w, before ++ subscription :: after⟩ ⟨{ w with node := w.node.release }, before ++ after⟩
  /-- Another holder sees a status. -/
  | see {w : World} {before after : List Chain.Node.Subscription} {subscription : Chain.Node.Subscription} :
      Move ⟨w, before ++ subscription :: after⟩ ⟨w, before ++ (w.node.poll subscription).2 :: after⟩
  /-- The indexes, the clock, the failing calls and the phase change in any way. -/
  | around {s : Session} {w : World} (node : w.node = s.world.node) (watchers : w.watchers = s.world.watchers) :
      Move s { s with world := w }

/-- A call that ends the indexer and has not returned. -/
structure Shutdown where
  number : Nat
  /-- The watchers that it has cancelled and waits for. -/
  waiting : List (String × Stage)

/-- A session with the calls that are ending its indexer. -/
structure Ending where
  session : Session
  /-- How many calls to end the indexer have begun. -/
  begun : Nat
  calls : List Shutdown

/-- A watcher that has not finished. -/
structure Watcher where
  /-- How many calls to end the indexer had begun when it was started. -/
  generation : Nat
  id : String
  stage : Stage

namespace Ending

/-- The indexer is running, and nobody else has subscribed. -/
def start (w : World) : Ending := ⟨⟨w, []⟩, 0, []⟩

/-- One more call to end the indexer begins: all watchers of the registry are cancelled. -/
def shutDown (e : Ending) : Ending where
  session := { e.session with world := { e.session.world with watchers := .empty } }
  begun := e.begun + 1
  calls := ⟨e.begun, e.session.world.watchers.entries⟩ :: e.calls

/-- The watchers of the registry, and those that calls wait for. A call has cancelled the watchers of the
generation of its number. -/
def unfinished (e : Ending) : List Watcher :=
  e.session.world.watchers.entries.map (fun w => ⟨e.begun, w.1, w.2⟩) ++
    e.calls.flatMap fun call => call.waiting.map fun w => ⟨call.number, w.1, w.2⟩

/-- A call has begun and not returned. -/
def InFlight (e : Ending) (number : Nat) : Prop := ∃ call ∈ e.calls, call.number = number

end Ending

/-- What cancelled watchers do. One that had not subscribed may yet do so, and one that has subscribed may yet
take a status; it releases what it subscribed to when it finishes. -/
inductive Wind : Session → List (String × Stage) → Session → List (String × Stage) → Prop
  | subscribe {id : String} {s : Session} {before after : List (String × Stage)}
      {subscription : Chain.Node.Subscription} {breaks : Option Break} {node : Chain.Node}
      (h : s.world.node.subscribe id = .ok (subscription, node)) :
      Wind s (before ++ (id, .spawned) :: after)
        { s with world := { s.world with node } } (before ++ (id, .subscribed subscription breaks) :: after)
  | take {id : String} {s : Session} {before after : List (String × Stage)}
      {subscription : Chain.Node.Subscription} {breaks : Option Break} :
      Wind s (before ++ (id, .subscribed subscription breaks) :: after)
        s (before ++ (id, .subscribed (s.world.node.poll subscription).2 breaks) :: after)
  | leave {id : String} {s : Session} {before after : List (String × Stage)} :
      Wind s (before ++ (id, .spawned) :: after) s (before ++ after)
  | finish {id : String} {s : Session} {before after : List (String × Stage)}
      {subscription : Chain.Node.Subscription} {breaks : Option Break} :
      Wind s (before ++ (id, .subscribed subscription breaks) :: after)
        { s with world := { s.world with node := s.world.node.release } } (before ++ after)

/-- A step of a session. Calls to end the indexer may begin at any time, also while others have not returned, and
each of them returns when the watchers have finished that it waits for. -/
inductive Step : Ending → Ending → Prop
  | move {s t : Session} {begun : Nat} {calls : List Shutdown} (h : Move s t) : Step ⟨s, begun, calls⟩ ⟨t, begun, calls⟩
  | begins (e : Ending) : Step e e.shutDown
  | winds {s t : Session} {begun number : Nat} {before after : List Shutdown} {waiting left : List (String × Stage)}
      (h : Wind s waiting t left) :
      Step ⟨s, begun, before ++ ⟨number, waiting⟩ :: after⟩ ⟨t, begun, before ++ ⟨number, left⟩ :: after⟩
  | returns {s : Session} {begun number : Nat} {before after : List Shutdown} :
      Step ⟨s, begun, before ++ ⟨number, []⟩ :: after⟩ ⟨s, begun, before ++ after⟩

/-- The number of cancelled watchers that have subscribed. -/
def pending (waiting : List (String × Stage)) : Nat := waiting.countP fun w => Watch.Stage.isSubscribed w.2

/-- What holds in every state of a session: the open subscriptions belong to the watchers of the registry, to those
that calls wait for and to others, calls are numbered as they began, and none waits for two watchers of one
transaction. -/
structure Sound (e : Ending) : Prop where
  owes : e.session.world.Owes (pending (e.calls.flatMap Shutdown.waiting) + e.session.held.length)
  numbers : (e.calls.map Shutdown.number).Nodup
  begun : ∀ call ∈ e.calls, call.number < e.begun
  ids : ∀ call ∈ e.calls, (call.waiting.map (·.1)).Nodup

/-! ### What steps keep -/

theorem Move.owes {s t : Session} (move : Move s t) (more : Nat)
    (h : s.world.Owes (more + s.held.length)) : t.world.Owes (more + t.held.length) := by
  cases move with
  | tick scans => exact (TickCall.tick _).leads (World.Settles.tickCall scans) s.world _ h
  | piece scans p =>
    obtain ⟨α, work, uses, same⟩ := TickCall.piece _ p s.world
    show (p.apply _ s.world).Owes _
    rw [same]
    exact uses.leads (World.Settles.tickCall scans) s.world _ h
  | spawn id => exact World.Settles.spawn id s.world _ h
  | poll id => exact World.Settles.poll id s.world _ h
  | chain c =>
    have settles : s.world.Settles { s.world with node := c.apply s.world.node } := .of_same (c.openCount _) rfl
    exact settles _ h
  | @subscribe id _ subscription node subscribed =>
    have opened : node.openCount = s.world.node.openCount + 1 := Chain.Node.openCount_subscribe subscribed
    unfold World.Owes at h ⊢
    simp only [List.length_cons]
    omega
  | release =>
    unfold World.Owes at h ⊢
    simp only [List.length_append, List.length_cons, Chain.Node.release] at h ⊢
    omega
  | see =>
    simp only [List.length_append, List.length_cons] at h ⊢
    exact h
  | around node watchers =>
    exact World.Settles.of_same (congrArg Chain.Node.openCount node) (congrArg Watch.subscribed watchers) _ h

theorem pending_append (l r : List (String × Stage)) : pending (l ++ r) = pending l + pending r := List.countP_append

theorem pending_cons (id : String) (stage : Stage) (l : List (String × Stage)) :
    pending ((id, stage) :: l) = pending l + if Watch.Stage.isSubscribed stage then 1 else 0 := List.countP_cons

theorem pending_entries (watchers : Table String Stage) : pending watchers.entries = Watch.subscribed watchers := by
  unfold pending Watch.subscribed Table.values
  rw [List.countP_map]
  rfl

/-- A cancelled watcher opens a subscription where it subscribes, and releases it where it finishes. -/
theorem Wind.owes {s t : Session} {waiting left : List (String × Stage)} (wind : Wind s waiting t left) (more : Nat)
    (h : s.world.Owes (pending waiting + more)) : t.world.Owes (pending left + more) := by
  cases wind with
  | subscribe subscribed =>
    have opened := Chain.Node.openCount_subscribe subscribed
    unfold World.Owes at h ⊢
    simp only [pending_append, pending_cons, Watch.Stage.isSubscribed, Bool.false_eq_true, if_false, if_true] at h ⊢
    omega
  | take =>
    simpa only [pending_append, pending_cons, Watch.Stage.isSubscribed] using h
  | leave =>
    simpa only [pending_append, pending_cons, Watch.Stage.isSubscribed, Bool.false_eq_true, if_false,
      Nat.add_zero] using h
  | finish =>
    unfold World.Owes at h ⊢
    simp only [pending_append, pending_cons, Watch.Stage.isSubscribed, if_true, Chain.Node.release] at h ⊢
    omega

theorem Wind.held {s t : Session} {waiting left : List (String × Stage)} (wind : Wind s waiting t left) :
    t.held = s.held := by
  cases wind <;> rfl

/-- A call waits for no more transactions than before. -/
theorem Wind.ids {s t : Session} {waiting left : List (String × Stage)} (wind : Wind s waiting t left) :
    (left.map (·.1)).Sublist (waiting.map (·.1)) := by
  cases wind with
  | subscribe subscribed => simp
  | take => simp
  | leave => simp
  | finish => simp

theorem Sound.shutDown {e : Ending} (sound : Sound e) : Sound e.shutDown where
  owes := by
    have owes : e.session.world.node.openCount = Watch.subscribed e.session.world.watchers +
      (pending (e.calls.flatMap Shutdown.waiting) + e.session.held.length) := sound.owes
    show e.session.world.node.openCount = 0 + (pending (e.session.world.watchers.entries ++
      e.calls.flatMap Shutdown.waiting) + e.session.held.length)
    rw [pending_append, pending_entries]
    omega
  numbers := by
    refine List.nodup_cons.mpr ⟨fun again => ?_, sound.numbers⟩
    obtain ⟨call, hc, same⟩ := List.mem_map.mp again
    exact absurd same (Nat.ne_of_lt (sound.begun call hc))
  begun call hc := by
    rcases List.mem_cons.mp hc with rfl | hc
    · exact Nat.lt_succ_self e.begun
    · exact Nat.lt_succ_of_lt (sound.begun call hc)
  ids call hc := by
    rcases List.mem_cons.mp hc with rfl | hc
    · exact e.session.world.watchers.nodup_keys
    · exact sound.ids call hc

theorem Step.sound {e f : Ending} (step : Step e f) (sound : Sound e) : Sound f := by
  cases step with
  | move move => exact ⟨move.owes _ sound.owes, sound.numbers, sound.begun, sound.ids⟩
  | begins => exact sound.shutDown
  | @winds s t begun number before after waiting left wind =>
    have numbers : (before ++ ⟨number, left⟩ :: after).map Shutdown.number =
        (before ++ ⟨number, waiting⟩ :: after).map Shutdown.number := by
      simp
    refine ⟨?_, numbers ▸ sound.numbers, ?_, ?_⟩
    · have owes := sound.owes
      simp only [List.flatMap_append, List.flatMap_cons, pending_append] at owes ⊢
      have moved := wind.owes (pending (before.flatMap Shutdown.waiting) + pending (after.flatMap Shutdown.waiting) +
        s.held.length) (by convert owes using 1; omega)
      rw [wind.held]
      convert moved using 1
      omega
    · intro call hc
      have listed : call.number ∈ (before ++ ⟨number, left⟩ :: after).map Shutdown.number := List.mem_map_of_mem hc
      rw [numbers] at listed
      obtain ⟨call', hc', same⟩ := List.mem_map.mp listed
      exact same ▸ sound.begun call' hc'
    · intro call hc
      rcases List.mem_append.mp hc with hc | hc
      · exact sound.ids call (List.mem_append_left _ hc)
      · rcases List.mem_cons.mp hc with rfl | hc
        · exact (sound.ids ⟨number, waiting⟩ (List.mem_append_right _ List.mem_cons_self)).sublist wind.ids
        · exact sound.ids call (List.mem_append_right _ (List.mem_cons_of_mem _ hc))
  | @returns s begun number before after =>
    have kept : (before ++ after).Sublist (before ++ ⟨number, []⟩ :: after) :=
      (List.Sublist.refl before).append (List.sublist_cons_self _ after)
    refine ⟨?_, sound.numbers.sublist (kept.map _), fun call hc => sound.begun call (kept.subset hc),
      fun call hc => sound.ids call (kept.subset hc)⟩
    simpa only [List.flatMap_append, List.flatMap_cons, List.nil_append] using sound.owes

theorem sound_of_steps {w : World} {e : Ending} (run : Relation.ReflTransGen Step (.start w) e)
    (unwatched : w.watchers = .empty) (fresh : w.node.openCount = 0) : Sound e := by
  induction run with
  | refl =>
    refine ⟨?_, List.nodup_nil, nofun, nofun⟩
    show w.node.openCount = Watch.subscribed w.watchers + 0
    rw [fresh, unwatched]
    rfl
  | tail _ step ih => exact step.sound ih

/-- Calls begin and never unbegin. -/
theorem begun_le_of_steps {e f : Ending} (run : Relation.ReflTransGen Step e f) : e.begun ≤ f.begun := by
  induction run with
  | refl => exact Nat.le_refl _
  | tail _ step ih =>
    cases step with
    | begins => exact Nat.le_succ_of_le ih
    | _ => exact ih

/-! ### Watchers that have not finished -/

section
variable {e : Ending}

theorem mem_unfinished {u : Watcher} : u ∈ e.unfinished ↔
    (u.generation = e.begun ∧ e.session.world.watchers.get? u.id = some u.stage) ∨
      ∃ call ∈ e.calls, call.number = u.generation ∧ (u.id, u.stage) ∈ call.waiting := by
  obtain ⟨generation, id, stage⟩ := u
  simp only [Ending.unfinished, List.mem_append, List.mem_map, List.mem_flatMap]
  refine or_congr ⟨?_, ?_⟩ (exists_congr fun call => and_congr_right fun _ => ⟨?_, ?_⟩)
  · rintro ⟨⟨id, stage⟩, found, same⟩
    cases same
    exact ⟨rfl, (Table.mem_entries_iff _ _ _).mp found⟩
  · rintro ⟨rfl, found⟩
    exact ⟨(id, stage), (Table.mem_entries_iff _ _ _).mpr found, rfl⟩
  · rintro ⟨⟨id, stage⟩, waits, same⟩
    cases same
    exact ⟨rfl, waits⟩
  · rintro ⟨rfl, waits⟩
    exact ⟨(id, stage), waits, rfl⟩

theorem countP_unfinished : e.unfinished.countP (fun u => Watch.Stage.isSubscribed u.stage) =
    Watch.subscribed e.session.world.watchers + pending (e.calls.flatMap Shutdown.waiting) := by
  rw [← pending_entries, Ending.unfinished, List.countP_append, List.countP_map]
  congr 1
  induction e.calls with
  | nil => rfl
  | cons call calls ih =>
    rw [List.flatMap_cons, List.flatMap_cons, List.countP_append, List.countP_map, pending_append, ih]
    rfl

namespace Sound
variable (sound : Sound e)
include sound

theorem openCount : e.session.world.node.openCount =
    e.unfinished.countP (fun u => Watch.Stage.isSubscribed u.stage) + e.session.held.length := by
  rw [countP_unfinished, Nat.add_assoc]
  exact sound.owes

/-- In each generation a transaction has one watcher at most. -/
theorem nodup : (e.unfinished.map fun u => (u.generation, u.id)).Nodup := by
  have registered : (e.session.world.watchers.entries.map fun w => (e.begun, w.1)).Nodup := by
    have keys := List.Nodup.map (fun a b h => congrArg Prod.snd h : Function.Injective fun id => (e.begun, id))
      e.session.world.watchers.nodup_keys
    rwa [Table.keys, List.map_map] at keys
  have waiting : (e.calls.flatMap fun call => call.waiting.map fun w => (call.number, w.1)).Nodup := by
    refine List.nodup_flatMap.mpr ⟨fun call hc => ?_, ?_⟩
    · have ids := List.Nodup.map (fun a b h => congrArg Prod.snd h : Function.Injective fun id => (call.number, id))
        (sound.ids call hc)
      rwa [List.map_map] at ids
    · refine (List.pairwise_map.mp sound.numbers).imp fun {c d} other x hx hx' => other ?_
      obtain ⟨w, -, rfl⟩ := List.mem_map.mp hx
      obtain ⟨w', -, same⟩ := List.mem_map.mp hx'
      exact (congrArg Prod.fst same).symm
  rw [Ending.unfinished, List.map_append, List.map_map, List.map_flatMap]
  simp only [List.map_map]
  refine List.nodup_append.mpr ⟨registered, waiting, ?_⟩
  rintro _ here _ there rfl
  obtain ⟨w, -, rfl⟩ := List.mem_map.mp here
  obtain ⟨call, hc, waits⟩ := List.mem_flatMap.mp there
  obtain ⟨w', -, same⟩ := List.mem_map.mp waits
  exact absurd (congrArg Prod.fst same) (Nat.ne_of_lt (sound.begun call hc))

omit sound in
/-- A watcher is in the registry, or the call that cancelled it has not returned. -/
theorem generation {u : Watcher} (hu : u ∈ e.unfinished) : u.generation = e.begun ∨ e.InFlight u.generation := by
  rcases mem_unfinished.mp hu with ⟨here, -⟩ | ⟨call, hc, number, -⟩
  · exact .inl here
  · exact .inr ⟨call, hc, number⟩

theorem spawn_eq_false_iff (id : String) : ((Watch.spawn id).run e.session.world).1 = false ↔
    ∃ u ∈ e.unfinished, u.id = id ∧ u.generation = e.begun := by
  have refuses : ((Watch.spawn id).run e.session.world).1 = false ↔
      ∃ stage, e.session.world.watchers.get? id = some stage := by
    rw [← Option.isSome_iff_exists]
    show (if e.session.world.watchers.contains id then (false, e.session.world) else
      (true, { e.session.world with watchers := e.session.world.watchers.insert id .spawned })).1 = false ↔
        e.session.world.watchers.contains id = true
    cases e.session.world.watchers.contains id <;> simp
  rw [refuses]
  constructor
  · rintro ⟨stage, found⟩
    exact ⟨⟨e.begun, id, stage⟩, mem_unfinished.mpr (.inl ⟨rfl, found⟩), rfl, rfl⟩
  · rintro ⟨⟨generation, id, stage⟩, hu, rfl, rfl⟩
    rcases mem_unfinished.mp hu with ⟨-, found⟩ | ⟨call, hc, number, -⟩
    · exact ⟨stage, found⟩
    · exact absurd number (Nat.ne_of_lt (sound.begun call hc))

/-- While no call is in flight the generation of a watcher is no secret. -/
theorem settled (none : e.calls = []) : (e.unfinished.map Watcher.id).Nodup ∧
    ∀ id, ((Watch.spawn id).run e.session.world).1 = false ↔ ∃ u ∈ e.unfinished, u.id = id := by
  have current {u : Watcher} (hu : u ∈ e.unfinished) : u.generation = e.begun := by
    refine (generation hu).resolve_right ?_
    rintro ⟨call, hc, -⟩
    rw [none] at hc
    cases hc
  constructor
  · have ids : e.unfinished.map (fun u => (u.generation, u.id)) =
        (e.unfinished.map Watcher.id).map fun id => (e.begun, id) := by
      rw [List.map_map]
      exact List.map_congr_left fun u hu => Prod.ext (current hu) rfl
    exact List.Nodup.of_map _ (ids ▸ sound.nodup)
  · intro id
    rw [sound.spawn_eq_false_iff]
    exact exists_congr fun u => and_congr_right fun hu => and_iff_left (current hu)

end Sound

end

/-! ### Ending the indexer in one go -/

/-- The watchers that a call waits for can always finish, one after the other. -/
theorem winds_all (s : Session) (begun number : Nat) (before after : List Shutdown) (waiting : List (String × Stage)) :
    Relation.ReflTransGen Step ⟨s, begun, before ++ ⟨number, waiting⟩ :: after⟩
      ⟨{ s with world := { s.world with
        node := { s.world.node with openCount := s.world.node.openCount - pending waiting } } },
        begun, before ++ ⟨number, []⟩ :: after⟩ := by
  induction waiting generalizing s with
  | nil => exact .refl
  | cons c waiting ih =>
    obtain ⟨id, stage⟩ := c
    cases stage with
    | spawned => exact .head (.winds (@Wind.leave id s [] waiting)) (ih s)
    | subscribed subscription breaks =>
      refine .head (.winds (@Wind.finish id s [] waiting subscription breaks)) ?_
      have rest := ih { s with world := { s.world with node := s.world.node.release } }
      have count : s.world.node.openCount - 1 - pending waiting =
          s.world.node.openCount - pending ((id, .subscribed subscription breaks) :: waiting) := by
        simp only [pending_cons, Watch.Stage.isSubscribed, if_true]
        omega
      rw [← count]
      exact rest

/-- Ending the indexer in one go is one way of ending it. -/
theorem steps_shutdown (e : Ending) : Relation.ReflTransGen Step e.shutDown
    { e with session := { e.session with world := (Watch.shutdown.run e.session.world).2 }, begun := e.begun + 1 } := by
  have wound := winds_all e.shutDown.session e.shutDown.begun e.begun [] e.calls e.session.world.watchers.entries
  rw [pending_entries] at wound
  exact (wound.tail .returns).tail (.move (.around rfl rfl))

/-- Whatever happens in a session, the open subscriptions are those of unfinished watchers that have subscribed and
those that others hold. A transaction has one unfinished watcher at most in each generation, every watcher of an
earlier generation is cancelled by a call that has not returned, and none is started for a transaction exactly while
it has one of the current generation; so while no call is in flight it has one at most, and none is started exactly
while it has one. When a call to end the indexer returns, the watchers have finished that were in the registry when
it began, and it can return wherever it begins. -/
theorem subscriptions_of_steps {w : World} {e : Ending} (run : Relation.ReflTransGen Step (.start w) e)
    (unwatched : w.watchers = .empty) (fresh : w.node.openCount = 0) :
    e.session.world.node.openCount =
        e.unfinished.countP (fun u => Watch.Stage.isSubscribed u.stage) + e.session.held.length ∧
      (e.unfinished.map fun u => (u.generation, u.id)).Nodup ∧
      (∀ u ∈ e.unfinished, u.generation = e.begun ∨ e.InFlight u.generation) ∧
      (∀ id, ((Watch.spawn id).run e.session.world).1 = false ↔
        ∃ u ∈ e.unfinished, u.id = id ∧ u.generation = e.begun) ∧
      (e.calls = [] → (e.unfinished.map Watcher.id).Nodup ∧
        ∀ id, ((Watch.spawn id).run e.session.world).1 = false ↔ ∃ u ∈ e.unfinished, u.id = id) ∧
      (∀ f, Relation.ReflTransGen Step e.shutDown f → ¬f.InFlight e.begun →
        (∀ u ∈ f.unfinished, u.generation ≠ e.begun) ∧
          f.session.world.node.openCount =
            f.unfinished.countP (fun u => Watch.Stage.isSubscribed u.stage) + f.session.held.length) ∧
      Relation.ReflTransGen Step e.shutDown { e with
        session := { e.session with world := (Watch.shutdown.run e.session.world).2 }, begun := e.begun + 1 } ∧
      (Watch.shutdown.run e.session.world).2.watchers = .empty ∧
      (e.calls = [] → (Watch.shutdown.run e.session.world).2.node.openCount = e.session.held.length) := by
  have sound := sound_of_steps run unwatched fresh
  have ended := sound_of_steps ((run.tail (.begins e)).trans (steps_shutdown e)) unwatched fresh
  refine ⟨sound.openCount, sound.nodup, fun u hu => Sound.generation hu, sound.spawn_eq_false_iff, sound.settled,
    fun f later returned => ?_, steps_shutdown e, rfl, fun none => ?_⟩
  · refine ⟨fun u hu same => ?_, (sound_of_steps ((run.tail (.begins e)).trans later) unwatched fresh).openCount⟩
    have begun : e.begun + 1 ≤ f.begun := begun_le_of_steps later
    rcases Sound.generation hu with current | waits
    · omega
    · exact returned (same ▸ waits)
  · have count := ended.openCount
    rw [countP_unfinished, none] at count
    exact count.trans (Nat.zero_add _)

/-! ### A watcher and another holder -/

/-- A chain that knows the status of a transaction. -/
def pendingTransfer : World := .start (Chain.Node.empty.setStatus "t" ⟨.pending, 0, "", []⟩) .empty .epoch

/-- A watcher of the transaction was started. -/
def spawnedTransfer : World := ((Watch.spawn "t").run pendingTransfer).2

/-- It has subscribed. -/
def watchedTransfer : World := ((Watch.step "t").run spawnedTransfer).2

/-- Somebody else has subscribed too. -/
def sharedTransfer : Ending where
  session :=
    ⟨{ watchedTransfer with node := { watchedTransfer.node with openCount := watchedTransfer.node.openCount + 1 } },
      [⟨"t", none⟩]⟩
  begun := 0
  calls := []

theorem start_spawned : Step (.start pendingTransfer) (.start spawnedTransfer) := .move (.spawn "t" _)

theorem subscriptions_sharedTransfer :
    sharedTransfer.session.world.node.openCount = 2 ∧
      (Watch.shutdown.run sharedTransfer.session.world).2.node.openCount = sharedTransfer.session.held.length := by
  have polled : Step (.start spawnedTransfer) (.start watchedTransfer) := .move (.poll "t" _)
  have known : watchedTransfer.node.subscribe "t" =
      .ok (⟨"t", none⟩, { watchedTransfer.node with openCount := watchedTransfer.node.openCount + 1 }) := by decide +kernel
  have held : Step (.start watchedTransfer) sharedTransfer := .move (.subscribe known)
  have run := ((Relation.ReflTransGen.single start_spawned).tail polled).tail held
  obtain ⟨-, -, -, -, -, -, -, -, closed⟩ := subscriptions_of_steps run rfl rfl
  exact ⟨by decide +kernel, closed rfl⟩

/-- While a call to end the indexer waits for the cancelled watcher of a transaction, another watcher is started for
it, so that it has two; and a second call returns before the watcher has finished. -/
theorem spawned_beside_cancelled :
    ∃ e f g : Ending, Relation.ReflTransGen Step (.start pendingTransfer) e ∧ e.unfinished.map Watcher.id = ["t"] ∧
      ((Watch.spawn "t").run e.session.world).1 = true ∧
      Step e f ∧ f.unfinished.map Watcher.id = ["t", "t"] ∧
      Relation.ReflTransGen Step e.shutDown g ∧ ¬g.InFlight e.begun ∧ g.unfinished.map Watcher.id = ["t"] := by
  let e : Ending := (Ending.start spawnedTransfer).shutDown
  let f : Ending := { e with session := ⟨((Watch.spawn "t").run e.session.world).2, []⟩ }
  let g : Ending := ⟨e.shutDown.session, 2, e.calls⟩
  have reached : Relation.ReflTransGen Step (.start pendingTransfer) e :=
    (Relation.ReflTransGen.single start_spawned).tail (.begins _)
  have returned : Step e.shutDown g := @Step.returns e.shutDown.session 2 1 [] e.calls
  refine ⟨e, f, g, reached, by decide +kernel, by decide +kernel, .move (.spawn "t" _), by decide +kernel,
    .single returned, ?_, by decide +kernel⟩
  rintro ⟨call, hc, number⟩
  obtain rfl := List.mem_singleton.mp hc
  cases number

end Session

end ChainIndex
