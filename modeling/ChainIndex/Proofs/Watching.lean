import ChainIndex.Proofs.Climb

/-!
# No status is lost

A transaction is followed if it is on record and its watcher will write whatever the chain says last:
the watcher has not subscribed yet, or it has not seen the latest status, or the record shows that
status; without a watcher the status is sealed and on record. Every step keeps a followed transaction
followed, and processing a height makes its transactions followed. What a watcher has seen is a version
of the channel, and setting a status makes a version that nobody has seen.
-/

set_option autoImplicit false

namespace ChainIndex

/-! ### Changes of the chain -/

namespace Chain

/-- The transaction has no sealed status, or this one. -/
def Node.Admits (n : Node) (id : String) (status : TransactionStatus) : Prop :=
  ∀ ch, n.channels.get? id = some ch → ch.status.status.isSealed = true → status = ch.status

/-- Changes of a node that stays alive and never changes a status after it was sealed. -/
def Change.Forward (n : Node) : Change → Prop
  | .transaction t s => n.Admits t.id s
  | .status id s => n.Admits id s
  | .close => False
  | _ => True

/-- A channel after a change: as before, or a new version whose status is the old one if that was
sealed. -/
theorem Change.channel_cases {n : Node} {c : Change} (forward : c.Forward n) {id : String} {ch : Channel}
    (h : n.channels.get? id = some ch) :
    (c.apply n).channels.get? id = some ch ∨
      ∃ status, (c.apply n).channels.get? id = some ⟨status, ch.version + 1⟩ ∧
        (ch.status.status.isSealed = true → status = ch.status) := by
  have set (name : String) (status : TransactionStatus) (admits : n.Admits name status) :
      (n.setStatus name status).channels.get? id = some ch ∨
        ∃ status', (n.setStatus name status).channels.get? id = some ⟨status', ch.version + 1⟩ ∧
          (ch.status.status.isSealed = true → status' = ch.status) := by
    by_cases same : id = name
    · subst same
      refine Or.inr ⟨status, ?_, admits ch h⟩
      simp only [Node.setStatus, h, Table.get?_insert_self]
    · exact Or.inl ((n.channels.get?_insert_of_ne same _).trans h)
  cases c with
  | transaction t s => exact set t.id s forward
  | status name s => exact set name s forward
  | close => exact forward.elim
  | _ => exact Or.inl h

theorem Change.closed {n : Node} {c : Change} (forward : c.Forward n) : (c.apply n).closed = n.closed := by
  cases c with
  | close => exact forward.elim
  | _ => rfl

end Chain

/-! ### Followed transactions -/

namespace Watching

open Chain (Channel)

/-- What the watcher of a transaction has to do with its record and its channel. -/
def Tracks (id : String) (r : Indexed.Transaction) (ch : Channel) : Option Stage → Prop
  | none => ch.status.status.isSealed = true ∧ r.status = .ofChain ch.status
  | some .spawned => True
  | some (.subscribed sub breaks) => breaks = none ∧ sub.id = id ∧
      ∀ v, sub.seen = some v → v ≤ ch.version ∧ (v = ch.version → r.status = .ofChain ch.status)

/-- The latest status of a transaction is on record or will be written. -/
def Followed (w : World) (id : String) : Prop :=
  ∃ r ch, w.store.transactions.get? id = some r ∧ w.node.channels.get? id = some ch ∧
    Tracks id r ch (w.watchers.get? id)

/-- A world without failures, in which every watched transaction is followed. -/
structure Calm (w : World) : Prop where
  made : w.node.Made
  alive : w.node.closed = false
  outages : w.outages = .none
  watched : ∀ id stage, w.watchers.get? id = some stage → Followed w id

/-- From `w` to `w'` the world stays calm, and nothing that is on record, has a status or is followed
ceases to be so. -/
structure Advance (w w' : World) : Prop where
  calm : Calm w → Calm w'
  followed : Calm w → ∀ id, Followed w id → Followed w' id
  recorded : ∀ id, (w.store.transactions.get? id).isSome → (w'.store.transactions.get? id).isSome
  channels : ∀ id, (w.node.channels.get? id).isSome → (w'.node.channels.get? id).isSome

namespace Advance
variable {w w' w'' : World}

theorem refl (w : World) : Advance w w :=
  ⟨fun h => h, fun _ _ h => h, fun _ h => h, fun _ h => h⟩

theorem trans (h₁ : Advance w w') (h₂ : Advance w' w'') : Advance w w'' where
  calm h := h₂.calm (h₁.calm h)
  followed h id hid := h₂.followed (h₁.calm h) id (h₁.followed h id hid)
  recorded id hid := h₂.recorded id (h₁.recorded id hid)
  channels id hid := h₂.channels id (h₁.channels id hid)

/-- Work on other parts than the transactions, the node and the watchers. -/
theorem of_within {parts : List Part} (h : w.Within parts w') (transactions : .shelf .transaction ∉ parts)
    (node : .node ∉ parts) (watchers : .watchers ∉ parts) : Advance w w' := by
  have ht : w'.store.transactions = w.store.transactions := h.shelf .transaction transactions
  have hn := h.node node
  have hw := h.watchers watchers
  have same : ∀ id, Followed w id → Followed w' id := by
    rintro id ⟨r, ch, hr, hch, tracks⟩
    exact ⟨r, ch, ht ▸ hr, hn ▸ hch, hw ▸ tracks⟩
  refine ⟨fun calm => ?_, fun _ => same, fun id hid => ht ▸ hid, fun id hid => hn ▸ hid⟩
  exact ⟨hn ▸ calm.made, hn ▸ calm.alive, h.outages.trans calm.outages, fun id stage hid =>
    same id (calm.watched id stage (hw ▸ hid))⟩

end Advance

theorem Calm.answers {w : World} (calm : Calm w) (which : Call → Prop) : w.Answers which := by
  intro n _ call _
  rw [calm.outages]
  rfl

theorem Calm.honest {w : World} (calm : Calm w) : w.Honest := by
  intro n kind id what
  rw [calm.outages]
  nofun

/-- A followed transaction that its watcher is not needed for is on record with its sealed status. -/
theorem tracks_of_watched {w : World} (calm : Calm w) {id : String} {stage : Stage}
    (h : w.watchers.get? id = some stage) :
    ∃ r ch, w.store.transactions.get? id = some r ∧ w.node.channels.get? id = some ch ∧
      Tracks id r ch (some stage) := by
  obtain ⟨r, ch, hr, hch, tracks⟩ := calm.watched id stage h
  exact ⟨r, ch, hr, hch, h ▸ tracks⟩

/-! ### The chain -/

/-- A change of the chain gives channels new versions, which no watcher has seen. -/
theorem advance_change {w : World} {c : Chain.Change} (forward : c.Forward w.node) :
    Advance w { w with node := c.apply w.node } := by
  have kept : ∀ id, Followed w id → Followed { w with node := c.apply w.node } id := by
    rintro id ⟨r, ch, hr, hch, tracks⟩
    rcases Chain.Change.channel_cases forward hch with same | ⟨status, next, sealed⟩
    · exact ⟨r, ch, hr, same, tracks⟩
    · refine ⟨r, _, hr, next, ?_⟩
      show Tracks id r ⟨status, ch.version + 1⟩ (w.watchers.get? id)
      generalize w.watchers.get? id = stage at tracks ⊢
      rcases stage with _ | _ | ⟨sub, breaks⟩
      · obtain ⟨done, shown⟩ := tracks
        obtain rfl := sealed done
        exact ⟨done, shown⟩
      · trivial
      · obtain ⟨whole, own, seen⟩ := tracks
        refine ⟨whole, own, fun v hv => ?_⟩
        obtain ⟨le, -⟩ := seen v hv
        exact ⟨Nat.le_succ_of_le le, fun eq => absurd (eq ▸ le) (Nat.not_succ_le_self _)⟩
  refine ⟨fun calm => ?_, fun _ => kept, fun _ h => h, fun id h => ?_⟩
  · exact ⟨calm.made.change c, (Chain.Change.closed forward).trans calm.alive, calm.outages, fun id stage hid =>
      kept id (calm.watched id stage hid)⟩
  · obtain ⟨ch, hch⟩ := Option.isSome_iff_exists.mp h
    rcases Chain.Change.channel_cases forward hch with same | ⟨status, next, -⟩
    · exact Option.isSome_iff_exists.mpr ⟨ch, same⟩
    · exact Option.isSome_iff_exists.mpr ⟨_, next⟩

/-! ### Polls -/

theorem step_spawned {w : World} (calm : Calm w) {id : String} {ch : Channel} (h : w.watchers.get? id = some .spawned)
    (hch : w.node.channels.get? id = some ch) :
    ((Watch.step id).run w).2 =
      { w.counted with
        node := { w.node with openCount := w.node.openCount + 1 }
        watchers := w.watchers.insert id (.subscribed ⟨id, none⟩ none) } := by
  have subscribed : (Watch.subscribe id).run.run w =
      (.ok ⟨id, none⟩, { w.counted with node := { w.node with openCount := w.node.openCount + 1 } }) := by
    unfold Watch.subscribe
    rw [Act.attempt_of_answer (calm.answers (fun _ => True) w.calls (Nat.le_refl _) _ trivial)]
    simp only [World.counted_node, Chain.Node.subscribe, Chain.Node.status, hch, Option.map_some,
      Chain.Node.require, Except.map]
  have stream : w.outages.stream id = none := by
    rw [calm.outages]
    rfl
  unfold Watch.step
  rw [Attempt.state_bind, show (get : StateM World World).run w = (w, w) from rfl]
  simp only [h]
  rw [Attempt.state_bind, subscribed]
  simp only [stream]
  rfl

theorem step_waiting {w : World} (calm : Calm w) {id : String} {sub : Chain.Node.Subscription} {ch : Channel}
    (h : w.watchers.get? id = some (.subscribed sub none)) (hch : w.node.channels.get? sub.id = some ch)
    (seen : sub.seen = some ch.version) : ((Watch.step id).run w).2 = w := by
  have waits : Watch.arrival w.node sub none = (.nothing, sub) := by
    simp only [Watch.arrival, Chain.Node.poll, hch, seen, if_true, calm.alive, Bool.false_eq_true, if_false]
  unfold Watch.step
  rw [Attempt.state_bind, show (get : StateM World World).run w = (w, w) from rfl]
  simp only [h, waits]
  rfl

/-- The world in which a watcher has seen a status and written it to the record. -/
def noted (w : World) (id : String) (sub : Chain.Node.Subscription) (ch : Channel) (r : Indexed.Transaction) :
    World :=
  { w.counted with
    watchers := w.watchers.insert id (.subscribed { sub with seen := some ch.version } none)
    store := { w.store with
      transactions := w.store.transactions.insert id { r with status := .ofChain ch.status } } }

theorem step_item {w : World} (calm : Calm w) {id : String} {sub : Chain.Node.Subscription} {ch : Channel}
    {r : Indexed.Transaction} (h : w.watchers.get? id = some (.subscribed sub none))
    (hch : w.node.channels.get? sub.id = some ch) (hr : w.store.transactions.get? id = some r)
    (news : sub.seen ≠ some ch.version) :
    ((Watch.step id).run w).2 =
      if ch.status.status.isSealed then
        { noted w id sub ch r with
          watchers := (noted w id sub ch r).watchers.erase id
          node := w.node.release }
      else noted w id sub ch r := by
  have item : Watch.arrival w.node sub none = (.item (.ok ch.status), { sub with seen := some ch.version }) := by
    simp only [Watch.arrival, Chain.Node.poll, hch, if_neg news]
  generalize hw : { w with watchers := w.watchers.insert id (.subscribed { sub with seen := some ch.version } none) } = w₁
  have staged : (Watch.setStage id (.subscribed { sub with seen := some ch.version } none)).run w = ((), w₁) := by
    rw [← hw]
    rfl
  have answers : w₁.Answers fun _ => True := by
    rw [← hw]
    exact calm.answers _
  have stored : w₁.store.transactions.get? id = some r := by
    rw [← hw]
    exact hr
  have updated : (Act.update Indexed.Transaction id (Indexed.TransactionStatus.ofChain ch.status)).run.run w₁ = _ :=
    Act.update_of_answers answers trivial stored
  have received : (Watch.receive id (.ok ch.status)).run w₁ =
      (if ch.status.status.isSealed then some (.ok ()) else none, noted w id sub ch r) := by
    unfold Watch.receive Watch.record
    rw [Attempt.state_bind, Attempt.state_bind, updated, ← hw]
    rfl
  unfold Watch.step
  rw [Attempt.state_bind, show (get : StateM World World).run w = (w, w) from rfl]
  simp only [h, item]
  rw [Attempt.state_bind, staged, Attempt.state_bind, received]
  cases ch.status.status.isSealed with
  | false => rfl
  | true => rfl

/-- A step that is about one transaction, and leaves it followed. -/
theorem Advance.of_one {w w' : World} {id : String} (calm : Calm w) (made : w'.node.Made)
    (alive : w'.node.closed = w.node.closed) (outages : w'.outages = w.outages)
    (channels : w'.node.channels = w.node.channels)
    (transactions : ∀ j, j ≠ id → w'.store.transactions.get? j = w.store.transactions.get? j)
    (watchers : ∀ j, j ≠ id → w'.watchers.get? j = w.watchers.get? j) (here : Followed w' id) : Advance w w' := by
  have kept : ∀ j, Followed w j → Followed w' j := by
    intro j hj
    by_cases same : j = id
    · exact same ▸ here
    · obtain ⟨r, ch, hr, hch, tracks⟩ := hj
      exact ⟨r, ch, (transactions j same).trans hr, channels ▸ hch, watchers j same ▸ tracks⟩
  refine ⟨fun _ => ⟨made, alive.trans calm.alive, outages.trans calm.outages, fun j stage hj => ?_⟩,
    fun _ => kept, fun j hj => ?_, fun j hj => channels ▸ hj⟩
  · by_cases same : j = id
    · exact same ▸ here
    · exact kept j (calm.watched j stage (watchers j same ▸ hj))
  · by_cases same : j = id
    · obtain ⟨r, -, hr, -⟩ := here
      rw [same, hr]
      rfl
    · rwa [transactions j same]

/-- A poll of a watcher keeps every followed transaction followed. -/
theorem advance_poll {w : World} (calm : Calm w) (id : String) : Advance w ((Watch.step id).run w).2 := by
  cases h : w.watchers.get? id with
  | none =>
    have idle : ((Watch.step id).run w).2 = w := by
      unfold Watch.step
      rw [Attempt.state_bind, show (get : StateM World World).run w = (w, w) from rfl]
      simp only [h]
      rfl
    rw [idle]
    exact .refl w
  | some stage =>
    obtain ⟨r, ch, hr, hch, tracks⟩ := tracks_of_watched calm h
    rcases stage with _ | ⟨sub, breaks⟩
    · rw [step_spawned calm h hch]
      refine .of_one calm (calm.made.count _) rfl rfl rfl (fun _ _ => rfl)
        (fun j ne => w.watchers.get?_insert_of_ne ne _) ⟨r, ch, hr, hch, ?_⟩
      show Tracks id r ch ((w.watchers.insert id _).get? id)
      rw [Table.get?_insert_self]
      exact ⟨rfl, rfl, fun v hv => nomatch hv⟩
    · obtain ⟨rfl, own, seen⟩ := tracks
      have here : w.node.channels.get? sub.id = some ch := own ▸ hch
      by_cases news : sub.seen = some ch.version
      · rw [step_waiting calm h here news]
        exact .refl w
      · rw [step_item calm h here hr news]
        have recorded : (noted w id sub ch r).store.transactions.get? id =
            some { r with status := .ofChain ch.status } := Table.get?_insert_self _ _ _
        have others : ∀ j, j ≠ id →
            (noted w id sub ch r).store.transactions.get? j = w.store.transactions.get? j := fun j ne =>
          w.store.transactions.get?_insert_of_ne ne _
        split
        · next done =>
          refine .of_one calm (calm.made.count _) rfl rfl rfl others (fun j ne => ?_) ⟨_, ch, recorded, hch, ?_⟩
          · exact (Table.get?_erase_of_ne _ ne).trans (w.watchers.get?_insert_of_ne ne _)
          · show Tracks id _ ch (((noted w id sub ch r).watchers.erase id).get? id)
            rw [Table.get?_erase_self]
            exact ⟨done, rfl⟩
        · refine .of_one calm calm.made rfl rfl rfl others (fun j ne => w.watchers.get?_insert_of_ne ne _)
            ⟨_, ch, recorded, hch, ?_⟩
          show Tracks id _ ch ((w.watchers.insert id _).get? id)
          rw [Table.get?_insert_self]
          refine ⟨rfl, own, fun v hv => ?_⟩
          obtain rfl := Option.some.inj hv
          exact ⟨Nat.le_refl _, fun _ => rfl⟩

/-! ### Pieces of a height -/

variable {setup : Setup}

/-- Writing a transaction puts it on record or finds it there. -/
theorem advance_transaction (setup : Setup) {w : World} (calm : Calm w) (b : Chain.Block) (t : FetchedTransaction) :
    Advance w ((Piece.transaction b t).apply setup w) ∧
      (((Piece.transaction b t).apply setup w).store.transactions.get? t.transaction.id).isSome := by
  have cases := Recording.replaySafe_create_cases
    (Indexed.Transaction.ofChain b t.transaction t.status (setup.parse t.transaction.script).interaction) w calm.honest
  rcases cases with ⟨e, he, -⟩ | ⟨-, ⟨old, hold, run⟩ | ⟨new, run⟩⟩
  · rw [calm.outages] at he
    cases he
  · have after : (Piece.transaction b t).apply setup w = w.counted := congrArg Prod.snd run
    rw [after]
    exact ⟨.of_within (.counted [] w) (by decide) (by decide) (by decide), Option.isSome_iff_exists.mpr ⟨old, hold⟩⟩
  · have after : (Piece.transaction b t).apply setup w = _ := congrArg Prod.snd run
    have others : ∀ j, j ≠ t.transaction.id →
        ((Piece.transaction b t).apply setup w).store.transactions.get? j = w.store.transactions.get? j := by
      intro j ne
      rw [after]
      exact w.store.transactions.get?_insert_of_ne ne _
    have here : (((Piece.transaction b t).apply setup w).store.transactions.get? t.transaction.id).isSome := by
      rw [after]
      exact Option.isSome_iff_exists.mpr ⟨_, Table.get?_insert_self _ _ _⟩
    -- A transaction that is not on record yet is not followed yet.
    have kept : ∀ j, Followed w j → Followed ((Piece.transaction b t).apply setup w) j := by
      rintro j ⟨r, ch, hr, hch, tracks⟩
      by_cases same : j = t.transaction.id
      · subst same
        cases hr.symm.trans new
      · exact ⟨r, ch, (others j same).trans hr, by rw [after]; exact hch, by rw [after]; exact tracks⟩
    refine ⟨⟨fun calm => ?_, fun _ => kept, fun j hj => ?_, fun _ hj => by rw [after]; exact hj⟩, here⟩
    · exact ⟨by rw [after]; exact calm.made, by rw [after]; exact calm.alive, by rw [after]; exact calm.outages,
        fun j stage hj => kept j (calm.watched j stage (by rw [after] at hj; exact hj))⟩
    · by_cases same : j = t.transaction.id
      · exact same ▸ here
      · rwa [others j same]

/-- Starting a watcher makes a transaction that is on record followed. -/
theorem advance_spawn (setup : Setup) {w : World} (calm : Calm w) {id : String}
    (recorded : (w.store.transactions.get? id).isSome) (channel : (w.node.channels.get? id).isSome) :
    Advance w ((Piece.spawn id).apply setup w) ∧ Followed ((Piece.spawn id).apply setup w) id := by
  have run : (Piece.spawn id).apply setup w =
      if w.watchers.contains id then w else { w with watchers := w.watchers.insert id .spawned } := by
    show (if w.watchers.contains id then (false, w) else
      (true, { w with watchers := w.watchers.insert id .spawned })).2 = _
    split <;> rfl
  rw [run]
  split
  · next watched =>
    obtain ⟨stage, hstage⟩ := Option.isSome_iff_exists.mp watched
    exact ⟨.refl w, calm.watched id stage hstage⟩
  · obtain ⟨r, hr⟩ := Option.isSome_iff_exists.mp recorded
    obtain ⟨ch, hch⟩ := Option.isSome_iff_exists.mp channel
    have here : Followed { w with watchers := w.watchers.insert id .spawned } id := by
      refine ⟨r, ch, hr, hch, ?_⟩
      show Tracks id r ch ((w.watchers.insert id .spawned).get? id)
      rw [Table.get?_insert_self]
      trivial
    exact ⟨.of_one calm calm.made rfl rfl rfl (fun _ _ => rfl)
      (fun j ne => w.watchers.get?_insert_of_ne ne _) here, here⟩

/-- Of the pieces that are left of a height, each start of a watcher is about a transaction with a
status, and the transaction is on record or is written before. -/
def Pending (w : World) (left : List Piece) : Prop :=
  ∀ before id after, left = before ++ .spawn id :: after → (w.node.channels.get? id).isSome ∧
    ((w.store.transactions.get? id).isSome ∨ ∃ b t, t.transaction.id = id ∧ .transaction b t ∈ before)

theorem Pending.advance {w w' : World} {left : List Piece} (pending : Pending w left) (h : Advance w w') :
    Pending w' left := by
  intro before id after split
  obtain ⟨channel, recorded | written⟩ := pending before id after split
  · exact ⟨h.channels id channel, Or.inl (h.recorded id recorded)⟩
  · exact ⟨h.channels id channel, Or.inr written⟩

/-- The parts that pieces change which are about neither transactions nor watchers. -/
def quietParts : List Part := .shelf .block :: .shelf .event :: .shelf .storageItem :: Only.effects

theorem advance_quiet (hs : Tick.ScansStorageOnly setup) (w : World) (p : Piece) (quiet : p.parts ⊆ quietParts) :
    Advance w (p.apply setup w) :=
  .of_within ((p.within hs w).mono quiet) (by decide) (by decide) (by decide)

/-- One piece of a height: what is followed stays followed, and a watcher that is started follows its
transaction. -/
theorem advance_piece (hs : Tick.ScansStorageOnly setup) {w : World} (calm : Calm w) {p : Piece} {left : List Piece}
    (pending : Pending w (p :: left)) :
    Advance w (p.apply setup w) ∧ Pending (p.apply setup w) left ∧
      ∀ id, p = .spawn id → Followed (p.apply setup w) id := by
  -- What is left behind a piece that writes no transaction was prepared before it.
  have rest (h : Advance w (p.apply setup w)) (quiet : ∀ b t, p ≠ .transaction b t) :
      Pending (p.apply setup w) left := by
    intro before id after split
    obtain ⟨channel, recorded | ⟨b, t, own, written⟩⟩ :=
      pending.advance h (p :: before) id after (congrArg (p :: ·) split)
    · exact ⟨channel, Or.inl recorded⟩
    · rcases List.mem_cons.mp written with here | written
      · exact absurd here.symm (quiet b t)
      · exact ⟨channel, Or.inr ⟨b, t, own, written⟩⟩
  have quiet (sub : p.parts ⊆ quietParts) (written : ∀ b t, p ≠ .transaction b t) (started : ∀ id, p ≠ .spawn id) :
      Advance w (p.apply setup w) ∧ Pending (p.apply setup w) left ∧
        ∀ id, p = .spawn id → Followed (p.apply setup w) id := by
    have h := advance_quiet hs w p sub
    exact ⟨h, rest h written, fun id same => absurd same (started id)⟩
  cases p with
  | block b => exact quiet (by decide : [Part.shelf .block] ⊆ quietParts) (fun _ _ => nofun) fun _ => nofun
  | event e => exact quiet (by decide : [Part.shelf .event] ⊆ quietParts) (fun _ _ => nofun) fun _ => nofun
  | effect observedAt e => exact quiet (by decide : Only.effects ⊆ quietParts) (fun _ _ => nofun) fun _ => nofun
  | scan => exact quiet (by decide : [Part.shelf .storageItem] ⊆ quietParts) (fun _ _ => nofun) fun _ => nofun
  | transaction b t =>
    obtain ⟨h, recorded⟩ := advance_transaction setup calm b t
    refine ⟨h, fun before id after split => ?_, fun _ => nofun⟩
    obtain ⟨channel, here | ⟨b', t', own, written⟩⟩ :=
      pending.advance h (.transaction b t :: before) id after (congrArg (_ :: ·) split)
    · exact ⟨channel, Or.inl here⟩
    · rcases List.mem_cons.mp written with same | written
      · cases same
        exact ⟨channel, Or.inl (own ▸ recorded)⟩
      · exact ⟨channel, Or.inr ⟨b', t', own, written⟩⟩
  | spawn id =>
    obtain ⟨channel, recorded | ⟨b, t, -, written⟩⟩ := pending [] id left rfl
    · obtain ⟨h, here⟩ := advance_spawn setup calm recorded channel
      refine ⟨h, rest h (fun _ _ => nofun), fun id' same => ?_⟩
      cases same
      exact here
    · cases written

theorem advance_pieces (hs : Tick.ScansStorageOnly setup) {w : World} (calm : Calm w) {left : List Piece}
    (pending : Pending w left) :
    Advance w (Piece.applyAll setup left w) ∧
      ∀ id, .spawn id ∈ left → Followed (Piece.applyAll setup left w) id := by
  induction left generalizing w with
  | nil => exact ⟨.refl w, fun id h => nomatch h⟩
  | cons p left ih =>
    obtain ⟨first, pending', here⟩ := advance_piece hs calm pending
    obtain ⟨rest, later⟩ := ih (first.calm calm) pending'
    refine ⟨first.trans rest, fun id hid => ?_⟩
    rcases List.mem_cons.mp hid with same | hid
    · exact rest.followed (first.calm calm) id (here id same.symm)
    · exact later id hid

theorem split_of_not_mem {α : Type} {l r before after : List α} {x : α} (out : x ∉ l)
    (split : l ++ r = before ++ x :: after) : ∃ between, before = l ++ between ∧ r = between ++ x :: after := by
  rcases List.append_eq_append_iff.mp split with h | ⟨_ | ⟨y, between⟩, rfl, rest⟩
  · exact h
  · exact ⟨[], by simp, by simpa using rest.symm⟩
  · obtain ⟨rfl, -⟩ := List.cons.inj rest
    exact absurd (List.mem_append_right _ List.mem_cons_self) out

/-- The pieces of data whose transactions have a status are prepared for each other. -/
theorem pending_pieces {w : World} (watches : setup.config.watches = true) {data : BlockData}
    (known : ∀ t ∈ data.transactions, (w.node.channels.get? t.transaction.id).isSome) :
    Pending w (data.pieces setup true) := by
  intro before id after split
  -- No watcher starts before the scan, so all transactions are written before.
  have pieces : data.pieces setup true = (.block data.block :: data.details ++ [.scan]) ++ data.spawns := by
    simp [BlockData.pieces, watches]
  have early : .spawn id ∉ (.block data.block :: data.details ++ [.scan] : List Piece) := by
    simp [BlockData.details]
  rw [pieces] at split
  obtain ⟨between, rfl, spawns⟩ := split_of_not_mem early split
  have mem : .spawn id ∈ data.spawns := spawns ▸ List.mem_append_right _ List.mem_cons_self
  obtain ⟨t, ht, same⟩ := List.mem_map.mp mem
  cases same
  refine ⟨known t ht, Or.inr ⟨data.block, t, rfl, ?_⟩⟩
  simp [BlockData.details, ht]

/-- Where watchers are wanted one is started for each transaction. -/
theorem spawn_mem_pieces (watches : setup.config.watches = true) {data : BlockData} {t : FetchedTransaction}
    (ht : t ∈ data.transactions) : .spawn t.transaction.id ∈ data.pieces setup true := by
  simp only [BlockData.pieces, watches, Bool.and_self, if_true]
  exact List.mem_append_right _ (List.mem_cons_of_mem _ (List.mem_map.mpr ⟨t, ht, rfl⟩))

/-! ### Ticks -/

theorem known_of_dataAt {n : Chain.Node} (made : n.Made) {height : UInt64} {data : BlockData}
    (h : n.dataAt height = .ok data) (t : FetchedTransaction) (ht : t ∈ data.transactions) :
    (n.channels.get? t.transaction.id).isSome := by
  obtain ⟨-, -, bodies, statuses, hbodies, hstatuses, transactions, -⟩ := Chain.Node.dataAt_eq_ok h
  rw [transactions] at ht
  generalize data.collections.flatMap (·.transactionIds) = ids at hbodies hstatuses
  clear transactions h
  induction ids generalizing bodies statuses with
  | nil =>
    cases hbodies
    cases ht
  | cons id ids ih =>
    rw [List.mapM_cons] at hbodies hstatuses
    obtain ⟨body, hbody, hbodies⟩ := bind_eq_ok hbodies
    obtain ⟨moreBodies, hmoreBodies, hbodies⟩ := bind_eq_ok hbodies
    obtain ⟨status, hstatus, hstatuses⟩ := bind_eq_ok hstatuses
    obtain ⟨moreStatuses, hmoreStatuses, hstatuses⟩ := bind_eq_ok hstatuses
    cases hbodies
    cases hstatuses
    rcases List.mem_cons.mp ht with rfl | ht
    · have own : body.id = id := made.keyed.transactions id body (Chain.Node.require_eq_ok hbody)
      obtain ⟨ch, hch, -⟩ := Option.map_eq_some_iff.mp (Chain.Node.require_eq_ok hstatus)
      exact Option.isSome_iff_exists.mpr ⟨ch, own ▸ hch⟩
    · exact ih moreBodies moreStatuses ht hmoreBodies hmoreStatuses

/-- Processing a height fails before anything is written, or makes the transactions that the node holds
at the height followed. -/
theorem processHeight_follows (hs : Tick.ScansStorageOnly setup) (watches : setup.config.watches = true) {w : World}
    (calm : Calm w) (height : UInt64) :
    ∃ r w', (Tick.processHeight setup height).run.run w = (r, w') ∧ Advance w w' ∧ w'.node = w.node ∧
      ∀ counts, r = .ok counts → ∀ data, w.node.dataAt height = .ok data → ∀ t ∈ data.transactions,
        Followed w' t.transaction.id := by
  have still : w.Within [] ((BlockData.fetch height).run.run w).2 := Only.fetch height w
  rcases hf : (BlockData.fetch height).run.run w with ⟨e | data, u⟩
  · rw [hf] at still
    refine ⟨_, u, Tick.processHeight_of_unfetched hf,
      .of_within still (by decide) (by decide) (by decide), still.node (by decide), ?_⟩
    intro counts hr
    cases hr
  · rw [hf] at still
    have first : Advance w u := .of_within still (by decide) (by decide) (by decide)
    have calmU := first.calm calm
    obtain ⟨found, -⟩ := BlockData.fetch_ok hf
    have known : ∀ t ∈ data.transactions, (u.node.channels.get? t.transaction.id).isSome := by
      intro t ht
      exact first.channels _ (known_of_dataAt calm.made found t ht)
    -- Without failures the block is on record afterwards.
    have recorded : Attempt.isSuccess ((Recording.recordBlock data.block).run.run u).1 = true := by
      rcases Recording.recordBlock_cases data.block u calmU.honest with ⟨e, -, wrong⟩ | ⟨v, h, -⟩
      · exact absurd calmU.outages wrong
      · rw [h]
        rfl
    obtain ⟨counts, run⟩ := Tick.processHeight_pieces setup hf
    rw [recorded] at run
    obtain ⟨rest, follows⟩ := advance_pieces hs calmU (pending_pieces watches known)
    refine ⟨_, _, run, first.trans rest, ?_, fun _ _ data' hdata t ht => ?_⟩
    · obtain ⟨r, w', run', within, -⟩ := Tick.processHeight_cases hs height w calm.honest
      obtain ⟨-, same⟩ := Prod.mk.inj (run'.symm.trans run)
      rw [← same]
      exact within.node (by decide)
    · cases hdata.symm.trans found
      exact follows _ (spawn_mem_pieces watches ht)

theorem climb_follows (hs : Tick.ScansStorageOnly setup) (watches : setup.config.watches = true) (n : Nat)
    {w : World} (calm : Calm w) (height : UInt64) :
    ∃ report w', (Tick.climb setup n height).run w = (report, w') ∧ Advance w w' ∧
      ∀ h ∈ report.processed, ∀ data, w.node.dataAt h = .ok data → ∀ t ∈ data.transactions,
        Followed w' t.transaction.id := by
  induction n generalizing w height with
  | zero => exact ⟨_, w, rfl, .refl w, fun h hh => nomatch hh⟩
  | succ n ih =>
    obtain ⟨r, v, run, first, node, here⟩ := processHeight_follows hs watches calm height
    rcases r with e | counts
    · exact ⟨_, v, Tick.climb_of_error run n, first, fun h hh => nomatch hh⟩
    · obtain ⟨report, w', rest, second, later⟩ := ih (first.calm calm) (height + 1)
      refine ⟨_, w', by rw [Tick.climb_of_ok run n, rest], first.trans second, fun h hh data hdata t ht => ?_⟩
      rcases List.mem_cons.mp hh with rfl | hh
      · exact second.followed (first.calm calm) _ (here counts rfl data hdata t ht)
      · exact later h hh data (node ▸ hdata) t ht

/-- A tick makes the transactions of the heights that it processes followed. -/
theorem run_follows (hs : Tick.ScansStorageOnly setup) (watches : setup.config.watches = true) {w w' : World}
    (calm : Calm w) {report : TickReport} (run : (Tick.run setup).run.run w = (.ok report, w')) :
    Advance w w' ∧ ∀ h ∈ report.processed, ∀ data, w.node.dataAt h = .ok data → ∀ t ∈ data.transactions,
      Followed w' t.transaction.id := by
  have phased (phase : Phase) (w : World) : Advance w (w.setPhase phase) :=
    .of_within (.setPhase phase w) (by decide) (by decide) (by decide)
  have ends := Tick.run_ends setup w
  rw [run] at ends
  cases ends with
  | offline off => exact ⟨phased .offline w, fun h hh => nomatch hh⟩
  | unbounded wrong asked booted =>
    have first : Advance w _ :=
      .of_within (Tick.bootstrap_within asked booted) (by decide) (by decide) (by decide)
    exact ⟨first.trans (phased .idle _), fun h hh => nomatch hh⟩
  | @climbed u v bootstrapped head range known asked booted next =>
    have before := Tick.bootstrap_within asked booted
    have first : Advance w v := .of_within before (by decide) (by decide) (by decide)
    obtain ⟨report', w'', climbed, second, here⟩ :=
      climb_follows hs watches range.count (first.calm calm) range.next
    have node : v.node = w.node := before.node (by decide)
    rw [climbed]
    refine ⟨(first.trans second).trans (phased .idle w''), fun h hh data hdata t ht => ?_⟩
    exact (phased .idle w'').followed (second.calm (first.calm calm)) _ (here h hh data (node ▸ hdata) t ht)

end Watching

end ChainIndex
