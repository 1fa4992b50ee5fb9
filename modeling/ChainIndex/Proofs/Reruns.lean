import ChainIndex.Proofs.Climb
import ChainIndex.Proofs.Reports

/-!
# Work that can be made again

On a chain whose accounts stand still the work behind the block of a height does the same to every
record, whatever the index holds when it begins: each of its pieces is a list of touches
(`Replays`). So it does not matter how often a height was processed before its block was written.
-/

set_option autoImplicit false

namespace ChainIndex

open Indexed (AccountKey Entity)
open Store (Shelved)

/-! ### Steady worlds -/

/-- The calls that an indexer can do without for a while: those that find out about a height and those
to the index of blocks. -/
def Call.Spare : Call → Prop
  | .latestBlock | .block _ | .collection _ | .transaction _ | .status _ => True
  | .findAll .block | .create .block _ => True
  | _ => False

/-- Only such calls fail. -/
structure Outages.Tolerable (o : Outages) : Prop where
  spare : ∀ n call e, o.call n call = some e → call.Spare
  honest : o.Honest

theorem Outages.none_tolerable : Outages.none.Tolerable := ⟨fun _ _ _ => nofun, fun _ _ _ _ => nofun⟩

/-- A world whose node reports the accounts and the storage of a chain, and whose index has its keys from
there. -/
structure World.Steady (full : Chain.Node) (w : World) : Prop where
  accounts : w.node.accounts = full.accounts
  storage : w.node.storage = full.storage
  tolerable : w.outages.Tolerable
  reported : AllReported full w.store.keys

namespace World.Steady
variable {full : Chain.Node} {w w' : World} {parts : List Part}

theorem honest (h : w.Steady full) : w.Honest := h.tolerable.honest

theorem answers (h : w.Steady full) {which : Call → Prop} (need : ∀ call, which call → ¬ call.Spare) :
    w.Answers which := by
  intro n _ call hc
  rw [Option.eq_none_iff_forall_ne_some]
  intro e he
  exact need call hc (h.tolerable.spare n call e he)

theorem answers_on (h : w.Steady full) {kind : Kind} (behind : kind ≠ .block) : w.Answers (Call.On kind) := by
  refine h.answers fun call hc spare => ?_
  cases call with
  | findAll k =>
    obtain rfl : k = kind := hc
    cases k <;> first | exact behind rfl | exact spare
  | create k id =>
    obtain rfl : k = kind := hc
    cases k <;> first | exact behind rfl | exact spare
  | _ => first | exact spare | exact hc

theorem within (h : w.Steady full) (hw : w.Within parts w') (node : .node ∉ parts) (keys : AllReported full w'.store.keys) :
    w'.Steady full where
  accounts := by rw [hw.node node, h.accounts]
  storage := by rw [hw.node node, h.storage]
  tolerable := by rw [hw.outages]; exact h.tolerable
  reported := keys

theorem account (h : w.Steady full) (address : String) : w.node.account address = full.account address := by
  rw [Chain.Node.account, Chain.Node.account, h.accounts]

theorem look (h : w.Steady full) (address : String) :
    (Account.look address).run.run w = (full.account address, w.counted) := by
  have reach : w.Answers (· = .account address) := h.answers fun call hc => hc ▸ id
  rw [← h.account address]
  exact BlockData.ask_of_answers (Chain.Node.account address) reach rfl

end World.Steady

/-! ### Touches of a store -/

namespace Store

def index (s : Store) : (kind : Kind) → Table String kind.Record
  | .block => s.blocks
  | .transaction => s.transactions
  | .event => s.events
  | .account => s.accounts
  | .key => s.keys
  | .contract => s.contracts
  | .storageItem => s.storageItems

theorem same_iff {s t : Store} {kind : Kind} : s.Same t kind ↔ t.index kind = s.index kind := by
  cases kind <;> exact Iff.rfl

/-- What some work does to each record of a store. -/
abbrev Touches : Type := (kind : Kind) → String → Touch kind.Record

def Touched (τ : Touches) (s t : Store) : Prop := ∀ kind, (s.index kind).Touched (τ kind) (t.index kind)

namespace Touched
variable {τ υ : Touches} {s t u : Store}

theorem keep (s : Store) : s.Touched (fun _ _ => .keep) s := fun _ => .keep _

theorem seq (h : s.Touched τ t) (h' : t.Touched υ u) : s.Touched (fun kind id => (τ kind id).seq (υ kind id)) u :=
  fun kind => (h kind).seq (h' kind)

end Touched

/-- Touches of the index of one kind. -/
def Touches.on (kind : Kind) (touch : String → Touch kind.Record) : Touches :=
  fun k => if h : k = kind then h ▸ touch else fun _ => .keep

theorem Touched.on {w w' : World} {kind : Kind} {touch : String → Touch kind.Record} (hw : w.Within [.shelf kind] w')
    (h : (w.store.index kind).Touched touch (w'.store.index kind)) : w.store.Touched (Touches.on kind touch) w'.store := by
  intro k
  by_cases same : k = kind
  · subst same
    rw [Touches.on, dif_pos rfl]
    exact h
  · rw [Touches.on, dif_neg same]
    exact .of_eq (same_iff.mp (hw.shelf k (by simpa using same)))

end Store

/-- Work that keeps a world steady and touches the records of the store, in all steady worlds in the
same way. -/
def Replays (full : Chain.Node) (work : World → World) : Prop :=
  ∃ τ : Store.Touches, ∀ w : World, w.Steady full → (work w).Steady full ∧ w.store.Touched τ (work w).store

namespace Replays
variable {full : Chain.Node} {work work' : World → World}

theorem nothing : Replays full fun w => w := ⟨_, fun w h => ⟨h, .keep w.store⟩⟩

theorem comp (h : Replays full work) (h' : Replays full work') : Replays full fun w => work' (work w) := by
  obtain ⟨τ, first⟩ := h
  obtain ⟨υ, second⟩ := h'
  refine ⟨fun kind id => (τ kind id).seq (υ kind id), fun w hw => ?_⟩
  obtain ⟨steady, touched⟩ := first w hw
  obtain ⟨steady', touched'⟩ := second _ steady
  exact ⟨steady', touched.seq touched'⟩

theorem of_kind {kind : Kind} (other : kind ≠ .key) (touch : String → Touch kind.Record)
    (h : ∀ w : World, w.Steady full →
      w.Within [.shelf kind] (work w) ∧ (w.store.index kind).Touched touch ((work w).store.index kind)) :
    Replays full work := by
  refine ⟨Store.Touches.on kind touch, fun w hw => ?_⟩
  obtain ⟨within, touched⟩ := h w hw
  have keys : (work w).store.keys = w.store.keys := within.shelf .key (by simpa using other.symm)
  exact ⟨hw.within within (by simp) (keys ▸ hw.reported), .on within touched⟩

theorem of_keys (touch : String → Touch AccountKey)
    (h : ∀ w : World, w.Steady full → w.Within [.shelf .key] (work w) ∧
      w.store.keys.Touched touch (work w).store.keys ∧ AllReported full (work w).store.keys) :
    Replays full work := by
  refine ⟨Store.Touches.on .key touch, fun w hw => ?_⟩
  obtain ⟨within, touched, reported⟩ := h w hw
  exact ⟨hw.within within (by simp) reported, .on within touched⟩

theorem of_counted (h : ∀ w : World, w.Steady full → work w = w.counted) : Replays full work := by
  refine ⟨fun _ _ => .keep, fun w hw => ?_⟩
  rw [h w hw]
  exact ⟨hw.within (World.Within.counted [] w) (by simp) hw.reported, .keep w.store⟩

theorem of_edits {kind : Kind} (other : kind ≠ .key) (log : List (String × Option kind.Record))
    (h : ∀ w : World, w.Steady full →
      w.Within [.shelf kind] (work w) ∧ (work w).store.index kind = (w.store.index kind).edit log) :
    Replays full work := by
  refine of_kind other (Touch.ofLog log) fun w hw => ?_
  obtain ⟨within, table⟩ := h w hw
  exact ⟨within, table ▸ .edit _ log⟩

end Replays

/-! ### The pieces of a height -/

namespace Replays
variable {full : Chain.Node}

theorem touched_create {α π : Type} [Shelved α π] [LawfulShelf α] (a : α) {w : World} (steady : w.Steady full)
    (behind : Shelved.shelf α ≠ .block) :
    (Shelved.table w.store : Table String α).Touched (Touch.only (Entity.id a) (.ensure a))
      (Shelved.table ((Recording.replaySafe (Act.create a)).run.run w).2.store) := by
  have answered := steady.answers_on behind w.calls (Nat.le_refl _) (.create (Shelved.shelf α) (Entity.id a)) rfl
  rcases Recording.replaySafe_create_cases a w steady.honest with ⟨e, he, -⟩ | ⟨-, ⟨b, hb, run⟩ | ⟨none, run⟩⟩
  · rw [answered] at he
    cases he
  · rw [run]
    refine .ensure ?_ fun _ _ => rfl
    rw [World.counted_store, hb]
    rfl
  · rw [run, World.shelve_store, LawfulShelf.table_setTable]
    refine .ensure ?_ fun j ne => Table.get?_insert_of_ne _ ne a
    rw [Table.get?_insert_self, none]
    rfl

theorem transaction (setup : Setup) (b : Chain.Block) (t : FetchedTransaction) :
    Replays full fun w => (Piece.transaction b t).apply setup w :=
  of_kind (by decide) _ fun w hw => ⟨Only.recordTransaction setup.parse b t w,
    touched_create (Indexed.Transaction.ofChain b t.transaction t.status (setup.parse t.transaction.script).interaction) hw
      (by decide)⟩

theorem event (setup : Setup) (e : Chain.Event) : Replays full fun w => (Piece.event e).apply setup w :=
  of_kind (by decide) _ fun w hw => ⟨Only.recordEvent e w, touched_create (Indexed.Event.ofChain e) hw (by decide)⟩

/-! ### The effects of events -/

theorem refresh (address : String) : Replays full fun w => ((Account.refresh address).run.run w).2 := by
  cases known : full.account address with
  | error e =>
    refine of_counted fun w hw => ?_
    rw [Account.run_refresh_of_error (known ▸ hw.look address)]
  | ok a =>
    have other : Kind.account ≠ .key := by decide
    refine of_edits other [((Indexed.Account.ofChain a).id, some (.ofChain a))] fun w hw => ?_
    obtain ⟨w', run, edited⟩ := Act.upsert_edits
      ((World.Within.counted [] w).answers (hw.answers_on (by decide))) (Indexed.Account.ofChain a)
    rw [Account.run_refresh_of_ok (known ▸ hw.look address), run]
    have both := (World.Edited.counted w).trans edited
    exact ⟨both.within, both.table⟩

theorem looking {address : String} {f : Chain.Account → Act Unit}
    (h : ∀ a, full.account address = .ok a → Replays full fun w => ((f a).run.run w).2) :
    Replays full fun w => ((Account.look address >>= f).run.run w).2 := by
  cases known : full.account address with
  | error e =>
    refine of_counted fun w hw => ?_
    rw [Attempt.run_bind_of_error (known ▸ hw.look address)]
  | ok a =>
    have counts : Replays full World.counted := of_counted fun _ _ => rfl
    obtain ⟨τ, replays⟩ := counts.comp (h a known)
    refine ⟨τ, fun w hw => ?_⟩
    simp only [Attempt.run_bind_of_ok (known ▸ hw.look address)]
    exact replays w hw

theorem indexContract (address name : String) :
    Replays full fun w => ((Account.indexContract address name).run.run w).2 := by
  refine looking fun a known => ?_
  cases Indexed.Contract.ofChain? a name with
  | none => exact nothing
  | some c =>
    have other : Kind.contract ≠ .key := by decide
    refine of_edits other [(c.id, some c)] fun w hw => ?_
    obtain ⟨w', run, edited⟩ := Act.upsert_edits (hw.answers_on (by decide)) c
    dsimp only
    rw [run]
    exact ⟨edited.within, edited.table⟩

theorem deleteContract (id : String) : Replays full fun w => ((Act.delete Indexed.Contract id).run.run w).2 := by
  have other : Kind.contract ≠ .key := by decide
  refine of_edits other [(id, none)] fun w hw => ?_
  obtain ⟨w', run, edited⟩ := Act.delete_edits Indexed.Contract (hw.answers_on (by decide)) id
  rw [run]
  exact ⟨edited.within, edited.table⟩

theorem deleteKey (id : String) : Replays full fun w => ((Act.delete AccountKey id).run.run w).2 := by
  refine of_keys (Touch.ofLog [(id, none)]) fun w hw => ?_
  obtain ⟨w', run, edited⟩ := Act.delete_edits AccountKey (hw.answers_on (by decide)) id
  have table : w'.store.keys = w.store.keys.edit [(id, none)] := edited.table
  rw [run, table]
  exact ⟨edited.within, .edit _ _, hw.reported.edit (by simp)⟩

/-- Writing a key that is stored already, or one that is not. -/
theorem upsert_ensures {w : World} (hw : w.Steady full) {k r : AccountKey}
    (same : some r = (Touch.ensure k).on (w.store.keys.get? k.id)) (shown : Reported full k.id r) :
    ∃ w', (Act.upsert r).run.run w = (.ok (), w') ∧ w.Within [.shelf .key] w' ∧
      w.store.keys.Touched (Touch.only k.id (.ensure k)) w'.store.keys ∧ AllReported full w'.store.keys := by
  have id : r.id = k.id := by
    obtain ⟨_, _, _, _, -, -, ids, rfl⟩ := shown
    exact ids.symm
  obtain ⟨w', run, edited⟩ := Act.upsert_edits (hw.answers_on (by decide)) r
  have table : w'.store.keys = w.store.keys.edit [(r.id, some r)] := edited.table
  rw [id] at table
  refine ⟨w', run, edited.within, ?_⟩
  rw [table]
  refine ⟨.ensure ?_ fun j ne => Table.get?_edit_of_ne _ ne, hw.reported.edit fun j k' hk' => ?_⟩
  · rw [Table.get?_edit_self, same]
    rfl
  · obtain ⟨rfl, eq⟩ := Prod.mk.inj (List.mem_singleton.mp hk')
    obtain rfl := Option.some.inj eq
    exact shown

theorem indexKey (orderly : full.Orderly) (address publicKey : String) (observedAt : Timestamp) :
    Replays full fun w => ((Account.indexKey address publicKey observedAt).run.run w).2 := by
  refine looking fun a known => ?_
  cases part : a.keys.find? fun k => k.publicKey == publicKey with
  | none => exact nothing
  | some c =>
    have hc := List.mem_of_find?_eq_some part
    let k := AccountKey.ofChain address c observedAt
    refine of_keys (Touch.only k.id (.ensure k)) fun w hw => ?_
    have counted := World.Within.counted [.shelf .key] w
    have steady := hw.within counted (by decide) hw.reported
    have found : (Act.find AccountKey k.id).run.run w = (.ok (w.store.keys.get? k.id), w.counted) :=
      Act.find_of_answers (hw.answers_on (by decide : Kind.key ≠ .block)) rfl
    dsimp only
    rw [Attempt.run_bind_of_ok found]
    -- The stored key has nothing to take over, so it is written over itself.
    cases old : w.store.keys.get? k.id with
    | none =>
      obtain ⟨w', run, within, rest⟩ := upsert_ensures steady (k := k) (r := k) (by rw [World.counted_store, old]; rfl)
        (reported_ofChain known hc observedAt)
      dsimp only
      rw [run]
      exact ⟨counted.trans within, rest⟩
    | some stored =>
      obtain ⟨w', run, within, rest⟩ := upsert_ensures steady (k := k) (r := stored)
        (by rw [World.counted_store, old]; rfl) (hw.reported _ _ old)
      dsimp only
      have merged : k.merge stored = stored := by
        have own : k.id = (AccountKey.ofChain (Address.prefixed address) c observedAt).id := by rw [ofChain_prefixed]
        obtain ⟨earlier, rfl⟩ := reported_of_get? orderly (Chain.Node.require_eq_ok known) hw.reported hc (own ▸ old)
        rw [ofChain_prefixed]
        exact merge_ofChain address c observedAt earlier
      rw [merged, run]
      exact ⟨counted.trans within, rest⟩

/-- What indexing an account does to the records of the store. -/
def indexing (a : Chain.Account) (observedAt : Timestamp) : Store.Touches
  | .account => Touch.ofLog [((Indexed.Account.ofChain a).id, some (.ofChain a))]
  | .key => KeySync.touches (Address.prefixed a.address) a.keys observedAt
  | .contract => Touch.ofLog ((Account.contracts a).flatMap fun c => [(c.id, some c)])
  | _ => fun _ => .keep

theorem index (orderly : full.Orderly) (address : String) (observedAt : Timestamp) :
    Replays full fun w => ((Account.index address observedAt).run.run w).2 := by
  cases known : full.account address with
  | error e =>
    refine of_counted fun w hw => ?_
    unfold Account.index
    rw [Attempt.run_bind_of_error (known ▸ hw.look address)]
  | ok a =>
    have ha := Chain.Node.require_eq_ok known
    rw [← orderly.keyed.accounts _ a ha] at ha
    refine ⟨indexing a observedAt, fun w hw => ?_⟩
    have answers : ∀ kind ∈ [Kind.account, .key, .contract], w.Answers (Call.On kind) := by
      intro kind hk
      refine hw.answers_on ?_
      rintro rfl
      exact absurd hk (by decide)
    obtain ⟨w', run, indexes⟩ := Account.index_edits answers (hw.answers fun call hc => hc ▸ id)
      ((hw.account address).trans known) (hw.reported.fits orderly ha) observedAt
    simp only [run]
    have keys := KeySync.touched_edits orderly ha hw.reported observedAt
    refine ⟨hw.within indexes.within (by decide) ?_, fun kind => ?_⟩
    · rw [indexes.keys]
      refine hw.reported.edit fun id k hk => ?_
      obtain ⟨c, hc, -, rfl, same⟩ := (KeySync.mem_edits_iff orderly ha hw.reported observedAt).mp hk
      exact ⟨_, a, c, observedAt, ha, hc, rfl, Option.some.inj same⟩
    · cases kind with
      | account => exact (show w'.store.index .account = _ from indexes.accounts) ▸ .edit w.store.accounts _
      | key => exact (show w'.store.index .key = _ from indexes.keys) ▸ keys
      | contract => exact (show w'.store.index .contract = _ from indexes.contracts) ▸ .edit w.store.contracts _
      | block => exact .of_eq (Store.same_iff.mp (indexes.within.shelf .block (by decide)))
      | transaction => exact .of_eq (Store.same_iff.mp (indexes.within.shelf .transaction (by decide)))
      | event => exact .of_eq (Store.same_iff.mp (indexes.within.shelf .event (by decide)))
      | storageItem => exact .of_eq (Store.same_iff.mp (indexes.within.shelf .storageItem (by decide)))

theorem apply (orderly : full.Orderly) (observedAt : Timestamp) (m : Meaning) :
    Replays full fun w => ((m.apply observedAt).run.run w).2 := by
  cases m with
  | accountCreated address => exact index orderly address observedAt
  | keyAdded address publicKey => exact indexKey orderly address publicKey observedAt
  | keyRemoved address publicKey => exact deleteKey _
  | contractAdded address contract => exact indexContract address contract
  | contractUpdated address contract => exact indexContract address contract
  | contractRemoved address contract => exact deleteContract _
  | tokensWithdrawn source =>
    simp only [Meaning.apply]
    split
    · exact nothing
    · exact refresh _
  | tokensDeposited destination =>
    cases destination with
    | none => exact nothing
    | some address => exact refresh address
  | unrecognized type => exact nothing

/-- The result of an effect does not matter for the store. -/
theorem effect (orderly : full.Orderly) (setup : Setup) (observedAt : Timestamp) (e : Chain.Event) :
    Replays full fun w => (Piece.effect observedAt e).apply setup w := by
  cases hm : setup.classifier.classify e with
  | error problem =>
    have none (w : World) : (Piece.effect observedAt e).apply setup w = w := by
      show ((Meaning.dispatch setup.classifier observedAt e).run.run w).2 = w
      rw [Meaning.run_dispatch_of_error hm]
    simpa only [none] using nothing
  | ok m =>
    have same (w : World) : (Piece.effect observedAt e).apply setup w = ((m.apply observedAt).run.run w).2 := by
      show ((Meaning.dispatch setup.classifier observedAt e).run.run w).2 = _
      rw [Meaning.run_dispatch_of_ok hm]
    simpa only [same] using apply orderly observedAt m

/-- The pieces behind the block of a height replay. -/
theorem details (orderly : full.Orderly) (setup : Setup) (data : BlockData) :
    Replays full fun w => Piece.applyAll setup data.details w := by
  have all : ∀ l : List Piece, (∀ p ∈ l, Replays full fun w => p.apply setup w) →
      Replays full fun w => Piece.applyAll setup l w := by
    intro l
    induction l with
    | nil => exact fun _ => nothing
    | cons p l ih =>
      intro h
      exact (h p List.mem_cons_self).comp (ih fun q hq => h q (List.mem_cons_of_mem _ hq))
  refine all _ fun p hp => ?_
  rcases BlockData.mem_details hp with ⟨t, rfl⟩ | ⟨e, rfl⟩ | ⟨e, rfl⟩
  · exact transaction setup data.block t
  · exact event setup e
  · exact effect orderly setup data.block.timestamp e

end Replays

end ChainIndex
