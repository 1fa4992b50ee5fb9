import ChainIndex.Proofs.Additions
import ChainIndex.Proofs.Belongings
import ChainIndex.Proofs.Bootstrapping

/-!
# Bootstrapping after failures

A tick without a failing call indexes a well-known account with its keys and its contracts, unless the
account is on record without them: the record is written first, and an account that is on record is not
looked at again. Where earlier ticks failed before the record was written, or wrote everything, nothing is
missing afterwards.
-/

set_option autoImplicit false

namespace ChainIndex

open Attempt (Leads)
open Indexed (keyId)
open KeySync (Shows)

/-- The account is on record with its keys and its contracts, all as the chain has them. -/
structure World.Complete (address : String) (account : Chain.Account) (w : World) : Prop where
  record : w.store.accounts.get? address = some (.ofChain account)
  keys : ∀ c ∈ account.keys, ∃ r, w.store.keys.get? (keyId address c.publicKey) = some r ∧ Shows address c r
  contracts : ∀ c ∈ Account.contracts account, w.store.contracts.get? c.id = some c

theorem World.Complete.of_store {address : String} {account : Chain.Account} {w w' : World}
    (complete : w.Complete address account) (store : w'.store = w.store) : w'.Complete address account :=
  ⟨store ▸ complete.record, store ▸ complete.keys, store ▸ complete.contracts⟩

/-- The account is not on record without its keys and its contracts. -/
def World.Whole (address : String) (account : Chain.Account) (w : World) : Prop :=
  ∀ r, w.store.accounts.get? address = some r → w.Complete address account

theorem World.Whole.of_store {address : String} {account : Chain.Account} {w w' : World}
    (whole : w.Whole address account) (store : w'.store = w.store) : w'.Whole address account :=
  fun r on => (whole r (store ▸ on)).of_store store

variable {n : Chain.Node} {address : String} {account : Chain.Account}

theorem World.Spares.complete {w w' : World} (h : w.Spares address account w') (complete : w.Complete address account) :
    w'.Complete address account where
  record := by
    obtain ⟨r, found, rfl⟩ := h.record ⟨_, complete.record, rfl⟩
    exact found
  keys c hc := h.keys c hc (complete.keys c hc)
  contracts c hc := by
    obtain ⟨r, found, rfl⟩ := h.contracts c hc ⟨_, complete.contracts c hc, rfl⟩
    exact found

section
variable (hosts : n.Hosts address account)
include hosts

/-! ### Indexing the account -/

theorem Chain.Node.Hosts.known {w : World} (sound : w.Sound n address account) :
    w.node.account address = .ok account := by
  rw [Chain.Node.account, hosts.prefixed, sound.accounts, hosts.found]
  rfl

/-- The stored keys of the account are at their places, so that no edit is in the way of another one. -/
theorem World.Sound.compatible {w : World} (sound : w.Sound n address account) :
    KeySync.Compatible address account.keys w.store.keys := by
  intro before k after split s hs publicKey place
  obtain ⟨c, hc, shows⟩ := (sound.belongs hs).own (KeySync.mem_storedKeys.mp hs).2
  have hk : k ∈ account.keys := by simp [split]
  obtain rfl := List.inj_on_of_nodup_map hosts.publicKeys hc hk (shows.publicKey.symm.trans publicKey)
  exact absurd shows.index place

/-- Where no call fails the account is indexed with its keys and its contracts. -/
theorem Account.index_completes {w : World} (sound : w.Sound n address account) (answers : w.Answers fun _ => True)
    (observedAt : Timestamp) : ((Account.index address observedAt).run.run w).2.Complete address account := by
  have all (which : Call → Prop) : w.Answers which := fun m hm call _ => answers m hm call trivial
  have suits := sound.suits hosts
  rw [← hosts.account_address] at suits
  obtain ⟨w', run, indexes⟩ := indexes_of_suits (fun _ _ => all _) (all _) (hosts.known sound) suits observedAt
  rw [run]
  refine ⟨?_, fun c hc => ?_, fun c hc => ?_⟩
  · rw [indexes.accounts, ← hosts.account_address]
    exact Table.get?_edit_self _ _ _
  · obtain ⟨before, after, split⟩ := List.append_of_mem hc
    have passes := sound.compatible hosts before c after split
    obtain ⟨r, found, yields⟩ := KeySync.yielded_of_passes hosts.prefixed (sound.suits hosts) split passes
    rw [indexes.keys, hosts.account_address]
    exact ⟨r, found, yields.shows hosts.prefixed⟩
  · rw [indexes.contracts]
    exact get?_contract_edits hc _

/-! ### Bootstrapping -/

namespace WellKnown
variable {w : World}

theorem ensure_tends {kept : Prop} (other : String) :
    Leads (World.Tends n address account kept) (ensure other).run := by
  intro w
  rcases ensure_cases other w with ⟨e, -, run⟩ | ⟨r, -, run⟩ | ⟨-, run⟩
  · rw [run]
    exact .counted w
  · rw [run]
    exact .counted w
  · rw [run]
    exact trans_of (World.Tends n address account kept) (.counted w) (World.Tends.index hosts other w.clock w.counted)

/-- Where another account is indexed the account stays on or off the record as it was. -/
theorem ensure_elsewhere (sound : w.Sound n address account) {other : String}
    (apart : Address.prefixed other ≠ address) :
    ((ensure other).run.run w).2.store.accounts.get? address = w.store.accounts.get? address := by
  rcases ensure_cases other w with ⟨e, -, run⟩ | ⟨r, -, run⟩ | ⟨-, run⟩
  · rw [run]
    rfl
  · rw [run]
    rfl
  · rw [run, Account.index_eq]
    rcases Account.look_cases other w.counted with ⟨e, failed⟩ | ⟨b, hb, looked⟩
    · rw [Attempt.run_bind_of_error failed]
      rfl
    · rw [Attempt.run_bind_of_ok looked, Account.store_eq]
      have own : (Indexed.Account.ofChain b).id = Address.prefixed other :=
        hosts.other_address ((congrArg (Table.get? · _) sound.accounts).symm.trans hb)
      let stays (v v' : World) : Prop := v'.store.accounts.get? address = v.store.accounts.get? address
      have elsewhere : address ≠ (Indexed.Account.ofChain b).id := fun same => apart (own.symm.trans same.symm)
      have preorder : IsPreorder World stays := { refl := fun _ => rfl, trans := fun _ _ _ h h' => h'.trans h }
      have written : Leads stays (Act.upsert (Indexed.Account.ofChain b)).run :=
        Act.leads_upsert (r := stays) (fun _ => rfl) fun v => Table.get?_insert_of_ne _ elsewhere _
      have parts : Leads stays (Account.storeParts w.clock b).run := fun v =>
        congrArg (Table.get? · address) ((Only.storeParts w.clock b v).shelf .account (by decide))
      exact Leads.seq written (fun _ => parts) w.counted.counted

/-- If the account was not on record in part, it is complete once its turn has come. -/
theorem ensure_completes (sound : w.Sound n address account) (answers : w.Answers fun _ => True)
    (whole : w.Whole address account) : ((ensure address).run.run w).2.Complete address account := by
  rcases ensure_cases address w with ⟨e, ⟨call, wrong⟩, -⟩ | ⟨r, on, run⟩ | ⟨-, run⟩
  · rw [answers w.calls (Nat.le_refl _) call trivial] at wrong
    cases wrong
  · rw [run]
    have complete := whole r on
    exact ⟨complete.record, complete.keys, complete.contracts⟩
  · rw [run]
    have counted : w.Tends n address account True w.counted := .counted w
    exact Account.index_completes hosts (counted sound).1 ((World.Within.counted [] w).answers answers) w.clock

theorem run_completes (member : address ∈ Address.wellKnown) (sound : w.Sound n address account)
    (answers : w.Answers fun _ => True) (whole : w.Whole address account) :
    (run.run w).2.Sound n address account ∧ (run.run w).2.Complete address account := by
  let inv (v : World) : Prop := v.Sound n address account ∧ v.Answers (fun _ => True) ∧ v.Whole address account
  let goal (other : String) (v : World) : Prop := other = address → v.Complete address account
  have step : ∀ other ∈ Address.wellKnown, ∀ v, inv v →
      inv ((ensure other).run.run v).2 ∧ goal other ((ensure other).run.run v).2 := by
    rintro other member v ⟨sound, answers, whole⟩
    have tends : v.Tends n address account True _ := ensure_tends hosts other v
    refine ⟨⟨(tends sound).1, (Only.ensure other v).answers answers, ?_⟩, ?_⟩
    · by_cases own : other = address
      · subst own
        exact fun _ _ => ensure_completes hosts sound answers whole
      · intro r hr
        rw [ensure_elsewhere hosts sound (by rwa [prefixed_of_mem member])] at hr
        exact ((tends sound).2 trivial).complete (whole r hr)
    · rintro rfl
      exact ensure_completes hosts sound answers whole
  have stays : ∀ other ∈ Address.wellKnown, ∀ b v, inv v → goal b v → goal b ((ensure other).run.run v).2 := by
    intro other _ b v ⟨sound, _⟩ reached same
    have tends : v.Tends n address account True _ := ensure_tends hosts other v
    exact ((tends sound).2 trivial).complete (reached same)
  rw [run_snd]
  have reaches := Attempt.forEach_reaches ensure inv goal step stays ⟨sound, answers, whole⟩
  exact ⟨reaches.1.1, reaches.2.2 address member rfl⟩

end WellKnown

end

/-! ### Heights -/

/-- No event of the data removes a key or a contract of the account. -/
def BlockData.Spares (setup : Setup) (address : String) (account : Chain.Account) (data : BlockData) : Prop :=
  ∀ e ∈ data.events, ∀ m, setup.classifier.classify e = .ok m → m.Spares address account

/-- The effects of a height are those of its events. -/
theorem BlockData.mem_events_of_effect {setup : Setup} {data : BlockData} {recorded : Bool} {observedAt : Timestamp}
    {e : Chain.Event} (h : .effect observedAt e ∈ data.pieces setup recorded) : e ∈ data.events := by
  have others : Piece.effect observedAt e ∉ data.spawns := by simp [spawns]
  simp only [pieces, details, List.mem_cons, List.mem_append, List.mem_map, reduceCtorEq, and_false, exists_false,
    false_or] at h
  rcases h with ⟨e', member, same⟩ | h
  · injection same with _ same
    exact same ▸ member
  · split at h
    · exact absurd h others
    · cases h

section
variable {setup : Setup} (scans : Tick.ScansStorageOnly setup) (hosts : n.Hosts address account)
include scans hosts

theorem Piece.tends (p : Piece) (w : World) (spared : ∀ observedAt e, p = .effect observedAt e →
      ∀ m, setup.classifier.classify e = .ok m → m.Spares address account) :
    w.Tends n address account True (p.apply setup w) := by
  have within := p.within scans w
  cases p with
  | effect observedAt e => exact World.Tends.dispatch hosts observedAt (fun _ => spared observedAt e rfl) w
  | block | transaction | event | scan | spawn => exact .of_within within (by simp [parts]) (by simp [parts])

theorem Piece.applyAll_tends {pieces : List Piece} (w : World) (spared : ∀ observedAt e, .effect observedAt e ∈ pieces →
      ∀ m, setup.classifier.classify e = .ok m → m.Spares address account) :
    w.Tends n address account True (applyAll setup pieces w) := by
  induction pieces generalizing w with
  | nil => exact refl_of _ w
  | cons p pieces ih =>
    have first := p.tends scans hosts w fun t e same => spared t e (same ▸ List.mem_cons_self)
    exact trans_of _ first (ih _ fun t e member => spared t e (List.mem_cons_of_mem _ member))

namespace Tick
variable {w : World} (answers : w.Answers fun _ => True)
include answers

/-- Where no call fails a height that was processed leaves the account on record if none of its events
removes a key or a contract of it. One that could not be processed does so anyway: it was not fetched. -/
theorem processHeight_tends (height : UInt64)
    (spared : ∀ counts, ((processHeight setup height).run.run w).1 = .ok counts →
      ∀ data, w.node.dataAt height = .ok data → data.Spares setup address account) :
    w.Tends n address account True ((processHeight setup height).run.run w).2 := by
  have still : w.Within [] ((BlockData.fetch height).run.run w).2 := Only.fetch height w
  rcases fetched : (BlockData.fetch height).run.run w with ⟨e | data, u⟩
  · rw [fetched] at still
    rw [processHeight_of_unfetched fetched]
    exact .of_within still (by simp) (by simp)
  · rw [fetched] at still
    obtain ⟨counts, run⟩ := processHeight_pieces setup fetched
    obtain ⟨v, recorded, -⟩ := Recording.recordBlock_of_answers (still.answers answers) data.block
    rw [recorded] at run
    have spares := spared counts (congrArg Prod.fst run) data (BlockData.fetch_ok fetched).1
    have asked : w.Tends n address account True u := .of_within still (by simp) (by simp)
    have applied : u.Tends n address account True (Piece.applyAll setup (data.pieces setup true) u) :=
      Piece.applyAll_tends scans hosts u fun t e effect => spares e (BlockData.mem_events_of_effect effect)
    rw [run]
    exact trans_of (World.Tends n address account True) asked applied

theorem climb_tends (count : Nat) (height : UInt64)
    (spared : ∀ h ∈ ((climb setup count height).run w).1.processed,
      ∀ data, w.node.dataAt h = .ok data → data.Spares setup address account) :
    w.Tends n address account True ((climb setup count height).run w).2 := by
  induction count generalizing height w with
  | zero => exact refl_of _ w
  | succ count ih =>
    have first := processHeight_tends scans hosts answers height
    have within := only_processHeight scans height w
    rcases run : (processHeight setup height).run.run w with ⟨e | counts, v⟩
    · rw [run] at first
      rw [climb_of_error run]
      exact first nofun
    · rw [run] at first within
      rw [climb_of_ok run] at spared ⊢
      have here := first fun _ _ => spared height List.mem_cons_self
      refine trans_of (World.Tends n address account True) here ?_
      refine ih (within.answers answers) (height + 1) fun h processed => ?_
      rw [within.node (by decide)]
      exact spared h (List.mem_cons_of_mem _ processed)

end Tick

end

/-! ### Ticks -/

/-- Whatever calls fail in a tick, what is on record of the account stays as the node has it. -/
theorem TickCall.tends {setup : Setup} (scans : Tick.ScansStorageOnly setup) (hosts : n.Hosts address account)
    {α : Type} {work : StateM World α} (call : TickCall setup α work) :
    Leads (World.Tends n address account False) work := by
  have quiet {α : Type} {work : StateM World α} (only : Only TickCall.recording work) :
      Leads (World.Tends n address account False) work := fun w => .of_within (only w) (by decide) (by decide)
  have spawn (id : String) : Leads (World.Tends n address account False) (Watch.spawn id) := fun w =>
    .of_within (Only.spawn id w) (by decide) (by decide)
  exact call.confined scans quiet (fun observedAt _ => .dispatch hosts observedAt False.elim) (.index hosts) spawn

/-- Worlds of an indexer that had no account and no key on record at first. Between two ticks anything may
change but the accounts of the node and those on record with their keys: the blocks of the node, the
outages, the watchers, the other indexes. -/
inductive Ticked (setup : Setup) (n : Chain.Node) : World → Prop where
  | start {w : World} (node : w.node.accounts = n.accounts) (accounts : w.store.accounts = .empty)
      (keys : w.store.keys = .empty) : Ticked setup n w
  | between {v w : World} (ticked : Ticked setup n v) (node : w.node.accounts = v.node.accounts)
      (accounts : w.store.accounts = v.store.accounts) (keys : w.store.keys = v.store.keys) : Ticked setup n w
  | tick {v : World} (ticked : Ticked setup n v) : Ticked setup n ((Tick.run setup).run.run v).2

namespace Ticked
variable {setup : Setup} {w : World}

theorem sound (scans : Tick.ScansStorageOnly setup) (hosts : n.Hosts address account) (ticked : Ticked setup n w) :
    w.Sound n address account := by
  induction ticked with
  | start node accounts keys =>
    refine ⟨node, fun r on => ?_, fun id k stored => ?_⟩
    · rw [accounts] at on
      cases on
    · rw [keys] at stored
      cases stored
  | between _ node accounts keys ih => exact ⟨node.trans ih.accounts, accounts ▸ ih.record, keys ▸ ih.keys⟩
  | tick _ ih => exact ((TickCall.tick setup).leads (TickCall.tends scans hosts) _ ih).1

/-- After a tick without a failing call a well-known account of the node is on record with all its keys and
all its contracts, whatever calls of the ticks before it failed, if it was not on record without them
before the tick and no event of the heights that the tick processed removes one of them. -/
theorem completes (ticked : Ticked setup n w) (scans : Tick.ScansStorageOnly setup)
    (wanted : setup.config.bootstraps = true) (hosts : n.Hosts address account)
    (member : address ∈ Address.wellKnown) (answers : w.Answers fun _ => True)
    (reachable : w.node.reachable = true) {report : TickReport} {w' : World}
    (run : (Tick.run setup).run.run w = (.ok report, w'))
    (spared : ∀ height ∈ report.processed, ∀ data, w.node.dataAt height = .ok data → data.Spares setup address account)
    (whole : w.Whole address account) : w'.Complete address account := by
  have booted {u v : World} {bootstrapped : Nat} (asked : w.Within [.phase] u)
      (boot : (Tick.bootstrap setup).run u = (bootstrapped, v)) :
      v.Sound n address account ∧ v.Complete address account := by
    have sound := ((World.Tends.of_within asked (by simp) (by simp) : w.Tends n address account True u)
      (ticked.sound scans hosts)).1
    have completes := WellKnown.run_completes hosts member sound (asked.answers answers)
      (whole.of_store (asked.still (by simp)))
    rw [Tick.bootstrap, if_pos wanted] at boot
    rw [boot] at completes
    exact completes
  have ends := Tick.run_ends setup w
  rw [run] at ends
  cases ends with
  | offline off => cases off.symm.trans reachable
  | unbounded wrong asked boot => exact (booted asked boot).2.of_store rfl
  | @climbed u v bootstrapped head range known asked boot next =>
    have before := Tick.bootstrap_within asked boot
    obtain ⟨sound, complete⟩ := booted asked boot
    rw [← before.node (by decide)] at spared
    have kept := (Tick.climb_tends scans hosts (before.answers answers) range.count range.next spared sound).2 trivial
    exact (kept.complete complete).of_store rfl

/-! ### Two ticks -/

/-- The service account with a key and a contract. -/
def serviceAccount : Chain.Account :=
  { Account.holding [(0, "aa")] with
    address := "0x0000000000000001"
    contracts := .ofList [("Fees", "pub contract Fees {}")] }

/-- A chain of one block with the service account, and calls that fail. -/
def disturbed (failing : Call → Bool) : World :=
  { World.start ((Chain.Node.empty.putBlock (.bare "a" 0 [])).putAccount serviceAccount) .empty .epoch with
    outages := ⟨fun _ call => if failing call then some (.gateway "down") else none, fun _ => none⟩ }

/-- The world behind a first tick with failing calls, where calls fail no more. -/
def recovered (failing : Call → Bool) : World :=
  { ((Tick.run .bare).run.run (disturbed failing)).2 with outages := .none }

theorem disturbed_hosts (failing : Call → Bool) :
    (disturbed failing).node.Hosts "0x0000000000000001" serviceAccount :=
  Chain.Node.Orderly.hosts
    { keyed := (Chain.Node.keyed_empty.change (.block _)).change (.account _)
      dotless := Table.all_empty.insert (by decide)
      indexes := Table.all_empty.insert (by decide)
      publicKeys := Table.all_empty.insert (by decide) } rfl

theorem ticked_recovered (failing : Call → Bool) : Ticked .bare (disturbed failing).node (recovered failing) := by
  have start : Ticked .bare (disturbed failing).node (disturbed failing) := .start rfl rfl rfl
  exact start.tick.between rfl rfl rfl

def secondTick (failing : Call → Bool) : Except Abort TickReport × World :=
  (Tick.run .bare).run.run (recovered failing)

/-- If the account cannot be looked up at first, and no block written, it is complete after a second tick,
which processes the block. -/
theorem completes_recovered :
    let failing : Call → Bool := fun call => call = .account "0x0000000000000001" || call = .create .block "a"
    (secondTick failing).1 = .ok { TickReport.idle with processed := [0], bootstrapped := 1 } ∧
      (secondTick failing).2.Complete "0x0000000000000001" serviceAccount := by
  intro failing
  have report : (secondTick failing).1 = .ok { TickReport.idle with processed := [0], bootstrapped := 1 } := by
    decide +kernel
  have run : (Tick.run .bare).run.run (recovered failing) = ((secondTick failing).1, (secondTick failing).2) :=
    (Prod.eta _).symm
  have off : (recovered failing).store.accounts.get? "0x0000000000000001" = none := by decide +kernel
  have events : ((recovered failing).node.dataAt 0).toOption.map (·.events) = some [] := by decide +kernel
  have spared : ∀ height ∈ [0], ∀ data, (recovered failing).node.dataAt height = .ok data →
      data.Spares Setup.bare "0x0000000000000001" serviceAccount := by
    intro height processed data fetched e he
    obtain rfl := List.mem_singleton.mp processed
    rw [fetched] at events
    have none : data.events = [] := Option.some.inj events
    rw [none] at he
    cases he
  rw [report] at run
  refine ⟨report, (ticked_recovered failing).completes Setup.bare_scans rfl (disturbed_hosts failing) (by decide)
    (fun _ _ _ _ => rfl) (by decide +kernel) run spared fun r on => ?_⟩
  cases off.symm.trans on

/-- If the keys cannot be read at first the account is on record without them, and a second tick, in which no
call fails and no event is processed, leaves it so. -/
theorem incomplete_recovered :
    let failing : Call → Bool := fun call => call = .findAll .key
    Setup.bare.config.bootstraps = true ∧ Ticked .bare (disturbed failing).node (recovered failing) ∧
      (disturbed failing).node.Hosts "0x0000000000000001" serviceAccount ∧ "0x0000000000000001" ∈ Address.wellKnown ∧
      (recovered failing).outages = .none ∧ (recovered failing).node.reachable = true ∧
      (secondTick failing).1 = .ok TickReport.idle ∧
      ¬ (secondTick failing).2.Complete "0x0000000000000001" serviceAccount := by
  intro failing
  refine ⟨rfl, ticked_recovered failing, disturbed_hosts failing, by decide, rfl, by decide +kernel, by decide +kernel,
    ?_⟩
  intro complete
  have none : (secondTick failing).2.store.keys.get? (keyId "0x0000000000000001" "aa") = none := by decide +kernel
  obtain ⟨r, stored, -⟩ := complete.keys _ List.mem_cons_self
  cases none.symm.trans stored

end Ticked

end ChainIndex
