import ChainIndex.Proofs.KeyWrites
import ChainIndex.Proofs.Renewals
import ChainIndex.Proofs.Slots

/-!
# What a failing call leaves behind

All effects but one write at most one record, so where they fail they leave the store as it was. Indexing an
account writes its record first and then its keys and contracts: a contract that cannot be written does not
count, and a key that cannot be written makes the work fail behind what was written. So where an account was
indexed with an error its record is there as soon as it could be written, every contract is there whose write did
not fail, the operations on its keys were made up to their writes that failed, and all else is as it was.
-/

set_option autoImplicit false

namespace ChainIndex

open Attempt (Leads)
open Store (Shelved)
open Indexed (AccountKey keyId contractId)

/-! ### Work that fails as a whole -/

/-- Where the work ends with an error it leaves the store as it was. -/
def Act.AllOrNothing {α : Type} (work : Act α) : Prop :=
  ∀ w e w', work.run.run w = (.error e, w') → w'.store = w.store

namespace Act.AllOrNothing
variable {α β : Type}

theorem ok (a : α) : AllOrNothing (pure a) := by
  intro w e w' run
  cases run

theorem throw (e : Error) : AllOrNothing (MonadExcept.throw e : Act α) := by
  intro w _ w' run
  cases run
  rfl

theorem write {π : Type} [Shelved α π] (call : Call) (change : Table String α → Except Error (Table String α)) :
    AllOrNothing (Act.write call change) := by
  intro w e w' run
  rcases write_cases call change w with ⟨_, -, failed⟩ | ⟨-, ⟨_, -, refused⟩ | ⟨_, -, made⟩⟩
  · obtain ⟨-, rfl⟩ := Prod.mk.inj (failed.symm.trans run)
    rfl
  · obtain ⟨-, rfl⟩ := Prod.mk.inj (refused.symm.trans run)
    rfl
  · cases made.symm.trans run

/-- What is asked and read before the only write leaves the store alone. -/
theorem seq {x : Act α} {f : α → Act β} (quiet : Only [] x.run) (hf : ∀ a, AllOrNothing (f a)) :
    AllOrNothing (x >>= f) := by
  intro w e w' run
  have still := quiet.still (by simp) w
  rcases Attempt.run_bind_cases x f w with ⟨_, t, first, both⟩ | ⟨a, t, first, both⟩
  · obtain ⟨-, rfl⟩ := Prod.mk.inj (both.symm.trans run)
    exact (congrArg (fun r => r.2.store) first).symm.trans still
  · exact (hf a t e w' (both.symm.trans run)).trans ((congrArg (fun r => r.2.store) first).symm.trans still)

end Act.AllOrNothing

namespace Account

open Act (AllOrNothing)

theorem indexKey_allOrNothing (address publicKey : String) (observedAt : Timestamp) :
    AllOrNothing (indexKey address publicKey observedAt) := by
  rw [indexKey_eq]
  refine .seq (.ask _ _) fun account => ?_
  unfold storeKey
  split
  · exact .throw _
  · refine .seq (.read _ _) fun stored => ?_
    split
    · exact .write _ _
    · exact .write _ _

theorem indexContract_allOrNothing (address name : String) : AllOrNothing (indexContract address name) := by
  refine .seq (.ask _ _) fun account => ?_
  split
  · exact .throw _
  · exact .write _ _

theorem refresh_allOrNothing (address : String) : AllOrNothing (refresh address) := by
  refine .seq (.result (.ask _ _)) fun found => ?_
  split
  · exact .write _ _
  · split
    · exact .ok _
    · exact .throw _

end Account

/-- Every effect but the indexing of an account fails as a whole. -/
theorem Meaning.apply_allOrNothing (observedAt : Timestamp) {m : Meaning}
    (other : ∀ address, m ≠ accountCreated address) : Act.AllOrNothing (m.apply observedAt) := by
  cases m with
  | accountCreated address => exact absurd rfl (other address)
  | keyAdded address publicKey => exact Account.indexKey_allOrNothing _ _ _
  | keyRemoved address publicKey =>
    show Act.AllOrNothing (Act.delete AccountKey _)
    exact .write _ _
  | contractAdded address contract => exact Account.indexContract_allOrNothing _ _
  | contractUpdated address contract => exact Account.indexContract_allOrNothing _ _
  | contractRemoved address contract =>
    show Act.AllOrNothing (Act.delete Indexed.Contract _)
    exact .write _ _
  | tokensWithdrawn source =>
    simp only [apply]
    split
    · exact .ok _
    · exact Account.refresh_allOrNothing _
  | tokensDeposited destination =>
    cases destination with
    | none => exact .ok _
    | some address => exact Account.refresh_allOrNothing _
  | unrecognized type => exact .ok _

/-! ### Contracts -/

namespace Account

variable {account : Chain.Account} {observedAt : Timestamp}

theorem only_contracts (account : Chain.Account) :
    Only [.shelf .contract] (Attempt.forEach Act.upsert (contracts account)) :=
  .forEach fun c _ => Only.upsert c (by decide)

/-- Contracts are written one by one: each stands under its id unless its write fails, and nothing else is changed. -/
theorem contracts_written (account : Chain.Account) (w : World) :
    let v := ((Attempt.forEach Act.upsert (contracts account)).run w).2
    (∀ id, v.store.contracts.get? id = w.store.contracts.get? id ∨
        ∃ c ∈ contracts account, c.id = id ∧ v.store.contracts.get? id = some c) ∧
      ∀ c ∈ contracts account, v.store.contracts.get? c.id = some c ∨ w.Failed (· = .upsert .contract c.id) v := by
  let before (v : World) : Prop := w.Within [.shelf .contract] v ∧
    ∀ id, v.store.contracts.get? id = w.store.contracts.get? id ∨
      ∃ c ∈ contracts account, c.id = id ∧ v.store.contracts.get? id = some c
  let goal (c : Indexed.Contract) (v : World) : Prop :=
    c ∈ contracts account → v.store.contracts.get? c.id = some c ∨ w.Failed (· = .upsert .contract c.id) v
  have within (v : World) (c : Indexed.Contract) : v.Within [.shelf .contract] ((Act.upsert c).run.run v).2 :=
    Only.upsert c (List.mem_singleton_self _) v
  have reached := Attempt.forEach_reaches Act.upsert before goal (l := contracts account) (s := w) ?_ ?_
    ⟨.refl _ w, fun _ => .inl rfl⟩
  · exact ⟨reached.1.2, fun c hc => reached.2.2 c hc hc⟩
  · intro c hc v ⟨hv, each⟩
    have after := hv.trans (within v c)
    rcases Act.upsert_cases c v with ⟨e, outage, run⟩ | run
    · rw [run] at after ⊢
      exact ⟨⟨after, each⟩, fun _ => .inr (.within hv (.of_outage outage rfl) (.refl [] _))⟩
    · rw [run] at after ⊢
      refine ⟨⟨after, fun id => ?_⟩, fun _ => .inl (Table.get?_insert_self _ _ _)⟩
      by_cases same : id = c.id
      · exact .inr ⟨c, hc, same.symm, same ▸ Table.get?_insert_self _ _ _⟩
      · refine (each id).imp (Table.get?_insert_of_ne _ same _).trans ?_
        rintro ⟨b, hb, place, found⟩
        exact ⟨b, hb, place, (Table.get?_insert_of_ne _ same _).trans found⟩
  · intro c hc b v hv reached hb
    rcases reached hb with stored | failed
    · rcases Act.upsert_cases c v with ⟨e, -, run⟩ | run
      · rw [run]
        exact .inl stored
      · rw [run]
        refine .inl ?_
        by_cases same : b.id = c.id
        · obtain rfl := eq_of_contract_id hb hc same
          exact Table.get?_insert_self _ _ _
        · exact (Table.get?_insert_of_ne _ same _).trans stored
    · exact .inr (failed.within (.refl [] w) (within v c))

/-! ### Accounts -/

/-- An account that was found was written from `w` to `w'`: its record, and every contract whose write does not fail.
Of keys and contracts only its own were written. -/
structure Recorded (account : Chain.Account) (w w' : World) : Prop where
  record : w'.store.accounts = w.store.accounts.insert (Address.prefixed account.address) (.ofChain account)
  contracts : ∀ name code, account.contracts.get? name = some code →
    w'.store.contracts.get? (contractId account.address name) =
        some { id := contractId account.address name, address := Address.prefixed account.address, name, code } ∨
      w'.store.contracts.get? (contractId account.address name) =
          w.store.contracts.get? (contractId account.address name) ∧
        w.Failed (· = .upsert .contract (contractId account.address name)) w'
  otherContracts : ∀ id, (∀ name code, account.contracts.get? name = some code → id ≠ contractId account.address name) →
    w'.store.contracts.get? id = w.store.contracts.get? id
  /-- Under other ids than those of the keys that are reported or stored for the account. -/
  otherKeys : ∀ id, (∀ k ∈ account.keys, id ≠ keyId account.address k.publicKey) →
    (∀ place s, w.store.keys.get? place = some s → s.address = Address.prefixed account.address → id ≠ s.id) →
      w'.store.keys.get? id = w.store.keys.get? id
  others : w.Within Only.effects w'

/-- An account is not found or its record cannot be written, or its keys and contracts are written behind its
record. -/
theorem index_cases (address : String) (observedAt : Timestamp) (w : World) :
    (∃ e w', (index address observedAt).run.run w = (.error e, w') ∧ w'.store = w.store) ∨
      ∃ account v, w.node.account address = .ok account ∧ w.Within [.shelf .account] v ∧
        v.store.accounts = w.store.accounts.insert (Address.prefixed account.address) (.ofChain account) ∧
        (index address observedAt).run.run w = (storeParts observedAt account).run.run v := by
  rw [index_eq, look]
  rcases Act.ask_cases (.account address) (Chain.Node.account address) w with ⟨e, -, failed⟩ | ⟨-, found⟩
  · exact .inl ⟨e, _, Attempt.run_bind_of_error failed, rfl⟩
  cases known : w.node.account address with
  | error e =>
    rw [known] at found
    exact .inl ⟨e, _, Attempt.run_bind_of_error found, rfl⟩
  | ok account =>
    rw [known] at found
    rw [Attempt.run_bind_of_ok found, store_eq]
    have within : w.counted.Within [.shelf .account] _ :=
      Only.upsert (Indexed.Account.ofChain account) (List.mem_singleton_self _) w.counted
    rcases Act.upsert_cases (Indexed.Account.ofChain account) w.counted with ⟨e, -, failed⟩ | made
    · exact .inl ⟨e, _, Attempt.run_bind_of_error failed, rfl⟩
    · rw [made] at within
      exact .inr ⟨account, _, rfl, (World.Within.counted _ w).trans within, rfl, Attempt.run_bind_of_ok made⟩

/-- The contracts of an account are written behind its keys, and then the work ends well exactly if all
operations on its keys were made. -/
theorem storeParts_cases {synced : Except Error Diff.Report} {v u : World}
    (run : (KeySync.sync (Address.prefixed account.address) account observedAt).run.run v = (synced, u)) :
    (∃ e, (storeParts observedAt account).run.run v =
          (.error e, ((Attempt.forEach Act.upsert (contracts account)).run u).2) ∧
        ∀ report, synced = .ok report → report.failed ≠ 0) ∨
      ∃ report, (storeParts observedAt account).run.run v =
          (.ok (), ((Attempt.forEach Act.upsert (contracts account)).run u).2) ∧
        synced = .ok report ∧ report.failed = 0 := by
  have result : (KeySync.sync (Address.prefixed account.address) account observedAt).result.run.run v =
      (.ok synced, u) := by
    rw [Attempt.run_result, run]
  unfold storeParts
  rw [Attempt.run_bind_of_ok result, Attempt.run_bind_of_ok (Attempt.run_lift _ _)]
  cases synced with
  | error e => exact .inl ⟨e, rfl, nofun⟩
  | ok report =>
    dsimp only
    by_cases all : report.failed = 0
    · rw [if_pos all]
      exact .inr ⟨report, rfl, rfl, all⟩
    · rw [if_neg all]
      exact .inl ⟨_, rfl, fun _ same => Except.ok.inj same ▸ all⟩

/-- An account is recorded when its contracts are written behind its record and its keys, whatever became of these. -/
theorem recorded (observedAt : Timestamp) {w v u : World} (before : w.Within [.shelf .account] v)
    (record : v.store.accounts = w.store.accounts.insert (Address.prefixed account.address) (.ofChain account))
    (synced : v.Within [.shelf .key] u)
    (keys : KeySync.Unread v u ∨ ∃ broken, KeySync.Reconciled account observedAt broken v u) :
    Recorded account w ((Attempt.forEach Act.upsert (contracts account)).run u).2 := by
  have after := only_contracts account u
  have within : w.Within [.shelf .account, .shelf .key] u :=
    (before.mono (by decide)).trans (synced.mono (by decide))
  obtain ⟨each, all⟩ := contracts_written account u
  have unwritten : u.store.contracts = w.store.contracts := within.shelf .contract (by decide)
  have part {name code : String} (found : account.contracts.get? name = some code) :
      Indexed.Contract.ofChain? account name =
        some { id := contractId account.address name, address := Address.prefixed account.address, name, code } := by
    rw [Indexed.Contract.ofChain?, found]
    rfl
  constructor
  · have accounts : u.store.accounts = v.store.accounts := synced.shelf .account (by decide)
    have kept : ((Attempt.forEach Act.upsert (contracts account)).run u).2.store.accounts = u.store.accounts :=
      after.shelf .account (by decide)
    exact kept.trans (accounts.trans record)
  · intro name code found
    have hc := mem_contracts.mpr ⟨name, part found⟩
    rcases each (contractId account.address name) with same | ⟨c, hc', ids, written⟩
    · refine (all _ hc).imp_right fun failed => ⟨same.trans (by rw [unwritten]), ?_⟩
      exact failed.within within (.refl [] _)
    · rw [eq_of_contract_id hc' hc ids] at written
      exact .inl written
  · intro id others
    rcases each id with same | ⟨c, hc, rfl, -⟩
    · rw [same, unwritten]
    · obtain ⟨name, made⟩ := mem_contracts.mp hc
      obtain ⟨code, found, rfl⟩ := Option.map_eq_some_iff.mp made
      exact absurd rfl (others name code found)
  · intro id reported stored
    have kept : ((Attempt.forEach Act.upsert (contracts account)).run u).2.store.keys = u.store.keys :=
      after.shelf .key (by decide)
    have same : v.store.keys = w.store.keys := before.shelf .key (by decide)
    rw [kept, ← same]
    rcases keys with ⟨-, unread⟩ | ⟨broken, n, m, -, -, made⟩
    · rw [unread]
    · refine made.get?_of_ne fun operation ho write hw => ?_
      rintro rfl
      rcases KeySync.written_of_operation ho hw with ⟨k, hk, place⟩ | ⟨s, hs, place⟩
      · exact reported k hk (place.trans (keyId_prefixed _ _))
      · obtain ⟨⟨id, found⟩, own⟩ := KeySync.mem_storedKeys.mp hs
        exact stored id s (same ▸ found) own place
  · exact (within.mono (by decide)).trans (after.mono (by decide))

/-- What a synchronisation left is left as well when the record was written in front of it and the contracts behind. -/
theorem reconciled_within {w v u w' : World} {broken : Nat} (before : w.Within [.shelf .account] v)
    (after : u.Within [.shelf .contract] w') (made : KeySync.Reconciled account observedAt broken v u) :
    KeySync.Reconciled account observedAt broken w w' := by
  have first : v.store.keys = w.store.keys := before.shelf .key (by decide)
  have last : w'.store.keys = u.store.keys := after.shelf .key (by decide)
  obtain ⟨n, m, from_v, to_u, made⟩ := made
  rw [first, before.outages, ← last] at made
  exact ⟨n, m, Nat.le_trans before.calls from_v, Nat.le_trans to_u after.calls, made⟩

/-- Indexing an account fails and leaves the store as it was, or it writes the record of the account behind which the
keys cannot be read or are reconciled, and then it fails unless all operations on them were made. -/
theorem index_left (address : String) (observedAt : Timestamp) (w : World) :
    (∃ e w', (index address observedAt).run.run w = (.error e, w') ∧ w'.store = w.store) ∨
      ∃ account w', w.node.account address = .ok account ∧ Recorded account w w' ∧
        ((∃ e, (index address observedAt).run.run w = (.error e, w') ∧ KeySync.Unread w w') ∨
          ∃ broken, KeySync.Reconciled account observedAt broken w w' ∧
            ((∃ e, (index address observedAt).run.run w = (.error e, w') ∧ broken ≠ 0) ∨
              (index address observedAt).run.run w = (.ok (), w') ∧ broken = 0)) := by
  rcases index_cases address observedAt w with failed | ⟨account, v, known, before, record, behind⟩
  · exact .inl failed
  have synced := Only.sync (Address.prefixed account.address) account observedAt v
  have after (u : World) := only_contracts account u
  rcases KeySync.sync_cases account observedAt v with ⟨e, u, run, unread⟩ | ⟨report, u, run, made⟩
  · rw [show (StateT.run _ v) = _ from run] at synced
    refine .inr ⟨account, _, known, recorded observedAt before record synced (.inl unread), .inl ?_⟩
    rcases storeParts_cases run with ⟨e', ends, -⟩ | ⟨report, -, impossible, -⟩
    · refine ⟨e', behind.trans ends, unread.1.within before (after u), ?_⟩
      have kept : ((Attempt.forEach Act.upsert (contracts account)).run u).2.store.keys = u.store.keys :=
        (after u).shelf .key (by decide)
      exact kept.trans (unread.2.trans (before.shelf .key (by decide)))
    · cases impossible
  · rw [show (StateT.run _ v) = _ from run] at synced
    have written := recorded observedAt before record synced (.inr ⟨_, made⟩)
    refine .inr ⟨account, _, known, written, .inr ⟨report.failed, ?_, ?_⟩⟩
    · exact reconciled_within before (after u) made
    · rcases storeParts_cases run with ⟨e', ends, broken⟩ | ⟨_, ends, same, all⟩
      · exact .inl ⟨e', behind.trans ends, broken report rfl⟩
      · obtain rfl := Except.ok.inj same
        exact .inr ⟨behind.trans ends, all⟩

/-- Where indexing an account fails behind its record, the keys could not be read or some operation on them broke off;
if every key stands under its own id, a call to the index of keys failed. -/
theorem index_failed {address : String} {w w' : World} {e : Error}
    (run : (index address observedAt).run.run w = (.error e, w')) :
    w'.store = w.store ∨ ∃ account, w.node.account address = .ok account ∧ Recorded account w w' ∧
      (KeySync.Unread w w' ∨ ∃ broken, broken ≠ 0 ∧ KeySync.Reconciled account observedAt broken w w') ∧
      ((w.store.keys.All fun id k => k.id = id) → w.Failed (Call.On .key) w') := by
  rcases index_left address observedAt w with ⟨e', u, failed, same⟩ |
    ⟨account, u, known, recorded, ⟨e', failed, unread⟩ | ⟨broken, made, ⟨e', failed, some⟩ | ⟨done, -⟩⟩⟩
  · obtain ⟨-, rfl⟩ := Prod.mk.inj (failed.symm.trans run)
    exact .inl same
  · obtain ⟨-, rfl⟩ := Prod.mk.inj (failed.symm.trans run)
    exact .inr ⟨account, known, recorded, .inl unread, fun _ => unread.1.mono fun _ same => same ▸ rfl⟩
  · obtain ⟨-, rfl⟩ := Prod.mk.inj (failed.symm.trans run)
    refine .inr ⟨account, known, recorded, .inr ⟨broken, some, made⟩, fun own => ?_⟩
    obtain ⟨n, m, first, last, made⟩ := made
    exact ((KeySync.fails_of_made own made).resolve_left some).within first last
  · cases done.symm.trans run

/-- Where indexing an account ends well all operations on its keys were made, and every key is there that is new. -/
theorem index_recorded {address : String} {w w' : World}
    (run : (index address observedAt).run.run w = (.ok (), w')) :
    ∃ account, w.node.account address = .ok account ∧ Recorded account w w' ∧
      KeySync.Reconciled account observedAt 0 w w' ∧
      ((account.keys.map (·.index)).Nodup → (account.keys.map (·.publicKey)).Nodup → ∀ k ∈ account.keys,
        (∀ id s, w.store.keys.get? id = some s → s.id ≠ keyId account.address k.publicKey) →
          ∃ r, w'.store.keys.get? (keyId account.address k.publicKey) = some r ∧
            KeySync.Shows (Address.prefixed account.address) k r) := by
  rcases index_left address observedAt w with ⟨e, u, failed, -⟩ |
    ⟨account, u, known, recorded, ⟨e, failed, -⟩ | ⟨_, made, ⟨e, failed, -⟩ | ⟨done, rfl⟩⟩⟩
  · cases failed.symm.trans run
  · cases failed.symm.trans run
  · cases failed.symm.trans run
  · obtain ⟨-, rfl⟩ := Prod.mk.inj (done.symm.trans run)
    refine ⟨account, known, recorded, made, fun indexes publicKeys k hk new => ?_⟩
    rw [← keyId_prefixed] at new ⊢
    obtain ⟨n, m, -, -, made⟩ := made
    exact KeySync.shows_of_made (Address.prefixed_prefixed _) indexes publicKeys made hk new

end Account

namespace Meaning

/-- A dispatch ends with the error of the classification or of the effect, or it has the effect. -/
theorem dispatch_cases (classifier : Classifier) (observedAt : Timestamp) (e : Chain.Event) (w : World) :
    (∃ error, (dispatch classifier observedAt e).run.run w = (.error error, w)) ∨
      ∃ m, classifier.classify e = .ok m ∧
        ((∃ error reported w', (m.apply observedAt).run.run w = (.error error, w') ∧
            (dispatch classifier observedAt e).run.run w = (.error reported, w')) ∨
          ∃ w', (m.apply observedAt).run.run w = (.ok (), w') ∧
            (dispatch classifier observedAt e).run.run w = (.ok m, w')) := by
  cases classified : classifier.classify e with
  | error error => exact .inl ⟨error, run_dispatch_of_error classified observedAt w⟩
  | ok m =>
    refine .inr ⟨m, rfl, ?_⟩
    rw [run_dispatch_of_ok classified]
    rcases run : (m.apply observedAt).run.run w with ⟨error | ⟨⟩, w'⟩
    · exact .inl ⟨error, _, w', rfl, rfl⟩
    · exact .inr ⟨w', rfl, rfl⟩

/-- Dispatching an event is all or nothing but for the parts of a new account. If it fails, the store is as it was,
unless the account of the event was found and its record written: then every contract is written whose write did not
fail, and its keys could not be read or not all of the operations that reconcile them were made in full. If it ends
well for a new account they all were, so that all keys are there that are new to the index. No other account, key or
contract is changed either way. -/
theorem dispatch_whole (classifier : Classifier) (observedAt : Timestamp) (e : Chain.Event) (w : World) :
    (∀ error w', (dispatch classifier observedAt e).run.run w = (.error error, w') →
      w'.store = w.store ∨
        ∃ address account, classifier.classify e = .ok (accountCreated address) ∧
          w.node.account address = .ok account ∧ Account.Recorded account w w' ∧
          (KeySync.Unread w w' ∨ ∃ broken, broken ≠ 0 ∧ KeySync.Reconciled account observedAt broken w w') ∧
          ((w.store.keys.All fun id k => k.id = id) → w.Failed (Call.On .key) w')) ∧
    ∀ address w', (dispatch classifier observedAt e).run.run w = (.ok (accountCreated address), w') →
      ∃ account, w.node.account address = .ok account ∧ Account.Recorded account w w' ∧
        KeySync.Reconciled account observedAt 0 w w' ∧
        ((account.keys.map (·.index)).Nodup → (account.keys.map (·.publicKey)).Nodup → ∀ k ∈ account.keys,
          (∀ id s, w.store.keys.get? id = some s → s.id ≠ keyId account.address k.publicKey) →
            ∃ r, w'.store.keys.get? (keyId account.address k.publicKey) = some r ∧
              KeySync.Shows (Address.prefixed account.address) k r) := by
  constructor
  · intro error w' run
    rcases dispatch_cases classifier observedAt e w with
      ⟨_, unclassified⟩ | ⟨m, classified, ⟨_, _, u, failed, reported⟩ | ⟨u, -, made⟩⟩
    · obtain ⟨-, rfl⟩ := Prod.mk.inj (unclassified.symm.trans run)
      exact .inl rfl
    · obtain ⟨-, rfl⟩ := Prod.mk.inj (reported.symm.trans run)
      by_cases creation : ∃ address, m = accountCreated address
      · obtain ⟨address, rfl⟩ := creation
        refine (Account.index_failed failed).imp_right ?_
        rintro ⟨account, known, left⟩
        exact ⟨address, account, classified, known, left⟩
      · exact .inl (apply_allOrNothing observedAt (fun address same => creation ⟨address, same⟩) w _ _ failed)
    · cases made.symm.trans run
  · intro address w' run
    rcases dispatch_cases classifier observedAt e w with
      ⟨_, unclassified⟩ | ⟨m, -, ⟨_, _, _, -, reported⟩ | ⟨u, applied, made⟩⟩
    · cases unclassified.symm.trans run
    · cases reported.symm.trans run
    · obtain ⟨same, rfl⟩ := Prod.mk.inj (made.symm.trans run)
      obtain rfl := Except.ok.inj same
      exact Account.index_recorded applied

/-! ### A new account -/

/-- The account `0x01` with the key `aa` and the contract `C`. -/
def newAccount : Chain.Account := { Account.holding [(0, "aa")] with contracts := .ofList [("C", "code")] }

/-- The chain has the account, nothing is indexed, and these calls fail. -/
def newAccountWorld (failing : Call → Bool) : World :=
  { World.start (Chain.Node.empty.putAccount newAccount) .empty .epoch with
    outages := ⟨fun _ call => if failing call then some (.storage "down") else none, fun _ => none⟩ }

/-- The index of keys cannot be read. -/
def keysDown : World := newAccountWorld (· = .findAll .key)

/-- The contract cannot be written. -/
def contractDown : World := newAccountWorld (· = .upsert .contract "0x01.C")

/-- What the creation of the account leads to. -/
def created (w : World) : Except Error Meaning × World :=
  (dispatch Setup.bare.classifier .epoch (.ofAccount "flow.AccountCreated" [])).run.run w

theorem created_keysDown : (created keysDown).1 = .error (.handler "account-created" "Storage error: down") := by
  decide +kernel

theorem created_contractDown : (created contractDown).1 = .ok (accountCreated "0x01") := by
  decide +kernel

theorem dispatch_whole_newAccount :
    (∃ account, Account.Recorded account keysDown (created keysDown).2 ∧
        (KeySync.Unread keysDown (created keysDown).2 ∨ ∃ broken, broken ≠ 0 ∧
          KeySync.Reconciled account .epoch broken keysDown (created keysDown).2) ∧
        keysDown.Failed (Call.On .key) (created keysDown).2) ∧
      ∃ account, Account.Recorded account contractDown (created contractDown).2 ∧
        KeySync.Reconciled account .epoch 0 contractDown (created contractDown).2 := by
  constructor
  · have run : created keysDown = (.error _, (created keysDown).2) := Prod.ext created_keysDown rfl
    have written : (created keysDown).2.store ≠ keysDown.store := by decide +kernel
    rcases (dispatch_whole Setup.bare.classifier .epoch _ keysDown).1 _ _ run with
      same | ⟨_, account, -, -, recorded, left, failed⟩
    · exact absurd same written
    · exact ⟨account, recorded, left, failed Table.all_empty⟩
  · have run : created contractDown = (.ok (accountCreated "0x01"), (created contractDown).2) :=
      Prod.ext created_contractDown rfl
    obtain ⟨account, -, recorded, made, -⟩ := (dispatch_whole Setup.bare.classifier .epoch _ contractDown).2 _ _ run
    exact ⟨account, recorded, made⟩

/-- The creation of an account that fails may leave its record, and one that ends well may leave out a contract. -/
theorem created_in_part :
    (∃ e, (created keysDown).1 = .error e) ∧ keysDown.store.accounts.get? "0x01" = none ∧
      (created keysDown).2.store.accounts.get? "0x01" = some (.ofChain newAccount) ∧
      (created contractDown).1 = .ok (accountCreated "0x01") ∧ newAccount.contracts.get? "C" = some "code" ∧
      (created contractDown).2.store.contracts.get? "0x01.C" = none := by
  refine ⟨⟨_, created_keysDown⟩, by decide, by decide +kernel, created_contractDown, by decide, by decide +kernel⟩

end Meaning

end ChainIndex
