import ChainIndex.Effect
import ChainIndex.Proofs.Diff
import ChainIndex.Proofs.Records

/-!
# The calls of effects

Which calls an effect of an event is put together from: it looks at an account of the node, reads the
index of keys, and writes records of accounts, keys and contracts, all of them canonical. What holds of
these calls holds of every effect. The keys that are written after a look at an account are those of the
account that was found, merged at most with a stored one.

The runs of a refresh and of a dispatch are told by the runs of their parts (`Account.run_refresh_of_ok`,
`Meaning.run_dispatch_of_ok`), for what depends on the world that an effect starts from.
-/

set_option autoImplicit false

namespace ChainIndex

open Attempt (Uses)

/-- A call of an effect that writes only such keys. -/
inductive EffectCall (writes : Indexed.AccountKey → Prop) : (α : Type) → StateM World α → Prop
  | look (address : String) : EffectCall writes _ (Account.look address).run
  | keys : EffectCall writes _ (Act.findAll Indexed.AccountKey).run
  | findKey (id : String) : EffectCall writes _ (Act.find Indexed.AccountKey id).run
  | upsertAccount (a : Chain.Account) : EffectCall writes _ (Act.upsert (Indexed.Account.ofChain a)).run
  | upsertKey {k : Indexed.AccountKey} (hk : writes k) : EffectCall writes _ (Act.upsert k).run
  | updateKey {k : Indexed.AccountKey} (hk : writes k) : EffectCall writes _ (Act.update Indexed.AccountKey k.id k).run
  | deleteKey (id : String) : EffectCall writes _ (Act.delete Indexed.AccountKey id).run
  | upsertContract {c : Indexed.Contract} (hc : c.Canonical c.id) : EffectCall writes _ (Act.upsert c).run
  | deleteContract (id : String) : EffectCall writes _ (Act.delete Indexed.Contract id).run

theorem EffectCall.mono {writes more : Indexed.AccountKey → Prop} (h : ∀ k, writes k → more k) {α : Type}
    {work : StateM World α} (call : EffectCall writes α work) : EffectCall more α work := by
  cases call with
  | look address => exact .look address
  | keys => exact .keys
  | findKey id => exact .findKey id
  | upsertAccount a => exact .upsertAccount a
  | upsertKey hk => exact .upsertKey (h _ hk)
  | updateKey hk => exact .updateKey (h _ hk)
  | deleteKey id => exact .deleteKey id
  | upsertContract hc => exact .upsertContract hc
  | deleteContract id => exact .deleteContract id

namespace Account

open Act

/-- Writes an account that was found. -/
def store (observedAt : Timestamp) (account : Chain.Account) : Act Unit := do
  let address := Address.prefixed account.address
  upsert (Indexed.Account.ofChain account)
  let keys ← (KeySync.sync address account observedAt).result
  let _ ← Attempt.forEach upsert (contracts account)
  match keys with
  | .error e => throw e
  | .ok report =>
    if report.failed = 0 then return
    else throw (.other (Decimal.text report.failed ++ " key operations failed for " ++ address))

/-- Writes the keys and the contracts of an account that was found. -/
def storeParts (observedAt : Timestamp) (account : Chain.Account) : Act Unit := do
  let address := Address.prefixed account.address
  let keys ← (KeySync.sync address account observedAt).result
  let _ ← Attempt.forEach upsert (contracts account)
  match keys with
  | .error e => throw e
  | .ok report =>
    if report.failed = 0 then return
    else throw (.other (Decimal.text report.failed ++ " key operations failed for " ++ address))

theorem store_eq (observedAt : Timestamp) (account : Chain.Account) :
    store observedAt account = upsert (Indexed.Account.ofChain account) >>= fun _ => storeParts observedAt account := rfl

theorem index_eq (address : String) (observedAt : Timestamp) :
    index address observedAt = look address >>= store observedAt := rfl

/-- Writes one key of an account that was found. -/
def storeKey (address publicKey : String) (observedAt : Timestamp) (account : Chain.Account) : Act Unit := do
  match account.keys.find? fun k => k.publicKey == publicKey with
  | none => throw (.notFound ("key " ++ publicKey ++ " on account " ++ address))
  | some reported =>
    let key := Indexed.AccountKey.ofChain address reported observedAt
    match ← find Indexed.AccountKey key.id with
    | some stored => upsert (key.merge stored)
    | none => upsert key

theorem indexKey_eq (address publicKey : String) (observedAt : Timestamp) :
    indexKey address publicKey observedAt = look address >>= storeKey address publicKey observedAt := rfl

section
variable {address : String} {w w' : World}

theorem run_refresh_of_ok {a : Chain.Account} (looked : (look address).run.run w = (.ok a, w')) :
    (refresh address).run.run w = (upsert (Indexed.Account.ofChain a)).run.run w' := by
  have found := Attempt.run_result (look address) w
  rw [looked] at found
  unfold refresh
  rw [Attempt.run_bind_of_ok found]

/-- A refresh ends where the look at the account failed, and fails unless there is no such account. -/
theorem run_refresh_of_error {e : Error} (failed : (look address).run.run w = (.error e, w')) :
    (refresh address).run.run w = (if e.isNotFound then .ok () else .error e, w') := by
  have found := Attempt.run_result (look address) w
  rw [failed] at found
  unfold refresh
  rw [Attempt.run_bind_of_ok found]
  dsimp only
  split <;> rfl

end

end Account

namespace Meaning
variable {classifier : Classifier} {e : Chain.Event}

theorem run_dispatch_of_error {problem : Error} (h : classifier.classify e = .error problem) (observedAt : Timestamp)
    (w : World) : (dispatch classifier observedAt e).run.run w = (.error problem, w) := by
  unfold dispatch
  rw [h]
  rfl

/-- The dispatch of a classified event ends where its effect does. -/
theorem run_dispatch_of_ok {m : Meaning} (h : classifier.classify e = .ok m) (observedAt : Timestamp) (w : World) :
    (dispatch classifier observedAt e).run.run w =
      (match ((m.apply observedAt).run.run w).1 with
        | .ok () => .ok m
        | .error problem => .error (.handler m.name problem.message), ((m.apply observedAt).run.run w).2) := by
  have classified : (ExceptT.mk (pure (.ok m)) : Act Meaning).run.run w = (.ok m, w) := rfl
  unfold dispatch
  rw [h, Attempt.run_bind_of_ok classified, Attempt.run_bind_of_ok (Attempt.run_result _ w)]
  rcases (m.apply observedAt).run.run w with ⟨problem | ⟨⟩, w'⟩ <;> rfl

end Meaning

section
variable {kinds : (α : Type) → StateM World α → Prop}

/-- A key is updated, or it is written when the one in its place has been deleted. -/
theorem KeySync.uses_replace {stored : List Indexed.AccountKey} {k : Indexed.AccountKey}
    (updates : Uses kinds (Act.update Indexed.AccountKey k.id k).run)
    (deletes : ∀ previous, idAt? stored k.index = some previous → previous ≠ k.id →
      Uses kinds (Act.delete Indexed.AccountKey previous).run)
    (writes : Uses kinds (Act.upsert k).run) : Uses kinds (KeySync.replace stored k).run := by
  unfold KeySync.replace
  split
  · next previous place =>
    split
    · exact updates
    · next moved => exact .seq (deletes previous place moved) fun _ => writes
  · exact updates

theorem Account.uses_storeParts {observedAt : Timestamp} {account : Chain.Account}
    (keys : Uses kinds (KeySync.sync (Address.prefixed account.address) account observedAt).run)
    (contracts : ∀ c ∈ Account.contracts account, Uses kinds (Act.upsert c).run) :
    Uses kinds (Account.storeParts observedAt account).run := by
  refine .seq (.result keys) fun synced => .seq (.lift (.forEach contracts)) fun _ => ?_
  split
  · exact .throw _
  · split
    · exact .ok _
    · exact .throw _

end

namespace Effects

/-- Work that is put together from calls of effects which write only such keys. -/
abbrev Made {α : Type} (writes : Indexed.AccountKey → Prop) (work : StateM World α) : Prop :=
  Uses (EffectCall writes) work

section
variable {writes : Indexed.AccountKey → Prop}

theorem replace (stored : List Indexed.AccountKey) {k : Indexed.AccountKey} (hk : writes k) :
    Made writes (KeySync.replace stored k).run :=
  KeySync.uses_replace (.piece (.updateKey hk)) (fun previous _ _ => .piece (.deleteKey previous))
    (.piece (.upsertKey hk))

variable {address : String} {account : Chain.Account} {observedAt : Timestamp}
  (merged : ∀ k stored, writes k → writes (k.merge stored))
include merged

theorem sync (reported : ∀ k ∈ account.keys, writes (.ofChain address k observedAt)) :
    Made writes (KeySync.sync address account observedAt).run := by
  have incoming {k : Indexed.AccountKey}
      (hk : k ∈ account.keys.map fun k => Indexed.AccountKey.ofChain address k observedAt) : writes k := by
    obtain ⟨b, hb, rfl⟩ := List.mem_map.mp hk
    exact reported b hb
  refine .seq (.seq (.piece .keys) fun _ => .ok _) fun stored => .lift (Diff.uses_apply ?_ ?_ ?_)
  · exact fun k hk => .piece (.upsertKey (incoming (Diff.mem_of_mem_create hk)))
  · intro k hk
    obtain ⟨b, hb, old, -, rfl⟩ := Diff.merged_of_mem_update hk
    exact replace stored (merged b old (incoming hb))
  · exact fun k _ => .piece (.deleteKey k.id)

theorem storeParts (reported : ∀ k ∈ account.keys, writes (.ofChain (Address.prefixed account.address) k observedAt)) :
    Made writes (Account.storeParts observedAt account).run := by
  refine Account.uses_storeParts (sync merged reported) fun c hc => ?_
  obtain ⟨name, -, found⟩ := List.mem_filterMap.mp hc
  exact .piece (.upsertContract (.ofChain found))

theorem store (reported : ∀ k ∈ account.keys, writes (.ofChain (Address.prefixed account.address) k observedAt)) :
    Made writes (Account.store observedAt account).run :=
  .seq (.piece (.upsertAccount account)) fun _ => storeParts merged reported

theorem storeKey (publicKey : String) (reported : ∀ k ∈ account.keys, writes (.ofChain address k observedAt)) :
    Made writes (Account.storeKey address publicKey observedAt account).run := by
  unfold Account.storeKey
  split
  · exact .throw _
  · next k found =>
    have key := reported k (List.mem_of_find?_eq_some found)
    refine .seq (.piece (.findKey _)) fun stored => ?_
    split
    · next old => exact .piece (.upsertKey (merged _ old key))
    · exact .piece (.upsertKey key)

end

/-! ### Effects that write no key -/

theorem indexContract (address name : String) :
    Made (fun _ => False) (Account.indexContract address name).run := by
  refine .seq (.piece (.look _)) fun account => ?_
  split
  · exact .throw _
  · next found => exact .piece (.upsertContract (.ofChain found))

theorem refresh (address : String) : Made (fun _ => False) (Account.refresh address).run := by
  refine .seq (.result (.piece (.look _))) fun found => ?_
  split
  · next account => exact .piece (.upsertAccount account)
  · split
    · exact .ok _
    · exact .throw _

section
variable {kinds : (α : Type) → StateM World α → Prop} {observedAt : Timestamp}

/-- Keys are written only where an account is indexed or one of its keys. -/
theorem effect (others : ∀ {α work}, EffectCall (fun _ => False) α work → kinds α work)
    (index : ∀ address, Uses kinds (Account.index address observedAt).run)
    (indexKey : ∀ address publicKey, Uses kinds (Account.indexKey address publicKey observedAt).run) (m : Meaning) :
    Uses kinds (m.apply observedAt).run := by
  have quiet {work : Act Unit} (made : Made (fun _ => False) work.run) : Uses kinds work.run :=
    made.expand fun call => .piece (others call)
  cases m with
  | accountCreated address => exact index address
  | keyAdded address publicKey => exact indexKey address publicKey
  | keyRemoved address publicKey => exact .piece (others (.deleteKey _))
  | contractAdded address contract => exact quiet (indexContract _ _)
  | contractUpdated address contract => exact quiet (indexContract _ _)
  | contractRemoved address contract => exact .piece (others (.deleteContract _))
  | tokensWithdrawn source =>
    simp only [Meaning.apply]
    split
    · exact .ok _
    · exact quiet (refresh _)
  | tokensDeposited destination =>
    cases destination with
    | none => exact .ok _
    | some address => exact quiet (refresh _)
  | unrecognized type => exact .ok _

theorem dispatched (effect : ∀ m : Meaning, Uses kinds (m.apply observedAt).run) (classifier : Classifier)
    (e : Chain.Event) : Uses kinds (Meaning.dispatch classifier observedAt e).run := by
  refine .seq (.pure _) fun m => .seq (.result (effect m)) fun done => ?_
  split
  · exact .ok _
  · exact .throw _

end

/-! ### Effects of whatever is found -/

theorem index (address : String) (observedAt : Timestamp) :
    Made Indexed.AccountKey.Named (Account.index address observedAt).run :=
  .seq (.piece (.look _)) fun _ => store (fun _ stored h => h.merge stored) fun k _ => .ofChain _ k observedAt

theorem indexKey (address publicKey : String) (observedAt : Timestamp) :
    Made Indexed.AccountKey.Named (Account.indexKey address publicKey observedAt).run :=
  .seq (.piece (.look _)) fun _ =>
    storeKey (fun _ stored h => h.merge stored) publicKey fun k _ => .ofChain _ k observedAt

theorem dispatch (classifier : Classifier) (observedAt : Timestamp) (e : Chain.Event) :
    Made Indexed.AccountKey.Named (Meaning.dispatch classifier observedAt e).run :=
  dispatched (effect (fun call => call.mono fun _ => False.elim) (index · observedAt) (indexKey · · observedAt))
    classifier e

end Effects

end ChainIndex
