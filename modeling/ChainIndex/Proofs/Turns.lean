import ChainIndex.Proofs.Renewals

/-!
# What effects turn

In an even world every look at an account ends alike and no call to an index fails. There each effect of an
event ends with a result of its own, whatever the store holds, and turns the records that it renews and
those that it erases (`Turns.apply`). So does the work on a list of events (`Turns.forEach`).
-/

set_option autoImplicit false

namespace ChainIndex

open Indexed (AccountKey keyId contractId)

/-! ### Even worlds -/

/-- The look at an account on a node where some looks fail. -/
def Chain.Node.found (node : Chain.Node) (fails : String → Option Error) (address : String) :
    Except Error Chain.Account :=
  match fails address with
  | some e => .error e
  | none => node.account address

/-- A world on this node where the calls to the indexes of accounts, keys and contracts are answered, a look
at an account fails always or never, and the stored keys agree with the node. -/
structure World.Even (node : Chain.Node) (fails : String → Option Error) (w : World) : Prop where
  chain : w.node = node
  indexes : ∀ kind ∈ [Kind.account, .key, .contract], w.Answers (Call.On kind)
  looks : ∀ n, w.calls ≤ n → ∀ address, w.outages.call n (.account address) = fails address
  keys : KeySync.Agrees node w.store.keys

namespace World.Even
variable {node : Chain.Node} {fails : String → Option Error} {w w' : World} {parts : List Part}

theorem within (even : w.Even node fails) (hw : w.Within parts w') (still : .node ∉ parts)
    (keys : KeySync.Agrees node w'.store.keys) : w'.Even node fails where
  chain := (hw.node still).trans even.chain
  indexes kind hk := hw.answers (even.indexes kind hk)
  looks n hn address := by
    rw [hw.outages]
    exact even.looks n (Nat.le_trans hw.calls hn) address
  keys := keys

theorem counted (even : w.Even node fails) : w.counted.Even node fails :=
  even.within (.counted [] w) List.not_mem_nil even.keys

theorem look (even : w.Even node fails) (address : String) :
    (Account.look address).run.run w = (node.found fails address, w.counted) := by
  have call := even.looks w.calls (Nat.le_refl _) address
  unfold Chain.Node.found
  cases h : fails address with
  | some e => exact Act.attempt_of_outage (call.trans h)
  | none =>
    rw [← even.chain]
    exact Act.attempt_of_answer (call.trans h)

end World.Even

theorem Chain.Node.found_eq_ok {node : Chain.Node} {fails : String → Option Error} {address : String}
    {a : Chain.Account} (h : node.found fails address = .ok a) : fails address = none ∧ node.account address = .ok a := by
  unfold found at h
  split at h
  · cases h
  · next none => exact ⟨none, h⟩

/-- An account that is found is that of its prefixed address. -/
theorem Chain.Node.Orderly.get?_of_found {node : Chain.Node} (orderly : node.Orderly) {fails : String → Option Error}
    {address : String} {a : Chain.Account} (h : node.found fails address = .ok a) :
    Address.prefixed a.address = Address.prefixed address ∧
      node.accounts.get? (Address.prefixed a.address) = some a := by
  have ha := Chain.Node.require_eq_ok (found_eq_ok h).2
  have own := orderly.keyed.accounts _ a ha
  exact ⟨own, own ▸ ha⟩

/-! ### The effects -/

/-- A key that is reported is written as it is renewed. -/
theorem Account.run_storeKey {w : World} (answers : w.Answers (Call.On .key)) {a : Chain.Account} {publicKey : String}
    {c : Chain.AccountKey} (part : (a.keys.find? fun k => k.publicKey == publicKey) = some c) (address : String)
    (observedAt : Timestamp) :
    (storeKey address publicKey observedAt a).run.run w =
      (Act.upsert (KeySync.renewal address c observedAt (w.store.keys.get? (keyId address c.publicKey)))).run.run
        w.counted := by
  have found : (Act.find AccountKey (keyId address c.publicKey)).run.run w =
      (.ok (w.store.keys.get? (keyId address c.publicKey)), w.counted) := Act.find_of_answers answers rfl
  unfold storeKey
  rw [part]
  refine (Attempt.run_bind_of_ok found).trans ?_
  cases w.store.keys.get? (keyId address c.publicKey) <;> rfl

/-- In every even world the work ends with this result, and in the even world behind it these records are
renewed and those erased. -/
def Turns (node : Chain.Node) (fails : String → Option Error) (observedAt : Timestamp) (renews erases : Reach)
    {α : Type} (work : Act α) (verdict : Except Error α) : Prop :=
  ∀ w : World, w.Even node fails → ∃ w', work.run.run w = (verdict, w') ∧ w'.Even node fails ∧
    w.store.Turned (node.renew observedAt) renews erases w'.store

namespace Turns
variable {node : Chain.Node} {fails : String → Option Error} {observedAt : Timestamp} {renews erases : Reach} {α : Type}

theorem nothing {work : Act α} {verdict : Except Error α}
    (h : ∀ w : World, w.Even node fails → work.run.run w = (verdict, w) ∨ work.run.run w = (verdict, w.counted)) :
    Turns node fails observedAt .none .none work verdict := by
  intro w even
  rcases h w even with run | run
  · exact ⟨w, run, even, .refl w.store⟩
  · exact ⟨w.counted, run, even.counted, .refl w.store⟩

theorem pure (a : α) : Turns node fails observedAt .none .none (Pure.pure a) (.ok a) := nothing fun _ _ => .inl rfl

theorem throw (e : Error) : Turns node fails observedAt .none .none (MonadExcept.throw e : Act α) (.error e) :=
  nothing fun _ _ => .inl rfl

/-- Work that writes one record renews it, if it becomes what it is renewed to. -/
theorem renewing {work : Act Unit} {kind : Kind} {i : String}
    (h : ∀ w : World, w.Even node fails → ∃ v w', work.run.run w = (.ok (), w') ∧ w.Within [.shelf kind] w' ∧
      w'.store.index kind = (w.store.index kind).edit [(i, v)] ∧
      v = node.renew observedAt kind i ((w.store.index kind).get? i) ∧ KeySync.Agrees node w'.store.keys) :
    Turns node fails observedAt (.one kind i) .none work (.ok ()) := by
  intro w even
  obtain ⟨v, w', run, within, table, renewed, keys⟩ := h w even
  exact ⟨w', run, even.within within (by simp) keys,
    .write within table (fun _ _ => or_iff_left not_false) (fun _ => renewed) nofun⟩

theorem erasing {work : Act Unit} {kind : Kind} {i : String}
    (h : ∀ w : World, w.Even node fails → ∃ w', work.run.run w = (.ok (), w') ∧ w.Within [.shelf kind] w' ∧
      w'.store.index kind = (w.store.index kind).edit [(i, none)] ∧ KeySync.Agrees node w'.store.keys) :
    Turns node fails observedAt .none (.one kind i) work (.ok ()) := by
  intro w even
  obtain ⟨w', run, within, table, keys⟩ := h w even
  exact ⟨w', run, even.within within (by simp) keys,
    .write within table (fun _ _ => or_iff_right not_false) nofun fun _ => rfl⟩

/-- Work behind a look at an account. -/
theorem looking (orderly : node.Orderly) {address : String} {reach : Chain.Account → Reach} {f : Chain.Account → Act α}
    (h : ∀ a, Address.prefixed a.address = Address.prefixed address →
      node.accounts.get? (Address.prefixed a.address) = some a →
      ∃ verdict, Turns node fails observedAt (reach a) .none (f a) verdict) :
    ∃ verdict, Turns node fails observedAt (.ofOk (node.found fails address) reach) .none
      (Account.look address >>= f) verdict := by
  cases found : node.found fails address with
  | error e =>
    refine ⟨.error e, nothing fun w even => .inr ?_⟩
    exact Attempt.run_bind_of_error (found ▸ even.look address)
  | ok a =>
    obtain ⟨own, ha⟩ := orderly.get?_of_found found
    obtain ⟨verdict, turns⟩ := h a own ha
    refine ⟨verdict, fun w even => ?_⟩
    obtain ⟨w', run, rest⟩ := turns w.counted even.counted
    exact ⟨w', (Attempt.run_bind_of_ok (found ▸ even.look address)).trans run, rest⟩

section
variable {a : Chain.Account} (ha : node.accounts.get? (Address.prefixed a.address) = some a)
include ha

theorem upsertAccount :
    Turns node fails observedAt (.account a) .none (Act.upsert (Indexed.Account.ofChain a)) (.ok ()) := by
  refine renewing fun w even => ?_
  obtain ⟨w', run, edited⟩ := Act.upsert_edits (even.indexes .account (by decide)) (Indexed.Account.ofChain a)
  have keys : w'.store.keys = w.store.keys := edited.within.shelf .key (by decide)
  exact ⟨_, w', run, edited.within, edited.table, (Chain.Node.renewedAccount_of_get? ha _).symm, keys ▸ even.keys⟩

theorem storeContract (orderly : node.Orderly) (address name : String) :
    ∃ verdict, Turns node fails observedAt (.contract name a) .none
      (match Indexed.Contract.ofChain? a name with
        | none => MonadExcept.throw (.notFound ("contract " ++ name ++ " on account " ++ address))
        | some contract => Act.upsert contract : Act Unit) verdict := by
  unfold Reach.contract
  cases part : Indexed.Contract.ofChain? a name with
  | none => exact ⟨_, Turns.throw _⟩
  | some c =>
    have id := Indexed.Contract.id_of_ofChain? part
    refine ⟨.ok (), renewing fun w even => ?_⟩
    obtain ⟨w', run, edited⟩ := Act.upsert_edits (even.indexes .contract (by decide)) c
    have keys : w'.store.keys = w.store.keys := edited.within.shelf .key (by decide)
    refine ⟨some c, w', run, edited.within, id ▸ edited.table, ?_, keys ▸ even.keys⟩
    exact ((node.renewedContract_of_get? ha orderly name _).trans part).symm

theorem storeKey (orderly : node.Orderly) {address : String}
    (own : Address.prefixed a.address = Address.prefixed address) (publicKey : String) :
    ∃ verdict, Turns node fails observedAt (.key publicKey a) .none (Account.storeKey address publicKey observedAt a)
      verdict := by
  have id : keyId a.address publicKey = keyId address publicKey := by rw [keyId, own, keyId]
  rw [own] at ha
  unfold Reach.key
  rw [id]
  cases part : a.keys.find? fun k => k.publicKey == publicKey with
  | none =>
    unfold Account.storeKey
    rw [part]
    exact ⟨_, Turns.throw _⟩
  | some c =>
    have hc := List.mem_of_find?_eq_some part
    obtain rfl := KeySync.publicKey_of_find? part
    refine ⟨.ok (), renewing fun w even => ?_⟩
    have answers := even.indexes .key (by decide)
    let old := w.store.keys.get? (keyId address c.publicKey)
    have shows := KeySync.shows_renewal (Address.prefixed_prefixed address) c observedAt old
    rw [KeySync.renewal_prefixed] at shows
    obtain ⟨w', run, edited⟩ := Act.upsert_edits ((World.Within.counted [] w).answers answers)
      (KeySync.renewal address c observedAt old)
    have table : w'.store.keys = w.store.keys.edit [((KeySync.renewal address c observedAt old).id, some _)] :=
      edited.table
    rw [shows.id, keyId_prefixed] at table
    refine ⟨_, w', (Account.run_storeKey answers part address observedAt).trans run,
      (World.Within.counted _ w).trans edited.within, table, ?_, ?_⟩
    · refine Eq.trans ?_ (Chain.Node.renewedKey_of_get? observedAt ha orderly c.publicKey old).symm
      unfold KeySync.renewed
      rw [part]
      exact congrArg some (KeySync.renewal_prefixed address c observedAt old).symm
    · rw [table]
      refine even.keys.edit orderly fun i k hk => ?_
      obtain ⟨rfl, same⟩ := Prod.mk.inj (List.mem_singleton.mp hk)
      obtain rfl := Option.some.inj same
      exact ⟨_, a, c, ha, hc, (keyId_prefixed _ _).symm, shows⟩

/-- Indexing an account renews everything about it. -/
theorem whole (orderly : node.Orderly) {w w' : World} (agrees : KeySync.Agrees node w.store.keys)
    (indexes : Account.Indexes a observedAt w w') :
    w.store.Turned (node.renew observedAt) (.whole a) .none w'.store where
  renewed kind id h := by
    obtain ⟨rfl, rfl⟩ | ⟨publicKey, rfl, rfl⟩ | ⟨name, h⟩ := h
    · show w'.store.accounts.get? _ = node.renewedAccount _ (w.store.accounts.get? _)
      rw [indexes.accounts, Chain.Node.renewedAccount_of_get? ha]
      exact Table.get?_edit_self _ _ _
    · show w'.store.keys.get? _ = node.renewedKey observedAt _ (w.store.keys.get? _)
      rw [indexes.keys, Chain.Node.renewedKey_of_get? observedAt ha orderly, ← keyId_prefixed]
      exact agrees.get?_edits orderly ha observedAt publicKey
    · obtain ⟨c, part, rfl, rfl⟩ := Reach.contract_iff.mp h
      show w'.store.contracts.get? _ = node.renewedContract _ (w.store.contracts.get? _)
      rw [indexes.contracts, Chain.Node.renewedContract_of_get? ha orderly, part,
        ← Indexed.Contract.id_of_ofChain? part]
      exact Account.get?_contract_edits (Account.mem_contracts.mpr ⟨name, part⟩) _
  erased := nofun
  kept kind id other _ := by
    cases kind with
    | account =>
      show w'.store.accounts.get? id = w.store.accounts.get? id
      rw [indexes.accounts]
      exact Table.get?_edit_of_ne _ fun same => other (.inl ⟨rfl, same⟩)
    | key =>
      show w'.store.keys.get? id = w.store.keys.get? id
      rw [indexes.keys]
      refine agrees.get?_edits_of_ne orderly ha observedAt fun publicKey same => ?_
      refine other (.inr (.inl ⟨publicKey, rfl, ?_⟩))
      rw [same, keyId_prefixed]
    | contract =>
      show w'.store.contracts.get? id = w.store.contracts.get? id
      rw [indexes.contracts]
      refine Table.get?_edit_of_not_mem fun v h => ?_
      obtain ⟨name, c, part, rfl, -⟩ := Account.mem_contract_edits.mp h
      exact other (.inr (.inr ⟨name, Reach.contract_iff.mpr ⟨c, part, rfl, rfl⟩⟩))
    | _ => exact congrArg (Table.get? · id) (Store.same_iff.mp (indexes.within.shelf _ (by decide)))

end

theorem index (orderly : node.Orderly) (address : String) :
    ∃ verdict, Turns node fails observedAt (.ofOk (node.found fails address) .whole) .none
      (Account.index address observedAt) verdict := by
  cases found : node.found fails address with
  | error e =>
    refine ⟨.error e, nothing fun w even => .inr ?_⟩
    exact Attempt.run_bind_of_error (found ▸ even.look address)
  | ok a =>
    obtain ⟨own, ha⟩ := orderly.get?_of_found found
    obtain ⟨answered, known⟩ := Chain.Node.found_eq_ok found
    refine ⟨.ok (), fun w even => ?_⟩
    have reach : w.Answers (· = .account address) := by
      rintro n hn _ rfl
      rw [even.looks n hn, answered]
    have suits := even.keys.suits orderly ha
    obtain ⟨w', run, indexes⟩ := Account.indexes_of_suits even.indexes reach (even.chain ▸ known) suits observedAt
    have keys : KeySync.Agrees node w'.store.keys := by
      rw [indexes.keys]
      refine even.keys.edit orderly fun id k hk => ?_
      have own := Address.prefixed_prefixed a.address
      obtain ⟨c, hc, rfl, yields⟩ := KeySync.mem_edits_bound own suits hk
      exact ⟨_, a, c, ha, hc, rfl, yields.shows own⟩
    exact ⟨w', run, even.within indexes.within (by decide) keys, whole ha orderly even.keys indexes⟩

theorem refresh (orderly : node.Orderly) (address : String) :
    ∃ verdict, Turns node fails observedAt (.ofOk (node.found fails address) .account) .none
      (Account.refresh address) verdict := by
  cases found : node.found fails address with
  | error e =>
    refine ⟨if e.isNotFound then .ok () else .error e, nothing fun w even => .inr ?_⟩
    exact Account.run_refresh_of_error (found ▸ even.look address)
  | ok a =>
    obtain ⟨own, ha⟩ := orderly.get?_of_found found
    refine ⟨.ok (), fun w even => ?_⟩
    obtain ⟨w', run, rest⟩ := upsertAccount ha w.counted even.counted
    exact ⟨w', (Account.run_refresh_of_ok (found ▸ even.look address)).trans run, rest⟩

theorem deleteContract (id : String) :
    Turns node fails observedAt .none (.one .contract id) (Act.delete Indexed.Contract id) (.ok ()) := by
  refine erasing fun w even => ?_
  obtain ⟨w', run, edited⟩ := Act.delete_edits Indexed.Contract (even.indexes .contract (by decide)) id
  have keys : w'.store.keys = w.store.keys := edited.within.shelf .key (by decide)
  exact ⟨w', run, edited.within, edited.table, keys ▸ even.keys⟩

theorem deleteKey (orderly : node.Orderly) (id : String) :
    Turns node fails observedAt .none (.one .key id) (Act.delete AccountKey id) (.ok ()) := by
  refine erasing fun w even => ?_
  obtain ⟨w', run, edited⟩ := Act.delete_edits AccountKey (even.indexes .key (by decide)) id
  have table : w'.store.keys = w.store.keys.edit [(id, none)] := edited.table
  exact ⟨w', run, edited.within, table, table ▸ even.keys.edit orderly (by simp)⟩

theorem apply (orderly : node.Orderly) (m : Meaning) :
    ∃ verdict, Turns node fails observedAt (m.renews (node.found fails)) m.erases (m.apply observedAt) verdict := by
  cases m with
  | accountCreated address => exact index orderly address
  | keyAdded address publicKey => exact looking orderly fun a own ha => storeKey ha orderly own publicKey
  | keyRemoved address publicKey => exact ⟨.ok (), deleteKey orderly _⟩
  | contractAdded address contract => exact looking orderly fun a _ ha => storeContract ha orderly address contract
  | contractUpdated address contract => exact looking orderly fun a _ ha => storeContract ha orderly address contract
  | contractRemoved address contract => exact ⟨.ok (), deleteContract _⟩
  | tokensWithdrawn source =>
    simp only [Meaning.renews, Meaning.apply]
    split
    · exact ⟨.ok (), pure ()⟩
    · exact refresh orderly _
  | tokensDeposited destination =>
    cases destination with
    | none => exact ⟨.ok (), pure ()⟩
    | some address => exact refresh orderly address
  | unrecognized type => exact ⟨.ok (), pure ()⟩

theorem dispatch (orderly : node.Orderly) (classifier : Classifier) (e : Chain.Event) :
    ∃ verdict, Turns node fails observedAt (.ofOk (classifier.classify e) (Meaning.renews (node.found fails)))
      (.ofOk (classifier.classify e) Meaning.erases) (Meaning.dispatch classifier observedAt e) verdict := by
  cases classified : classifier.classify e with
  | error problem =>
    exact ⟨.error problem, nothing fun w _ => .inl (Meaning.run_dispatch_of_error classified observedAt w)⟩
  | ok m =>
    have applies : ∃ verdict, Turns node fails observedAt _ _ (m.apply observedAt) verdict := apply orderly m
    obtain ⟨verdict, turns⟩ := applies
    refine ⟨match verdict with
      | .ok () => .ok m
      | .error e => .error (.handler m.name e.message), fun w even => ?_⟩
    obtain ⟨w', run, rest⟩ := turns w even
    refine ⟨w', ?_, rest⟩
    rw [Meaning.run_dispatch_of_ok classified, run]
    rcases verdict with e | ⟨⟩ <;> rfl

/-- Work on a list renews what any item renews and erases what any item erases. -/
theorem forEach {β : Type} {work : β → Act α} {renews erases : β → Reach} {verdict : β → Except Error α}
    (turns : ∀ b, Turns node fails observedAt (renews b) (erases b) (work b) (verdict b)) {l : List β}
    (apart : ∀ b ∈ l, ∀ b' ∈ l, ∀ kind id, renews b kind id → ¬ erases b' kind id) {w : World}
    (even : w.Even node fails) :
    ∃ w', (Attempt.forEach work l).run w = (l.map verdict, w') ∧
      w.store.Turned (node.renew observedAt) (.any renews l) (.any erases l) w'.store := by
  induction l generalizing w with
  | nil => exact ⟨w, rfl, .refl w.store⟩
  | cons b l ih =>
    obtain ⟨v, first, even, turned⟩ := turns b w even
    have apartRest : ∀ c ∈ l, ∀ c' ∈ l, ∀ kind id, renews c kind id → ¬ erases c' kind id :=
      fun c hc c' hc' => apart c (List.mem_cons_of_mem b hc) c' (List.mem_cons_of_mem b hc')
    obtain ⟨w', rest, turned'⟩ := ih apartRest even
    refine ⟨w', by rw [Attempt.forEach_cons, first, rest, List.map_cons], ?_⟩
    refine turned.trans (node.renew_renew observedAt) turned' ?_ ?_
    · intro kind id renewed erased
      obtain ⟨c, hc, erased⟩ := Reach.any_iff.mp erased
      exact apart b List.mem_cons_self c (List.mem_cons_of_mem b hc) kind id renewed erased
    · intro kind id renewed
      obtain ⟨c, hc, renewed⟩ := Reach.any_iff.mp renewed
      exact apart c (List.mem_cons_of_mem b hc) b List.mem_cons_self kind id renewed

end Turns

end ChainIndex
