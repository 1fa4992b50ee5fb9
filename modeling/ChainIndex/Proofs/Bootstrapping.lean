import ChainIndex.Proofs.Climb
import ChainIndex.Proofs.History
import ChainIndex.Proofs.Slots

/-!
# What bootstrapping does

A well-known account is indexed if no record of it is stored under its address. The record is the first
thing that is written of an account, and no record of an account ever goes. So once all well-known accounts
that the chain has are on record, bootstrapping them again does nothing.
-/

set_option autoImplicit false

namespace ChainIndex

open Attempt (Leads Uses)

/-! ### Records of accounts -/

/-- From `w` to `w'` no account goes off the record. -/
def World.KeepsAccounts (w w' : World) : Prop := w.store.accounts.Retains Indexed.Rewritten w'.store.accounts

namespace World.KeepsAccounts

instance : IsPreorder World World.KeepsAccounts where
  refl _ := refl_of (Table.Retains Indexed.Rewritten) _
  trans _ _ _ := trans_of (Table.Retains Indexed.Rewritten)

theorem get? {w w' : World} (h : w.KeepsAccounts w') {id : String} {a : Indexed.Account}
    (ha : w.store.accounts.get? id = some a) : ∃ b, w'.store.accounts.get? id = some b :=
  (h id a ha).imp fun _ => And.left

theorem of_only {parts : List Part} {α : Type} {work : StateM World α} (only : Only parts work)
    (accounts : Part.shelf .account ∉ parts) : Leads World.KeepsAccounts work := by
  intro w id a ha
  have same : (work.run w).2.store.accounts = w.store.accounts := (only w).shelf .account accounts
  exact ⟨a, same ▸ ha, trivial⟩

end World.KeepsAccounts

theorem EffectCall.keepsAccounts {writes : Indexed.AccountKey → Prop} {α : Type} {work : StateM World α}
    (call : EffectCall writes α work) : Leads World.KeepsAccounts work := by
  intro w
  have retained : w.Retains Eq (work.run w).2 := call.retains w
  exact retained.accounts

theorem TickCall.keepsAccounts {setup : Setup} (scans : Tick.ScansStorageOnly setup) {α : Type} {work : StateM World α}
    (call : TickCall setup α work) : Leads World.KeepsAccounts work :=
  call.confined scans (fun only => World.KeepsAccounts.of_only only (by decide))
    (fun observedAt e => (Effects.dispatch _ observedAt e).leads EffectCall.keepsAccounts)
    (fun address observedAt => (Effects.index address observedAt).leads EffectCall.keepsAccounts)
    fun id => World.KeepsAccounts.of_only (.spawn id) (by decide)

namespace Account

/-- Where no call fails the record of an account that the chain has is written under its address. -/
theorem index_records {w : World} (answers : w.Answers fun _ => True) (keyed : w.node.Keyed) {address : String}
    {a : Chain.Account} (known : w.node.account address = .ok a) (observedAt : Timestamp) :
    ∃ r, ((index address observedAt).run.run w).2.store.accounts.get? (Address.prefixed address) = some r := by
  have own := keyed.accounts _ a (Chain.Node.require_eq_ok known)
  have looked : (look address).run.run w = (.ok a, w.counted) := by
    rw [← known]
    exact BlockData.ask_of_answers (Chain.Node.account address) answers trivial
  have within := World.Within.counted ([] : List Part) w
  have written : (Act.upsert (Indexed.Account.ofChain a)).run.run w.counted = _ :=
    Act.upsert_of_answers (within.answers answers) trivial
  rw [index_eq, Attempt.run_bind_of_ok looked, store_eq, Attempt.run_bind_of_ok written]
  have parts : Effects.Made (fun _ => True) (storeParts observedAt a).run :=
    Effects.storeParts (fun _ _ _ => trivial) fun _ _ => trivial
  refine (parts.leads EffectCall.keepsAccounts _).get? (a := Indexed.Account.ofChain a) ?_
  rw [← own]
  exact Table.get?_insert_self _ _ _

/-- The look at an account that the chain does not have fails, and nothing is written. -/
theorem index_of_unknown {w : World} {address : String} (unknown : ∀ a, w.node.account address ≠ .ok a)
    (observedAt : Timestamp) : ∃ e, (index address observedAt).run.run w = (.error e, w.counted) := by
  rw [index_eq, look]
  rcases Act.ask_cases (.account address) (Chain.Node.account address) w with ⟨e, -, failed⟩ | ⟨-, found⟩
  · exact ⟨e, Attempt.run_bind_of_error failed⟩
  · cases known : w.node.account address with
    | error e =>
      rw [known] at found
      exact ⟨e, Attempt.run_bind_of_error found⟩
    | ok a => exact absurd known (unknown a)

end Account

/-! ### Well-known accounts -/

/-- The record of a well-known account is stored, if the chain has the account. -/
def World.OnRecord (address : String) (w : World) : Prop :=
  ∀ a, w.node.account address = .ok a → ∃ r, w.store.accounts.get? address = some r

namespace WellKnown

/-- An account is not looked up for a call that fails, is found on record, or is indexed. -/
theorem ensure_cases (address : String) (w : World) :
    (∃ e, (∃ call, w.outages.call w.calls call = some e) ∧ (ensure address).run.run w = (.error e, w.counted)) ∨
      (∃ r, w.store.accounts.get? address = some r ∧ (ensure address).run.run w = (.ok false, w.counted)) ∨
        w.store.accounts.get? address = none ∧
          (ensure address).run.run w =
            (((Account.index address w.clock).run.run w.counted).1.map fun _ => true,
              ((Account.index address w.clock).run.run w.counted).2) := by
  unfold ensure
  rcases Act.read_cases (.find .account address) (fun s => s.accounts.get? address) w with
    ⟨e, wrong, failed⟩ | ⟨-, found⟩
  · exact .inl ⟨e, ⟨_, wrong⟩, Attempt.run_bind_of_error failed⟩
  · refine .inr ?_
    have looked : (Act.find Indexed.Account address).run.run w = (.ok (w.store.accounts.get? address), w.counted) := found
    rw [Attempt.run_bind_of_ok looked]
    cases w.store.accounts.get? address with
    | some r => exact .inl ⟨r, rfl, rfl⟩
    | none =>
      refine .inr ⟨rfl, ?_⟩
      have clock : (get : Act World).run.run w.counted = (.ok w.counted, w.counted) := rfl
      dsimp only
      rw [Attempt.run_bind_of_ok clock]
      show (Account.index address w.clock >>= fun _ => pure true : Act Bool).run.run w.counted = _
      rcases indexed : (Account.index address w.clock).run.run w.counted with ⟨e | _, v⟩
      · rw [Attempt.run_bind_of_error indexed]
        rfl
      · rw [Attempt.run_bind_of_ok indexed]
        rfl

/-- Nothing is created or written for an account that is on record as far as the chain has it. -/
theorem ensure_of_onRecord {address : String} {w : World} (h : w.OnRecord address) :
    isCreated ((ensure address).run.run w).1 = false ∧ ((ensure address).run.run w).2.store = w.store := by
  rcases ensure_cases address w with ⟨e, -, run⟩ | ⟨r, -, run⟩ | ⟨off, run⟩
  · rw [run]
    exact ⟨rfl, rfl⟩
  · rw [run]
    exact ⟨rfl, rfl⟩
  · have unknown : ∀ a, w.counted.node.account address ≠ .ok a := by
      intro a known
      obtain ⟨r, on⟩ := h a known
      cases off.symm.trans on
    obtain ⟨e, failed⟩ := Account.index_of_unknown unknown w.clock
    rw [run, failed]
    exact ⟨rfl, rfl⟩

theorem keepsAccounts_ensure (address : String) : Leads World.KeepsAccounts (ensure address).run := by
  refine .seq (World.KeepsAccounts.of_only (.read _ _ : Only [] _) (by simp)) fun found => ?_
  split
  · exact .ok _
  · refine .seq (World.KeepsAccounts.of_only (.get : Only [] _) (by simp)) fun w => ?_
    exact .seq ((Effects.index address w.clock).leads EffectCall.keepsAccounts) fun _ => .ok _

theorem prefixed_of_mem {address : String} (h : address ∈ Address.wellKnown) : Address.prefixed address = address :=
  (by decide : ∀ address ∈ Address.wellKnown, Address.prefixed address = address) address h

/-- Where no call fails a well-known account is on record afterwards, if the chain has it. -/
theorem ensure_records {address : String} (known : address ∈ Address.wellKnown) {w : World}
    (answers : w.Answers fun _ => True) (keyed : w.node.Keyed) : ((ensure address).run.run w).2.OnRecord address := by
  intro a ha
  rw [(Only.ensure address w).node (by decide)] at ha
  rcases ensure_cases address w with ⟨e, ⟨call, wrong⟩, -⟩ | ⟨r, on, run⟩ | ⟨-, run⟩
  · rw [answers w.calls (Nat.le_refl _) call trivial] at wrong
    cases wrong
  · rw [run]
    exact ⟨r, on⟩
  · have counted := World.Within.counted [] w
    have records := Account.index_records (w := w.counted) (counted.answers answers) keyed ha w.clock
    rw [prefixed_of_mem known] at records
    rw [run]
    exact records

theorem run_fst (w : World) :
    (run.run w).1 = ((Attempt.forEach ensure Address.wellKnown).run w).1.countP isCreated := by
  rw [run, Attempt.state_bind, Attempt.state_pure]

theorem run_snd (w : World) : (run.run w).2 = ((Attempt.forEach ensure Address.wellKnown).run w).2 := by
  rw [run, Attempt.state_bind, Attempt.state_pure]

/-- Where no call fails all well-known accounts that the chain has are on record afterwards. -/
theorem run_records {w : World} (answers : w.Answers fun _ => True) (keyed : w.node.Keyed) :
    ∀ address ∈ Address.wellKnown, (run.run w).2.OnRecord address := by
  let inv (v : World) : Prop := v.Answers (fun _ => True) ∧ v.node.Keyed
  have step : ∀ address ∈ Address.wellKnown, ∀ v, inv v →
      inv ((ensure address).run.run v).2 ∧ ((ensure address).run.run v).2.OnRecord address := by
    intro address known v h
    have only := Only.ensure address v
    exact ⟨⟨only.answers h.1, only.node (by decide) ▸ h.2⟩, ensure_records known h.1 h.2⟩
  have kept : ∀ address ∈ Address.wellKnown, ∀ other v, inv v → v.OnRecord other →
      ((ensure address).run.run v).2.OnRecord other := by
    intro address _ other v _ on a ha
    rw [(Only.ensure address v).node (by decide)] at ha
    obtain ⟨r, hr⟩ := on a ha
    exact (keepsAccounts_ensure address v).get? hr
  rw [run_snd]
  exact (Attempt.forEach_reaches ensure inv (fun address v => v.OnRecord address) step kept ⟨answers, keyed⟩).2.2

theorem forEach_of_onRecord (l : List String) {w : World} (h : ∀ address ∈ l, w.OnRecord address) :
    ((Attempt.forEach ensure l).run w).1.countP isCreated = 0 ∧
      ((Attempt.forEach ensure l).run w).2.store = w.store := by
  induction l generalizing w with
  | nil => exact ⟨rfl, rfl⟩
  | cons address l ih =>
    obtain ⟨none, store⟩ := ensure_of_onRecord (h address List.mem_cons_self)
    obtain ⟨rest, same⟩ := ih (w := ((ensure address).run.run w).2) fun other ho a ha => by
      rw [(Only.ensure address w).node (by decide)] at ha
      rw [store]
      exact h other (List.mem_cons_of_mem _ ho) a ha
    rw [Attempt.forEach_cons]
    refine ⟨?_, same.trans store⟩
    rw [List.countP_cons_of_neg (by simp [none]), rest]

/-- Where all well-known accounts that the chain has are on record none is created, and nothing is written. -/
theorem run_of_onRecord {w : World} (h : ∀ address ∈ Address.wellKnown, w.OnRecord address) :
    (run.run w).1 = 0 ∧ (run.run w).2.store = w.store := by
  rw [run_fst, run_snd]
  exact forEach_of_onRecord Address.wellKnown h

end WellKnown

namespace Tick
variable {setup : Setup} {w : World}

/-- Bootstrapping that is wanted puts all well-known accounts on record, where no call fails. -/
theorem bootstrap_records (wanted : setup.config.bootstraps = true) (answers : w.Answers fun _ => True)
    (keyed : w.node.Keyed) : ∀ address ∈ Address.wellKnown, ((bootstrap setup).run w).2.OnRecord address := by
  unfold bootstrap
  rw [if_pos wanted]
  exact WellKnown.run_records answers keyed

/-- Bootstrapping again, whatever calls fail, does nothing. -/
theorem bootstrap_of_onRecord
    (h : setup.config.bootstraps = true → ∀ address ∈ Address.wellKnown, w.OnRecord address) :
    ((bootstrap setup).run w).1 = 0 ∧ ((bootstrap setup).run w).2.store = w.store := by
  unfold bootstrap
  split
  · next wanted => exact WellKnown.run_of_onRecord (h wanted)
  · exact ⟨rfl, rfl⟩

end Tick

end ChainIndex
