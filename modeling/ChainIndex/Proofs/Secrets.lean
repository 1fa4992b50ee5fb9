import ChainIndex.Proofs.KeyConvergence

/-!
# Whose private key a record holds

A reconciled key takes over the private key and the time of creation from the record that is stored in its
place, and a key whose place is free is written over whatever has its id. Both stay with the public key
unless a place changes its public key, and `KeySync.Unmixed` says when they do.
-/

set_option autoImplicit false

namespace ChainIndex

open Indexed (AccountKey keyId)

namespace Indexed.AccountKey

/-- The private key, if there is one that is not blank. -/
def secret? (k : AccountKey) : Option String := k.privateKey.filter fun p => !p.isEmpty

/-- A record takes over the private key and the time of creation of the one that was stored under its id.
If there was none, it has no private key. -/
def Inherits (new : AccountKey) : Option AccountKey → Prop
  | none => new.secret? = none
  | some old => new.createdAt = old.createdAt ∧ ∀ secret ∈ old.secret?, secret ∈ new.secret?

instance (new : AccountKey) : DecidablePred new.Inherits
  | none => inferInstanceAs (Decidable (_ = _))
  | some _ => inferInstanceAs (Decidable (_ ∧ _))

theorem inherits_refl (k : AccountKey) : k.Inherits (some k) := ⟨rfl, fun _ h => h⟩

end Indexed.AccountKey

namespace KeySync

/-- Private keys and times of creation stay with their public keys from `t` to `t'`. -/
def KeepsSecrets (t t' : Table String AccountKey) : Prop :=
  ∀ id k, t'.get? id = some k → k.Inherits (t.get? id)

/-- Nothing is taken over from a record of another public key, and nothing is lost: a key that passes and
takes the place of another public key finds what it inherits there, and one that is new in its place inherits
nothing. -/
structure Unmixed (address : String) (keys : List Chain.AccountKey) (t : Table String AccountKey)
    (observedAt : Timestamp) : Prop where
  rotated : ∀ before k after, keys = before ++ k :: after → Passes address keys t before k →
    ∀ s ∈ storedKeys address t, s.index = k.index → s.publicKey ≠ k.publicKey →
      s.Inherits (t.get? (keyId address k.publicKey))
  created : ∀ before k after, keys = before ++ k :: after → Passes address keys t before k →
    (∀ s ∈ storedKeys address t, s.index ≠ k.index) →
      ∀ old ∈ t.get? (keyId address k.publicKey), old.createdAt = observedAt ∧ old.secret? = none

section
variable {address : String} {keys : List Chain.AccountKey} {t : Table String AccountKey}
  {observedAt : Timestamp} {k : Chain.AccountKey}

/-- Concrete keys are checked one by one, whether they pass or not. -/
theorem unmixed_of_forall
    (rotated : ∀ k ∈ keys, ∀ s ∈ storedKeys address t, s.index = k.index → s.publicKey ≠ k.publicKey →
      s.Inherits (t.get? (keyId address k.publicKey)))
    (created : ∀ k ∈ keys, (∀ s ∈ storedKeys address t, s.index ≠ k.index) →
      ∀ old ∈ t.get? (keyId address k.publicKey), old.createdAt = observedAt ∧ old.secret? = none) :
    Unmixed address keys t observedAt where
  rotated _ k _ split _ := rotated k (by simp [split])
  created _ k _ split _ := created k (by simp [split])

theorem inherits_merged (s : AccountKey) (old : Option AccountKey) :
    (merged address k observedAt s).Inherits old ↔ s.Inherits old := by
  cases old <;> exact Iff.rfl

theorem inherits_ofChain (old : Option AccountKey) :
    (AccountKey.ofChain address k observedAt).Inherits old ↔
      ∀ o ∈ old, o.createdAt = observedAt ∧ o.secret? = none := by
  cases old with
  | none => exact ⟨fun _ o h => absurd h (Option.not_mem_none o), fun _ => rfl⟩
  | some o =>
    simp only [Option.mem_some_iff, forall_eq']
    constructor
    · rintro ⟨createdAt, secret⟩
      exact ⟨createdAt.symm, Option.eq_none_iff_forall_not_mem.mpr fun p hp => Option.not_mem_none p (secret p hp)⟩
    · rintro ⟨createdAt, secret⟩
      refine ⟨createdAt.symm, fun p hp => ?_⟩
      rw [secret] at hp
      cases hp

variable (hA : Address.prefixed address = address) (suits : Suits address keys t)
include hA suits

omit hA in
/-- The record that a key leads to inherits what it should where nothing is mixed up. -/
theorem Unmixed.inherits (unmixed : Unmixed address keys t observedAt) {before after : List Chain.AccountKey}
    (split : keys = before ++ k :: after) (passes : Passes address keys t before k) {r : AccountKey}
    (yields : Yields address t observedAt k r) : r.Inherits (t.get? (keyId address k.publicKey)) := by
  cases yields with
  | @merged s stored place =>
    rw [inherits_merged]
    by_cases same : s.publicKey = k.publicKey
    · rw [← same, ← suits.id_of_mem stored, suits.get?_of_mem stored]
      exact s.inherits_refl
    · exact unmixed.rotated before k after split passes s stored place same
  | new free => exact (inherits_ofChain _).mpr (unmixed.created before k after split passes free)

/-- Private keys and times of creation stay with their public keys exactly if nothing is mixed up. -/
theorem keepsSecrets_iff :
    KeepsSecrets t (t.edit (edits address keys t observedAt)) ↔ Unmixed address keys t observedAt := by
  have written {before after : List Chain.AccountKey} {k : Chain.AccountKey} (split : keys = before ++ k :: after)
      (passes : Passes address keys t before k) :
      ∃ r, (t.edit (edits address keys t observedAt)).get? (keyId address k.publicKey) = some r ∧
        Yields address t observedAt k r :=
    yielded_of_passes hA suits split passes
  constructor
  · intro keeps
    have inherits {before after : List Chain.AccountKey} {k : Chain.AccountKey} (split : keys = before ++ k :: after)
        (passes : Passes address keys t before k) :
        ∃ r, Yields address t observedAt k r ∧ r.Inherits (t.get? (keyId address k.publicKey)) := by
      obtain ⟨r, found, yields⟩ := written split passes
      exact ⟨r, yields, keeps _ r found⟩
    constructor
    · intro before k after split passes s hs place _
      obtain ⟨r, yields, inherits⟩ := inherits split passes
      cases yields with
      | @merged s' stored place' =>
        obtain rfl := suits.eq_of_index stored hs (place'.trans place.symm)
        exact (inherits_merged _ _).mp inherits
      | new free => exact absurd place (free s hs)
    · intro before k after split passes free
      obtain ⟨r, yields, inherits⟩ := inherits split passes
      cases yields with
      | merged stored place => exact absurd place (free _ stored)
      | new => exact (inherits_ofChain _).mp inherits
  · intro unmixed id r found
    rcases t.get?_edit_cases id (edits address keys t observedAt) with same | edited
    · rw [← same, found]
      exact r.inherits_refl
    · obtain ⟨k, hk, rfl, -⟩ := mem_edits_bound hA suits (found ▸ edited)
      obtain ⟨before, after, split⟩ := List.append_of_mem hk
      by_cases passes : Passes address keys t before k
      · obtain ⟨r', found', yields⟩ := written split passes
        obtain rfl := Option.some.inj (found.symm.trans found')
        exact unmixed.inherits suits split passes yields
      · rw [lost_of_not_passes hA suits split passes] at found
        cases found

end

end KeySync

namespace Account

open KeySync

variable {w : World} {address : String} {account : Chain.Account}

/-- Where no call fails an account is indexed, and private keys and times of creation stay with their public
keys exactly if nothing is mixed up: no place whose public key changes passes on a private key that the new
public key did not have, or another time of creation, and no key that was stored elsewhere is written anew
over its private key or its time of creation. -/
theorem index_keepsSecrets_iff (index : ∀ kind ∈ [Kind.account, .key, .contract], w.Answers (Call.On kind))
    (reach : w.Answers (· = .account address)) (known : w.node.account address = .ok account)
    (fits : Fits (Address.prefixed account.address) account.keys w.store.keys) (observedAt : Timestamp) :
    ∃ w', (Account.index address observedAt).run.run w = (.ok (), w') ∧
      (KeepsSecrets w.store.keys w'.store.keys ↔
        Unmixed (Address.prefixed account.address) account.keys w.store.keys observedAt) := by
  obtain ⟨w', run, indexes⟩ := index_edits index reach known fits observedAt
  refine ⟨w', run, ?_⟩
  rw [indexes.keys]
  exact keepsSecrets_iff (Address.prefixed_prefixed _) fits

/-! ### A private key -/

/-- A world in which the index holds two keys of the account `0x01`, of which the first, `aa`, has a private key,
and the chain reports others. -/
def secretWorld (reported : List (UInt32 × String)) : World :=
  { holdingWorld [] reported with
    store := { Store.empty with
      keys := .ofList
        [("0x01.aa",
            { AccountKey.ofChain "0x01" ⟨0, "aa", 0, 0, 500, 0, false⟩ .epoch with privateKey := some "secret" }),
          ("0x01.bb", .ofChain "0x01" ⟨1, "bb", 0, 0, 1000, 0, false⟩ .epoch)] } }

/-- The chain reports another weight of `aa`, and `cc` in the place of `bb`. -/
def secretKept : World := secretWorld [(0, "aa"), (1, "cc")]

/-- The chain reports `cc` in the place of `aa`. -/
def secretPassedOn : World := secretWorld [(0, "cc"), (1, "bb")]

theorem unmixed_secretKept :
    Unmixed "0x01" (holding [(0, "aa"), (1, "cc")]).keys secretKept.store.keys .epoch :=
  unmixed_of_forall (by decide) (by decide)

theorem index_keepsSecrets_rotated :
    ∃ w', (index "0x01" .epoch).run.run secretKept = (.ok (), w') ∧ KeepsSecrets secretKept.store.keys w'.store.keys := by
  have fits : Fits "0x01" (holding [(0, "aa"), (1, "cc")]).keys secretKept.store.keys :=
    fits_of_entries (by decide) (by decide) (by decide) (by decide)
  have answers : ∀ kind ∈ [Kind.account, .key, .contract], secretKept.Answers (Call.On kind) := fun _ _ _ _ _ _ => rfl
  have known : secretKept.node.account "0x01" = .ok (holding [(0, "aa"), (1, "cc")]) := rfl
  obtain ⟨w', run, iff⟩ := index_keepsSecrets_iff answers (fun _ _ _ _ => rfl) known fits .epoch
  exact ⟨w', run, iff.mpr unmixed_secretKept⟩

/-- A key that takes the place of another public key gets its private key. -/
theorem secret_passedOn :
    Fits "0x01" (holding [(0, "cc"), (1, "bb")]).keys secretPassedOn.store.keys ∧
      secretPassedOn.outages = .none ∧ secretPassedOn.node.account "0x01" = .ok (holding [(0, "cc"), (1, "bb")]) ∧
      secretPassedOn.store.keys.get? "0x01.cc" = none ∧
      ∃ w' r, (index "0x01" .epoch).run.run secretPassedOn = (.ok (), w') ∧
        w'.store.keys.get? "0x01.cc" = some r ∧ r.publicKey = "cc" ∧ r.privateKey = some "secret" ∧
        ¬ KeepsSecrets secretPassedOn.store.keys w'.store.keys := by
  have fits : Fits "0x01" (holding [(0, "cc"), (1, "bb")]).keys secretPassedOn.store.keys :=
    fits_of_entries (by decide) (by decide) (by decide) (by decide)
  have answers : ∀ kind ∈ [Kind.account, .key, .contract], secretPassedOn.Answers (Call.On kind) :=
    fun _ _ _ _ _ _ => rfl
  have known : secretPassedOn.node.account "0x01" = .ok (holding [(0, "cc"), (1, "bb")]) := rfl
  obtain ⟨w', run, indexes⟩ := index_edits answers (fun _ _ _ _ => rfl) known fits .epoch
  obtain ⟨r, found, publicKey, privateKey⟩ :
      ∃ r, w'.store.keys.get? "0x01.cc" = some r ∧ r.publicKey = "cc" ∧ r.privateKey = some "secret" := by
    rw [indexes.keys]
    exact ⟨_, rfl, by decide, by decide⟩
  refine ⟨fits, rfl, known, by decide, w', r, run, found, publicKey, privateKey, fun keeps => ?_⟩
  have inherits : r.secret? = none := keeps "0x01.cc" r found
  rw [AccountKey.secret?, privateKey] at inherits
  cases inherits

end Account

end ChainIndex
