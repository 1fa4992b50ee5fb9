import ChainIndex.Indexed.OfChain
import ChainIndex.Reconcile
import ChainIndex.World

/-!
# Indexing an account

How an account of the chain is written to the indexes of accounts, keys and contracts. Its keys are
reconciled with those that are stored, by their places in the account. A revoked key that the chain
does not report any more is kept. A key that takes the place of one with another public key has
another id too, so the earlier record is deleted and a new one is written.
-/

set_option autoImplicit false

namespace ChainIndex

namespace KeySync

open Act

/-- The stored keys of an account, whose address has to be written just so. -/
def keysOf (address : String) : Act (List Indexed.AccountKey) :=
  return (← findAll Indexed.AccountKey).filter fun k => k.address == address

/-- The step from the stored keys to the ones that the chain reports, without the deletion of revoked
keys. -/
def diff (stored reported : List Indexed.AccountKey) : Diff Indexed.AccountKey :=
  let d := Diff.reconcile Indexed.AccountKey.slot Indexed.AccountKey.merge stored reported
  { d with delete := d.delete.filter fun k => !k.revoked }

/-- The id of the stored key at an index; of several the last one counts. -/
def idAt? (stored : List Indexed.AccountKey) (index : UInt32) : Option String :=
  ((stored.filter fun k => k.index == index).getLast?).map (·.id)

/-- Writes a key over the one that is stored in its place. -/
def replace (stored : List Indexed.AccountKey) (k : Indexed.AccountKey) : Act Unit :=
  match idAt? stored k.index with
  | some previous =>
    if previous = k.id then update Indexed.AccountKey k.id k
    else do
      delete Indexed.AccountKey previous
      upsert k
  | none => update Indexed.AccountKey k.id k

/-- Makes the stored keys of an account those that the chain reports. -/
def sync (address : String) (account : Chain.Account) (observedAt : Timestamp) : Act Diff.Report := do
  let stored ← keysOf address
  let reported := account.keys.map fun k => Indexed.AccountKey.ofChain address k observedAt
  Diff.apply upsert (replace stored) (fun k => delete Indexed.AccountKey k.id) (diff stored reported)

end KeySync

namespace Account

open Act

/-- The account as the chain reports it. -/
def look (address : String) : Act Chain.Account :=
  ask (.account address) (Chain.Node.account address)

/-- The records of an account's contracts, by their names. -/
def contracts (account : Chain.Account) : List Indexed.Contract :=
  account.contracts.keys.filterMap (Indexed.Contract.ofChain? account)

/-- Writes an account with its keys and contracts. Contracts that cannot be written do not count as
a failure. -/
def index (address : String) (observedAt : Timestamp) : Act Unit := do
  let account ← look address
  let address := Address.prefixed account.address
  upsert (Indexed.Account.ofChain account)
  let keys ← (KeySync.sync address account observedAt).result
  let _ ← Attempt.forEach upsert (contracts account)
  match keys with
  | .error e => throw e
  | .ok report =>
    if report.failed = 0 then return
    else throw (.other (Decimal.text report.failed ++ " key operations failed for " ++ address))

/-- Writes one key of an account. -/
def indexKey (address publicKey : String) (observedAt : Timestamp) : Act Unit := do
  let account ← look address
  match account.keys.find? fun k => k.publicKey == publicKey with
  | none => throw (.notFound ("key " ++ publicKey ++ " on account " ++ address))
  | some reported =>
    let key := Indexed.AccountKey.ofChain address reported observedAt
    match ← find Indexed.AccountKey key.id with
    | some stored => upsert (key.merge stored)
    | none => upsert key

/-- Writes one contract of an account. -/
def indexContract (address name : String) : Act Unit := do
  let account ← look address
  match Indexed.Contract.ofChain? account name with
  | none => throw (.notFound ("contract " ++ name ++ " on account " ++ address))
  | some contract => upsert contract

/-- Writes an account without its keys and contracts; one that the chain does not know is left
alone. -/
def refresh (address : String) : Act Unit := do
  match ← (look address).result with
  | .ok account => upsert (Indexed.Account.ofChain account)
  | .error e => if e.isNotFound then return else throw e

end Account

end ChainIndex
