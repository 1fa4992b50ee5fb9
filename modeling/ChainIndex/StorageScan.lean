import ChainIndex.Indexed.OfChain
import ChainIndex.World

/-!
# Scanning account storage

No event tells what an account stores, so the storage of every indexed account is read again and each
item is written. Errors stay with the account or the item that they arise from.
-/

set_option autoImplicit false

namespace ChainIndex.StorageScan

open Act

/-- Writes the items of one account and gives the number of those written. -/
def scanAccount (address : String) : Act Nat := do
  let items ← ask (.storageItems address) fun n => .ok (n.storageItems address)
  let results ← Attempt.forEach (fun item => upsert (Indexed.StorageItem.ofChain address item)) items
  return Attempt.successes results

/-- Adds up the numbers of the accounts that could be scanned. -/
def total : List (Except Error Nat) → Nat
  | [] => 0
  | .ok written :: rest => written + total rest
  | .error _ :: rest => total rest

/-- Writes the items of all indexed accounts and gives the number of those written. -/
def run : Act Nat := do
  let accounts ← findAll Indexed.Account
  let results ← Attempt.forEach (fun a => scanAccount a.address) accounts
  return total results

end ChainIndex.StorageScan
