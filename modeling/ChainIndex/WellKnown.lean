import ChainIndex.Account

/-!
# Well-known accounts

The accounts that a network starts with exist before any event names them. Each is indexed if it is
not yet, at the time of the clock. Half of the addresses do not exist on any given network.
-/

set_option autoImplicit false

namespace ChainIndex.WellKnown

open Act

/-- Indexes an account that is not indexed yet; tells whether that was done. -/
def ensure (address : String) : Act Bool := do
  match ← find Indexed.Account address with
  | some _ => return false
  | none =>
    Account.index address (← get).clock
    return true

def isCreated : Except Error Bool → Bool
  | .ok created => created
  | .error _ => false

/-- Indexes the well-known accounts and gives the number of those that were new. -/
def run : StateM World Nat := do
  let results ← Attempt.forEach ensure Address.wellKnown
  return results.countP isCreated

end ChainIndex.WellKnown
