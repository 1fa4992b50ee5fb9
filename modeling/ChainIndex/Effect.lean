import ChainIndex.Account
import ChainIndex.Meaning

/-!
# Effects of events

What an event does to the indexes of accounts, keys and contracts. Nothing else writes them.
-/

set_option autoImplicit false

namespace ChainIndex.Meaning

/-- The effect of an event, at the time at which it was observed. -/
def apply (observedAt : Timestamp) : Meaning → Act Unit
  | accountCreated address => Account.index address observedAt
  | keyAdded address publicKey => Account.indexKey address publicKey observedAt
  | keyRemoved address publicKey =>
    Act.delete Indexed.AccountKey (Indexed.keyId address publicKey)
  | contractAdded address contract => Account.indexContract address contract
  | contractUpdated address contract => Account.indexContract address contract
  | contractRemoved address contract =>
    Act.delete Indexed.Contract (Indexed.contractId address contract)
  | tokensWithdrawn source =>
    if Address.isNull source then return else Account.refresh (source.getD "")
  | tokensDeposited (some address) => Account.refresh address
  | tokensDeposited none => return
  | unrecognized _ => return

/-- Classifies an event and applies its effect. An error of the effect names the kind of event. -/
def dispatch (classifier : Classifier) (observedAt : Timestamp) (e : Chain.Event) : Act Meaning := do
  let meaning ← ExceptT.mk (pure (classifier.classify e))
  match ← (meaning.apply observedAt).result with
  | .ok () => return meaning
  | .error e => throw (.handler meaning.name e.message)

end ChainIndex.Meaning
