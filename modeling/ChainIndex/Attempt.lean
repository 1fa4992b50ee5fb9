import ChainIndex.Error

/-!
# Attempts

An `Attempt` is work on a state that ends with a value or an error and leaves the state changed
either way. A list of attempts is made item by item, either all of them whatever their results
(`forEach`), or up to the first error (`collect`).
-/

set_option autoImplicit false

namespace ChainIndex

abbrev Attempt (σ α : Type) := ExceptT Error (StateM σ) α

namespace Attempt

variable {σ α β : Type}

/-- The work with its result, which may be an error, as its value. -/
def result (work : Attempt σ α) : Attempt σ (Except Error α) := ExceptT.lift work.run

/-- Works on every item and gives all results. -/
def forEach (work : α → Attempt σ β) : List α → StateM σ (List (Except Error β))
  | [] => return []
  | a :: rest => do
    let result ← (work a).run
    return result :: (← forEach work rest)

/-- Works on every item up to the first error. -/
def collect (work : α → Attempt σ β) : List α → Attempt σ (List β)
  | [] => return []
  | a :: rest => do
    let b ← work a
    return b :: (← collect work rest)

def isSuccess : Except Error β → Bool
  | .ok _ => true
  | .error _ => false

/-- The number of results that are no errors. -/
def successes (results : List (Except Error β)) : Nat := results.countP isSuccess

end Attempt

end ChainIndex
