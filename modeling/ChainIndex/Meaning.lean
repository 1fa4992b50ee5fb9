import ChainIndex.Address
import ChainIndex.Chain.Transaction
import ChainIndex.Config
import ChainIndex.Error
import ChainIndex.Pattern.Parser
import ChainIndex.PublicKey

/-!
# What events mean

An event of the chain means a change of an account, its keys or its contracts, a movement of tokens,
or nothing that the index acts on. Changes of accounts have types of their own; movements of tokens
are told by patterns, because their types contain the address of the token's contract.
-/

set_option autoImplicit false

namespace ChainIndex

inductive Meaning where
  | accountCreated (address : String)
  | keyAdded (address publicKey : String)
  | keyRemoved (address publicKey : String)
  | contractAdded (address contract : String)
  | contractUpdated (address contract : String)
  | contractRemoved (address contract : String)
  /-- Tokens left an account; those that come into being have no source. -/
  | tokensWithdrawn (source : Option String)
  | tokensDeposited (destination : Option String)
  | unrecognized (type : String)
  deriving DecidableEq

def Meaning.name : Meaning → String
  | accountCreated _ => "account-created"
  | keyAdded _ _ => "account-key-added"
  | keyRemoved _ _ => "account-key-removed"
  | contractAdded _ _ => "account-contract-added"
  | contractUpdated _ _ => "account-contract-updated"
  | contractRemoved _ _ => "account-contract-removed"
  | tokensWithdrawn _ => "tokens-withdrawn"
  | tokensDeposited _ => "tokens-deposited"
  | unrecognized _ => "unrecognized"

/-- The patterns of the types of token movements. -/
structure Classifier where
  withdrawn : Pattern
  deposited : Pattern

namespace Classifier

def pattern (text : String) : Except Error Pattern :=
  match Pattern.parse text with
  | .ok p => .ok p
  | .error problem => .error (.invalidPattern text problem.message)

def ofPatterns (withdrawn deposited : String) : Except Error Classifier := do
  let withdrawn ← pattern withdrawn
  let deposited ← pattern deposited
  return { withdrawn, deposited }

def ofConfig (config : Config) : Except Error Classifier :=
  ofPatterns config.withdrawnPattern config.depositedPattern

/-! ### Payloads -/

def missing (field : String) : Error := .decode ("event payload is missing `" ++ field ++ "`")

def stringField (payload : Json) (name : String) : Except Error String :=
  match (payload.field? name).bind Json.string? with
  | some s => .ok s
  | none => .error (missing name)

def addressField (payload : Json) : Except Error String :=
  (stringField payload "address").map Address.prefixed

/-- An address, if it is there and not empty. -/
def addressField? (payload : Json) (name : String) : Option String :=
  match (payload.field? name).bind Json.string? with
  | some s => if s.isEmpty then none else some (Address.prefixed s)
  | none => none

/-- The key's bytes are the field itself, or stand in a field of the same name in it. -/
def publicKeyField (payload : Json) : Except Error String :=
  match payload.field? "publicKey" with
  | none => .error (missing "publicKey")
  | some field => PublicKey.ofJson ((field.field? "publicKey").getD field)

/-! ### Classification -/

/-- A change of an account, made of its address and of another part of the payload. -/
def change (meaning : String → String → Meaning) (part : Json → Except Error String) (payload : Json) :
    Except Error Meaning := do
  let address ← addressField payload
  let part ← part payload
  return meaning address part

def contractField (payload : Json) : Except Error String := stringField payload "contract"

/-- The meaning of an event; only the payload of a change of an account can be malformed. -/
def classify (c : Classifier) (e : Chain.Event) : Except Error Meaning :=
  let payload := e.data.json
  if e.type = "flow.AccountCreated" then (addressField payload).map .accountCreated
  else if e.type = "flow.AccountKeyAdded" then change .keyAdded publicKeyField payload
  else if e.type = "flow.AccountKeyRemoved" then change .keyRemoved publicKeyField payload
  else if e.type = "flow.AccountContractAdded" then change .contractAdded contractField payload
  else if e.type = "flow.AccountContractUpdated" then change .contractUpdated contractField payload
  else if e.type = "flow.AccountContractRemoved" then change .contractRemoved contractField payload
  else if c.withdrawn.isFoundIn e.type then .ok (.tokensWithdrawn (addressField? payload "from"))
  else if c.deposited.isFoundIn e.type then .ok (.tokensDeposited (addressField? payload "to"))
  else .ok (.unrecognized e.type)

end Classifier

end ChainIndex
