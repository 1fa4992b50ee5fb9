import ChainIndex.Json.Record

/-!
# Transactions, their statuses and their events as the chain reports them
-/

set_option autoImplicit false

namespace ChainIndex

/-- How far the execution of a transaction has come. -/
inductive ExecutionStatus where
  | unknown
  | pending
  | finalized
  | executed
  | sealed
  | expired
  deriving DecidableEq

namespace ExecutionStatus

def code : ExecutionStatus → UInt8
  | unknown => 0
  | pending => 1
  | finalized => 2
  | executed => 3
  | sealed => 4
  | expired => 5

/-- Codes without a meaning of their own stand for an unknown status. -/
def ofCode (code : UInt8) : ExecutionStatus :=
  match code with
  | 1 => pending
  | 2 => finalized
  | 3 => executed
  | 4 => sealed
  | 5 => expired
  | _ => unknown

def text : ExecutionStatus → String
  | unknown => "unknown"
  | pending => "pending"
  | finalized => "finalized"
  | executed => "executed"
  | sealed => "sealed"
  | expired => "expired"

/-- No status follows the sealed one. -/
def isSealed (s : ExecutionStatus) : Bool := s == sealed

instance : JsonForm ExecutionStatus where
  toJson s := toJson s.code
  ofJson? j := (ofJson? j).map ofCode

end ExecutionStatus

/-- The key that proposes a transaction. -/
structure ProposalKey where
  address : String
  keyId : UInt32
  sequenceNumber : UInt64
  deriving DecidableEq

structure Signature where
  address : String
  keyId : UInt32
  signature : String
  deriving DecidableEq

instance : JsonForm ProposalKey where
  toJson k := .object [("address", toJson k.address), ("keyId", toJson k.keyId),
    ("sequenceNumber", toJson k.sequenceNumber)]
  ofJson? := Reader.run? do
    let address ← Reader.field "address"
    let keyId ← Reader.field "keyId"
    let sequenceNumber ← Reader.field "sequenceNumber"
    return { address, keyId, sequenceNumber }

instance : JsonForm Signature where
  toJson s := .object [("address", toJson s.address), ("keyId", toJson s.keyId),
    ("signature", toJson s.signature)]
  ofJson? := Reader.run? do
    let address ← Reader.field "address"
    let keyId ← Reader.field "keyId"
    let signature ← Reader.field "signature"
    return { address, keyId, signature }

namespace Chain

/-- A value with a name of its type beside it. -/
structure TypedValue where
  type : String
  value : Data
  deriving DecidableEq

structure Transaction where
  id : String
  script : String
  arguments : List TypedValue
  referenceBlockId : String
  gasLimit : UInt64
  proposalKey : ProposalKey
  payer : String
  authorizers : List String
  payloadSignatures : List Signature
  envelopeSignatures : List Signature
  deriving DecidableEq

/-- An event; the ids of its transaction and block may be missing. -/
structure Event where
  type : String
  transactionId : String
  blockId : String
  transactionIndex : UInt32
  eventIndex : UInt32
  data : Data
  deriving DecidableEq

/-- The status of a transaction with the events that it emitted. -/
structure TransactionStatus where
  status : ExecutionStatus
  statusCode : Int64
  errorMessage : String
  events : List Event
  deriving DecidableEq

instance : JsonForm TypedValue where
  toJson v := .object [("type", toJson v.type), ("value", toJson v.value)]
  ofJson? := Reader.run? do
    let type ← Reader.field "type"
    let value ← Reader.fieldOr "value" Data.null
    return { type, value }

instance : JsonForm Transaction where
  toJson t := .object [
    ("id", toJson t.id), ("script", toJson t.script), ("args", toJson t.arguments),
    ("referenceBlockId", toJson t.referenceBlockId), ("gasLimit", toJson t.gasLimit),
    ("proposalKey", toJson t.proposalKey), ("payer", toJson t.payer),
    ("authorizers", toJson t.authorizers), ("payloadSignatures", toJson t.payloadSignatures),
    ("envelopeSignatures", toJson t.envelopeSignatures)]
  ofJson? := Reader.run? do
    let id ← Reader.field "id"
    let script ← Reader.field "script"
    let arguments ← Reader.fieldOr "args" []
    let referenceBlockId ← Reader.field "referenceBlockId"
    let gasLimit ← Reader.field "gasLimit"
    let proposalKey ← Reader.field "proposalKey"
    let payer ← Reader.field "payer"
    let authorizers ← Reader.fieldOr "authorizers" []
    let payloadSignatures ← Reader.fieldOr "payloadSignatures" []
    let envelopeSignatures ← Reader.fieldOr "envelopeSignatures" []
    return { id, script, arguments, referenceBlockId, gasLimit, proposalKey, payer, authorizers,
             payloadSignatures, envelopeSignatures }

instance : JsonForm Event where
  toJson e := .object [
    ("type", toJson e.type), ("transactionId", toJson e.transactionId),
    ("blockId", toJson e.blockId), ("transactionIndex", toJson e.transactionIndex),
    ("eventIndex", toJson e.eventIndex), ("data", toJson e.data)]
  ofJson? := Reader.run? do
    let type ← Reader.field "type"
    let transactionId ← Reader.fieldOr "transactionId" ""
    let blockId ← Reader.fieldOr "blockId" ""
    let transactionIndex ← Reader.fieldOr "transactionIndex" 0
    let eventIndex ← Reader.fieldOr "eventIndex" 0
    let data ← Reader.fieldOr "data" Data.null
    return { type, transactionId, blockId, transactionIndex, eventIndex, data }

instance : JsonForm TransactionStatus where
  toJson s := .object [
    ("status", toJson s.status), ("statusCode", toJson s.statusCode),
    ("errorMessage", toJson s.errorMessage), ("events", toJson s.events)]
  ofJson? := Reader.run? do
    let status ← Reader.field "status"
    let statusCode ← Reader.fieldOr "statusCode" 0
    let errorMessage ← Reader.fieldOr "errorMessage" ""
    let events ← Reader.fieldOr "events" []
    return { status, statusCode, errorMessage, events }

end Chain

end ChainIndex
