import ChainIndex.Chain.Account
import ChainIndex.Chain.Block
import ChainIndex.Chain.Transaction

/-!
# The records of the index

Every kind of record is stored under an id that follows from its fields. `Entity` names the kind,
gives the id, and says what an update of a record of the kind carries: the whole record, except for
a transaction, of which only the status may change.
-/

set_option autoImplicit false

namespace ChainIndex.Indexed

structure Block where
  id : String
  height : UInt64
  parentId : String
  timestamp : Timestamp
  guarantees : List Chain.Guarantee
  seals : List Data
  signatures : List String
  deriving DecidableEq

/-- The part of a transaction that may change after it was stored. -/
structure TransactionStatus where
  executionStatus : ExecutionStatus
  /-- 0 for success and 1 for failure. -/
  grpcStatus : UInt8
  errorMessage : String
  deriving DecidableEq

/-- A decoded argument with the name and the type that the script declares for it. -/
structure Argument where
  identifier : String
  type : String
  value : Data
  deriving DecidableEq

structure Transaction where
  id : String
  script : String
  payer : String
  blockId : String
  referenceBlockId : String
  gasLimit : UInt64
  authorizers : List String
  arguments : List Argument
  proposalKey : ProposalKey
  envelopeSignatures : List Signature
  payloadSignatures : List Signature
  status : TransactionStatus
  deriving DecidableEq

structure Event where
  id : String
  type : String
  transactionId : String
  blockId : String
  transactionIndex : UInt32
  eventIndex : UInt32
  data : Data
  deriving DecidableEq

structure AccountTag where
  name : String
  description : String
  deriving DecidableEq

structure Account where
  id : String
  address : String
  balance : UInt64
  tags : List AccountTag
  code : String
  deriving DecidableEq

inductive SignatureAlgorithm where
  | ecdsaP256
  | ecdsaSecp256k1
  deriving DecidableEq

inductive HashAlgorithm where
  | sha2
  | sha3
  deriving DecidableEq

structure AccountKey where
  id : String
  /-- The place among the keys of the account. -/
  index : UInt32
  address : String
  publicKey : String
  signAlgo : Option SignatureAlgorithm
  hashAlgo : Option HashAlgorithm
  weight : UInt32
  sequenceNumber : UInt64
  revoked : Bool
  /-- Known for keys that are managed here, never from the chain. -/
  privateKey : Option String
  createdAt : Timestamp
  deriving DecidableEq

structure Contract where
  id : String
  address : String
  name : String
  code : String
  deriving DecidableEq

structure StorageItem where
  id : String
  address : String
  pathDomain : PathDomain
  pathIdentifier : String
  data : Data
  deriving DecidableEq

/-! ### Kinds of records -/

/-- A kind of record of the index; an update of such a record carries a `Patch`. -/
class Entity (α : Type) (Patch : outParam Type) where
  kind : String
  id : α → String
  patch : Patch → α → α

instance : Entity Block Block where
  kind := "block"
  id := Block.id
  patch b _ := b

instance : Entity Transaction TransactionStatus where
  kind := "transaction"
  id := Transaction.id
  patch status t := { t with status }

instance : Entity Event Event where
  kind := "event"
  id := Event.id
  patch e _ := e

instance : Entity Account Account where
  kind := "account"
  id := Account.id
  patch a _ := a

instance : Entity AccountKey AccountKey where
  kind := "account_key"
  id := AccountKey.id
  patch k _ := k

instance : Entity Contract Contract where
  kind := "account_contract"
  id := Contract.id
  patch c _ := c

instance : Entity StorageItem StorageItem where
  kind := "account_storage"
  id := StorageItem.id
  patch i _ := i

/-! ### JSON forms -/

namespace SignatureAlgorithm

def text : SignatureAlgorithm → String
  | ecdsaP256 => "ECDSA_P256"
  | ecdsaSecp256k1 => "ECDSA_secp256k1"

def ofText? (text : String) : Option SignatureAlgorithm :=
  if text = "ECDSA_P256" then some ecdsaP256
  else if text = "ECDSA_secp256k1" then some ecdsaSecp256k1
  else none

/-- The algorithm with a code of the chain. -/
def ofCode? (code : UInt32) : Option SignatureAlgorithm :=
  if code = 0 then some ecdsaP256 else if code = 1 then some ecdsaSecp256k1 else none

instance : JsonForm SignatureAlgorithm where
  toJson a := .string a.text
  ofJson? j := j.choice?.bind ofText?

end SignatureAlgorithm

namespace HashAlgorithm

def text : HashAlgorithm → String
  | sha2 => "SHA2_256"
  | sha3 => "SHA3_256"

def ofText? (text : String) : Option HashAlgorithm :=
  if text = "SHA2_256" then some sha2 else if text = "SHA3_256" then some sha3 else none

/-- The algorithm with a code of the chain. -/
def ofCode? (code : UInt32) : Option HashAlgorithm :=
  if code = 0 then some sha2 else if code = 1 then some sha3 else none

instance : JsonForm HashAlgorithm where
  toJson a := .string a.text
  ofJson? j := j.choice?.bind ofText?

end HashAlgorithm

instance : JsonForm Block where
  toJson b := .object [
    ("id", toJson b.id), ("height", toJson b.height), ("parentId", toJson b.parentId),
    ("timestamp", toJson b.timestamp), ("collectionGuarantees", toJson b.guarantees),
    ("blockSeals", toJson b.seals), ("signatures", toJson b.signatures)]
  ofJson? := Reader.run? do
    let id ← Reader.field "id"
    let height ← Reader.field "height"
    let parentId ← Reader.field "parentId"
    let timestamp ← Reader.field "timestamp"
    let guarantees ← Reader.field "collectionGuarantees"
    let seals ← Reader.field "blockSeals"
    let signatures ← Reader.field "signatures"
    return { id, height, parentId, timestamp, guarantees, seals, signatures }

instance : JsonForm TransactionStatus where
  toJson s := .object [
    ("executionStatus", toJson s.executionStatus), ("grpcStatus", toJson s.grpcStatus),
    ("errorMessage", toJson s.errorMessage)]
  ofJson? := Reader.run? do
    let executionStatus ← Reader.field "executionStatus"
    let grpcStatus ← Reader.field "grpcStatus"
    let errorMessage ← Reader.field "errorMessage"
    return { executionStatus, grpcStatus, errorMessage }

instance : JsonForm Argument where
  toJson a := .object [
    ("identifier", toJson a.identifier), ("type", toJson a.type), ("value", toJson a.value)]
  ofJson? := Reader.run? do
    let identifier ← Reader.field "identifier"
    let type ← Reader.field "type"
    let value ← Reader.field "value"
    return { identifier, type, value }

instance : JsonForm Transaction where
  toJson t := .object [
    ("id", toJson t.id), ("script", toJson t.script), ("payer", toJson t.payer),
    ("blockId", toJson t.blockId), ("referenceBlockId", toJson t.referenceBlockId),
    ("gasLimit", toJson t.gasLimit), ("authorizers", toJson t.authorizers),
    ("arguments", toJson t.arguments), ("proposalKey", toJson t.proposalKey),
    ("envelopeSignatures", toJson t.envelopeSignatures),
    ("payloadSignatures", toJson t.payloadSignatures), ("status", toJson t.status)]
  ofJson? := Reader.run? do
    let id ← Reader.field "id"
    let script ← Reader.field "script"
    let payer ← Reader.field "payer"
    let blockId ← Reader.field "blockId"
    let referenceBlockId ← Reader.field "referenceBlockId"
    let gasLimit ← Reader.field "gasLimit"
    let authorizers ← Reader.field "authorizers"
    let arguments ← Reader.field "arguments"
    let proposalKey ← Reader.field "proposalKey"
    let envelopeSignatures ← Reader.field "envelopeSignatures"
    let payloadSignatures ← Reader.field "payloadSignatures"
    let status ← Reader.field "status"
    return { id, script, payer, blockId, referenceBlockId, gasLimit, authorizers, arguments,
             proposalKey, envelopeSignatures, payloadSignatures, status }

instance : JsonForm Event where
  toJson e := .object [
    ("id", toJson e.id), ("type", toJson e.type), ("transactionId", toJson e.transactionId),
    ("blockId", toJson e.blockId), ("transactionIndex", toJson e.transactionIndex),
    ("eventIndex", toJson e.eventIndex), ("data", toJson e.data)]
  ofJson? := Reader.run? do
    let id ← Reader.field "id"
    let type ← Reader.field "type"
    let transactionId ← Reader.field "transactionId"
    let blockId ← Reader.field "blockId"
    let transactionIndex ← Reader.field "transactionIndex"
    let eventIndex ← Reader.field "eventIndex"
    let data ← Reader.field "data"
    return { id, type, transactionId, blockId, transactionIndex, eventIndex, data }

instance : JsonForm AccountTag where
  toJson t := .object [("name", toJson t.name), ("description", toJson t.description)]
  ofJson? := Reader.run? do
    let name ← Reader.field "name"
    let description ← Reader.field "description"
    return { name, description }

instance : JsonForm Account where
  toJson a := .object [
    ("id", toJson a.id), ("address", toJson a.address), ("balance", toJson a.balance),
    ("tags", toJson a.tags), ("code", toJson a.code)]
  ofJson? := Reader.run? do
    let id ← Reader.field "id"
    let address ← Reader.field "address"
    let balance ← Reader.field "balance"
    let tags ← Reader.field "tags"
    let code ← Reader.field "code"
    return { id, address, balance, tags, code }

/-- The field of a private key, which is left out where none is known. -/
def privateKeyField : Option String → List (String × Json)
  | some key => [("privateKey", toJson key)]
  | none => []

instance : JsonForm AccountKey where
  toJson k := .object ([
    ("id", toJson k.id), ("index", toJson k.index), ("address", toJson k.address),
    ("publicKey", toJson k.publicKey), ("signAlgo", toJson k.signAlgo),
    ("hashAlgo", toJson k.hashAlgo), ("weight", toJson k.weight),
    ("sequenceNumber", toJson k.sequenceNumber), ("revoked", toJson k.revoked)]
      ++ privateKeyField k.privateKey ++ [("createdAt", toJson k.createdAt)])
  ofJson? := Reader.run? do
    let id ← Reader.field "id"
    let index ← Reader.field "index"
    let address ← Reader.field "address"
    let publicKey ← Reader.field "publicKey"
    let signAlgo ← Reader.nullable "signAlgo"
    let hashAlgo ← Reader.nullable "hashAlgo"
    let weight ← Reader.field "weight"
    let sequenceNumber ← Reader.field "sequenceNumber"
    let revoked ← Reader.field "revoked"
    let privateKey ← Reader.fieldOr "privateKey" none
    let createdAt ← Reader.field "createdAt"
    return { id, index, address, publicKey, signAlgo, hashAlgo, weight, sequenceNumber, revoked,
             privateKey, createdAt }

instance : JsonForm Contract where
  toJson c := .object [
    ("id", toJson c.id), ("address", toJson c.address), ("name", toJson c.name),
    ("code", toJson c.code)]
  ofJson? := Reader.run? do
    let id ← Reader.field "id"
    let address ← Reader.field "address"
    let name ← Reader.field "name"
    let code ← Reader.field "code"
    return { id, address, name, code }

instance : JsonForm StorageItem where
  toJson i := .object [
    ("id", toJson i.id), ("address", toJson i.address), ("pathDomain", toJson i.pathDomain),
    ("pathIdentifier", toJson i.pathIdentifier), ("data", toJson i.data)]
  ofJson? := Reader.run? do
    let id ← Reader.field "id"
    let address ← Reader.field "address"
    let pathDomain ← Reader.field "pathDomain"
    let pathIdentifier ← Reader.field "pathIdentifier"
    let data ← Reader.field "data"
    return { id, address, pathDomain, pathIdentifier, data }

end ChainIndex.Indexed
