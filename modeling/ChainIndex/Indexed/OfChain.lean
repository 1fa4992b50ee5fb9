import ChainIndex.Chain.Argument
import ChainIndex.Indexed.Id
import ChainIndex.Indexed.Record
import ChainIndex.Script.Signature

/-!
# From the chain to the index

The record of the index that stands for each thing the chain reports. Every function here depends on
its arguments alone, so a block that is processed again gives the same records.
-/

set_option autoImplicit false

namespace ChainIndex.Indexed

def Block.ofChain (b : Chain.Block) : Block where
  id := b.id
  height := b.height
  parentId := b.parentId
  timestamp := b.timestamp
  guarantees := b.guarantees
  seals := b.seals
  signatures := b.signatures

/-- Code 0 is success, every other code is failure. -/
def resultCode (code : Int64) : UInt8 := if code = 0 then 0 else 1

def TransactionStatus.ofChain (s : Chain.TransactionStatus) : TransactionStatus where
  executionStatus := s.status
  grpcStatus := resultCode s.statusCode
  errorMessage := s.errorMessage

/-- The arguments with the names and types of the parameters at their places. -/
def nameArguments : List Chain.TypedValue → List Script.Parameter → List Argument
  | [], _ => []
  | value :: values, [] => ⟨"", "", value.decode⟩ :: nameArguments values []
  | value :: values, p :: parameters =>
    ⟨p.identifier, p.type, value.decode⟩ :: nameArguments values parameters

def prefixSignature (s : Signature) : Signature := { s with address := Address.prefixed s.address }

def Transaction.ofChain (block : Chain.Block) (t : Chain.Transaction)
    (status : Chain.TransactionStatus) (interaction : Option Script.Interaction) : Transaction where
  id := t.id
  script := t.script
  payer := Address.prefixed t.payer
  blockId := block.id
  referenceBlockId := t.referenceBlockId
  gasLimit := t.gasLimit
  authorizers := t.authorizers.map Address.prefixed
  arguments := nameArguments t.arguments ((interaction.map (·.parameters)).getD [])
  proposalKey := { t.proposalKey with address := Address.prefixed t.proposalKey.address }
  envelopeSignatures := t.envelopeSignatures.map prefixSignature
  payloadSignatures := t.payloadSignatures.map prefixSignature
  status := .ofChain status

def Event.ofChain (e : Chain.Event) : Event where
  id := eventId e.transactionId e.eventIndex
  type := e.type
  transactionId := e.transactionId
  blockId := e.blockId
  transactionIndex := e.transactionIndex
  eventIndex := e.eventIndex
  data := e.data

def defaultTag : AccountTag :=
  ⟨"Default", "This account was created automatically by the emulator."⟩

def serviceTag : AccountTag :=
  ⟨"Service", "A special account that has permissions to manage system contracts. It is able to mint "
    ++ "tokens, set fees, and update network-level contracts."⟩

def tagsOf (address : String) : List AccountTag :=
  (if Address.wellKnown.contains address then [defaultTag] else [])
    ++ if Address.service.contains address then [serviceTag] else []

def Account.ofChain (a : Chain.Account) : Account where
  id := Address.prefixed a.address
  address := Address.prefixed a.address
  balance := a.balance
  tags := tagsOf (Address.prefixed a.address)
  code := a.code

def AccountKey.ofChain (address : String) (k : Chain.AccountKey) (observedAt : Timestamp) :
    AccountKey where
  id := keyId address k.publicKey
  index := k.index
  address := Address.prefixed address
  publicKey := k.publicKey
  signAlgo := SignatureAlgorithm.ofCode? k.signAlgo
  hashAlgo := HashAlgorithm.ofCode? k.hashAlgo
  weight := k.weight
  sequenceNumber := k.sequenceNumber
  revoked := k.revoked
  privateKey := none
  createdAt := observedAt

/-- The record of an account's contract, if the account has a contract of that name. -/
def Contract.ofChain? (a : Chain.Account) (name : String) : Option Contract :=
  (a.contracts.get? name).map fun code =>
    { id := contractId a.address name, address := Address.prefixed a.address, name, code }

def StorageItem.ofChain (address : String) (item : Chain.StorageItem) : StorageItem where
  id := storageItemId address item.pathDomain item.pathIdentifier
  address := Address.prefixed address
  pathDomain := item.pathDomain
  pathIdentifier := item.pathIdentifier
  data := item.data

end ChainIndex.Indexed
