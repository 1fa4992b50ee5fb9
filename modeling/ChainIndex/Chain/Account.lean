import ChainIndex.Json.Record

/-!
# Accounts and their storage as the chain reports them
-/

set_option autoImplicit false

namespace ChainIndex

/-- The domain of the path under which an account stores an item. -/
inductive PathDomain where
  | storagePath
  | publicPath
  | privatePath
  deriving DecidableEq

namespace PathDomain

def text : PathDomain → String
  | storagePath => "storage"
  | publicPath => "public"
  | privatePath => "private"

def ofText? (text : String) : Option PathDomain :=
  if text = "storage" then some storagePath
  else if text = "public" then some publicPath
  else if text = "private" then some privatePath
  else none

instance : JsonForm PathDomain where
  toJson d := .string d.text
  ofJson? j := j.choice?.bind ofText?

end PathDomain

namespace Chain

structure AccountKey where
  index : UInt32
  /-- In hexadecimal, without a prefix. -/
  publicKey : String
  signAlgo : UInt32
  hashAlgo : UInt32
  weight : UInt32
  sequenceNumber : UInt64
  revoked : Bool
  deriving DecidableEq

structure Account where
  address : String
  balance : UInt64
  code : String
  keys : List AccountKey
  /-- The source text of each contract by its name. -/
  contracts : Table String String
  deriving DecidableEq

structure StorageItem where
  pathDomain : PathDomain
  pathIdentifier : String
  data : Data
  deriving DecidableEq

instance : JsonForm AccountKey where
  toJson k := .object [
    ("index", toJson k.index), ("publicKey", toJson k.publicKey), ("signAlgo", toJson k.signAlgo),
    ("hashAlgo", toJson k.hashAlgo), ("weight", toJson k.weight),
    ("sequenceNumber", toJson k.sequenceNumber), ("revoked", toJson k.revoked)]
  ofJson? := Reader.run? do
    let index ← Reader.field "index"
    let publicKey ← Reader.field "publicKey"
    let signAlgo ← Reader.field "signAlgo"
    let hashAlgo ← Reader.field "hashAlgo"
    let weight ← Reader.field "weight"
    let sequenceNumber ← Reader.field "sequenceNumber"
    let revoked ← Reader.fieldOr "revoked" false
    return { index, publicKey, signAlgo, hashAlgo, weight, sequenceNumber, revoked }

instance : JsonForm Account where
  toJson a := .object [
    ("address", toJson a.address), ("balance", toJson a.balance), ("code", toJson a.code),
    ("keys", toJson a.keys), ("contracts", toJson a.contracts)]
  ofJson? := Reader.run? do
    let address ← Reader.field "address"
    let balance ← Reader.field "balance"
    let code ← Reader.fieldOr "code" ""
    let keys ← Reader.fieldOr "keys" []
    let contracts ← Reader.fieldOr "contracts" Table.empty
    return { address, balance, code, keys, contracts }

instance : JsonForm StorageItem where
  toJson i := .object [
    ("pathDomain", toJson i.pathDomain), ("pathIdentifier", toJson i.pathIdentifier),
    ("data", toJson i.data)]
  ofJson? := Reader.run? do
    let pathDomain ← Reader.field "pathDomain"
    let pathIdentifier ← Reader.field "pathIdentifier"
    let data ← Reader.fieldOr "data" Data.null
    return { pathDomain, pathIdentifier, data }

end Chain

end ChainIndex
