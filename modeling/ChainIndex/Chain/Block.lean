import ChainIndex.Json.Record

/-!
# Blocks and collections as the chain reports them
-/

set_option autoImplicit false

namespace ChainIndex.Chain

/-- A block's promise that one of its collections exists. -/
structure Guarantee where
  collectionId : String
  signerIds : List String
  deriving DecidableEq

structure Block where
  id : String
  parentId : String
  height : UInt64
  timestamp : Timestamp
  guarantees : List Guarantee
  seals : List Data
  signatures : List String
  deriving DecidableEq

/-- An ordered batch of transaction ids. -/
structure Collection where
  id : String
  transactionIds : List String
  deriving DecidableEq

instance : JsonForm Guarantee where
  toJson g := .object [("collectionId", toJson g.collectionId), ("signerIds", toJson g.signerIds)]
  ofJson? := Reader.run? do
    let collectionId ← Reader.field "collectionId"
    let signerIds ← Reader.fieldOr "signerIds" []
    return { collectionId, signerIds }

instance : JsonForm Block where
  toJson b := .object [
    ("id", toJson b.id), ("parentId", toJson b.parentId), ("height", toJson b.height),
    ("timestamp", toJson b.timestamp), ("collectionGuarantees", toJson b.guarantees),
    ("blockSeals", toJson b.seals), ("signatures", toJson b.signatures)]
  ofJson? := Reader.run? do
    let id ← Reader.field "id"
    let parentId ← Reader.field "parentId"
    let height ← Reader.field "height"
    let timestamp ← Reader.field "timestamp"
    let guarantees ← Reader.fieldOr "collectionGuarantees" []
    let seals ← Reader.fieldOr "blockSeals" []
    let signatures ← Reader.fieldOr "signatures" []
    return { id, parentId, height, timestamp, guarantees, seals, signatures }

instance : JsonForm Collection where
  toJson c := .object [("id", toJson c.id), ("transactionIds", toJson c.transactionIds)]
  ofJson? := Reader.run? do
    let id ← Reader.field "id"
    let transactionIds ← Reader.fieldOr "transactionIds" []
    return { id, transactionIds }

end ChainIndex.Chain
