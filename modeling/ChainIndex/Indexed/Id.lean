import ChainIndex.Address
import ChainIndex.Chain.Account
import ChainIndex.Decimal

/-!
# Ids of records

The id of a record is made of the fields that tell it from the other records of its kind. Addresses
in ids carry their prefix.
-/

set_option autoImplicit false

namespace ChainIndex.Indexed

def keyId (address publicKey : String) : String := Address.prefixed address ++ "." ++ publicKey

def contractId (address name : String) : String := Address.prefixed address ++ "." ++ name

def eventId (transactionId : String) (eventIndex : UInt32) : String :=
  transactionId ++ "." ++ Decimal.text eventIndex.toNat

def storageItemId (address : String) (domain : PathDomain) (identifier : String) : String :=
  Address.prefixed address ++ "/" ++ domain.text ++ "/" ++ identifier

end ChainIndex.Indexed
