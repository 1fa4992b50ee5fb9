/-!
# Addresses

An address is stored with the prefix `0x`; it may come without one. Case is kept.
-/

set_option autoImplicit false

namespace ChainIndex.Address

/-- The digits of an address, with or without its prefix. -/
def digits : List Char → List Char
  | '0' :: 'x' :: rest => rest
  | text => text

def isPrefixed (address : String) : Bool := ['0', 'x'].isPrefixOf address.toList

/-- The address with its prefix. -/
def prefixed (address : String) : String := if isPrefixed address then address else "0x" ++ address

/-- An address that stands for no account: absent, without digits, or with zeros only. -/
def isNull : Option String → Bool
  | none => true
  | some address => (digits address.toList).all (· == '0')

/-- The accounts that a network starts with, each under the addresses of both ways to generate them:
service account, fungible token, flow token, flow fees. -/
def wellKnown : List String := [
  "0x0000000000000001", "0xf8d6e0586b0a20c7",
  "0x0000000000000002", "0xee82856bf20e2aa6",
  "0x0000000000000003", "0x0ae53cb6e3f42a79",
  "0x0000000000000004", "0xe5a8b7f23e8b548f"]

/-- The addresses of the service account. -/
def service : List String := ["0xf8d6e0586b0a20c7", "0x0000000000000001"]

@[simp] theorem isPrefixed_prefixed (address : String) : isPrefixed (prefixed address) = true := by
  unfold prefixed
  split
  · assumption
  · simp [isPrefixed]

@[simp] theorem prefixed_prefixed (address : String) : prefixed (prefixed address) = prefixed address := by
  rw [prefixed, if_pos (isPrefixed_prefixed address)]

end ChainIndex.Address
