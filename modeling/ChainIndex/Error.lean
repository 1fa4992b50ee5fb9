/-!
# Errors of the index

An error says which part of the work failed, and how in words. Errors of the chain's gateway, of a
status stream and of the stores may pass with time.
-/

set_option autoImplicit false

namespace ChainIndex

inductive Error where
  /-- The gateway could not answer. -/
  | gateway (reason : String)
  | notFound (what : String)
  /-- A store could not be read or written. -/
  | storage (reason : String)
  | alreadyExists (what : String)
  /-- Data does not have the form that is expected of it. -/
  | decode (reason : String)
  /-- A status stream ended in the middle. -/
  | subscription (reason : String)
  /-- The side effects of an event failed. -/
  | handler (event : String) (reason : String)
  /-- A text that should match event types is no pattern. -/
  | invalidPattern (text : String) (problem : String)
  | other (reason : String)
  deriving DecidableEq

namespace Error

def message : Error → String
  | gateway reason => "Gateway error: " ++ reason
  | notFound what => "Not found: " ++ what
  | storage reason => "Storage error: " ++ reason
  | alreadyExists what => "Entity already exists: " ++ what
  | decode reason => "Decode error: " ++ reason
  | subscription reason => "Subscription error: " ++ reason
  | handler event reason => "Handler error in '" ++ event ++ "': " ++ reason
  | invalidPattern text problem => "invalid event pattern `" ++ text ++ "`: " ++ problem
  | other reason => reason

/-- The gateway or an index does not have a record. -/
def isNotFound : Error → Bool
  | notFound _ => true
  | _ => false

/-- The same operation may succeed later. -/
def isRetryable : Error → Bool
  | gateway _ | subscription _ | storage _ => true
  | _ => false

end Error

end ChainIndex
