import CertEnroll.Settings.Basic

namespace CertEnroll

structure PickupHandle where
  id : String
deriving DecidableEq, Repr

inductive AuthorityError
  | transport (message : String)
  | rejected (status : Nat) (message : String)
  | invalidResponse (message : String)
  | unknownPickup (id : String)
  | signing (message : String)
deriving DecidableEq, Repr

namespace AuthorityError

def message : AuthorityError → String
  | .transport m => s!"transport error: {m}"
  | .rejected status m => s!"CA rejected the request (status {status}): {m}"
  | .invalidResponse m => s!"unexpected CA response: {m}"
  | .unknownPickup id => s!"unknown pickup id {id}"
  | .signing m => s!"signing failed: {m}"

def kind : AuthorityError → String
  | .transport _ => "transport"
  | .rejected _ _ => "rejected"
  | .invalidResponse _ => "invalid_response"
  | .unknownPickup _ => "unknown_pickup"
  | .signing _ => "signing"

end AuthorityError

inductive RetrieveError
  | pending
  | timeout
  | failed (cause : AuthorityError)
deriving DecidableEq, Repr

namespace RetrieveError

def message : RetrieveError → String
  | .pending => "certificate issuance is still pending"
  | .timeout => "CA timed out while retrieving certificate"
  | .failed cause => cause.message

def kind : RetrieveError → String
  | .pending => "pending"
  | .timeout => "timeout"
  | .failed cause => cause.kind

def isRetryable : RetrieveError → Bool
  | .pending | .timeout => true
  | .failed _ => false

def outcome : RetrieveError → String
  | .pending => "pending"
  | .timeout => "timeout"
  | .failed _ => "error"

end RetrieveError

end CertEnroll
