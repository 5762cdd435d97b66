import CertEnroll.Document.Node
import CertEnroll.Json.Printer

namespace CertEnroll

/-- Errors `storageWrite` and `leaseBinding` arise only after the certificate has been issued. -/
inductive Error
  | invalidRequest (message : String)
  | roleNotFound (role : String)
  | unsupportedKeyAlgorithm (keyType : String)
  | unsupportedKeyCurve (curve : String)
  | keyGeneration (message : String)
  | csrEncoding (message : String)
  | caSubmission (message : String)
  | caRetrieval (pickup message : String)
  | pollingExhausted (pickup : String) (attempts : Nat)
  | malformedCertificate (message : String)
  | storageWrite (key serial message : String)
  | leaseBinding (serial message : String)
  | storage (message : String)
  | config (message : String)
  | serialization (cause : Document.DecodeError)
  | io (message : String)
  | internal (message : String)
deriving DecidableEq, Repr

namespace Error

def message : Error → String
  | .invalidRequest m => s!"Invalid request: {m}"
  | .roleNotFound role => s!"Unknown role: {role}"
  | .unsupportedKeyAlgorithm keyType => s!"Can't determine key algorithm {keyType}"
  | .unsupportedKeyCurve curve =>
    s!"Unsupported key curve {Text.quoted curve}, expected one of P224, P256, P384, P521"
  | .keyGeneration m => s!"Key generation failed: {m}"
  | .csrEncoding m => s!"Failed to build certificate signing request: {m}"
  | .caSubmission m => s!"Certificate request submission failed: {m}"
  | .caRetrieval pickup m => s!"Certificate retrieval failed for pickup id {pickup}: {m}"
  | .pollingExhausted pickup attempts => s!"Certificate {pickup} still pending after {attempts} polls"
  | .malformedCertificate m => s!"Malformed certificate: {m}"
  | .storageWrite key serial m =>
    s!"Certificate {serial} was issued but not recorded: write to '{key}' failed: {m}"
  | .leaseBinding serial m =>
    s!"Certificate {serial} was issued and stored but no lease was created: {m}"
  | .storage m => s!"Storage error: {m}"
  | .config m => s!"Configuration error: {m}"
  | .serialization cause => s!"Serialization error: {cause.message Json.floatLayout.format}"
  | .io m => s!"I/O error: {m}"
  | .internal m => s!"Internal error: {m}"

def kind : Error → String
  | .invalidRequest _ => "invalid_request"
  | .roleNotFound _ => "role_not_found"
  | .unsupportedKeyAlgorithm _ => "unsupported_key_algorithm"
  | .unsupportedKeyCurve _ => "unsupported_key_curve"
  | .keyGeneration _ => "key_generation"
  | .csrEncoding _ => "csr_encoding"
  | .caSubmission _ => "ca_submission"
  | .caRetrieval _ _ => "ca_retrieval"
  | .pollingExhausted _ _ => "polling_exhausted"
  | .malformedCertificate _ => "malformed_certificate"
  | .storageWrite _ _ _ => "storage_write"
  | .leaseBinding _ _ => "lease_binding"
  | .storage _ => "storage"
  | .config _ => "config"
  | .serialization _ => "serialization"
  | .io _ => "io"
  | .internal _ => "internal"

def isIssued : Error → Bool
  | .storageWrite _ _ _ | .leaseBinding _ _ => true
  | _ => false

def isIssuedButUnrecorded : Error → Bool
  | .storageWrite _ _ _ => true
  | _ => false

end Error

end CertEnroll
