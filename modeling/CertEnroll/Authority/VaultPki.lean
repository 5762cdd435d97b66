import CertEnroll.Authority.Pickup
import CertEnroll.SigningRequest.Basic
import CertEnroll.Uuid
import CertEnroll.Vault.Client
import CertEnroll.Vault.Reply

namespace CertEnroll

open Http (Exchange)

structure VaultPki where
  client : Vault.Client
  mount : String
  role : String
  pickups : PickupTable := {}
deriving Repr

namespace VaultPki

def body (request : SigningRequest) : Json :=
  .ofMembers
    [("csr", .string request.pem), ("common_name", .string request.names.commonName),
      ("alt_names", .string (",".intercalate request.names.altNames))]

def httpRequest (request : SigningRequest) (ca : VaultPki) : Http.Request :=
  ca.client.request .post s!"{ca.mount}/sign/{ca.role}" (some (body request))

def refusal : Vault.Reply → AuthorityError
  | .refused status reasons => .rejected status ("; ".intercalate reasons)
  | reply => .transport s!"Vault PKI sign failed: {reply.message}"

def issued? (value : Json) : Option IssuedSet := do
  let certificate ← (← value.member? "certificate").string?
  let issuer ← (← value.member? "issuing_ca").string?
  let _ ← (← value.member? "serial_number").string?
  let chain ← match value.member? "ca_chain" with
    | some (.array chain) => chain.mapM Json.string?
    | some .null | none => some []
    | some _ => none
  return ⟨certificate, if chain.isEmpty then [issuer] else chain⟩

def readSigned (reply : Vault.Reply) : Except AuthorityError IssuedSet :=
  match reply with
  | .data value =>
    match issued? value with
    | some issued => .ok issued
    | none => .error (refusal .failed)
  | reply => .error (refusal reply)

def park (id : String) (issued : IssuedSet) (ca : VaultPki) : VaultPki :=
  { ca with pickups := ca.pickups.insert id ⟨0, issued⟩ }

def submit (chance : Octets) (request : SigningRequest) (ca : VaultPki) :
    Exchange (Except AuthorityError PickupHandle × VaultPki) :=
  .ask (ca.httpRequest request) fun outcome =>
    match readSigned (.ofOutcome outcome) with
    | .error e => (.error e, ca)
    | .ok issued =>
      let id := Uuid.text (chance.take 16)
      (.ok ⟨id⟩, ca.park id issued)

def retrieve (handle : PickupHandle) (ca : VaultPki) : Except RetrieveError IssuedSet × VaultPki :=
  let (result, pickups) := ca.pickups.take handle.id
  (result, { ca with pickups })

def debug (ca : VaultPki) : String :=
  s!"VaultPkiClient \x7b pki_mount: {Text.quoted ca.mount}, pki_role: {Text.quoted ca.role}, " ++
    s!"pending_pickups: {ca.pickups.size}, client: \"[VaultClient]\" \x7d"

end VaultPki

end CertEnroll
