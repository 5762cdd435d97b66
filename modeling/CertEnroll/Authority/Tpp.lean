import CertEnroll.Authority.Error
import CertEnroll.Certificate
import CertEnroll.Document.Decode
import CertEnroll.Http
import CertEnroll.Json.Reader
import CertEnroll.SigningRequest.Basic
import CertEnroll.Url.Basic

/-!
A Trust Protection Platform as CA. A request is put under a policy folder and gets a distinguished name, by
which the platform is asked until it has the certificate.
-/

namespace CertEnroll

open Http (Exchange)
open Document (Node Decoder)

structure Tpp where
  base : String
  policy : String
  token : Secret
  timeoutSeconds : Nat
deriving DecidableEq, Repr

namespace Tpp

def policyRoot : String := "\\VED\\Policy\\"

def policyOf (zone : String) : String :=
  if policyRoot.toList.isPrefixOf zone.toList then zone
  else policyRoot ++ String.ofList (zone.toList.dropWhile (· = '\\'))

def create (address zone : String) (token : Secret) (timeoutSeconds : Nat) : Tpp :=
  ⟨String.ofList (Text.dropEndWhile (· = '/') address.toList), policyOf zone, token, timeoutSeconds⟩

def requestPath : String := "/vedsdk/certificates/request"

def retrievePath : String := "/vedsdk/certificates/retrieve"

def authorization (t : Tpp) : String :=
  "Bearer " ++ t.token.exposed

/-- Where a request goes. Only addresses of the web are asked, and the token has to fit a header. -/
def target (path : String) (t : Tpp) : Except AuthorityError Url :=
  match Url.parse (t.base ++ path) with
  | .error _ => .error (.transport "builder error")
  | .ok url =>
    if url.host.isNone then .error (.transport s!"builder error for url ({url.text})")
    else if !Http.isHeaderText t.authorization then .error (.transport "builder error")
    else
      let url := { url with user := "" }
      if url.scheme = "http" ∨ url.scheme = "https" then .ok url
      else .error (.transport s!"builder error for url ({url.text})")

def post (url : Url) (body : Json) (t : Tpp) : Http.Request where
  method := .post
  url := url.text
  headers := [("authorization", t.authorization)]
  body := some body

def submission (request : SigningRequest) (t : Tpp) : Json :=
  .object
    [("PolicyDN", .string t.policy), ("PKCS10", .string request.pem),
      ("ObjectName", .string request.names.commonName), ("DisableAutomaticRenewal", .bool true)]

def retrieval (handle : PickupHandle) : Json :=
  .object
    [("CertificateDN", .string handle.id), ("Format", .string "base64"),
      ("IncludeChain", .bool true), ("RootFirstOrder", .bool false)]

def readMember (record member : String) : Decoder String :=
  Document.readRecord .jsonText record [member] [member]
    (fun _ node _ => Document.readString node) ""

def undecodable : AuthorityError := .invalidResponse "error decoding response body"

def readBody (record member : String) : Http.Body → Except AuthorityError String
  | .lost _ => .error undecodable
  | .whole octets =>
    match Json.decodeText (readMember record member) octets with
    | .ok s => .ok s
    | .error _ => .error undecodable

def bodyText : Http.Body → String
  | .lost _ => "<unreadable body>"
  | .whole octets => Text.Utf8.decodeLossy octets

def rejection (reply : Http.Reply) : AuthorityError :=
  .rejected reply.status (bodyText reply.body)

def unsent (url : Url) : AuthorityError :=
  .transport s!"error sending request for url ({url.text})"

def readSubmitted (url : Url) : Http.Outcome → Except AuthorityError PickupHandle
  | .reply reply =>
    if Http.isSuccess reply.status then
      (readBody "CertificateRequestResponse" "CertificateDN" reply.body).map PickupHandle.mk
    else .error (rejection reply)
  | .invalid | .unreachable | .timedOut => .error (unsent url)

def readCertificates (text : String) : Except AuthorityError IssuedSet :=
  let compact := String.ofList (text.toList.filter fun c => !Text.isBlank c)
  match Text.Base64.decode (Text.Utf8.encode compact) with
  | .error flaw => .error (.invalidResponse s!"CertificateData is not base64: {flaw.message}")
  | .ok octets =>
    match Text.Utf8.decode octets with
    | none =>
      let flaw := (Text.Utf8.flaw? octets).getD ""
      .error (.invalidResponse s!"CertificateData is not PEM: {flaw}")
    | some bundle =>
      match Pem.splitBundle bundle with
      | [] => .error (.invalidResponse "CertificateData contains no certificate")
      | certificate :: chain => .ok ⟨certificate, chain⟩

/-- The platform says that it is still working, or that it took too long, by the status. -/
def readReply (reply : Http.Reply) : Except RetrieveError IssuedSet :=
  match reply.status with
  | 200 =>
    match readBody "RetrieveResponse" "CertificateData" reply.body with
    | .error e => .error (.failed e)
    | .ok text => (readCertificates text).mapError .failed
  | 202 => .error .pending
  | 408 | 504 => .error .timeout
  | _ => .error (.failed (rejection reply))

def readRetrieved (url : Url) : Http.Outcome → Except RetrieveError IssuedSet
  | .reply reply => readReply reply
  | .timedOut => .error .timeout
  | .invalid | .unreachable => .error (.failed (unsent url))

def submit (request : SigningRequest) (t : Tpp) : Exchange (Except AuthorityError PickupHandle) :=
  match t.target requestPath with
  | .error e => .ready (.error e)
  | .ok url => .ask (t.post url (t.submission request)) (readSubmitted url)

def retrieve (handle : PickupHandle) (t : Tpp) : Exchange (Except RetrieveError IssuedSet) :=
  match t.target retrievePath with
  | .error e => .ready (.error (.failed e))
  | .ok url => .ask (t.post url (retrieval handle)) (readRetrieved url)

end Tpp

end CertEnroll
