import CertEnroll.Document.Decode
import CertEnroll.Http
import CertEnroll.Json.Reader

/-!
Answers of Vault servers. What a successful answer is about stands in its member `data`; a server that
refuses gives its reasons in the member `errors`.
-/

namespace CertEnroll.Vault

inductive Reply
  | data (value : Json)
  | empty
  | refused (status : Nat) (reasons : List String)
  | failed
deriving Repr

namespace Reply

def message : Reply → String
  | .data _ => "An error occurred parsing the response"
  | .empty => "The response data was empty"
  | .refused status _ => s!"The Vault server returned an error (status code {status})"
  | .failed => "An error occurred with the request"

def reasons? (octets : List UInt8) : Option (List String) :=
  match Json.parse octets with
  | .ok body =>
    match body.member? "errors" with
    | some (.array reasons) => reasons.mapM Json.string?
    | _ => none
  | .error _ => none

def ofReply (r : Http.Reply) : Reply :=
  match r.body with
  | .lost _ => .failed
  | .whole octets =>
    if Http.isSuccess r.status then
      if octets.isEmpty then .empty
      else match Json.parse octets with
        | .ok body =>
          match body.member? "data" with
          | some .null | none => .empty
          | some value => .data value
        | .error _ => .failed
    else match reasons? octets with
      | some reasons => .refused r.status reasons
      | none => .failed

def ofOutcome : Http.Outcome → Reply
  | .reply r => ofReply r
  | .invalid | .unreachable | .timedOut => .failed

def isMissing : Reply → Bool
  | .refused 404 _ => true
  | _ => false

end Reply

end CertEnroll.Vault
