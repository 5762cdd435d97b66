import CertEnroll.Authority.Error
import CertEnroll.Certificate
import CertEnroll.SigningRequest.Basic

namespace CertEnroll

structure ScriptedCa where
  label : String
  submitError : Option AuthorityError
  script : List (Except RetrieveError IssuedSet)
  submitted : List SigningRequest := []
  retrievals : Nat := 0

namespace ScriptedCa

def submissions (ca : ScriptedCa) : Nat :=
  ca.submitted.length

def submit (request : SigningRequest) (ca : ScriptedCa) :
    Except AuthorityError PickupHandle × ScriptedCa :=
  let ca := { ca with submitted := ca.submitted ++ [request] }
  match ca.submitError with
  | some e => (.error e, ca)
  | none => (.ok ⟨s!"{ca.label}-{ca.submissions}"⟩, ca)

def retrieve (ca : ScriptedCa) : Except RetrieveError IssuedSet × ScriptedCa :=
  let ca := { ca with retrievals := ca.retrievals + 1 }
  match ca.script with
  | [] => (.error .pending, ca)
  | outcome :: script => (outcome, { ca with script })

end ScriptedCa

end CertEnroll
