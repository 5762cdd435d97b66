import CertEnroll.Enrollment.Bind
import CertEnroll.Enrollment.Poll
import CertEnroll.Roles

/-!
A whole enrollment: the role is looked up, a key and a request are made, a certificate is obtained and kept.
Nothing is kept before the certificate is there and could be read. Each enrollment counts once.
-/

namespace CertEnroll.Enrollment

structure Wish where
  role : String
  commonName : String
  altNames : List String
deriving DecidableEq, Repr

structure Plan where
  policy : RolePolicy
  names : SubjectNames
  spec : KeySpec
deriving DecidableEq, Repr

structure Prepared where
  policy : RolePolicy
  request : SigningRequest
  key : KeyMaterial
deriving Repr

inductive IssueStage
  | finding
  | preparing (plan : Plan)
  | obtaining (prepared : Prepared) (stage : ObtainStage)
  | binding (job : Binding) (stage : BindStage)
  | counting (result : Except Error IssueResponse)
  | finished (result : Except Error IssueResponse)

namespace Wish

def plan (w : Wish) (found : Except Error (Option RolePolicy)) : Except Error Plan := do
  let policy ← RoleBook.require w.role found
  let names ← SubjectNames.normalize w.commonName w.altNames
  let spec ← policy.keySpec
  return ⟨policy, names, spec⟩

def prepare (plan : Plan) (seed : Octets) : Except Error Prepared := do
  let (request, key) ← SigningRequest.build plan.names plan.spec seed
  return ⟨plan.policy, request, key⟩

def job (w : Wish) (p : Prepared) (issued : IssuedSet) : Except Error Binding := do
  let certificate ← issued.materialize
  return ⟨w.role, p.policy, p.request.names.commonName, certificate, p.key.privateKeyPem⟩

end Wish

def resultLabel : Except Error IssueResponse → String
  | .ok _ => "issued"
  | .error e => e.kind

namespace IssueStage

abbrev After := Next IssueStage (Except Error IssueResponse)

def nextCounting (w : Wish) (result : Except Error IssueResponse) : After :=
  .ask (.count (.enrollment w.role (resultLabel result))) fun _ => .finished result

def nextBinding (w : Wish) (job : Binding) (stage : BindStage) : After :=
  (stage.next job).within (.binding job) (nextCounting w)

def nextObtained (w : Wish) (p : Prepared) : Except Error IssuedSet → After
  | .error e => nextCounting w (.error e)
  | .ok issued =>
    match w.job p issued with
    | .error e => nextCounting w (.error e)
    | .ok job => nextBinding w job (.start job)

def next (polling : PollPolicy) (w : Wish) : IssueStage → After
  | .finding =>
    .ask (.findRole w.role) fun found =>
      match w.plan found with
      | .ok plan => .preparing plan
      | .error e => .counting (.error e)
  | .preparing plan =>
    .ask .chance fun seed =>
      match Wish.prepare plan seed with
      | .ok prepared => .obtaining prepared .submitting
      | .error e => .counting (.error e)
  | .obtaining p stage => (stage.next polling p.request).within (.obtaining p) (nextObtained w p)
  | .binding job stage => nextBinding w job stage
  | .counting result => nextCounting w result
  | .finished result => .done result

end IssueStage

end CertEnroll.Enrollment
