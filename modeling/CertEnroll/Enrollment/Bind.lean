import CertEnroll.Enrollment.Call
import CertEnroll.Record
import CertEnroll.Response

/-!
Keeping an issued certificate. The record is written under the keys that the role asks for, one after the
other, and then a lease is made; the first failure ends it, and what was written stays.
-/

namespace CertEnroll.Enrollment

structure Binding where
  role : String
  policy : RolePolicy
  commonName : String
  certificate : MaterializedCertificate
  privateKey : Secret
deriving Repr

namespace Binding

def record (b : Binding) : CertificateRecord where
  certificate := b.certificate.certificate
  certificateChain := b.certificate.certificateChain
  privateKey := if b.policy.storePrivateKey then some b.privateKey else none
  serialNumber := b.certificate.serialNumber

def keys (b : Binding) : List String :=
  (if b.policy.storeByCommonName then [CertificateRecord.commonNameKey b.commonName] else []) ++
    (if b.policy.storeBySerial then [CertificateRecord.serialKey b.certificate.storageSerial] else [])

def response (lease : Option Lease) (b : Binding) : IssueResponse where
  commonName := b.commonName
  serialNumber := b.certificate.serialNumber
  certificate := b.certificate.certificate
  certificateChain := b.certificate.certificateChain
  privateKey := b.privateKey
  lease
  warnings := [IssueResponse.privateKeyWarning]

def secretType : String := "certificate"

def leaseData (b : Binding) : Json :=
  .object [("serial_number", .string b.certificate.serialNumber)]

def unwritten (key : String) (e : StoreError) (b : Binding) : Error :=
  .storageWrite key b.certificate.serialNumber e.message

def unleased (e : Error) (b : Binding) : Error :=
  .leaseBinding b.certificate.serialNumber e.message

end Binding

inductive BindStage
  | writing (keys : List String)
  | dating (lease : Lease)
  | committing (lease : Lease)
  | finished (result : Except Error IssueResponse)

namespace BindStage

def start (b : Binding) : BindStage :=
  .writing b.keys

/-- A certificate that has expired gives a lease of negative length. -/
def dated (b : Binding) (now : Instant) (lease : Lease) : Lease :=
  { lease with ttl := b.certificate.notAfter.since now }

def next (b : Binding) : BindStage → Next BindStage (Except Error IssueResponse)
  | .writing (key :: keys) =>
    .ask (.put key b.record.encode) fun
      | .ok () => .writing keys
      | .error e => .finished (.error (b.unwritten key e))
  | .writing [] =>
    if b.policy.generateLease then
      .ask (.createLease b.role Binding.secretType b.leaseData) fun
        | .ok lease => .dating lease
        | .error e => .finished (.error (b.unleased e))
    else .done (.ok (b.response none))
  | .dating lease => .ask .today fun now => .committing (dated b now lease)
  | .committing lease =>
    .ask (.commitLease lease) fun
      | .ok () => .finished (.ok (b.response (some lease)))
      | .error e => .finished (.error (b.unleased e))
  | .finished result => .done result

end BindStage

end CertEnroll.Enrollment
