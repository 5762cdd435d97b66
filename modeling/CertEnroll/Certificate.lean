import CertEnroll.Der.Certificate
import CertEnroll.Error
import CertEnroll.Pem
import CertEnroll.Serial

/-!
Issued certificates: as a CA hands them out, and with what is kept of them. The chain is the leaf followed
by the issuing certificates, one below the other.
-/

namespace CertEnroll

structure IssuedSet where
  certificate : String
  chain : List String
deriving DecidableEq, Repr

structure MaterializedCertificate where
  certificate : String
  certificateChain : String
  serialNumber : String
  notAfter : Instant
deriving DecidableEq, Repr

namespace MaterializedCertificate

def storageSerial (c : MaterializedCertificate) : String :=
  Serial.storageForm c.serialNumber

end MaterializedCertificate

def leafContents (certificate : String) : Except Error (List UInt8) :=
  match Pem.read certificate with
  | .error flaw =>
    .error (.malformedCertificate s!"PEM decode failed: Parsing Error: {flaw.name}")
  | .ok block =>
    if block.label = Pem.certificateLabel then .ok block.contents
    else .error (.malformedCertificate s!"expected a CERTIFICATE block, found {block.label}")

def IssuedSet.materialize (set : IssuedSet) : Except Error MaterializedCertificate := do
  let certificate := Text.trim set.certificate
  let contents ← leafContents certificate
  match Der.readCertificate contents with
  | none => throw (.malformedCertificate "DER parse failed")
  | some leaf =>
    return {
      certificate
      certificateChain := Pem.joinBundle (certificate :: set.chain.map Text.trim)
      serialNumber := Serial.format leaf.serial
      notAfter := ⟨leaf.notAfter, 0⟩ }

theorem leafContents_eq_ok {certificate : String} {contents : List UInt8} :
    leafContents certificate = .ok contents ↔ Pem.read certificate = .ok ⟨Pem.certificateLabel, contents⟩ := by
  unfold leafContents
  cases hread : Pem.read certificate with
  | error flaw => simp
  | ok block =>
    obtain ⟨label, octets⟩ := block
    by_cases hl : label = Pem.certificateLabel <;> simp [hl]

theorem IssuedSet.materialize_eq_ok {issued : IssuedSet} {kept : MaterializedCertificate} :
    issued.materialize = .ok kept ↔
      ∃ contents leaf, leafContents (Text.trim issued.certificate) = .ok contents ∧
        Der.readCertificate contents = some leaf ∧
        kept = {
          certificate := Text.trim issued.certificate
          certificateChain := Pem.joinBundle (Text.trim issued.certificate :: issued.chain.map Text.trim)
          serialNumber := Serial.format leaf.serial
          notAfter := ⟨leaf.notAfter, 0⟩ } := by
  simp only [materialize, bind, Except.bind]
  cases hcontents : leafContents (Text.trim issued.certificate) with
  | error e => simp
  | ok contents =>
    cases hleaf : Der.readCertificate contents with
    | none => simp [hleaf, throw, throwThe, MonadExceptOf.throw]
    | some leaf => simp [hleaf, pure, Except.pure, eq_comm]

end CertEnroll
