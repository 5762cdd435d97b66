import CertEnroll.Proofs.JsonText
import CertEnroll.Record
import CertEnroll.Store.VaultKv

namespace CertEnroll.CertificateRecord

theorem isExact_toJson (r : CertificateRecord) : r.toJson.isExact = true := by
  unfold toJson
  cases r.privateKey <;> rfl

theorem decode_encode (r : CertificateRecord) : decode r.encode = .ok r := by
  rw [decode, decodeOctets, encode, Json.decodeText_octets _ r.isExact_toJson]
  obtain ⟨certificate, chain, key, serial⟩ := r
  cases key <;> rfl

theorem encode_injective : Function.Injective encode := by
  intro r r' he
  apply Except.ok.inj
  rw [← decode_encode, he, decode_encode]

theorem utf8_encode (r : CertificateRecord) : Text.Utf8.decode r.encode = some r.toJson.compact :=
  Text.Utf8.decode_encode _

theorem parse_encode (r : CertificateRecord) :
    ∃ value, Json.parse r.encode = .ok value ∧
      value.member? "private_key" = r.privateKey.map fun key => .string key.exposed := by
  rw [Json.parse, encode, Json.decodeText_octets _ r.isExact_toJson]
  obtain ⟨certificate, chain, key, serial⟩ := r
  cases key <;> exact ⟨_, rfl, rfl⟩

theorem put_encode (kv : VaultKv) (key : String) (r : CertificateRecord) :
    kv.put key r.encode = kv.ask (.write key r.toJson.compact) (VaultKv.readWritten key) := by
  rw [VaultKv.put, VaultKv.writing, utf8_encode]

theorem put_encode_ne_invalidValue (kv : VaultKv) (key : String) (r : CertificateRecord)
    (send : Http.Request → Http.Outcome) (refused : String) :
    (kv.put key r.encode).resolve send ≠ .error (.invalidValue refused) := by
  rw [put_encode, VaultKv.ask, Http.Exchange.resolve]
  -- Whatever the server says, the text was sent to it.
  cases Vault.Reply.ofOutcome (send (kv.request (.write key r.toJson.compact))) <;>
    simp [VaultKv.readWritten, VaultKv.refusal]

/-- A record is all that is read of it again, with the text of its key; a store of texts never refuses it; and its
object has a member for the key exactly if it has a key, so that none is read where none was written. -/
theorem reads_as_written (r : CertificateRecord) :
    (∀ r', decode r.encode = .ok r' ↔ r' = r) ∧
      Text.Utf8.decode r.encode = some r.toJson.compact ∧
      (∀ (kv : VaultKv) (key : String),
        kv.put key r.encode = kv.ask (.write key r.toJson.compact) (VaultKv.readWritten key) ∧
          ∀ send refused, (kv.put key r.encode).resolve send ≠ .error (.invalidValue refused)) ∧
      (∃ value, Json.parse r.encode = .ok value ∧
        value.member? "private_key" = r.privateKey.map fun key => .string key.exposed) ∧
      ∀ key, (∃ r', decode r.encode = .ok r' ∧ r'.privateKey = some key) ↔ r.privateKey = some key := by
  have hdecode (r' : CertificateRecord) : decode r.encode = .ok r' ↔ r' = r := by
    rw [decode_encode, Except.ok.injEq, eq_comm]
  refine ⟨hdecode, r.utf8_encode, fun kv key => ⟨put_encode kv key r, put_encode_ne_invalidValue kv key r⟩,
    r.parse_encode, fun key => ?_⟩
  simp only [hdecode, exists_eq_left]

end CertEnroll.CertificateRecord
