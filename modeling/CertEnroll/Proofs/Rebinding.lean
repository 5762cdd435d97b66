import CertEnroll.Enrollment.World
import CertEnroll.Proofs.Keeping
import CertEnroll.Proofs.Records
import CertEnroll.Proofs.SerialKey
import Mathlib.Data.List.Induction

/-!
Certificates that are kept one after the other in a store that never fails. Serial numbers and names are keys of one
kind, so a certificate is lost from under its serial number when another one with the same serial number is kept,
and also when the name of another one reads like its serial number.
-/

namespace CertEnroll.Enrollment

namespace Binding

def NamedLike (serial : String) (b : Binding) : Prop :=
  b.policy.storeByCommonName = true ∧ b.commonName = Serial.storageForm serial

variable {b : Binding} {serial : String}

theorem serialKey_inj {s s' : String} : CertificateRecord.serialKey s = CertificateRecord.serialKey s' ↔ s = s' := by
  simp only [CertificateRecord.serialKey, ← String.toList_inj, String.toList_append, List.append_right_inj]

theorem serialKey_mem_keys (hs : Serial.IsShown serial) (hb : Serial.IsShown b.certificate.serialNumber) :
    CertificateRecord.serialKey (Serial.storageForm serial) ∈ b.keys ↔
      b.NamedLike serial ∨ b.policy.storeBySerial = true ∧ b.certificate.serialNumber = serial := by
  have hname : CertificateRecord.serialKey (Serial.storageForm serial) =
      CertificateRecord.commonNameKey b.commonName ↔ b.commonName = Serial.storageForm serial :=
    serialKey_inj.trans eq_comm
  have hserial : CertificateRecord.serialKey (Serial.storageForm serial) =
      CertificateRecord.serialKey b.certificate.storageSerial ↔ b.certificate.serialNumber = serial := by
    rw [serialKey_inj, MaterializedCertificate.storageSerial, Serial.storageForm_inj hs hb, eq_comm]
  rw [mem_keys, hname, hserial, NamedLike]

theorem keys_nodup_iff : b.keys.Nodup ↔
    ¬ (b.policy.storeBySerial = true ∧ b.NamedLike b.certificate.serialNumber) := by
  have hkey : CertificateRecord.commonNameKey b.commonName = CertificateRecord.serialKey b.certificate.storageSerial ↔
      b.commonName = b.certificate.storageSerial :=
    serialKey_inj
  rw [NamedLike, ← MaterializedCertificate.storageSerial, ← hkey, keys]
  cases b.policy.storeByCommonName <;> cases b.policy.storeBySerial <;> simp

end Binding

structure Bound where
  job : Binding
  told : History
  result : Except Error IssueResponse
  ends : Ends (BindStage.next job) (.start job) told result
  stored : ∀ write ∈ told.writes, write.outcome = .ok ()

namespace Bound

theorem allWritten (b : Bound) : b.job.AllWritten b.job.record.encode b.told := by
  have hconcluded := BindStage.concluded_of_ends b.ends
  cases hresult : b.result with
  | ok response => exact (hconcluded.ok_iff.mp ⟨response, hresult⟩).1
  | error e =>
    rcases (hconcluded.error_iff e).mp hresult with ⟨key, cause, hg, -⟩ | ⟨cause, hw, -⟩
    · have hm : Write.mk key b.job.record.encode (.error cause) ∈ b.told.writes :=
        List.mem_filterMap.mpr ⟨_, hg.fails.2, rfl⟩
      cases b.stored _ hm
    · exact hw

theorem contents (b : Bound) (before : String → Option Octets) (key : String) :
    b.told.contents before key = if key ∈ b.job.keys then some b.job.record.encode else before key := by
  rw [History.contents, Binding.allWritten_iff.mp b.allWritten]
  exact foldl_apply_ok _ _ _ _

def history (bounds : List Bound) : History :=
  bounds.flatMap told

variable {a : Bound}

theorem history_append (bounds bounds' : List Bound) :
    history (bounds ++ bounds') = history bounds ++ history bounds' :=
  List.flatMap_append

theorem history_singleton (b : Bound) : history [b] = b.told :=
  List.append_nil _

theorem contents_cases {key : String} (before : String → Option Octets) (earlier later : List Bound)
    (ha : key ∈ a.job.keys) :
    (∀ b ∈ later, key ∉ b.job.keys) ∧
        (history (earlier ++ a :: later)).contents before key = some a.job.record.encode ∨
      ∃ b ∈ later, key ∈ b.job.keys ∧
        (history (earlier ++ a :: later)).contents before key = some b.job.record.encode := by
  induction later using List.reverseRecOn with
  | nil =>
    rw [history_append, History.contents_append, history_singleton, contents, if_pos ha]
    exact .inl ⟨List.forall_mem_nil _, rfl⟩
  | append_singleton later b ih =>
    rw [← List.cons_append, ← List.append_assoc, history_append, History.contents_append, history_singleton,
      contents, List.forall_mem_append, List.forall_mem_singleton]
    by_cases hb : key ∈ b.job.keys
    · rw [if_pos hb]
      exact .inr ⟨b, List.mem_append_right _ List.mem_cons_self, hb, rfl⟩
    · rw [if_neg hb]
      rcases ih with ⟨hnone, hheld⟩ | ⟨c, hc, hkey, hheld⟩
      · exact .inl ⟨⟨hnone, hb⟩, hheld⟩
      · exact .inr ⟨c, List.mem_append_left _ hc, hkey, hheld⟩

end Bound

variable {later : List Bound} {a : Bound}

/-- As long as no other certificate with the serial number is kept, the record stays under its key, unless a
certificate is kept under a name that reads like the serial number. If that name is its own, both writes go to one
key. -/
theorem serial_key_kept_iff (before : String → Option Octets) (earlier : List Bound)
    (stored : a.job.policy.storeBySerial = true)
    (shown : ∀ b ∈ a :: later, Serial.IsShown b.job.certificate.serialNumber)
    (others : ∀ b ∈ later, b.job.certificate.serialNumber ≠ a.job.certificate.serialNumber) :
    ((Bound.history (earlier ++ a :: later)).contents before
        (CertificateRecord.serialKey a.job.certificate.storageSerial) = some a.job.record.encode ↔
      ∀ b ∈ later, ¬ b.job.NamedLike a.job.certificate.serialNumber) ∧
    (a.job.keys.Nodup ↔ ¬ a.job.NamedLike a.job.certificate.serialNumber) := by
  rw [List.forall_mem_cons] at shown
  have hkey (b : Bound) (hb : b ∈ later) :
      CertificateRecord.serialKey a.job.certificate.storageSerial ∈ b.job.keys ↔
        b.job.NamedLike a.job.certificate.serialNumber := by
    rw [MaterializedCertificate.storageSerial, Binding.serialKey_mem_keys shown.1 (shown.2 b hb)]
    exact or_iff_left fun h => others b hb h.2
  have ha : CertificateRecord.serialKey a.job.certificate.storageSerial ∈ a.job.keys :=
    Binding.mem_keys.mpr (.inr ⟨stored, rfl⟩)
  constructor
  · rcases Bound.contents_cases before earlier later ha with ⟨hnone, hheld⟩ | ⟨b, hb, hnamed, hheld⟩
    · rw [hheld]
      exact iff_of_true rfl fun b hb hn => hnone b hb ((hkey b hb).mpr hn)
    · -- Records of different certificates are never the same.
      have hne : some b.job.record.encode ≠ some a.job.record.encode := by
        intro he
        have hrecord := CertificateRecord.encode_injective (Option.some.inj he)
        exact others b hb (congrArg CertificateRecord.serialNumber hrecord)
      rw [hheld]
      exact iff_of_false hne fun hnone => hnone b hb ((hkey b hb).mp hnamed)
  · rw [Binding.keys_nodup_iff, stored]
    simp

def Binding.numbered : Binding where
  role := "web"
  policy := { storeBySerial := true }
  commonName := "example.com"
  certificate := ⟨"leaf", "leaf\nissuer", "1A:2B:03", ⟨0, 0⟩⟩
  privateKey := ⟨"key"⟩

def Binding.namesake : Binding where
  role := "web"
  policy := { storeByCommonName := true }
  commonName := "1a-2b-03"
  certificate := ⟨"other", "other\nissuer", "4D:5E", ⟨0, 0⟩⟩
  privateKey := ⟨"key"⟩

def Binding.twice : Binding :=
  { Binding.numbered with
    policy := { storeByCommonName := true, storeBySerial := true }
    commonName := "1a-2b-03" }

def Bound.numbered : Bound where
  job := .numbered
  told := [Binding.numbered.putting "certs/1a-2b-03" (.ok ())]
  result := .ok (Binding.numbered.response none)
  ends := ⟨.writing [], Reaches.refl.step ⟨.ok (), rfl, rfl⟩, rfl⟩
  stored := List.forall_mem_singleton.mpr rfl

def Bound.namesake : Bound where
  job := .namesake
  told := [Binding.namesake.putting "certs/1a-2b-03" (.ok ())]
  result := .ok (Binding.namesake.response none)
  ends := ⟨.writing [], Reaches.refl.step ⟨.ok (), rfl, rfl⟩, rfl⟩
  stored := List.forall_mem_singleton.mpr rfl

theorem serial_key_kept_iff_namesake :
    (Bound.history [.numbered]).contents (fun _ => none) "certs/1a-2b-03" =
        some Binding.numbered.record.encode ∧
      (Bound.history [.numbered, .namesake]).contents (fun _ => none) "certs/1a-2b-03" ≠
        some Binding.numbered.record.encode := by
  have hkey : CertificateRecord.serialKey Binding.numbered.certificate.storageSerial = "certs/1a-2b-03" := by
    decide
  have hshown : Serial.IsShown Binding.numbered.certificate.serialNumber := by decide
  have hother : Serial.IsShown Binding.namesake.certificate.serialNumber := by decide
  have hlike : Binding.namesake.NamedLike Binding.numbered.certificate.serialNumber := ⟨rfl, by decide⟩
  have alone := serial_key_kept_iff (fun _ => none) [] rfl
    (List.forall_mem_singleton.mpr hshown : ∀ b ∈ [Bound.numbered], _) (List.forall_mem_nil _)
  have joined := serial_key_kept_iff (fun _ => none) [] rfl
    (List.forall_mem_cons.mpr ⟨hshown, List.forall_mem_singleton.mpr hother⟩ :
      ∀ b ∈ [Bound.numbered, Bound.namesake], _)
    (List.forall_mem_singleton.mpr (by decide))
  constructor
  · rw [← hkey]
    exact alone.1.mpr (List.forall_mem_nil _)
  · rw [← hkey]
    exact fun hheld => joined.1.mp hheld _ List.mem_cons_self hlike

def World.around (store : MemoryStore) : World where
  roles := .listed []
  authority := .scripted ⟨"scripted", none, [], [], 0⟩
  store := .memory store
  leases := {}
  leaseMount := "pki"
  chance := .ofSeed .sha256 []
  clock := 0
  today := ⟨0, 0⟩
  metrics := {}

/-- The certificate with the serial number is lost when the one with the name is kept. If the name is its own, two
writes leave one copy. -/
theorem namesake_takes_serial_key :
    ∃ names first second twofold,
      SubjectNames.normalize "1a-2b-03" [] = .ok names ∧ names.commonName = Binding.namesake.commonName ∧
      Binding.namesake.certificate.serialNumber ≠ Binding.numbered.certificate.serialNumber ∧
      run (BindStage.next .numbered) (World.answer fun _ => .unreachable) (fun _ _ => false) 6 (.start .numbered)
        (.around {}) = .done (.ok (Binding.numbered.response none)) (.around first) ∧
      first.get? "certs/1a-2b-03" = some Binding.numbered.record.encode ∧
      run (BindStage.next .namesake) (World.answer fun _ => .unreachable) (fun _ _ => false) 6 (.start .namesake)
        (.around first) = .done (.ok (Binding.namesake.response none)) (.around second) ∧
      second.get? "certs/1a-2b-03" = some Binding.namesake.record.encode ∧
      Binding.namesake.record.encode ≠ Binding.numbered.record.encode ∧
      run (BindStage.next .twice) (World.answer fun _ => .unreachable) (fun _ _ => false) 6 (.start .twice)
        (.around {}) = .done (.ok (Binding.twice.response none)) (.around twofold) ∧
      twofold.size = 1 := by
  refine ⟨⟨"1a-2b-03", ["1a-2b-03"]⟩, _, _, _, ?_, rfl, by decide, rfl, ?_, rfl, ?_, ?_, rfl, ?_⟩
  all_goals decide

end CertEnroll.Enrollment
