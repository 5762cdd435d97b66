import CertEnroll.Enrollment.Trouble
import CertEnroll.Proofs.Entries
import CertEnroll.Proofs.History
import CertEnroll.Proofs.Records

/-!
Keeping an issued certificate, step by step. At each step the store differs from what it was at most under the
keys that the role asks for, and these then hold the whole record; a lease is asked for only when all of them
do. The result tells the first step that failed.
-/

namespace CertEnroll.Enrollment

namespace Binding

def written (b : Binding) (key : String) : Write :=
  ⟨key, b.record.encode, .ok ()⟩

def putting (b : Binding) (key : String) (outcome : Except StoreError Unit) : Event :=
  ⟨.put key b.record.encode, outcome⟩

def creating (b : Binding) (reply : Except Error Lease) : Event :=
  ⟨.createLease b.role secretType b.leaseData, reply⟩

def kept (b : Binding) (keys : List String) : History :=
  keys.map fun key => b.putting key (.ok ())

theorem mem_keys {b : Binding} {key : String} :
    key ∈ b.keys ↔
      b.policy.storeByCommonName = true ∧ key = CertificateRecord.commonNameKey b.commonName ∨
        b.policy.storeBySerial = true ∧ key = CertificateRecord.serialKey b.certificate.storageSerial := by
  simp only [keys, List.mem_append, List.mem_ite_nil_right, List.mem_singleton]

theorem keys_length (b : Binding) : b.keys.length ≤ 2 := by
  unfold keys
  split <;> split <;> simp

end Binding

namespace BindStage

inductive Course (b : Binding) : History → BindStage → Prop
  | writing {done keys : List String} (split : b.keys = done ++ keys) :
    Course b (b.kept done) (.writing keys)
  | unwritten {done rest : List String} {key : String} (cause : StoreError)
    (split : b.keys = done ++ key :: rest) :
    Course b (b.kept done ++ [b.putting key (.error cause)]) (.finished (.error (b.unwritten key cause)))
  | uncreated (cause : Error) (leases : b.policy.generateLease = true) :
    Course b (b.kept b.keys ++ [b.creating (.error cause)]) (.finished (.error (b.unleased cause)))
  | dating (lease : Lease) (leases : b.policy.generateLease = true) :
    Course b (b.kept b.keys ++ [b.creating (.ok lease)]) (.dating lease)
  | committing (lease : Lease) (now : Instant) (leases : b.policy.generateLease = true) :
    Course b (b.kept b.keys ++ [b.creating (.ok lease), ⟨.today, now⟩]) (.committing (dated b now lease))
  | uncommitted (lease : Lease) (now : Instant) (cause : Error) (leases : b.policy.generateLease = true) :
    Course b
      (b.kept b.keys ++
        [b.creating (.ok lease), ⟨.today, now⟩, ⟨.commitLease (dated b now lease), .error cause⟩])
      (.finished (.error (b.unleased cause)))
  | committed (lease : Lease) (now : Instant) (leases : b.policy.generateLease = true) :
    Course b
      (b.kept b.keys ++
        [b.creating (.ok lease), ⟨.today, now⟩, ⟨.commitLease (dated b now lease), .ok ()⟩])
      (.finished (.ok (b.response (some (dated b now lease)))))

variable {b : Binding} {h : History} {stage : BindStage}

theorem Course.step {e : Event} {stage' : BindStage} (hc : Course b h stage)
    (hl : (stage.next b).Leads e stage') : Course b (h ++ [e]) stage' := by
  cases hc with
  | @writing done keys split =>
    cases keys with
    | nil =>
      rw [List.append_nil] at split
      simp only [next] at hl
      split at hl
      · rename_i leases
        obtain ⟨reply, rfl, rfl⟩ := hl
        rw [← split]
        cases reply with
        | ok lease => exact .dating lease leases
        | error cause => exact .uncreated cause leases
      · exact hl.elim
    | cons key keys =>
      obtain ⟨reply, rfl, rfl⟩ := hl
      cases reply with
      | ok =>
        have hk : b.kept done ++ [b.putting key (.ok ())] = b.kept (done ++ [key]) := by
          simp [Binding.kept]
        exact hk ▸ .writing (by simpa using split)
      | error cause => exact .unwritten cause split
  | unwritten => exact hl.elim
  | uncreated => exact hl.elim
  | dating lease leases =>
    obtain ⟨now, rfl, rfl⟩ := hl
    rw [List.append_assoc]
    exact .committing lease now leases
  | committing lease now leases =>
    obtain ⟨reply, rfl, rfl⟩ := hl
    rw [List.append_assoc]
    cases reply with
    | ok => exact .committed lease now leases
    | error cause => exact .uncommitted lease now cause leases
  | uncommitted => exact hl.elim
  | committed => exact hl.elim

theorem course_of_reaches (hr : Reaches (next b) (.start b) h stage) : Course b h stage := by
  induction hr with
  | refl => exact @Course.writing b [] b.keys rfl
  | step _ hl ih => exact ih.step hl

theorem Course.length_le (hc : Course b h stage) : h.length ≤ 5 := by
  have hk := b.keys_length
  cases hc with
  | writing split | unwritten _ split =>
    rw [split] at hk
    simp only [List.length_append, List.length_cons, Binding.kept, List.length_map, List.length_nil] at hk ⊢
    omega
  | uncreated | dating | committing | uncommitted | committed =>
    simp only [List.length_append, List.length_cons, Binding.kept, List.length_map, List.length_nil]
    omega

theorem leads_call {e : Event} {stage' : BindStage} (hl : (stage.next b).Leads e stage') :
    e.call.isKeeping = true ∨ e.call = .today := by
  cases stage with
  | writing keys =>
    cases keys with
    | nil =>
      simp only [next] at hl
      split at hl
      · obtain ⟨_, rfl, rfl⟩ := hl
        exact .inl rfl
      · exact hl.elim
    | cons =>
      obtain ⟨_, rfl, rfl⟩ := hl
      exact .inl rfl
  | dating =>
    obtain ⟨_, rfl, rfl⟩ := hl
    exact .inr rfl
  | committing =>
    obtain ⟨_, rfl, rfl⟩ := hl
    exact .inl rfl
  | finished => exact hl.elim

theorem spares_of_reaches {kind : Call → Bool} (hr : Reaches (next b) (.start b) h stage)
    (hput : ∀ key value, kind (.put key value) = false)
    (hcreate : ∀ role secretType data, kind (.createLease role secretType data) = false)
    (htoday : kind .today = false) (hcommit : ∀ lease, kind (.commitLease lease) = false) :
    h.Spares kind := by
  refine hr.all fun {_ e _} hl => ?_
  rcases leads_call hl with hk | ht
  · cases hcall : e.call with
    | put => exact hput _ _
    | createLease => exact hcreate _ _ _
    | commitLease => exact hcommit _
    | _ =>
      rw [hcall] at hk
      cases hk
  · rw [ht, htoday]

theorem Course.form (hc : Course b h stage) :
    (∃ done, done <+: b.keys ∧ h = b.kept done) ∨
      (∃ done key rest cause, b.keys = done ++ key :: rest ∧
        h = b.kept done ++ [b.putting key (.error cause)]) ∨
      ∃ after, h = b.kept b.keys ++ after ∧ after.writes = [] := by
  cases hc with
  | writing split => exact .inl ⟨_, ⟨_, split.symm⟩, rfl⟩
  | unwritten cause split => exact .inr (.inl ⟨_, _, _, cause, split, rfl⟩)
  | uncreated | dating | committing | uncommitted | committed => exact .inr (.inr ⟨_, rfl, rfl⟩)

end BindStage

namespace Binding

/-- The octets are the whole record of the certificate, with the private key exactly if the role wants it kept. -/
def IsCopy (b : Binding) (octets : Octets) : Prop :=
  ∃ record, CertificateRecord.decode octets = .ok record ∧
    record.certificate = b.certificate.certificate ∧
    record.certificateChain = b.certificate.certificateChain ∧
    record.serialNumber = b.certificate.serialNumber ∧
    record.privateKey = if b.policy.storePrivateKey then some b.privateKey else none

def nameKey (b : Binding) : String :=
  "certs/" ++ b.commonName

def serialKey (b : Binding) : String :=
  "certs/" ++ b.certificate.storageSerial

def Asks (b : Binding) (key : String) : Prop :=
  b.policy.storeByCommonName = true ∧ key = b.nameKey ∨ b.policy.storeBySerial = true ∧ key = b.serialKey

def copies {α : Type} (b : Binding) (entry : String → α) : List α :=
  (if b.policy.storeByCommonName then [entry b.nameKey] else []) ++
    (if b.policy.storeBySerial then [entry b.serialKey] else [])

def AllWritten (b : Binding) (octets : Octets) (h : History) : Prop :=
  h.writes = b.copies fun key => ⟨key, octets, .ok ()⟩

/-- The first write that failed was the one of this key, and nothing more was asked for. -/
def GivesUp (b : Binding) (octets : Octets) (h : History) (key : String) (cause : StoreError) : Prop :=
  (b.policy.storeByCommonName = true ∧ key = b.nameKey ∧ h = [⟨.put key octets, .error cause⟩]) ∨
    (b.policy.storeBySerial = true ∧ key = b.serialKey ∧
      h = (if b.policy.storeByCommonName then [⟨.put b.nameKey octets, .ok ()⟩] else []) ++
        [⟨.put key octets, .error cause⟩])

def asksLease (b : Binding) : Call :=
  .createLease b.role "certificate" (.object [("serial_number", .string b.certificate.serialNumber)])

def Leased (b : Binding) (h : History) : Prop :=
  (∃ lease, ⟨b.asksLease, .ok lease⟩ ∈ h) ∧ ∃ lease, ⟨.commitLease lease, .ok ()⟩ ∈ h

def Unleased (b : Binding) (h : History) (cause : Error) : Prop :=
  ⟨b.asksLease, .error cause⟩ ∈ h ∨ ∃ lease, ⟨.commitLease lease, .error cause⟩ ∈ h

structure Steady (b : Binding) (octets : Octets) (before : String → Option Octets) (h : History) : Prop where
  changed : ∀ key, h.contents before key ≠ before key → b.Asks key ∧ h.contents before key = some octets
  inOrder : h.writes.map Write.key <+: b.copies id
  whole : ∀ write ∈ h.writes, write.value = octets
  succeeded : ∀ {earlier last}, h.writes = earlier ++ [last] → ∀ write ∈ earlier, write.outcome = .ok ()
  lasting : ∀ write ∈ h.writes, write.outcome = .ok () → h.contents before write.key = some write.value
  serialSecond : b.policy.storeByCommonName = true → b.policy.storeBySerial = true →
    ∀ {first second rest}, h.writes = first :: second :: rest →
      first = ⟨b.nameKey, octets, .ok ()⟩ ∧ second.key = b.serialKey
  leasesLast : ∀ {earlier e later}, h = earlier ++ e :: later → e.call.isLeasing = true →
    b.AllWritten octets earlier

structure Concluded (b : Binding) (octets : Octets) (h : History) (result : Except Error IssueResponse) :
    Prop where
  ok_iff : (∃ response, result = .ok response) ↔
    b.AllWritten octets h ∧ (b.policy.generateLease = true → b.Leased h)
  error_iff : ∀ e, result = .error e ↔
    (∃ key cause, b.GivesUp octets h key cause ∧ e = .storageWrite key b.certificate.serialNumber cause.message) ∨
    (∃ cause, b.AllWritten octets h ∧ b.Unleased h cause ∧
      e = .leaseBinding b.certificate.serialNumber cause.message)

variable {b : Binding}

theorem isCopy_record (b : Binding) : b.IsCopy b.record.encode :=
  ⟨b.record, CertificateRecord.decode_encode b.record, rfl, rfl, rfl, rfl⟩

theorem copies_eq {α : Type} (b : Binding) (entry : String → α) : b.copies entry = b.keys.map entry := by
  unfold copies keys
  rw [List.map_append]
  split <;> split <;> rfl

theorem allWritten_iff {h : History} :
    b.AllWritten b.record.encode h ↔ h.writes = b.keys.map b.written := by
  rw [AllWritten, copies_eq]
  rfl

theorem givesUp_iff {h : History} {key : String} {cause : StoreError} :
    b.GivesUp b.record.encode h key cause ↔
      ∃ done rest, b.keys = done ++ key :: rest ∧ h = b.kept done ++ [b.putting key (.error cause)] := by
  have hkeys : b.keys = (if b.policy.storeByCommonName then [b.nameKey] else []) ++
      (if b.policy.storeBySerial then [b.serialKey] else []) := rfl
  constructor
  · rintro (⟨hname, rfl, rfl⟩ | ⟨hserial, rfl, rfl⟩)
    · exact ⟨[], if b.policy.storeBySerial then [b.serialKey] else [], by rw [hkeys, if_pos hname]; rfl, rfl⟩
    · refine ⟨if b.policy.storeByCommonName then [b.nameKey] else [], [], by rw [hkeys, if_pos hserial], ?_⟩
      split <;> rfl
  · rintro ⟨done, rest, hsplit, rfl⟩
    rw [hkeys] at hsplit
    unfold GivesUp
    -- Only the serial number's key has a key before it.
    cases hname : b.policy.storeByCommonName <;> cases hserial : b.policy.storeBySerial <;>
      simp only [hname, hserial, if_true, Bool.false_eq_true, if_false, List.nil_append, List.append_nil,
        List.cons_append] at hsplit ⊢
    · simp at hsplit
    · obtain ⟨rfl, rfl, -⟩ : done = [] ∧ key = b.serialKey ∧ rest = [] := by
        simpa [List.append_eq_singleton_iff] using hsplit.symm
      exact .inr ⟨trivial, rfl, rfl⟩
    · obtain ⟨rfl, rfl, -⟩ : done = [] ∧ key = b.nameKey ∧ rest = [] := by
        simpa [List.append_eq_singleton_iff] using hsplit.symm
      exact .inl ⟨trivial, rfl, rfl⟩
    · rcases done with _ | ⟨first, _ | ⟨second, done⟩⟩
      · obtain ⟨rfl, -⟩ := List.cons.inj hsplit
        exact .inl ⟨trivial, rfl, rfl⟩
      · obtain ⟨rfl, hrest⟩ := List.cons.inj hsplit
        obtain ⟨rfl, -⟩ := List.cons.inj hrest
        exact .inr ⟨trivial, rfl, rfl⟩
      · simp at hsplit

theorem GivesUp.fails {octets : Octets} {h : History} {key : String} {cause : StoreError}
    (hg : b.GivesUp octets h key cause) : key ∈ b.keys ∧ ⟨.put key octets, .error cause⟩ ∈ h := by
  rcases hg with ⟨hname, rfl, rfl⟩ | ⟨hserial, rfl, rfl⟩
  · exact ⟨mem_keys.mpr (.inl ⟨hname, rfl⟩), List.mem_cons_self⟩
  · exact ⟨mem_keys.mpr (.inr ⟨hserial, rfl⟩), List.mem_append_right _ List.mem_cons_self⟩

theorem kept_writes (b : Binding) (keys : List String) : (b.kept keys).writes = keys.map b.written := by
  induction keys with
  | nil => rfl
  | cons key keys ih => exact congrArg (b.written key :: ·) ih

structure Writes (b : Binding) (h : History) (done : List String) (failed : List Write) : Prop where
  writes : h.writes = done.map b.written ++ failed
  ordered : done ++ failed.map Write.key <+: b.keys
  atMostOne : failed.length ≤ 1
  whole : ∀ write ∈ failed, write.value = b.record.encode
  failure : ∀ write ∈ failed, ∃ cause, write.outcome = .error cause

section

variable {before : String → Option Octets} {h : History} {done : List String} {failed : List Write}

theorem Writes.contents (hw : b.Writes h done failed) (key : String) :
    h.contents before key = if key ∈ done then some b.record.encode else before key := by
  -- The one write that may have failed changes nothing.
  have hfail : ∀ contents, failed.foldl Write.apply contents = contents := by
    intro contents
    rcases failed with _ | ⟨write, _ | ⟨_, _⟩⟩
    · rfl
    · obtain ⟨cause, hcause⟩ := hw.failure write (by simp)
      simp [Write.apply, hcause]
    · have := hw.atMostOne
      simp at this
  rw [History.contents, hw.writes, List.foldl_append, hfail]
  exact foldl_apply_ok _ _ _ _

theorem Writes.succeeded (hw : b.Writes h done failed) {earlier : List Write} {last : Write}
    (hs : h.writes = earlier ++ [last]) : ∀ write ∈ earlier, write.outcome = .ok () := by
  have hsub : ∀ write ∈ earlier, write ∈ done.map b.written := by
    rw [hw.writes] at hs
    rcases failed with _ | ⟨write, _ | ⟨_, _⟩⟩
    · intro write hm
      rw [List.append_nil] at hs
      exact hs ▸ List.mem_append_left _ hm
    · obtain ⟨rfl, -⟩ := List.append_inj' hs rfl
      exact fun _ hm => hm
    · have := hw.atMostOne
      simp at this
  intro write hm
  obtain ⟨key, -, rfl⟩ := List.mem_map.mp (hsub write hm)
  rfl

theorem Writes.serialSecond (hw : b.Writes h done failed) (hc : b.policy.storeByCommonName = true)
    (hs : b.policy.storeBySerial = true) {first second : Write} {rest : List Write}
    (h2 : h.writes = first :: second :: rest) :
    first = b.written (CertificateRecord.commonNameKey b.commonName) ∧
      second.key = CertificateRecord.serialKey b.certificate.storageSerial := by
  have hkeys := hw.ordered
  have hmap : done ++ failed.map Write.key = h.writes.map Write.key := by
    rw [hw.writes, List.map_append, List.map_map]
    exact congrArg (· ++ _) (List.map_id' done).symm
  rw [hmap, h2] at hkeys
  simp only [keys, hc, hs, if_true, List.singleton_append, List.map_cons, List.cons_prefix_cons] at hkeys
  obtain ⟨hfirst, hsecond, -⟩ := hkeys
  refine ⟨?_, hsecond⟩
  rw [hw.writes] at h2
  rcases done with _ | ⟨key, done⟩
  · have := hw.atMostOne
    rw [List.map_nil, List.nil_append] at h2
    simp [h2] at this
  · obtain rfl : b.written key = first := (List.cons.inj h2).1
    exact congrArg b.written hfirst

theorem Writes.steady (hw : b.Writes h done failed)
    (hl : ∀ {earlier e later}, h = earlier ++ e :: later → e.call.isLeasing = true →
      b.AllWritten b.record.encode earlier) :
    b.Steady b.record.encode before h where
  changed key hk := by
    rw [hw.contents] at hk ⊢
    split at hk
    · rename_i hm
      have hkeys : key ∈ b.keys := hw.ordered.subset (List.mem_append_left _ hm)
      exact ⟨mem_keys.mp hkeys, if_pos hm⟩
    · exact (hk rfl).elim
  inOrder := by
    rw [copies_eq, List.map_id, hw.writes, List.map_append, List.map_map]
    simpa [Function.comp_def, written] using hw.ordered
  whole write hm := by
    rw [hw.writes] at hm
    rcases List.mem_append.mp hm with hm | hm
    · obtain ⟨key, -, rfl⟩ := List.mem_map.mp hm
      simp only [written]
    · exact hw.whole write hm
  succeeded := hw.succeeded
  lasting write hm ho := by
    rw [hw.writes] at hm
    rcases List.mem_append.mp hm with hm | hm
    · obtain ⟨key, hk, rfl⟩ := List.mem_map.mp hm
      simp only [hw.contents, written]
      rw [if_pos hk]
    · obtain ⟨cause, hcause⟩ := hw.failure write hm
      exact absurd (ho.symm.trans hcause) (by simp)
  serialSecond hc hs := hw.serialSecond hc hs
  leasesLast := hl

end

theorem kept_spares (b : Binding) (keys : List String) : (b.kept keys).Spares Call.isLeasing := by
  intro e he
  obtain ⟨key, -, rfl⟩ := List.mem_map.mp he
  rfl

theorem kept_unfailing (b : Binding) (keys : List String) : ∀ e ∈ b.kept keys, e.isFailure = false := by
  intro e he
  obtain ⟨key, -, rfl⟩ := List.mem_map.mp he
  rfl

theorem mem_after_kept {keys : List String} {after : History} {e : Event} (he : e.call.isLeasing = true) :
    e ∈ b.kept keys ++ after ↔ e ∈ after := by
  refine ⟨fun hm => (List.mem_append.mp hm).resolve_left ?_, List.mem_append_right _⟩
  exact (b.kept_spares keys).not_mem he

theorem leased_after_kept {keys : List String} {after : History} :
    b.Leased (b.kept keys ++ after) ↔
      (∃ lease, b.creating (.ok lease) ∈ after) ∧ ∃ lease, ⟨.commitLease lease, .ok ()⟩ ∈ after :=
  and_congr (exists_congr fun _ => mem_after_kept rfl) (exists_congr fun _ => mem_after_kept rfl)

theorem unleased_after_kept {keys : List String} {after : History} {cause : Error} :
    b.Unleased (b.kept keys ++ after) cause ↔
      b.creating (.error cause) ∈ after ∨ ∃ lease, ⟨.commitLease lease, .error cause⟩ ∈ after :=
  or_congr (mem_after_kept rfl) (exists_congr fun _ => mem_after_kept rfl)

theorem not_allWritten (b : Binding) (done : List String) (key : String) (cause : StoreError) :
    ¬ b.AllWritten b.record.encode (b.kept done ++ [b.putting key (.error cause)]) := by
  intro hw
  have hm : Write.mk key b.record.encode (.error cause) ∈ b.keys.map b.written := by
    rw [← allWritten_iff.mp hw, History.writes_append]
    exact List.mem_append_right _ List.mem_cons_self
  obtain ⟨k, -, hk⟩ := List.mem_map.mp hm
  exact absurd (congrArg Write.outcome hk) (by simp [written])

theorem allWritten_kept (b : Binding) {after : History} (ha : after.writes = []) :
    b.AllWritten b.record.encode (b.kept b.keys ++ after) := by
  rw [allWritten_iff, History.writes_append, ha, kept_writes, List.append_nil]

variable {h : History}

theorem not_givesUp {key : String} {cause : StoreError} (hw : b.AllWritten b.record.encode h) :
    ¬ b.GivesUp b.record.encode h key cause := by
  intro hg
  obtain ⟨done, _, -, rfl⟩ := givesUp_iff.mp hg
  exact b.not_allWritten done key cause hw

theorem concluded_ok {response : IssueResponse} (hw : b.AllWritten b.record.encode h)
    (hl : b.policy.generateLease = true → b.Leased h) (hu : ∀ cause, ¬ b.Unleased h cause) :
    b.Concluded b.record.encode h (.ok response) where
  ok_iff := ⟨fun _ => ⟨hw, hl⟩, fun _ => ⟨response, rfl⟩⟩
  error_iff e := by
    constructor
    · intro he
      cases he
    · rintro (⟨key, cause, hg, -⟩ | ⟨cause, -, hc, -⟩)
      · exact absurd hg (not_givesUp hw)
      · exact absurd hc (hu cause)

theorem concluded_unleased {cause : Error} (hw : b.AllWritten b.record.encode h)
    (hg : b.policy.generateLease = true) (hl : ¬ b.Leased h) (hu : ∀ cause', b.Unleased h cause' ↔ cause' = cause) :
    b.Concluded b.record.encode h (.error (b.unleased cause)) where
  ok_iff := by
    constructor
    · rintro ⟨_, hr⟩
      cases hr
    · exact fun hr => absurd (hr.2 hg) hl
  error_iff e := by
    constructor
    · intro he
      exact .inr ⟨cause, hw, (hu cause).mpr rfl, (Except.error.inj he).symm⟩
    · rintro (⟨key, cause', hg, -⟩ | ⟨cause', -, hc, rfl⟩)
      · exact absurd hg (not_givesUp hw)
      · rw [(hu cause').mp hc]
        rfl

theorem concluded_unwritten {done rest : List String} {key : String} (cause : StoreError)
    (hs : b.keys = done ++ key :: rest) :
    b.Concluded b.record.encode (b.kept done ++ [b.putting key (.error cause)]) (.error (b.unwritten key cause)) where
  ok_iff := by
    constructor
    · rintro ⟨_, hr⟩
      cases hr
    · exact fun hr => absurd hr.1 (b.not_allWritten done key cause)
  error_iff e := by
    constructor
    · intro he
      exact .inl ⟨key, cause, givesUp_iff.mpr ⟨done, rest, hs, rfl⟩, (Except.error.inj he).symm⟩
    · rintro (⟨key', cause', hg, rfl⟩ | ⟨_, hw, -, -⟩)
      · obtain ⟨done', _, -, hh⟩ := givesUp_iff.mp hg
        have hlast := (List.append_inj' hh rfl).2
        simp only [putting, List.cons.injEq, Event.mk.injEq, Call.put.injEq, and_true] at hlast
        obtain ⟨rfl, hcause⟩ := hlast
        cases hcause
        rfl
      · exact absurd hw (b.not_allWritten done key cause)

end Binding

namespace BindStage

variable {b : Binding} {h : History} {stage : BindStage}

theorem Course.leasing {e : Event} {stage' : BindStage} (hc : Course b h stage)
    (hl : (stage.next b).Leads e stage') (he : e.call.isLeasing = true) :
    b.AllWritten b.record.encode h := by
  cases hc with
  | @writing done keys split =>
    cases keys with
    | nil =>
      rw [List.append_nil] at split
      rw [Binding.allWritten_iff, b.kept_writes, split]
    | cons =>
      obtain ⟨_, rfl, -⟩ := hl
      cases he
  | dating =>
    obtain ⟨_, rfl, -⟩ := hl
    cases he
  | committing => exact b.allWritten_kept rfl
  | unwritten | uncreated | uncommitted | committed => exact hl.elim

theorem Course.writes (hc : Course b h stage) : ∃ done failed, b.Writes h done failed := by
  rcases hc.form with ⟨done, hp, rfl⟩ | ⟨done, key, rest, cause, hs, rfl⟩ | ⟨after, rfl, ha⟩
  · refine ⟨done, [], ?_, ?_, by simp, by simp, by simp⟩
    · rw [b.kept_writes, List.append_nil]
    · simpa using hp
  · refine ⟨done, [⟨key, b.record.encode, .error cause⟩], ?_, ?_, by simp, by simp, by simp⟩
    · rw [History.writes_append, b.kept_writes]
      rfl
    · rw [hs]
      exact ⟨rest, by simp⟩
  · refine ⟨b.keys, [], ?_, by simp, by simp, by simp, by simp⟩
    rw [History.writes_append, b.kept_writes, ha]

theorem Course.concluded {result : Except Error IssueResponse} (hc : Course b h stage)
    (hd : stage.next b = .done result) : b.Concluded b.record.encode h result := by
  cases hc with
  | @writing done keys split =>
    cases keys with
    | cons key keys => cases hd
    | nil =>
      rw [List.append_nil] at split
      rw [← split]
      simp only [next] at hd
      split at hd
      · cases hd
      · rename_i hg
        cases hd
        have hu (cause : Error) : ¬ b.Unleased (b.kept b.keys) cause := by
          have hspares := b.kept_spares b.keys
          rintro (hm | ⟨lease, hm⟩)
          · exact hspares.not_mem rfl hm
          · exact hspares.not_mem rfl hm
        exact Binding.concluded_ok (Binding.allWritten_iff.mpr (b.kept_writes b.keys)) (fun hg' => absurd hg' hg) hu
  | unwritten cause split =>
    cases hd
    exact Binding.concluded_unwritten cause split
  | uncreated cause leases =>
    cases hd
    apply Binding.concluded_unleased (b.allWritten_kept rfl) leases
    · rw [Binding.leased_after_kept]
      simp [Binding.creating]
    · intro cause'
      rw [Binding.unleased_after_kept]
      simp [Binding.creating]
  | dating => cases hd
  | committing => cases hd
  | uncommitted lease now cause leases =>
    cases hd
    apply Binding.concluded_unleased (b.allWritten_kept rfl) leases
    · rw [Binding.leased_after_kept]
      simp [Binding.creating]
    · intro cause'
      rw [Binding.unleased_after_kept]
      simp [Binding.creating]
  | committed lease now leases =>
    cases hd
    apply Binding.concluded_ok (b.allWritten_kept rfl)
    · intro _
      rw [Binding.leased_after_kept]
      simp [Binding.creating]
    · intro cause
      rw [Binding.unleased_after_kept]
      simp [Binding.creating]

theorem Course.unfailing {response : IssueResponse} (hc : Course b h stage)
    (hd : stage.next b = .done (.ok response)) : ∀ e ∈ h, e.isFailure = false := by
  cases hc with
  | writing => exact b.kept_unfailing _
  | committed lease now =>
    refine List.forall_mem_append.mpr ⟨b.kept_unfailing _, ?_⟩
    simp [Binding.creating, Event.isFailure]
  | unwritten | uncreated | dating | committing | uncommitted => cases hd

theorem steady_of_reaches (before : String → Option Octets) (hr : Reaches (next b) (.start b) h stage) :
    b.Steady b.record.encode before h := by
  obtain ⟨done, failed, hw⟩ := (course_of_reaches hr).writes
  refine hw.steady fun hs he => ?_
  obtain ⟨_, _, hearlier, hl⟩ := hr.split hs
  exact (course_of_reaches hearlier).leasing hl he

theorem concluded_of_ends {result : Except Error IssueResponse} (he : Ends (next b) (.start b) h result) :
    b.Concluded b.record.encode h result := by
  obtain ⟨stage, hr, hd⟩ := he
  exact (course_of_reaches hr).concluded hd

end BindStage

/-- Whatever fails and wherever keeping a certificate is broken off, the store differs at most under the keys
that the role asks for, which then hold the same octets, the whole record, and leases come last; and it always comes
to a result, which tells what failed. -/
theorem keeps_in_order (b : Binding) (before : String → Option Octets) :
    ∃ octets, b.IsCopy octets ∧
      (∀ {h stage}, Reaches (BindStage.next b) (.start b) h stage → b.Steady octets before h) ∧
      (∀ {h result}, Ends (BindStage.next b) (.start b) h result → b.Concluded octets h result) ∧
      ∀ {ω : Type} (answer : Surroundings ω) (w : ω), ∃ h result w',
        Ends (BindStage.next b) (.start b) h result ∧ Answered answer w h w' ∧
          run (BindStage.next b) answer (fun _ _ => false) 6 (.start b) w = .done result w' := by
  refine ⟨b.record.encode, b.isCopy_record, BindStage.steady_of_reaches before, BindStage.concluded_of_ends, ?_⟩
  intro ω answer w
  exact run_ends (fun hr => (BindStage.course_of_reaches hr).length_le) answer w

def Binding.twofold : Binding where
  role := "web"
  policy := { storeByCommonName := true, storeBySerial := true }
  commonName := "example.com"
  certificate := ⟨"leaf", "leaf\nissuer", "1A:2B", ⟨0, 0⟩⟩
  privateKey := ⟨"key"⟩

theorem keeps_in_order_disk_full :
    ∃ octets h, Binding.twofold.IsCopy octets ∧
      Ends (BindStage.next Binding.twofold) (.start Binding.twofold) h
        (.error (.storageWrite "certs/1a-2b" "1A:2B" "storage backend error: disk full")) ∧
      Binding.twofold.Steady octets (fun _ => none) h ∧
      h.contents (fun _ => none) "certs/example.com" = some octets := by
  have hstart : Reaches (BindStage.next Binding.twofold) (.start Binding.twofold) [] _ := .refl
  have hfirst := hstart.step (e := Binding.twofold.putting "certs/example.com" (.ok ())) ⟨.ok (), rfl, rfl⟩
  have hsecond := hfirst.step (e := Binding.twofold.putting "certs/1a-2b" (.error (.backend "disk full")))
    ⟨.error (.backend "disk full"), rfl, rfl⟩
  obtain ⟨octets, hcopy, hsteady, -⟩ := keeps_in_order Binding.twofold fun _ => none
  have hs := hsteady hsecond
  have hheld := hs.lasting _ List.mem_cons_self rfl
  rw [hs.whole _ List.mem_cons_self] at hheld
  exact ⟨octets, _, hcopy, ⟨_, hsecond, rfl⟩, hs, hheld⟩

theorem Trouble.put_memory (send : Http.Request → Http.Outcome) (t : Trouble) (key : String) (value : Octets)
    (s : MemoryStore) :
    t.put send key value (.memory s) =
      if covers t.unwritable key then (.error (.backend "disk full"), .memory s)
      else (.ok (), .memory (s.put key value)) := by
  unfold put
  split <;> rfl

theorem Trouble.stored (send : Http.Request → Http.Outcome) (t : Trouble) {h : History} {world world' : World}
    {s : MemoryStore} (ha : Answered (t.answer send) world h world') (hs : world.store = .memory s) :
    ∃ s' : MemoryStore, world'.store = .memory s' ∧
      (fun key => s'.get? key) = h.contents fun key => s.get? key := by
  induction ha with
  | refl => exact ⟨s, hs, rfl⟩
  | @step h w' call before ih =>
    obtain ⟨s', hw', hc⟩ := ih
    rw [History.contents_append, ← hc]
    cases call with
    | put key value =>
      have ha : t.answer send (.put key value) w' =
          ((t.put send key value w'.store).1, { w' with store := (t.put send key value w'.store).2 }) := rfl
      rw [ha, hw', put_memory]
      split
      · exact ⟨s', rfl, rfl⟩
      · exact ⟨s'.put key value, rfl, get?_put key value s'⟩
    | createLease | commitLease =>
      refine ⟨s', ?_, rfl⟩
      dsimp only [answer]
      split <;> exact hw'
    | _ => exact ⟨s', hw', rfl⟩

end CertEnroll.Enrollment
