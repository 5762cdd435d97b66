import CertEnroll.Proofs.Issued
import CertEnroll.Proofs.Sharing

namespace CertEnroll

/-- What the CA gave as it is shown: without blanks around its parts, with the serial number that is in it. -/
structure IssuedSet.Shown (issued : IssuedSet) (certificate chain serialNumber : String) : Prop where
  certificate : certificate = Text.trim issued.certificate
  chain : chain = Pem.joinBundle (Text.trim issued.certificate :: issued.chain.map Text.trim)
  serialNumber : ∃ contents leaf, Pem.read (Text.trim issued.certificate) = .ok ⟨Pem.certificateLabel, contents⟩ ∧
    Der.readCertificate contents = some leaf ∧ serialNumber = Serial.format leaf.serial

theorem IssuedSet.shown {issued : IssuedSet} {kept : MaterializedCertificate} (hm : issued.materialize = .ok kept) :
    issued.Shown kept.certificate kept.certificateChain kept.serialNumber := by
  obtain ⟨contents, leaf, hcontents, hleaf, rfl⟩ := materialize_eq_ok.mp hm
  exact ⟨rfl, rfl, contents, leaf, leafContents_eq_ok.mp hcontents, hleaf, rfl⟩

namespace Enrollment

open Sharing

variable {ι : Type}

structure Prepared.Gets (p : Prepared) (issued : IssuedSet) (response : IssueResponse) : Prop where
  shown : issued.Shown response.certificate response.certificateChain response.serialNumber
  privateKey : response.privateKey = p.key.privateKeyPem
  commonName : response.commonName = p.request.names.commonName

def Prepared.Records (p : Prepared) (issued : IssuedSet) (octets : Octets) : Prop :=
  ∃ record, CertificateRecord.decode octets = .ok record ∧
    issued.Shown record.certificate record.certificateChain record.serialNumber ∧
    record.privateKey = if p.policy.storePrivateKey then some p.key.privateKeyPem else none

structure Served (ca : LocalCa) (w : Wish) (who : ι) (visits : List (Visit LocalCa.Submission ι)) (own : History)
    (p : Prepared) (issued : IssuedSet) (job : Binding) : Prop where
  requested : ∃ first later, own = first ++ later ∧ w.Requests first p
  submittedOnce : own.countP (fun e => e.call.isSubmission) = 1
  signed : ∃ sub handle, .submit who sub (.ok handle) ∈ visits ∧ sub.request = p.request ∧
    ca.signed sub = .ok issued
  polled : own.outcomes = List.replicate ca.pendingPolls (.error .pending) ++ [.ok issued]
  read : issued.materialize = .ok job.certificate
  privateKey : job.privateKey = p.key.privateKeyPem
  job : w.job p issued = .ok job

theorem Wish.gets {w : Wish} {p : Prepared} {issued : IssuedSet} {job : Binding} (read : w.job p issued = .ok job)
    (lease : Option Lease) : p.Gets issued (job.response lease) := by
  obtain ⟨certificate, hm, rfl⟩ := Wish.job_eq_ok.mp read
  exact ⟨IssuedSet.shown hm, rfl, rfl⟩

theorem Wish.records {w : Wish} {p : Prepared} {issued : IssuedSet} {job : Binding}
    (read : w.job p issued = .ok job) : p.Records issued job.record.encode := by
  obtain ⟨certificate, hm, rfl⟩ := Wish.job_eq_ok.mp read
  exact ⟨_, CertificateRecord.decode_encode _, IssuedSet.shown hm, rfl⟩

section Stages

variable {polling : PollPolicy} {w : Wish} {h first obtained rest : History}

structure Obtained (polling : PollPolicy) (w : Wish) (h first obtained rest : History) (p : Prepared)
    (issued : IssuedSet) (job : Binding) : Prop where
  split : h = first ++ obtained ++ rest
  requested : w.Requests first p
  obtained : Ends (ObtainStage.next polling p.request) .submitting obtained (.ok issued)
  read : w.job p issued = .ok job
  spares : rest.Spares Call.isPollingOn

theorem BindStage.spares_polling {b : Binding} {stage : BindStage} (hr : Reaches (next b) (.start b) h stage) :
    h.Spares Call.isPollingOn :=
  spares_of_reaches hr (fun _ _ => rfl) (fun _ _ _ => rfl) rfl fun _ => rfl

theorem BindStage.ends_ok {b : Binding} {response : IssueResponse}
    (he : Ends (next b) (.start b) h (.ok response)) : ∃ lease, response = b.response lease := by
  obtain ⟨stage, hr, hd⟩ := he
  cases course_of_reaches hr with
  | @writing done keys split =>
    cases keys with
    | cons => cases hd
    | nil =>
      simp only [next] at hd
      split at hd
      · cases hd
      · cases hd
        exact ⟨none, rfl⟩
  | committed lease now =>
    cases hd
    exact ⟨some (dated b now lease), rfl⟩
  | unwritten | uncreated | dating | committing | uncommitted => cases hd

theorem BindStage.Course.put_leads {b : Binding} {stage stage' : BindStage} {key : String} {value : Octets}
    {reply : Except StoreError Unit} (hc : Course b h stage)
    (hl : (stage.next b).Leads ⟨.put key value, reply⟩ stage') : key ∈ b.keys ∧ value = b.record.encode := by
  cases hc with
  | @writing done keys split =>
    cases keys with
    | nil =>
      simp only [next] at hl
      split at hl
      · obtain ⟨_, he, -⟩ := hl
        cases he
      · exact hl.elim
    | cons first keys =>
      obtain ⟨_, he, -⟩ := hl
      cases he
      rw [split]
      exact ⟨List.mem_append_right _ List.mem_cons_self, rfl⟩
  | dating | committing =>
    obtain ⟨_, he, -⟩ := hl
    cases he
  | unwritten | uncreated | uncommitted | committed => exact hl.elim

namespace IssueStage

theorem ends_ok {response : IssueResponse} (he : Ends (next polling w) .finding h (.ok response)) :
    ∃ first obtained rest p issued job, Obtained polling w h first obtained rest p issued job ∧
      ∃ lease, response = job.response lease := by
  obtain ⟨before, rfl, came⟩ := came_of_ends he
  cases came with
  | @bound first obtained kept p issued job _ requested ends read hkept =>
    refine ⟨first, obtained, kept ++ [counted w (.ok response)], p, issued, job,
      ⟨by simp, requested, ends, read, ?_⟩, BindStage.ends_ok hkept⟩
    obtain ⟨stage, hr, -⟩ := hkept
    exact spares_append.mpr ⟨BindStage.spares_polling hr, spares_cons.mpr ⟨rfl, spares_nil⟩⟩

theorem Course.put_leads {stage stage' : IssueStage} {key : String} {value : Octets}
    {reply : Except StoreError Unit} (hc : Course polling w h stage)
    (hl : (stage.next polling w).Leads ⟨.put key value, reply⟩ stage') :
    ∃ first obtained rest p issued job, Obtained polling w h first obtained rest p issued job ∧
      key ∈ job.keys ∧ value = job.record.encode := by
  have bind {first obtained rest : History} {p : Prepared} {issued : IssuedSet} {job : Binding}
      {stage : BindStage} {stage' : IssueStage} (requested : w.Requests first p)
      (ends : Ends (ObtainStage.next polling p.request) .submitting obtained (.ok issued))
      (read : w.job p issued = .ok job) (kept : Reaches (BindStage.next job) (.start job) rest stage)
      (hl : (nextBinding w job stage).Leads ⟨.put key value, reply⟩ stage') :
      Obtained polling w (first ++ obtained ++ rest) first obtained rest p issued job ∧
        key ∈ job.keys ∧ value = job.record.encode := by
    refine ⟨⟨rfl, requested, ends, read, BindStage.spares_polling kept⟩, ?_⟩
    rcases within_leads.mp hl with ⟨_, hinner, -⟩ | ⟨_, -, _, he, -⟩
    · exact (BindStage.course_of_reaches kept).put_leads hinner
    · cases he
  cases hc with
  | finding | preparing | counting =>
    obtain ⟨_, he, -⟩ := hl
    cases he
  | @obtaining first obtained p stage requested hobtained =>
    rcases within_leads.mp hl with ⟨_, hinner, -⟩ | ⟨result, hd, hl⟩
    · rcases ObtainStage.course_of_reaches hobtained with _ | _ | polled
      · obtain ⟨_, he, -⟩ := hinner
        cases he
      · exact hinner.elim
      · rcases within_leads.mp hinner with ⟨_, hpoll, -⟩ | ⟨_, -, hl⟩
        · rcases PollStage.leads_call hpoll with he | he | ⟨_, he⟩ | ⟨_, he⟩ <;> cases he
        · exact hl.elim
    · cases result with
      | error e =>
        obtain ⟨_, he, -⟩ := hl
        cases he
      | ok issued =>
        simp only [nextObtained] at hl
        split at hl
        · obtain ⟨_, he, -⟩ := hl
          cases he
        · rename_i job read
          have hput := bind requested ⟨stage, hobtained, hd⟩ read .refl hl
          rw [List.append_nil] at hput
          exact ⟨first, obtained, [], p, issued, job, hput⟩
  | binding requested ends read kept => exact ⟨_, _, _, _, _, _, bind requested ends read kept hl⟩
  | finished => exact hl.elim

end IssueStage

theorem Obtained.submission {p : Prepared} {issued : IssuedSet} {job : Binding}
    (ho : Obtained polling w h first obtained rest p issued job) :
    ∃ handle earlier, ⟨.submit p.request, .ok handle⟩ ∈ h ∧
      (∀ {other reply}, ⟨.retrieve other, reply⟩ ∈ h → other = handle) ∧
      h.outcomes = earlier ++ [.ok issued] ∧ ∀ o ∈ earlier, isUndecided o = true := by
  obtain ⟨rfl, requested, ends, -, spares⟩ := ho
  obtain ⟨earlier, houtcomes, hundecided⟩ := ObtainStage.outcomes_ok ends
  obtain ⟨handle, polls, rfl, hpolls⟩ := ObtainStage.ends_ok ends
  have hfirst : first.Spares Call.isPollingOn := requested.spares (fun _ => rfl) rfl
  refine ⟨handle, earlier, by simp, ?_, ?_, hundecided⟩
  · intro other reply hm
    rcases List.mem_append.mp hm with hm | hm
    · rcases List.mem_append.mp hm with hm | hm
      · exact absurd hm (hfirst.not_mem rfl)
      · obtain hm : ⟨.retrieve other, reply⟩ ∈ polls := by simpa using hm
        have hcalls := hpolls.all (fun hl => PollStage.leads_call hl) _ hm
        simpa using hcalls
    · exact absurd hm (spares.not_mem rfl)
  · rw [History.outcomes_append, History.outcomes_append, History.outcomes_eq_nil hfirst,
      History.outcomes_eq_nil spares, List.append_nil, List.nil_append, houtcomes]

end Stages

section Runs

variable [DecidableEq ι] {polling : ι → PollPolicy} {wish : ι → Wish} {ca : LocalCa} {store : MemoryStore}
  {leases : LeaseTable} {moves : List (Move ι)} {m : Move ι} {s s' : Sharing ι} {who : ι}

theorem course_of_run (hr : Run (Step polling wish) (start ca store leases) moves s) (hp : ca.pickups = {})
    (hf : Fresh (visitsOf moves)) :
    PickupTable.Course ca.signed ca.pendingPolls (visitsOf moves) s.desk.ca.pickups :=
  (LocalCa.tended_of_run (desk_of_run hr) hp hf).course

theorem outcomeFor_eq_some {v : Visit LocalCa.Submission ι} {reply : Except RetrieveError IssuedSet} :
    outcomeFor who v = some reply ↔
      (∃ handle e, v = .check who handle (.error e) ∧ reply = .error e) ∨
        ∃ handle, v = .take who handle reply := by
  match v with
  | .submit _ _ _ => simp [outcomeFor]
  | .check _ _ (.ok ()) => simp [outcomeFor]
  | .check task handle (.error e) => by_cases ht : task = who <;> simp [outcomeFor, ht, @eq_comm _ reply]
  | .take task handle other => by_cases ht : task = who <;> simp [outcomeFor, ht]

variable (hr : Run (Step polling wish) (start ca store leases) moves s) (hp : ca.pickups = {})
  (hf : Fresh (visitsOf moves))

include hr hp hf

theorem pending_of_undecided {reply : Except RetrieveError IssuedSet} (hm : reply ∈ (historyOf who moves).outcomes)
    (hu : isUndecided reply = true) : reply = .error .pending := by
  have hc := course_of_run hr hp hf
  rw [outcomes_of_run hr, List.mem_filterMap] at hm
  obtain ⟨v, hv, ho⟩ := hm
  rcases outcomeFor_eq_some.mp ho with ⟨handle, e, rfl, rfl⟩ | ⟨handle, rfl⟩
  · rcases hc.check_reply hv with he | he | he <;> cases he
    · rfl
    · cases hu
  · rcases hc.take_reply hv with rfl | ⟨issued, rfl⟩ <;> cases hu

theorem polled_of_run {sub : LocalCa.Submission} {handle : PickupHandle}
    (hsub : .submit who sub (.ok handle) ∈ visitsOf moves)
    (hown : ∀ {other reply}, ⟨.retrieve other, reply⟩ ∈ historyOf who moves → other = handle) :
    (historyOf who moves).outcomes.count (.error .pending) = (visitsOf moves).countP (Visit.isPending handle) := by
  have hc := course_of_run hr hp hf
  rw [outcomes_of_run hr, List.count, List.countP_filterMap]
  apply List.countP_congr
  intro v hv
  match v with
  | .submit _ _ _ => simp [outcomeFor, Visit.isPending]
  | .check _ _ (.ok ()) => simp [outcomeFor, Visit.isPending]
  | .take task other reply =>
    rcases hc.take_reply hv with rfl | ⟨issued, rfl⟩ <;> by_cases ht : task = who <;>
      simp [outcomeFor, Visit.isPending, PickupTable.unknown, ht]
  | .check task other (.error e) =>
    rcases hc.check_reply hv with he | he | he <;> cases he
    · by_cases ht : task = who
      · subst ht
        have hother : other = handle := hown (mem_historyOf.mpr ⟨_, mem_visitsOf.mp hv, rfl⟩)
        simp [outcomeFor, Visit.isPending, hother]
      · have hother : other ≠ handle := by
          rintro rfl
          obtain ⟨sub', hsub'⟩ := asked_own hr hv rfl
          exact ht (hf.unique hsub' hsub).1
        simp [outcomeFor, Visit.isPending, ht, hother]
    · by_cases ht : task = who <;> simp [outcomeFor, Visit.isPending, PickupTable.unknown, ht]

theorem served_of_obtained {first obtained rest : History} {p : Prepared} {issued : IssuedSet} {job : Binding}
    (ho : Obtained (polling who) (wish who) (historyOf who moves) first obtained rest p issued job) :
    Served ca (wish who) who (visitsOf moves) (historyOf who moves) p issued job := by
  have hreach := reaches_of_run hr who
  have hc := course_of_run hr hp hf
  have hhand := hc.handedOut
  obtain ⟨handle, earlier, hsubmit, hown, houtcomes, hundecided⟩ := ho.submission
  obtain ⟨sub, hrequest, hsub⟩ := (mem_submissions hr).mp hsubmit
  have hpending : ∀ o ∈ earlier, o = .error .pending := by
    intro o hm
    have hmem : o ∈ (historyOf who moves).outcomes := houtcomes ▸ List.mem_append_left _ hm
    exact pending_of_undecided hr hp hf hmem (hundecided o hm)
  -- The last poll took the certificate away that had been signed for the only submission.
  have htake : .take who handle (.ok issued) ∈ visitsOf moves := by
    have hm : .ok issued ∈ (historyOf who moves).outcomes := by simp [houtcomes]
    rw [outcomes_of_run hr, List.mem_filterMap] at hm
    obtain ⟨v, hv, hout⟩ := hm
    rcases outcomeFor_eq_some.mp hout with ⟨_, _, _, he⟩ | ⟨other, rfl⟩
    · cases he
    · obtain rfl : other = handle := hown (mem_historyOf.mpr ⟨_, mem_visitsOf.mp hv, rfl⟩)
      exact hv
  obtain ⟨before, after, hvisits⟩ := List.append_of_mem htake
  have hsigned : ca.signed sub = .ok issued := by
    obtain ⟨task, what, hwhat, hs⟩ := hhand.own hvisits
    have hmem : .submit task what (.ok handle) ∈ visitsOf moves := hvisits ▸ List.mem_append_left _ hwhat
    rw [(hf.unique hsub hmem).2]
    exact hs
  have hcount : earlier.length = ca.pendingPolls := by
    have hpolled := polled_of_run hr hp hf hsub hown
    have hripe := hhand.ripe hvisits
    have hmost := hhand.atMost handle
    have hsplit : (visitsOf moves).countP (Visit.isPending handle) = before.countP (Visit.isPending handle) +
        (Visit.take who handle (.ok issued) :: after).countP (Visit.isPending handle) := by
      rw [hvisits, List.countP_append]
    have hearlier : (historyOf who moves).outcomes.count (.error .pending) = earlier.length := by
      rw [houtcomes, List.count_append, List.count_eq_length.mpr fun o hm => (hpending o hm).symm]
      simp
    omega
  obtain ⟨certificate, hread, hjob⟩ := Wish.job_eq_ok.mp ho.read
  refine ⟨⟨first, obtained ++ rest, by rw [ho.split, List.append_assoc], ho.requested⟩, ?_,
    ⟨sub, handle, hsub, hrequest, hsigned⟩, ?_, ?_, ?_, ho.read⟩
  · apply Nat.le_antisymm (submissions_le_one hreach)
    exact List.countP_pos_iff.mpr ⟨_, hsubmit, rfl⟩
  · rw [houtcomes, ← hcount, List.eq_replicate_iff.mpr ⟨rfl, hpending⟩, List.length_replicate]
  · rw [hjob]
    exact hread
  · rw [hjob]

omit hr hp hf in
theorem Sharing.Step.unput {key : String} (hs : Step polling wish s m s') (hk : m.key? ≠ some key) :
    s'.store.get? key = s.store.get? key := by
  cases hs with
  | visit | pass => rfl
  | call leads answers =>
    generalize hkept : (s.store, s.leases) = kept at answers
    cases answers with
    | put other value =>
      cases hkept
      have hne : key ≠ other := fun h => hk (h ▸ rfl)
      rw [get?_put_apply, if_neg hne]
    | commit =>
      cases hkept
      rfl
    | other =>
      cases hkept
      rfl

omit hr hp hf in
theorem Sharing.Step.put {key : String} (hs : Step polling wish s m s') (hk : m.key? = some key) :
    ∃ who value stage, m = .call who ⟨.put key value, .ok ()⟩ ∧
      (s.next polling wish who).Leads ⟨.put key value, .ok ()⟩ stage ∧ s'.store.get? key = some value := by
  cases hs with
  | visit | pass => cases hk
  | @call who e stage kept leads answers =>
    generalize hkept : (s.store, s.leases) = held at answers
    cases answers with
    | put other value =>
      cases hkept
      obtain rfl : other = key := Option.some.inj hk
      refine ⟨who, value, stage, rfl, leads, ?_⟩
      rw [get?_put_apply, if_pos rfl]
    | commit => cases hk
    | other elsewhere unwritten =>
      obtain ⟨call, reply⟩ := e
      cases call with
      | put => cases unwritten
      | _ => cases hk

/-- What the key holds is the whole record of the last certificate that was put under it. -/
def HoldsLast (ca : LocalCa) (wish : ι → Wish) (moves : List (Move ι)) (key : String) (held : Option Octets) :
    Prop :=
  ∃ earlier who p issued job octets later, moves = earlier ++ .call who ⟨.put key octets, .ok ()⟩ :: later ∧
    (∀ m ∈ later, m.key? ≠ some key) ∧ held = some octets ∧ p.Records issued octets ∧ job.Asks key ∧
      Served ca (wish who) who (visitsOf earlier) (historyOf who earlier) p issued job

omit hf in
theorem kept_of_run (hf : Fresh (visitsOf moves)) (key : String) :
    (∀ m ∈ moves, m.key? ≠ some key) ∧ s.store.get? key = store.get? key ∨
      HoldsLast ca wish moves key (s.store.get? key) := by
  induction hr with
  | refl => exact .inl ⟨List.forall_mem_nil _, rfl⟩
  | @step moves s s' m before hs ih =>
    have hfresh : Fresh (visitsOf moves) := by
      rw [visitsOf_append] at hf
      exact hf.of_append
    by_cases hk : m.key? = some key
    · -- The key was put by an enrollment that has come as far as keeping its certificate.
      obtain ⟨who, value, stage, rfl, leads, hget⟩ := hs.put hk
      obtain ⟨first, obtained, rest, p, issued, job, ho, hmem, rfl⟩ :=
        (IssueStage.course_of_reaches (reaches_of_run before who)).put_leads leads
      exact .inr ⟨moves, who, p, issued, job, _, [], rfl, List.forall_mem_nil _, hget, Wish.records ho.read,
        Binding.mem_keys.mp hmem, served_of_obtained before hp hfresh ho⟩
    · have hget := hs.unput hk
      rcases ih hfresh with ⟨hnone, hstart⟩ |
        ⟨earlier, who, p, issued, job, octets, later, hmoves, hlater, hheld, hrest⟩
      · refine .inl ⟨?_, hget.trans hstart⟩
        exact List.forall_mem_append.mpr ⟨hnone, List.forall_mem_singleton.mpr hk⟩
      · refine .inr ⟨earlier, who, p, issued, job, octets, later ++ [m], ?_, ?_, hget.trans hheld, hrest⟩
        · rw [hmoves, List.append_assoc, List.cons_append]
        · exact List.forall_mem_append.mpr ⟨hlater, List.forall_mem_singleton.mpr hk⟩

omit hr hp hf in
/-- Any number of enrollments, with any wishes and in any order of their steps, share a CA that was new and a
store. Whoever comes to a response got the own certificate with the own key, after one submission and one poll
more than are turned away. Each key that was ever put holds the whole record of the last that put it. -/
theorem enrolls_side_by_side (hr : Run (Step polling wish) (start ca store leases) moves s)
    (hp : ca.pickups = {}) (hf : Fresh (visitsOf moves)) :
    (∀ {who response}, s.next polling wish who = .done (.ok response) →
      ∃ p issued job lease,
        Served ca (wish who) who (visitsOf moves) (historyOf who moves) p issued job ∧
          p.Gets issued response ∧ response = job.response lease) ∧
    ∀ key, (∀ m ∈ moves, m.key? ≠ some key) ∧ s.store.get? key = store.get? key ∨
      HoldsLast ca wish moves key (s.store.get? key) := by
  refine ⟨?_, kept_of_run hr hp hf⟩
  intro who response hdone
  obtain ⟨first, obtained, rest, p, issued, job, ho, lease, hresponse⟩ :=
    IssueStage.ends_ok ⟨_, reaches_of_run hr who, hdone⟩
  exact ⟨p, issued, job, lease, served_of_obtained hr hp hf ho, hresponse ▸ Wish.gets ho.read lease, hresponse⟩

end Runs

open LocalCa (trialCa trialSubmission trialHandle trialIssued)

def sharedPolling (_ : Bool) : PollPolicy := ⟨1, none, none⟩

def Arrives (moves : List (Move Bool)) (desk : LocalCa.Desk Bool) (mine theirs : IssueStage) : Prop :=
  ∃ s, Run (Step sharedPolling fun _ => trialWish) (start trialCa {} {}) moves s ∧ s.desk = desk ∧
    s.stages true = mine ∧ s.stages false = theirs

namespace Arrives

variable {moves : List (Move Bool)} {desk desk' : LocalCa.Desk Bool} {mine theirs stage : IssueStage} {e : Event}

theorem call (h : Arrives moves desk mine theirs) (answers : ∀ kept, ∃ kept', Answers kept e kept')
    (leads : (mine.next (sharedPolling true) trialWish).Leads e stage) :
    Arrives (moves ++ [.call true e]) desk stage theirs := by
  obtain ⟨s, hr, rfl, rfl, rfl⟩ := h
  obtain ⟨kept, answers⟩ := answers (s.store, s.leases)
  exact ⟨_, hr.step (.call leads answers), rfl, rfl, rfl⟩

theorem aside (h : Arrives moves desk mine theirs) (answers : ∀ kept, ∃ kept', Answers kept e kept')
    (leads : (theirs.next (sharedPolling false) trialWish).Leads e stage) :
    Arrives (moves ++ [.call false e]) desk mine stage := by
  obtain ⟨s, hr, rfl, rfl, rfl⟩ := h
  obtain ⟨kept, answers⟩ := answers (s.store, s.leases)
  exact ⟨_, hr.step (.call leads answers), rfl, rfl, rfl⟩

theorem visit {v : Visit LocalCa.Submission Bool} (h : Arrives moves desk mine theirs)
    (done : LocalCa.Step desk v desk') (told : (Move.visit v).told? = some (true, e))
    (leads : (mine.next (sharedPolling true) trialWish).Leads e stage) :
    Arrives (moves ++ [.visit v]) desk' stage theirs := by
  obtain ⟨s, hr, rfl, rfl, rfl⟩ := h
  exact ⟨_, hr.step (.visit done told leads), rfl, rfl, rfl⟩

theorem pass {handle : PickupHandle} {resume : Except RetrieveError IssuedSet → IssueStage}
    (h : Arrives moves desk mine theirs) (done : LocalCa.Step desk (.check true handle (.ok ())) desk')
    (asks : mine.next (sharedPolling true) trialWish = .ask (.retrieve handle) resume) :
    Arrives (moves ++ [.visit (.check true handle (.ok ()))]) desk' mine theirs := by
  obtain ⟨s, hr, rfl, rfl, rfl⟩ := h
  exact ⟨_, hr.step (.pass done asks), rfl, rfl, rfl⟩

end Arrives

def sharedMoves (job : Binding) : List (Move Bool) :=
  [.call true ⟨.findRole "web", .ok (some storingPolicy)⟩, .call true ⟨.chance, [1]⟩,
    .visit (.submit true trialSubmission (.ok trialHandle)), .call true ⟨.clock, (0 : Nat)⟩,
    .visit (.check true trialHandle (.error .pending)), .call true ⟨.count (.poll "pending"), ()⟩,
    .call true ⟨.sleep 1, ()⟩, .visit (.check true trialHandle (.ok ())),
    .call false ⟨.findRole "web", .ok none⟩, .visit (.take true trialHandle (.ok trialIssued)),
    .call true ⟨.count (.poll "issued"), ()⟩, .call true (job.putting "certs/example.com" (.ok ())),
    .call true ⟨.count (.enrollment "web" "issued"), ()⟩]

theorem arrives_shared {certificate : MaterializedCertificate} (hc : trialIssued.materialize = .ok certificate) :
    ∃ desk theirs, Arrives (sharedMoves (trialJob storingPolicy certificate)) desk
      (.finished (.ok ((trialJob storingPolicy certificate).response none))) theirs := by
  let issuing := IssueStage.obtaining (trialPrepared storingPolicy)
  let keeping := IssueStage.binding (trialJob storingPolicy certificate)
  have hjob := job_trial storingPolicy hc
  have quiet {e : Event} (h : e.call.isToAuthority = false) (h' : e.call.isKeeping = false)
      (kept : MemoryStore × LeaseTable) : ∃ kept', Answers kept e kept' := by
    refine ⟨kept, .other h ?_ ?_⟩
    · obtain ⟨call, reply⟩ := e
      cases call <;> first | rfl | cases h'
    · rintro lease rfl
      cases h'
  have start : Arrives [] (LocalCa.desk trialCa) .finding .finding := ⟨_, .refl, rfl, rfl, rfl⟩
  have found : Arrives _ _ (.preparing ⟨storingPolicy, SigningRequest.trialNames, .ec .p256⟩) .finding :=
    start.call (quiet rfl rfl) ⟨.ok (some storingPolicy), rfl, by simp only [plan_trial storingPolicy rfl]⟩
  have prepared : Arrives _ _ (issuing .submitting) .finding :=
    found.call (quiet rfl rfl) ⟨[1], rfl, by simp only [prepare_trial]; rfl⟩
  have submitted : Arrives _ _ (issuing (.polling trialHandle .starting)) .finding :=
    prepared.visit LocalCa.parks_trial rfl ⟨.ok trialHandle, rfl, rfl⟩
  have started : Arrives _ _ (issuing (.polling trialHandle (.retrieving 0 0))) .finding :=
    submitted.call (quiet rfl rfl) ⟨(0 : Nat), rfl, rfl⟩
  have polled : Arrives _ _ (issuing (.polling trialHandle (.counting 0 1 (.error .pending)))) .finding :=
    started.visit LocalCa.turns_away_trial rfl ⟨.error .pending, rfl, rfl⟩
  have counted : Arrives _ _ (issuing (.polling trialHandle (.sleeping 0 1))) .finding :=
    polled.call (quiet rfl rfl) ⟨(), rfl, rfl⟩
  have slept : Arrives _ _ (issuing (.polling trialHandle (.retrieving 0 1))) .finding :=
    counted.call (quiet rfl rfl) ⟨(), rfl, rfl⟩
  have passed := slept.pass (LocalCa.Step.passes true rfl (LocalCa.lookup_ready _)) rfl
  have aside := passed.aside (quiet rfl rfl) ⟨.ok none, rfl, rfl⟩
  have taken : Arrives _ _ (issuing (.polling trialHandle (.counting 0 2 (.ok trialIssued)))) _ :=
    aside.visit (LocalCa.Step.hands_out true rfl (LocalCa.lookup_ready _)) rfl ⟨.ok trialIssued, rfl, rfl⟩
  have obtained : Arrives _ _ (issuing (.polling trialHandle (.finished (.ok trialIssued)))) _ :=
    taken.call (quiet rfl rfl) ⟨(), rfl, rfl⟩
  have hnext := IssueStage.next_obtained (sharedPolling true) trialHandle hjob
  have written : Arrives _ _ (keeping (.writing [])) _ :=
    obtained.call (e := (trialJob storingPolicy certificate).putting "certs/example.com" (.ok ()))
      (fun _ => ⟨_, .put _ _⟩) (by rw [hnext]; exact ⟨.ok (), rfl, rfl⟩)
  have finished : Arrives _ _ (.finished (.ok ((trialJob storingPolicy certificate).response none))) _ :=
    written.call (e := ⟨.count (.enrollment "web" "issued"), ()⟩) (quiet rfl rfl) ⟨(), rfl, rfl⟩
  exact ⟨_, _, finished⟩

theorem enrolls_side_by_side_two :
    ∃ job s, Run (Step sharedPolling fun _ => trialWish) (start trialCa {} {}) (sharedMoves job) s ∧
      s.next sharedPolling (fun _ => trialWish) true = .done (.ok (job.response none)) ∧
      (∃ p issued job' lease, Served trialCa trialWish true (visitsOf (sharedMoves job))
        (historyOf true (sharedMoves job)) p issued job' ∧ p.Gets issued (job.response none) ∧
          job.response none = job'.response lease) ∧
      HoldsLast trialCa (fun _ => trialWish) (sharedMoves job) "certs/example.com"
        (s.store.get? "certs/example.com") := by
  obtain ⟨certificate, hc⟩ := LocalCa.materialize_trial
  obtain ⟨desk, theirs, s, hr, -, hs, -⟩ := arrives_shared hc
  have hfresh : Fresh (visitsOf (sharedMoves (trialJob storingPolicy certificate))) :=
    List.nodup_cons.mpr ⟨List.not_mem_nil, List.nodup_nil⟩
  have hdone : s.next sharedPolling (fun _ => trialWish) true =
      .done (.ok ((trialJob storingPolicy certificate).response none)) := by
    rw [Sharing.next, hs]
    rfl
  obtain ⟨hserved, hkept⟩ := enrolls_side_by_side hr rfl hfresh
  refine ⟨_, s, hr, hdone, hserved hdone, ?_⟩
  rcases hkept "certs/example.com" with ⟨hnone, -⟩ | hheld
  · have hput : .call true ((trialJob storingPolicy certificate).putting "certs/example.com" (.ok ())) ∈
        sharedMoves (trialJob storingPolicy certificate) := by
      simp [sharedMoves]
    exact absurd rfl (hnone _ hput)
  · exact hheld

end Enrollment

end CertEnroll
