import CertEnroll.Enrollment.World
import CertEnroll.Proofs.Order

/-!
Failures of enrollments. The error is that of the first phase that fails, and what later phases would have
changed is as it was.
-/

namespace CertEnroll

namespace Error

def kindsUnsubmitted : List String :=
  ["invalid_request", "role_not_found", "unsupported_key_algorithm", "unsupported_key_curve",
    "key_generation", "csr_encoding"]

def kindsUnkept : List String :=
  kindsUnsubmitted ++ ["ca_submission", "ca_retrieval", "polling_exhausted", "malformed_certificate"]

end Error

namespace Enrollment

inductive Phase
  | role
  | names
  | keyPolicy
  | request
  | submission
  | retrieval
  | reading
  | keeping
deriving DecidableEq, Repr

def Phase.place : Phase → Nat
  | .role => 0
  | .names => 1
  | .keyPolicy => 2
  | .request => 3
  | .submission => 4
  | .retrieval => 5
  | .reading => 6
  | .keeping => 7

variable {polling : PollPolicy} {w : Wish} {h h' h'' : History} {p : Prepared} {issued : IssuedSet}

namespace Wish

/-- A phase fails, by the replies of a history that came to a result. -/
inductive Fails (polling : PollPolicy) (w : Wish) (h : History) : Phase → Error → Prop
  | role {found : Except Error (Option RolePolicy)} {e : Error} (asked : ⟨.findRole w.role, found⟩ ∈ h)
    (missing : RoleBook.require w.role found = .error e) : Fails polling w h .role e
  | names {e : Error} (wrong : SubjectNames.normalize w.commonName w.altNames = .error e) :
    Fails polling w h .names e
  | keyPolicy {policy : RolePolicy} {e : Error} (asked : ⟨.findRole w.role, .ok (some policy)⟩ ∈ h)
    (wrong : policy.keySpec = .error e) : Fails polling w h .keyPolicy e
  | request {policy : RolePolicy} {names : SubjectNames} {spec : KeySpec} {seed : Octets} {e : Error}
    (asked : ⟨.findRole w.role, .ok (some policy)⟩ ∈ h)
    (normal : SubjectNames.normalize w.commonName w.altNames = .ok names)
    (supported : policy.keySpec = .ok spec) (drawn : ⟨.chance, seed⟩ ∈ h)
    (unmade : SigningRequest.build names spec seed = .error e) : Fails polling w h .request e
  | submission {request : SigningRequest} {cause : AuthorityError}
    (refused : ⟨.submit request, .error cause⟩ ∈ h) :
    Fails polling w h .submission (.caSubmission cause.message)
  | retrieval {request : SigningRequest} {handle : PickupHandle} {earlier : List Outcome} {last : Outcome}
    {e : Error} (submitted : ⟨.submit request, .ok handle⟩ ∈ h) (polls : h.outcomes = earlier ++ [last])
    (decided : PollStage.Verdict polling handle h.outcomes.length last (.error e)) :
    Fails polling w h .retrieval e
  | reading {handle : PickupHandle} {issued : IssuedSet} {e : Error}
    (retrieved : ⟨.retrieve handle, .ok issued⟩ ∈ h) (unread : issued.materialize = .error e) :
    Fails polling w h .reading e
  | unwritten {key : String} {value : Octets} {cause : StoreError} {certificate : MaterializedCertificate}
    (delivered : h.Delivers certificate) (failed : ⟨.put key value, .error cause⟩ ∈ h) :
    Fails polling w h .keeping (.storageWrite key certificate.serialNumber cause.message)
  | uncreated {role secretType : String} {data : Json} {cause : Error}
    {certificate : MaterializedCertificate} (delivered : h.Delivers certificate)
    (failed : ⟨.createLease role secretType data, .error cause⟩ ∈ h) :
    Fails polling w h .keeping (.leaseBinding certificate.serialNumber cause.message)
  | uncommitted {lease : Lease} {cause : Error} {certificate : MaterializedCertificate}
    (delivered : h.Delivers certificate) (failed : ⟨.commitLease lease, .error cause⟩ ∈ h) :
    Fails polling w h .keeping (.leaseBinding certificate.serialNumber cause.message)

def Clear (polling : PollPolicy) (w : Wish) (h : History) (phase : Phase) : Prop :=
  ∀ earlier : Phase, earlier.place < phase.place → ∀ e, ¬ w.Fails polling h earlier e

/-- The error is that of the first phase that fails. -/
def FailsFirst (polling : PollPolicy) (w : Wish) (h : History) (e : Error) : Prop :=
  ∃ phase, w.Fails polling h phase e ∧ w.Clear polling h phase

end Wish

theorem mem_counted {e : Event} {result : Except Error IssueResponse} (he : e.call.isCount = false) :
    e ∈ h ++ [IssueStage.counted w result] ↔ e ∈ h := by
  refine ⟨fun hm => (List.mem_append.mp hm).resolve_right fun hm => ?_, List.mem_append_left _⟩
  rw [List.mem_singleton.mp hm] at he
  cases he

theorem Phase.place_injective {a b : Phase} (h : a.place = b.place) : a = b := by
  cases a <;> cases b <;> first | rfl | cases h

theorem Phase.place_lt_keeping {phase : Phase} (h : phase ≠ .keeping) :
    phase.place < Phase.keeping.place := by
  cases phase with
  | keeping => exact absurd rfl h
  | _ => decide

namespace Wish

theorem Clear.next {phase phase' : Phase} (hc : w.Clear polling h phase)
    (hp : ∀ e, ¬ w.Fails polling h phase e) (hs : phase'.place = phase.place + 1) :
    w.Clear polling h phase' := by
  intro earlier hlt
  rcases Nat.lt_or_eq_of_le (Nat.lt_succ_iff.mp (hs ▸ hlt)) with hlt | heq
  · exact hc earlier hlt
  · exact Phase.place_injective heq ▸ hp

theorem Fails.congr {h₁ h₂ : History} {phase : Phase} {e : Error}
    (hm : ∀ event ∈ h₁, event.call.isCount = false → event ∈ h₂) (ho : h₁.outcomes = h₂.outcomes)
    (hf : w.Fails polling h₁ phase e) : w.Fails polling h₂ phase e := by
  have hd {certificate : MaterializedCertificate} : h₁.Delivers certificate → h₂.Delivers certificate := by
    rintro ⟨handle, issued, hi, hc⟩
    exact ⟨handle, issued, hm _ hi rfl, hc⟩
  cases hf with
  | role asked missing => exact .role (hm _ asked rfl) missing
  | names wrong => exact .names wrong
  | keyPolicy asked wrong => exact .keyPolicy (hm _ asked rfl) wrong
  | request asked normal supported drawn unmade =>
    exact .request (hm _ asked rfl) normal supported (hm _ drawn rfl) unmade
  | submission refused => exact .submission (hm _ refused rfl)
  | retrieval submitted polls decided =>
    rw [ho] at polls decided
    exact .retrieval (hm _ submitted rfl) polls decided
  | reading retrieved unread => exact .reading (hm _ retrieved rfl) unread
  | unwritten delivered failed => exact .unwritten (hd delivered) (hm _ failed rfl)
  | uncreated delivered failed => exact .uncreated (hd delivered) (hm _ failed rfl)
  | uncommitted delivered failed => exact .uncommitted (hd delivered) (hm _ failed rfl)

theorem fails_counted {phase : Phase} {e : Error} {result : Except Error IssueResponse} :
    w.Fails polling (h ++ [IssueStage.counted w result]) phase e ↔ w.Fails polling h phase e := by
  have ho : History.outcomes (h ++ [IssueStage.counted w result]) = h.outcomes := h.outcomes_quiet rfl
  constructor
  · exact Fails.congr (fun _ hm hcount => (mem_counted hcount).mp hm) ho
  · exact Fails.congr (fun _ hm hcount => (mem_counted hcount).mpr hm) ho.symm

theorem FailsFirst.counted {e : Error} (hf : w.FailsFirst polling h e)
    (result : Except Error IssueResponse) : w.FailsFirst polling (h ++ [IssueStage.counted w result]) e := by
  obtain ⟨phase, hf, hc⟩ := hf
  exact ⟨phase, fails_counted.mpr hf, fun earlier hlt e' hf' => hc earlier hlt e' (fails_counted.mp hf')⟩

theorem clear_role : w.Clear polling h .role :=
  fun _ hlt => absurd hlt (Nat.not_lt_zero _)

variable {policy : RolePolicy} {names : SubjectNames} {spec : KeySpec} {seed : Octets}
  (hrole : ∀ found, ⟨.findRole w.role, found⟩ ∈ h → found = .ok (some policy))
  (hnames : SubjectNames.normalize w.commonName w.altNames = .ok names) (hspec : policy.keySpec = .ok spec)

include hrole

theorem clear_names : w.Clear polling h .names := by
  refine clear_role.next ?_ rfl
  intro e hf
  cases hf with
  | role asked missing =>
    rw [hrole _ asked] at missing
    cases missing

include hnames

theorem clear_keyPolicy : w.Clear polling h .keyPolicy := by
  refine (clear_names hrole).next ?_ rfl
  intro e hf
  cases hf with
  | names wrong =>
    rw [hnames] at wrong
    cases wrong

include hspec

theorem clear_request : w.Clear polling h .request := by
  refine (clear_keyPolicy hrole hnames).next ?_ rfl
  intro e hf
  cases hf with
  | keyPolicy asked wrong =>
    cases hrole _ asked
    rw [hspec] at wrong
    cases wrong

theorem clear_submission {made : SigningRequest × KeyMaterial}
    (hseed : ∀ seed', ⟨.chance, seed'⟩ ∈ h → seed' = seed)
    (hmade : SigningRequest.build names spec seed = .ok made) : w.Clear polling h .submission := by
  refine (clear_request hrole hnames hspec).next ?_ rfl
  intro e hf
  cases hf with
  | request asked normal supported drawn unmade =>
    cases hrole _ asked
    cases hnames.symm.trans normal
    cases hspec.symm.trans supported
    cases hseed _ drawn
    cases hmade.symm.trans unmade

omit hrole hnames hspec

theorem Requests.clear (requested : w.Requests h p) (hs : h'.Spares Call.isPreparing) :
    w.Clear polling (h ++ h') .submission := by
  obtain ⟨planned, prepared⟩ := requested
  obtain ⟨rfl, hn, hk⟩ := plan_eq_ok.mp planned
  obtain ⟨-, hb⟩ := prepare_eq_ok.mp prepared
  refine clear_submission (fun found hm => ?_) hn hk (fun seed' hm => ?_) hb
  · simpa [hs.not_mem (e := ⟨.findRole w.role, found⟩) rfl] using hm
  · simpa [hs.not_mem (e := ⟨.chance, seed'⟩) rfl] using hm

theorem Clear.submitted {rest : History} {request : SigningRequest} {handle : PickupHandle}
    (hc : w.Clear polling (h ++ ⟨.submit request, .ok handle⟩ :: rest) .submission)
    (hs : h.Spares Call.isSubmission) (hs' : rest.Spares Call.isSubmission) :
    w.Clear polling (h ++ ⟨.submit request, .ok handle⟩ :: rest) .retrieval := by
  refine hc.next ?_ rfl
  intro e hf
  cases hf with
  | @submission request cause refused =>
    have hno {h : History} (hs : h.Spares Call.isSubmission) : ⟨.submit request, .error cause⟩ ∉ h :=
      hs.not_mem rfl
    simp [hno hs, hno hs'] at refused

theorem Requests.outcomes (requested : w.Requests h p) (h' : History) :
    History.outcomes (h ++ h') = h'.outcomes := by
  rw [History.outcomes_append,
    History.outcomes_eq_nil (requested.spares (fun _ => rfl) rfl), List.nil_append]

theorem Requests.clear_retrieval {handle : PickupHandle} {stage : PollStage} {polls : History}
    (requested : w.Requests h p) (polled : Reaches (PollStage.next polling handle) .starting polls stage)
    (tail : History) (hp : tail.Spares Call.isPreparing) (hs : tail.Spares Call.isSubmission) :
    w.Clear polling (h ++ ⟨.submit p.request, .ok handle⟩ :: (polls ++ tail)) .retrieval := by
  have hpolls {kind : Call → Bool} (hr : kind (.retrieve handle) = false) (hc : kind .clock = false)
      (hs : ∀ nanos, kind (.sleep nanos) = false) (ht : tail.Spares kind)
      (hn : ∀ sample, kind (.count sample) = false) : History.Spares kind (polls ++ tail) :=
    spares_append.mpr ⟨PollStage.spares_of_reaches polled hr hc hs hn, ht⟩
  have hrest : History.Spares Call.isPreparing (⟨.submit p.request, .ok handle⟩ :: (polls ++ tail)) :=
    spares_cons.mpr ⟨rfl, hpolls rfl rfl (fun _ => rfl) hp (fun _ => rfl)⟩
  have hsubmitted : History.Spares Call.isSubmission (polls ++ tail) :=
    hpolls rfl rfl (fun _ => rfl) hs (fun _ => rfl)
  exact (requested.clear hrest).submitted (requested.spares (fun _ => rfl) rfl) hsubmitted

theorem Clear.retrieved {earlier : List Outcome} (hc : w.Clear polling h .retrieval)
    (ho : h.outcomes = earlier ++ [.ok issued]) : w.Clear polling h .reading := by
  refine hc.next ?_ rfl
  intro e hf
  cases hf with
  | retrieval _ polls decided =>
    rw [ho] at polls
    exact decided.not_ok issued (List.singleton_inj.mp (List.append_inj' polls rfl).2).symm

theorem Requests.outcomes_ok (requested : w.Requests h p)
    (obtained : Ends (ObtainStage.next polling p.request) .submitting h' (.ok issued)) (tail : History)
    (hs : tail.Spares Call.isPollingOn) :
    ∃ earlier, History.outcomes (h ++ h' ++ tail) = earlier ++ [.ok issued] ∧
      ∀ o ∈ earlier, isUndecided o = true := by
  obtain ⟨earlier, ho, hu⟩ := ObtainStage.outcomes_ok obtained
  refine ⟨earlier, ?_, hu⟩
  rw [List.append_assoc, requested.outcomes, History.outcomes_append, History.outcomes_eq_nil hs,
    List.append_nil, ho]

theorem Requests.clear_reading (requested : w.Requests h p)
    (obtained : Ends (ObtainStage.next polling p.request) .submitting h' (.ok issued)) (tail : History)
    (hp : tail.Spares Call.isPreparing) (hs : tail.Spares Call.isSubmission)
    (hr : tail.Spares Call.isPollingOn) : w.Clear polling (h ++ h' ++ tail) .reading := by
  obtain ⟨earlier, ho, -⟩ := requested.outcomes_ok obtained tail hr
  obtain ⟨handle, polls, rfl, polled⟩ := ObtainStage.ends_ok obtained
  refine Clear.retrieved ?_ ho
  rw [List.append_assoc]
  exact requested.clear_retrieval polled tail hp hs

theorem Clear.read {earlier : List Outcome} {certificate : MaterializedCertificate}
    (hc : w.Clear polling h .reading) (ho : h.outcomes = earlier ++ [.ok issued])
    (hu : ∀ o ∈ earlier, isUndecided o = true) (hr : issued.materialize = .ok certificate) :
    w.Clear polling h .keeping := by
  refine hc.next ?_ rfl
  intro e hf
  cases hf with
  | reading retrieved unread =>
    have hm := History.mem_outcomes.mpr ⟨_, retrieved⟩
    rw [ho, List.mem_append, List.mem_singleton] at hm
    rcases hm with hm | hm
    · cases hu _ hm
    · cases hm
      cases hr.symm.trans unread

end Wish

theorem Binding.Concluded.error_kind {b : Binding} {octets : Octets} {e : Error}
    (hc : b.Concluded octets h (.error e)) :
    e.kind ∈ ["storage_write", "lease_binding"] := by
  rcases (hc.error_iff e).mp rfl with ⟨_, _, -, rfl⟩ | ⟨_, -, -, rfl⟩
  · exact List.mem_cons_self
  · exact List.mem_cons_of_mem _ List.mem_cons_self

theorem leafContents_error {certificate : String} {e : Error} (he : leafContents certificate = .error e) :
    e.kind = "malformed_certificate" := by
  unfold leafContents at he
  split at he
  · cases he
    rfl
  · split at he <;> cases he
    rfl

theorem materialize_error {e : Error} (he : issued.materialize = .error e) :
    e.kind = "malformed_certificate" := by
  simp only [IssuedSet.materialize, bind, Except.bind] at he
  split at he
  · rename_i hl
    cases he
    exact leafContents_error hl
  · split at he <;> cases he
    rfl

namespace Wish.Requests

variable {e : Error}

theorem spares_keeping {result : Except Error IssuedSet} (requested : w.Requests h p)
    (obtained : Ends (ObtainStage.next polling p.request) .submitting h' result) :
    History.Spares Call.isKeeping (h ++ h') := by
  obtain ⟨_, hr, -⟩ := obtained
  have hs : h'.Spares Call.isKeeping :=
    ObtainStage.spares_of_reaches hr rfl (fun _ => rfl) rfl (fun _ => rfl) (fun _ => rfl)
  exact spares_append.mpr ⟨requested.spares (fun _ => rfl) rfl, hs⟩

theorem unobtained (requested : w.Requests h p)
    (obtained : Ends (ObtainStage.next polling p.request) .submitting h' (.error e)) :
    w.FailsFirst polling (h ++ h') e := by
  rcases ObtainStage.ends_error obtained with ⟨cause, rfl, rfl⟩ | ⟨handle, polls, rfl, polled⟩
  · exact ⟨.submission, .submission (List.mem_append_right _ List.mem_cons_self),
      requested.clear (spares_cons.mpr ⟨rfl, spares_nil⟩)⟩
  · obtain ⟨earlier, last, ho, -, hv⟩ := PollStage.told_of_reaches polled
    have heq := requested.outcomes (⟨.submit p.request, .ok handle⟩ :: polls)
    have hf : w.Fails polling (h ++ ⟨.submit p.request, .ok handle⟩ :: polls) .retrieval e :=
      .retrieval (List.mem_append_right _ List.mem_cons_self) (heq.trans ho) (heq ▸ hv)
    have hc := requested.clear_retrieval polled [] spares_nil spares_nil
    rw [List.append_nil] at hc
    exact ⟨.retrieval, hf, hc⟩

variable (requested : w.Requests h p)
  (obtained : Ends (ObtainStage.next polling p.request) .submitting h' (.ok issued))

include requested obtained

theorem unread (read : issued.materialize = .error e) : w.FailsFirst polling (h ++ h') e := by
  obtain ⟨earlier, ho, -⟩ := requested.outcomes_ok obtained [] spares_nil
  have hc := requested.clear_reading obtained [] spares_nil spares_nil spares_nil
  rw [List.append_nil] at ho hc
  obtain ⟨handle, hm⟩ := History.mem_outcomes.mp (ho ▸ List.mem_append_right earlier List.mem_cons_self)
  exact ⟨.reading, .reading hm read, hc⟩

theorem clear_keeping {job : Binding} {stage : BindStage} {certificate : MaterializedCertificate}
    (read : issued.materialize = .ok certificate)
    (kept : Reaches (BindStage.next job) (.start job) h'' stage) :
    w.Clear polling (h ++ h' ++ h'') .keeping := by
  have hpolling : h''.Spares Call.isPollingOn :=
    BindStage.spares_of_reaches kept (fun _ _ => rfl) (fun _ _ _ => rfl) rfl (fun _ => rfl)
  have hreading := requested.clear_reading obtained h''
    (BindStage.spares_of_reaches kept (fun _ _ => rfl) (fun _ _ _ => rfl) rfl (fun _ => rfl))
    (BindStage.spares_of_reaches kept (fun _ _ => rfl) (fun _ _ _ => rfl) rfl (fun _ => rfl)) hpolling
  obtain ⟨earlier, ho, hu⟩ := requested.outcomes_ok obtained h'' hpolling
  exact hreading.read ho hu read

theorem unkept {job : Binding} (read : w.job p issued = .ok job)
    (kept : Ends (BindStage.next job) (.start job) h'' (.error e)) :
    w.FailsFirst polling (h ++ h' ++ h'') e := by
  obtain ⟨certificate, hm, hjob⟩ := Wish.job_eq_ok.mp read
  obtain rfl : job.certificate = certificate := by rw [hjob]
  have hd := delivers_of_obtained obtained hm h h''
  have ⟨_, hr, _⟩ := kept
  refine ⟨.keeping, ?_, requested.clear_keeping obtained hm hr⟩
  rcases ((BindStage.concluded_of_ends kept).error_iff e).mp rfl with
    ⟨key, cause, hg, rfl⟩ | ⟨cause, -, hu | ⟨lease, hu⟩, rfl⟩
  · exact .unwritten hd (List.mem_append_right _ hg.fails.2)
  · exact .uncreated hd (List.mem_append_right _ hu)
  · exact .uncommitted hd (List.mem_append_right _ hu)

end Wish.Requests

namespace IssueStage.Came

variable {e : Error}

theorem spares_keeping (came : Came polling w h (.error e)) (hk : e.kind ∈ Error.kindsUnkept) :
    h.Spares Call.isKeeping := by
  cases came with
  | unplanned => exact spares_cons.mpr ⟨rfl, spares_nil⟩
  | unprepared => exact spares_cons.mpr ⟨rfl, spares_cons.mpr ⟨rfl, spares_nil⟩⟩
  | unobtained requested obtained => exact requested.spares_keeping obtained
  | unread requested obtained => exact requested.spares_keeping obtained
  | bound _ _ _ kept =>
    have hdisjoint : ∀ kind ∈ ["storage_write", "lease_binding"], kind ∉ Error.kindsUnkept := by decide
    exact absurd hk (hdisjoint _ (BindStage.concluded_of_ends kept).error_kind)

theorem spares_authority (came : Came polling w h (.error e)) (hk : e.kind ∈ Error.kindsUnsubmitted) :
    h.Spares Call.isToAuthority := by
  cases came with
  | unplanned => exact spares_cons.mpr ⟨rfl, spares_nil⟩
  | unprepared => exact spares_cons.mpr ⟨rfl, spares_cons.mpr ⟨rfl, spares_nil⟩⟩
  | unobtained _ obtained =>
    have hdisjoint : ∀ kind ∈ ["ca_submission", "ca_retrieval", "polling_exhausted"],
        kind ∉ Error.kindsUnsubmitted := by decide
    exact absurd hk (hdisjoint _ (ObtainStage.error_kind obtained))
  | unread _ _ read =>
    rw [materialize_error (Wish.job_eq_error.mp read)] at hk
    exact absurd hk (by decide)
  | bound _ _ _ kept =>
    have hdisjoint : ∀ kind ∈ ["storage_write", "lease_binding"], kind ∉ Error.kindsUnsubmitted := by decide
    exact absurd hk (hdisjoint _ (BindStage.concluded_of_ends kept).error_kind)

theorem failsFirst (came : Came polling w h (.error e)) : w.FailsFirst polling h e := by
  cases came with
  | unplanned planned =>
    rcases Wish.plan_eq_error.mp planned with hr | ⟨policy, rfl, hwrong⟩
    · exact ⟨.role, .role List.mem_cons_self hr, Wish.clear_role⟩
    · have hrole : ∀ found, (⟨.findRole w.role, found⟩ : Event) ∈ [⟨.findRole w.role, .ok (some policy)⟩] →
          found = .ok (some policy) := by simp
      rcases hwrong with hn | ⟨names, hn, hs⟩
      · exact ⟨.names, .names hn, Wish.clear_names hrole⟩
      · exact ⟨.keyPolicy, .keyPolicy List.mem_cons_self hs, Wish.clear_keyPolicy hrole hn⟩
  | unprepared planned prepared =>
    obtain ⟨rfl, hn, hs⟩ := Wish.plan_eq_ok.mp planned
    have hb := Wish.prepare_eq_error.mp prepared
    exact ⟨.request, .request List.mem_cons_self hn hs (by simp) hb, Wish.clear_request (by simp) hn hs⟩
  | unobtained requested obtained => exact requested.unobtained obtained
  | unread requested obtained read => exact requested.unread obtained (Wish.job_eq_error.mp read)
  | bound requested obtained read kept => exact requested.unkept obtained read kept

theorem unfailing {response : IssueResponse} (came : Came polling w h (.ok response)) (phase : Phase)
    (e : Error) : ¬ w.Fails polling h phase e := by
  cases came with
  | @bound h h' h'' p issued job _ requested obtained read kept =>
    obtain ⟨certificate, hm, -⟩ := Wish.job_eq_ok.mp read
    obtain ⟨stage, hr, hd⟩ := kept
    have hclear := requested.clear_keeping obtained hm hr
    have hkept := (BindStage.course_of_reaches hr).unfailing hd
    have hspares := requested.spares_keeping obtained
    have hno {event : Event} (hf : event.isFailure = true) : event ∉ h ++ h' ++ h'' := by
      intro hmem
      rcases List.mem_append.mp hmem with hmem | hmem
      · exact hspares.not_mem (Event.isKeeping_of_isFailure hf) hmem
      · simp [hkept _ hmem] at hf
    intro hf
    by_cases hp : phase = .keeping
    · subst hp
      cases hf with
      | unwritten _ failed => exact hno rfl failed
      | uncreated _ failed => exact hno rfl failed
      | uncommitted _ failed => exact hno rfl failed
    · exact hclear phase (Phase.place_lt_keeping hp) e hf

end IssueStage.Came

theorem unfailing_of_ends {response : IssueResponse}
    (succeeded : Ends (IssueStage.next polling w) .finding h (.ok response)) (phase : Phase) (e : Error) :
    ¬ w.Fails polling h phase e := by
  obtain ⟨before, rfl, came⟩ := IssueStage.came_of_ends succeeded
  exact Wish.fails_counted.not.mpr (came.unfailing phase e)

section Failed

variable {e : Error} (failed : Ends (IssueStage.next polling w) .finding h (.error e))

include failed

theorem failsFirst_of_ends : w.FailsFirst polling h e := by
  obtain ⟨before, rfl, came⟩ := IssueStage.came_of_ends failed
  exact came.failsFirst.counted _

theorem unsubmitted_of_ends (hk : e.kind ∈ Error.kindsUnsubmitted) : h.Spares Call.isToAuthority := by
  obtain ⟨before, rfl, came⟩ := IssueStage.came_of_ends failed
  exact spares_append.mpr ⟨came.spares_authority hk, spares_cons.mpr ⟨rfl, spares_nil⟩⟩

theorem unkept_of_ends (hk : e.kind ∈ Error.kindsUnkept) : h.Spares Call.isKeeping := by
  obtain ⟨before, rfl, came⟩ := IssueStage.came_of_ends failed
  exact spares_append.mpr ⟨came.spares_keeping hk, spares_cons.mpr ⟨rfl, spares_nil⟩⟩

end Failed

/-- Each call has what it needs before it, and there is one submission at most; and an enrollment fails when
a phase does, with the error of the first one, having changed nothing that later phases would have changed. -/
theorem issues_in_order (polling : PollPolicy) (w : Wish) :
    (∀ {h stage e stage'}, Reaches (IssueStage.next polling w) .finding h stage →
      (stage.next polling w).Leads e stage' → w.Allows h e.call) ∧
    (∀ {h stage}, Reaches (IssueStage.next polling w) .finding h stage →
      h.countP (fun e => e.call.isSubmission) ≤ 1) ∧
    (∀ {h response}, Ends (IssueStage.next polling w) .finding h (.ok response) →
      ∀ phase e, ¬ w.Fails polling h phase e) ∧
    ∀ {h e}, Ends (IssueStage.next polling w) .finding h (.error e) →
      w.FailsFirst polling h e ∧
      (e.kind ∈ Error.kindsUnsubmitted → h.Spares Call.isToAuthority) ∧
      (e.kind ∈ Error.kindsUnkept → h.Spares Call.isKeeping ∧
        ∀ {ω α : Type} (answer : Surroundings ω) (view : ω → α),
          (∀ call world, call.isKeeping = false → view (answer call world).2 = view world) →
            ∀ {world world'}, Answered answer world h world' → view world' = view world) := by
  refine ⟨fun hr hl => (IssueStage.course_of_reaches hr).allows hl, submissions_le_one, unfailing_of_ends, ?_⟩
  intro h e failed
  refine ⟨failsFirst_of_ends failed, unsubmitted_of_ends failed, fun hk => ?_⟩
  have hs := unkept_of_ends failed hk
  exact ⟨hs, fun answer view frame _ _ ha => ha.spared frame hs⟩

def Wish.nameless : Wish :=
  ⟨"nobody", "", []⟩

theorem issues_in_order_nameless :
    ∃ h, Ends (IssueStage.next ⟨1, none, none⟩ Wish.nameless) .finding h (.error (.roleNotFound "nobody")) ∧
      Wish.nameless.FailsFirst ⟨1, none, none⟩ h (.roleNotFound "nobody") ∧
      Wish.nameless.Fails ⟨1, none, none⟩ h .names (.invalidRequest "no domains specified on certificate") ∧
      h.Spares Call.isToAuthority := by
  have hstart : Reaches (IssueStage.next ⟨1, none, none⟩ Wish.nameless) .finding [] _ := .refl
  have hrole := hstart.step (e := ⟨.findRole "nobody", .ok none⟩) ⟨.ok none, rfl, rfl⟩
  have hcount := hrole.step (e := IssueStage.counted Wish.nameless (.error (.roleNotFound "nobody")))
    ⟨(), rfl, rfl⟩
  obtain ⟨hfirst, hunsubmitted, -⟩ := (issues_in_order _ Wish.nameless).2.2.2 ⟨_, hcount, rfl⟩
  exact ⟨_, ⟨_, hcount, rfl⟩, hfirst, .names rfl, hunsubmitted (by decide)⟩

namespace World

variable (send : Http.Request → Http.Outcome) {call : Call}

theorem answer_unkept (world : World) (hk : call.isKeeping = false) :
    (answer send call world).2.store = world.store ∧ (answer send call world).2.leases = world.leases := by
  cases call with
  | put | createLease | commitLease => cases hk
  | _ => exact ⟨rfl, rfl⟩

theorem answer_unasked (world : World) (hk : call.isToAuthority = false) :
    (answer send call world).2.authority = world.authority := by
  cases call with
  | submit | retrieve => cases hk
  | _ => rfl

end World

theorem failed_run_unchanged (send : Http.Request → Http.Outcome) (refuses : Call → World → Bool) (fuel : Nat)
    {world world' : World} {e : Error}
    (hr : run (IssueStage.next polling w) (World.answer send) refuses fuel .finding world =
      .done (.error e) world') :
    (e.kind ∈ Error.kindsUnsubmitted → world'.authority = world.authority) ∧
      (e.kind ∈ Error.kindsUnkept → world'.store = world.store ∧ world'.leases = world.leases) := by
  obtain ⟨h, hf⟩ := run_follows (IssueStage.next polling w) (World.answer send) refuses fuel .finding world
  rw [hr] at hf
  obtain ⟨failed, answered⟩ := hf
  constructor
  · intro hk
    exact answered.spared (fun _ world => World.answer_unasked send world) (unsubmitted_of_ends failed hk)
  · intro hk
    have hs := unkept_of_ends failed hk
    exact ⟨answered.spared (fun _ world hk => (World.answer_unkept send world hk).1) hs,
      answered.spared (fun _ world hk => (World.answer_unkept send world hk).2) hs⟩

end Enrollment

end CertEnroll
