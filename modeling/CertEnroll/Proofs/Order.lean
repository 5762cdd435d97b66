import CertEnroll.Proofs.Issuing

namespace CertEnroll.Enrollment

def History.Delivers (h : History) (certificate : MaterializedCertificate) : Prop :=
  ∃ handle issued, ⟨.retrieve handle, .ok issued⟩ ∈ h ∧ issued.materialize = .ok certificate

namespace Wish

def Made (w : Wish) (h : History) (request : SigningRequest) : Prop :=
  ∃ policy names spec seed key,
    ⟨.findRole w.role, .ok (some policy)⟩ ∈ h ∧
      SubjectNames.normalize w.commonName w.altNames = .ok names ∧ policy.keySpec = .ok spec ∧
        ⟨.chance, seed⟩ ∈ h ∧ SigningRequest.build names spec seed = .ok (request, key)

/-- What must have happened before a call. -/
def Allows (w : Wish) (h : History) : Call → Prop
  | .submit request => h.Spares Call.isSubmission ∧ w.Made h request
  | .retrieve handle => ∃ request, ⟨.submit request, .ok handle⟩ ∈ h
  | .put _ _ | .createLease _ _ _ | .commitLease _ => ∃ certificate, h.Delivers certificate
  | _ => True

end Wish

variable {polling : PollPolicy} {w : Wish} {h h' h'' : History} {p : Prepared} {issued : IssuedSet}

theorem delivers_of_obtained {request : SigningRequest} {certificate : MaterializedCertificate}
    (obtained : Ends (ObtainStage.next polling request) .submitting h' (.ok issued))
    (hc : issued.materialize = .ok certificate) (h h'' : History) :
    History.Delivers (h ++ h' ++ h'') certificate := by
  obtain ⟨earlier, ho, -⟩ := ObtainStage.outcomes_ok obtained
  obtain ⟨handle, hm⟩ := History.mem_outcomes.mp (ho ▸ List.mem_append_right earlier List.mem_cons_self)
  exact ⟨handle, issued, List.mem_append_left _ (List.mem_append_right _ hm), hc⟩

theorem Wish.Requests.made (requested : w.Requests h p) (h' : History) : w.Made (h ++ h') p.request := by
  obtain ⟨planned, prepared⟩ := requested
  obtain ⟨rfl, hn, hs⟩ := Wish.plan_eq_ok.mp planned
  obtain ⟨-, hb⟩ := Wish.prepare_eq_ok.mp prepared
  exact ⟨_, _, _, _, _, by simp, hn, hs, by simp, hb⟩

theorem Wish.Requests.spares {kind : Call → Bool} (requested : w.Requests h p)
    (hrole : ∀ name, kind (.findRole name) = false) (hchance : kind .chance = false) : h.Spares kind := by
  obtain ⟨-, -⟩ := requested
  exact spares_cons.mpr ⟨hrole _, spares_cons.mpr ⟨hchance, spares_nil⟩⟩

theorem allows_of_delivers {call : Call} {certificate : MaterializedCertificate}
    (hd : h.Delivers certificate) (hk : call.isKeeping = true ∨ call = .today) : w.Allows h call := by
  rcases hk with hk | rfl
  · cases call <;> first | exact ⟨certificate, hd⟩ | cases hk
  · trivial

theorem allows_counting {e : Event} {result : Except Error IssueResponse} {stage : IssueStage}
    (hl : (IssueStage.nextCounting w result).Leads e stage) : w.Allows h e.call := by
  obtain ⟨_, rfl, -⟩ := hl
  trivial

theorem allows_binding {e : Event} {job : Binding} {stage : BindStage} {stage' : IssueStage}
    {certificate : MaterializedCertificate} (hd : h.Delivers certificate)
    (hl : (IssueStage.nextBinding w job stage).Leads e stage') : w.Allows h e.call := by
  rcases within_leads.mp hl with ⟨_, hinner, -⟩ | ⟨_, -, hl⟩
  · exact allows_of_delivers hd (BindStage.leads_call hinner)
  · exact allows_counting hl

theorem allows_obtaining {e : Event} {stage stage' : ObtainStage} (requested : w.Requests h p)
    (hc : ObtainStage.Course polling p.request h' stage)
    (hl : (stage.next polling p.request).Leads e stage') : w.Allows (h ++ h') e.call := by
  cases hc with
  | submitting =>
    obtain ⟨_, rfl, -⟩ := hl
    refine ⟨?_, requested.made []⟩
    rw [List.append_nil]
    exact requested.spares (fun _ => rfl) rfl
  | refused => exact hl.elim
  | @polling handle polls stage polled =>
    rcases within_leads.mp hl with ⟨_, hinner, -⟩ | ⟨_, -, hl⟩
    · rcases PollStage.leads_call hinner with hcall | hcall | ⟨_, hcall⟩ | ⟨_, hcall⟩ <;> rw [hcall]
      · exact ⟨p.request, List.mem_append_right _ List.mem_cons_self⟩
      all_goals trivial
    · exact hl.elim

theorem IssueStage.Course.allows {e : Event} {stage stage' : IssueStage} (hc : Course polling w h stage)
    (hl : (stage.next polling w).Leads e stage') : w.Allows h e.call := by
  cases hc with
  | finding =>
    obtain ⟨_, rfl, -⟩ := hl
    trivial
  | preparing =>
    obtain ⟨_, rfl, -⟩ := hl
    trivial
  | @obtaining h h' p stage requested obtained =>
    rcases within_leads.mp hl with ⟨_, hinner, -⟩ | ⟨result, hd, hl⟩
    · exact allows_obtaining requested (ObtainStage.course_of_reaches obtained) hinner
    · cases result with
      | error e => exact allows_counting hl
      | ok issued =>
        simp only [nextObtained] at hl
        split at hl
        · exact allows_counting hl
        · rename_i read
          obtain ⟨certificate, hm, -⟩ := Wish.job_eq_ok.mp read
          have hdelivers := delivers_of_obtained ⟨stage, obtained, hd⟩ hm h []
          rw [List.append_nil] at hdelivers
          exact allows_binding hdelivers hl
  | binding requested obtained read =>
    obtain ⟨certificate, hm, -⟩ := Wish.job_eq_ok.mp read
    exact allows_binding (delivers_of_obtained obtained hm _ _) hl
  | counting => exact allows_counting hl
  | finished => exact hl.elim

theorem submissions_le_one {stage : IssueStage}
    (hr : Reaches (IssueStage.next polling w) .finding h stage) :
    h.countP (fun e => e.call.isSubmission) ≤ 1 := by
  induction hr with
  | refl => exact Nat.zero_le 1
  | @step h _ _ e before leads ih =>
    rw [List.countP_append]
    cases he : e.call.isSubmission with
    | false => simpa [he] using ih
    | true =>
      have ha := (IssueStage.course_of_reaches before).allows leads
      -- A submission is allowed only when there was none before.
      have hs : h.Spares Call.isSubmission := by
        cases hcall : e.call <;> rw [hcall] at ha he <;> first | exact ha.1 | cases he
      rw [List.countP_eq_zero.mpr fun e' hm => by simp [hs e' hm]]
      simp [he]

end CertEnroll.Enrollment
