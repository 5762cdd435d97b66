import CertEnroll.Enrollment.Issue
import CertEnroll.Proofs.Keeping
import CertEnroll.Proofs.Polling

namespace CertEnroll.Enrollment

variable {polling : PollPolicy} {w : Wish} {h : History} {e : Event}

namespace ObtainStage

variable {request : SigningRequest} {stage stage' : ObtainStage}

inductive Course (polling : PollPolicy) (request : SigningRequest) : History → ObtainStage → Prop
  | submitting : Course polling request [] .submitting
  | refused (cause : AuthorityError) :
    Course polling request [⟨.submit request, .error cause⟩] (.refused (.caSubmission cause.message))
  | polling {handle : PickupHandle} {h : History} {stage : PollStage}
    (polled : Reaches (PollStage.next polling handle) .starting h stage) :
    Course polling request (⟨.submit request, .ok handle⟩ :: h) (.polling handle stage)

theorem Course.step (hc : Course polling request h stage)
    (hl : (stage.next polling request).Leads e stage') : Course polling request (h ++ [e]) stage' := by
  cases hc with
  | submitting =>
    obtain ⟨reply, rfl, rfl⟩ := hl
    cases reply with
    | ok handle => exact .polling .refl
    | error cause => exact .refused cause
  | refused => exact hl.elim
  | polling polled =>
    rcases within_leads.mp hl with ⟨stage', hinner, rfl⟩ | ⟨_, _, hl⟩
    · exact .polling (polled.step hinner)
    · exact hl.elim

theorem course_of_reaches (hr : Reaches (next polling request) .submitting h stage) :
    Course polling request h stage := by
  induction hr with
  | refl => exact .submitting
  | step _ hl ih => exact ih.step hl

theorem spares_of_reaches {kind : Call → Bool} (hr : Reaches (next polling request) .submitting h stage)
    (hsubmit : kind (.submit request) = false) (hretrieve : ∀ handle, kind (.retrieve handle) = false)
    (hclock : kind .clock = false) (hsleep : ∀ nanos, kind (.sleep nanos) = false)
    (hcount : ∀ sample, kind (.count sample) = false) : h.Spares kind := by
  cases course_of_reaches hr with
  | submitting => exact spares_nil
  | refused => exact spares_cons.mpr ⟨hsubmit, spares_nil⟩
  | polling polled =>
    exact spares_cons.mpr
      ⟨hsubmit, PollStage.spares_of_reaches polled (hretrieve _) hclock hsleep hcount⟩

theorem ends_ok {issued : IssuedSet} (ho : Ends (next polling request) .submitting h (.ok issued)) :
    ∃ handle polls, h = ⟨.submit request, .ok handle⟩ :: polls ∧
      Reaches (PollStage.next polling handle) .starting polls (.finished (.ok issued)) := by
  obtain ⟨stage, hr, hd⟩ := ho
  cases course_of_reaches hr with
  | submitting => cases hd
  | refused => cases hd
  | polling polled =>
    obtain ⟨_, hd, hk⟩ := within_done.mp hd
    cases hk
    exact ⟨_, _, rfl, PollStage.next_eq_done.mp hd ▸ polled⟩

theorem ends_error {e : Error} (ho : Ends (next polling request) .submitting h (.error e)) :
    (∃ cause, h = [⟨.submit request, .error cause⟩] ∧ e = .caSubmission cause.message) ∨
      ∃ handle polls, h = ⟨.submit request, .ok handle⟩ :: polls ∧
        Reaches (PollStage.next polling handle) .starting polls (.finished (.error e)) := by
  obtain ⟨stage, hr, hd⟩ := ho
  cases course_of_reaches hr with
  | submitting => cases hd
  | refused cause =>
    cases hd
    exact .inl ⟨cause, rfl, rfl⟩
  | polling polled =>
    obtain ⟨_, hd, hk⟩ := within_done.mp hd
    cases hk
    exact .inr ⟨_, _, rfl, PollStage.next_eq_done.mp hd ▸ polled⟩

theorem outcomes_ok {issued : IssuedSet} (ho : Ends (next polling request) .submitting h (.ok issued)) :
    ∃ earlier, h.outcomes = earlier ++ [.ok issued] ∧ ∀ o ∈ earlier, isUndecided o = true := by
  obtain ⟨handle, polls, rfl, hr⟩ := ends_ok ho
  obtain ⟨earlier, last, hp, hu, hv⟩ := PollStage.told_of_reaches hr
  obtain rfl := hv.eq_ok
  exact ⟨earlier, hp, hu⟩

theorem outcomes_error {e : Error} (ho : Ends (next polling request) .submitting h (.error e))
    (issued : IssuedSet) : .ok issued ∉ h.outcomes := by
  rcases ends_error ho with ⟨cause, rfl, -⟩ | ⟨handle, polls, rfl, hr⟩
  · exact List.not_mem_nil
  · obtain ⟨earlier, last, hp, hu, hv⟩ := PollStage.told_of_reaches hr
    intro hm
    have hm : .ok issued ∈ earlier ++ [last] := hp ▸ hm
    rcases List.mem_append.mp hm with hm | hm
    · cases hu _ hm
    · exact hv.not_ok issued (List.mem_singleton.mp hm).symm

theorem error_kind {e : Error} (ho : Ends (next polling request) .submitting h (.error e)) :
    e.kind ∈ ["ca_submission", "ca_retrieval", "polling_exhausted"] := by
  rcases ends_error ho with ⟨cause, -, rfl⟩ | ⟨handle, polls, -, hr⟩
  · exact List.mem_cons_self
  · obtain ⟨_, _, -, -, hv⟩ := PollStage.told_of_reaches hr
    cases hv with
    | failed => exact List.mem_cons_of_mem _ List.mem_cons_self
    | exhausted => exact List.mem_cons_of_mem _ (List.mem_cons_of_mem _ List.mem_cons_self)

end ObtainStage

namespace Wish

variable {found : Except Error (Option RolePolicy)} {plan : Plan} {seed : Octets} {p : Prepared}
  {issued : IssuedSet} {job : Binding} {error : Error}

theorem require_eq_ok (name : String) {policy : RolePolicy} :
    RoleBook.require name found = .ok policy ↔ found = .ok (some policy) := by
  rcases found with _ | _ | _ <;> simp [RoleBook.require]

theorem plan_eq_ok :
    w.plan found = .ok plan ↔
      found = .ok (some plan.policy) ∧ SubjectNames.normalize w.commonName w.altNames = .ok plan.names ∧
        plan.policy.keySpec = .ok plan.spec := by
  rw [← require_eq_ok w.role, Wish.plan]
  rcases RoleBook.require w.role found with e | policy
  · simp [bind, Except.bind]
  rcases hn : SubjectNames.normalize w.commonName w.altNames with e | names
  · simp [bind, Except.bind]
  rcases hs : policy.keySpec with e | spec
  · constructor
    · simp [bind, Except.bind, hs]
    · rintro ⟨hp, -, hspec⟩
      rw [← Except.ok.inj hp, hs] at hspec
      cases hspec
  · obtain ⟨policy', names', spec'⟩ := plan
    constructor
    · intro hp
      simp only [bind, Except.bind, pure, Except.pure, hs, Except.ok.injEq, Plan.mk.injEq] at hp
      obtain ⟨rfl, rfl, rfl⟩ := hp
      exact ⟨rfl, rfl, hs⟩
    · rintro ⟨hp, hn', hspec⟩
      cases hp
      cases hn'
      simp [bind, Except.bind, pure, Except.pure, hspec]

theorem plan_eq_error :
    w.plan found = .error error ↔
      RoleBook.require w.role found = .error error ∨
        ∃ policy, found = .ok (some policy) ∧
          (SubjectNames.normalize w.commonName w.altNames = .error error ∨
            ∃ names, SubjectNames.normalize w.commonName w.altNames = .ok names ∧
              policy.keySpec = .error error) := by
  simp only [← require_eq_ok w.role, Wish.plan]
  rcases RoleBook.require w.role found with e | policy
  · simp [bind, Except.bind]
  rcases SubjectNames.normalize w.commonName w.altNames with e | names
  · simp [bind, Except.bind]
  rcases hs : policy.keySpec with e | spec <;> simp [bind, Except.bind, pure, Except.pure, hs]

theorem prepare_eq_ok :
    prepare plan seed = .ok p ↔
      p.policy = plan.policy ∧ SigningRequest.build plan.names plan.spec seed = .ok (p.request, p.key) := by
  rw [prepare]
  obtain ⟨policy, request, key⟩ := p
  rcases SigningRequest.build plan.names plan.spec seed with e | ⟨request', key'⟩
  · simp [bind, Except.bind]
  · simp [bind, Except.bind, pure, Except.pure, eq_comm]

theorem prepare_eq_error :
    prepare plan seed = .error error ↔ SigningRequest.build plan.names plan.spec seed = .error error := by
  rw [prepare]
  rcases SigningRequest.build plan.names plan.spec seed with e | ⟨request, key⟩ <;>
    simp [bind, Except.bind, pure, Except.pure]

theorem job_eq_ok :
    w.job p issued = .ok job ↔
      ∃ certificate, issued.materialize = .ok certificate ∧
        job = ⟨w.role, p.policy, p.request.names.commonName, certificate, p.key.privateKeyPem⟩ := by
  rw [Wish.job]
  rcases issued.materialize with e | certificate <;>
    simp [bind, Except.bind, pure, Except.pure, eq_comm]

theorem job_eq_error : w.job p issued = .error error ↔ issued.materialize = .error error := by
  rw [Wish.job]
  rcases issued.materialize with e | certificate <;> simp [bind, Except.bind, pure, Except.pure]

inductive Requests (w : Wish) : History → Prepared → Prop
  | requests {found : Except Error (Option RolePolicy)} {plan : Plan} {seed : Octets} {p : Prepared}
    (planned : w.plan found = .ok plan) (prepared : prepare plan seed = .ok p) :
    Requests w [⟨.findRole w.role, found⟩, ⟨.chance, seed⟩] p

end Wish

namespace IssueStage

inductive Came (polling : PollPolicy) (w : Wish) : History → Except Error IssueResponse → Prop
  | unplanned {found : Except Error (Option RolePolicy)} {e : Error} (planned : w.plan found = .error e) :
    Came polling w [⟨.findRole w.role, found⟩] (.error e)
  | unprepared {found : Except Error (Option RolePolicy)} {plan : Plan} {seed : Octets} {e : Error}
    (planned : w.plan found = .ok plan) (prepared : Wish.prepare plan seed = .error e) :
    Came polling w [⟨.findRole w.role, found⟩, ⟨.chance, seed⟩] (.error e)
  | unobtained {h h' : History} {p : Prepared} {e : Error} (requested : w.Requests h p)
    (obtained : Ends (ObtainStage.next polling p.request) .submitting h' (.error e)) :
    Came polling w (h ++ h') (.error e)
  | unread {h h' : History} {p : Prepared} {issued : IssuedSet} {e : Error} (requested : w.Requests h p)
    (obtained : Ends (ObtainStage.next polling p.request) .submitting h' (.ok issued))
    (read : w.job p issued = .error e) : Came polling w (h ++ h') (.error e)
  | bound {h h' h'' : History} {p : Prepared} {issued : IssuedSet} {job : Binding}
    {result : Except Error IssueResponse} (requested : w.Requests h p)
    (obtained : Ends (ObtainStage.next polling p.request) .submitting h' (.ok issued))
    (read : w.job p issued = .ok job) (kept : Ends (BindStage.next job) (.start job) h'' result) :
    Came polling w (h ++ h' ++ h'') result

def counted (w : Wish) (result : Except Error IssueResponse) : Event :=
  ⟨.count (.enrollment w.role (resultLabel result)), ()⟩

inductive Course (polling : PollPolicy) (w : Wish) : History → IssueStage → Prop
  | finding : Course polling w [] .finding
  | preparing {found : Except Error (Option RolePolicy)} {plan : Plan} (planned : w.plan found = .ok plan) :
    Course polling w [⟨.findRole w.role, found⟩] (.preparing plan)
  | obtaining {h h' : History} {p : Prepared} {stage : ObtainStage} (requested : w.Requests h p)
    (obtained : Reaches (ObtainStage.next polling p.request) .submitting h' stage) :
    Course polling w (h ++ h') (.obtaining p stage)
  | binding {h h' h'' : History} {p : Prepared} {issued : IssuedSet} {job : Binding} {stage : BindStage}
    (requested : w.Requests h p)
    (obtained : Ends (ObtainStage.next polling p.request) .submitting h' (.ok issued))
    (read : w.job p issued = .ok job) (kept : Reaches (BindStage.next job) (.start job) h'' stage) :
    Course polling w (h ++ h' ++ h'') (.binding job stage)
  | counting {h : History} {result : Except Error IssueResponse} (came : Came polling w h result) :
    Course polling w h (.counting result)
  | finished {h : History} {result : Except Error IssueResponse} (came : Came polling w h result) :
    Course polling w (h ++ [counted w result]) (.finished result)

variable {stage stage' : IssueStage}

theorem Course.count {result : Except Error IssueResponse} (came : Came polling w h result)
    (hl : (nextCounting w result).Leads e stage') : Course polling w (h ++ [e]) stage' := by
  obtain ⟨_, rfl, rfl⟩ := hl
  exact .finished came

theorem Course.bind {h' h'' : History} {p : Prepared} {issued : IssuedSet} {job : Binding}
    {stage : BindStage} (requested : w.Requests h p)
    (obtained : Ends (ObtainStage.next polling p.request) .submitting h' (.ok issued))
    (read : w.job p issued = .ok job) (kept : Reaches (BindStage.next job) (.start job) h'' stage)
    (hl : (nextBinding w job stage).Leads e stage') : Course polling w (h ++ h' ++ h'' ++ [e]) stage' := by
  rcases within_leads.mp hl with ⟨stage'', hinner, rfl⟩ | ⟨result, hd, hl⟩
  · rw [List.append_assoc]
    exact .binding requested obtained read (kept.step hinner)
  · exact .count (.bound requested obtained read ⟨stage, kept, hd⟩) hl

theorem Course.step (hc : Course polling w h stage)
    (hl : (stage.next polling w).Leads e stage') : Course polling w (h ++ [e]) stage' := by
  cases hc with
  | finding =>
    obtain ⟨found, rfl, rfl⟩ := hl
    cases hp : w.plan found with
    | ok plan => simpa [hp] using Course.preparing hp
    | error e => simpa [hp] using Course.counting (.unplanned hp)
  | @preparing found plan planned =>
    obtain ⟨seed, rfl, rfl⟩ := hl
    cases hp : Wish.prepare plan seed with
    | ok p => simpa [hp] using Course.obtaining (.requests planned hp) .refl
    | error e => simpa [hp] using Course.counting (.unprepared planned hp)
  | @obtaining h h' p stage requested obtained =>
    rcases within_leads.mp hl with ⟨stage', hinner, rfl⟩ | ⟨result, hd, hl⟩
    · rw [List.append_assoc]
      exact .obtaining requested (obtained.step hinner)
    · cases result with
      | error e => exact .count (.unobtained requested ⟨stage, obtained, hd⟩) hl
      | ok issued =>
        -- Reading takes no call: the next one is the first of keeping, or the count.
        simp only [nextObtained] at hl
        split at hl
        · rename_i read
          exact .count (.unread requested ⟨stage, obtained, hd⟩ read) hl
        · rename_i job read
          simpa using Course.bind requested ⟨stage, obtained, hd⟩ read .refl hl
  | binding requested obtained read kept => exact .bind requested obtained read kept hl
  | counting came => exact .count came hl
  | finished => exact hl.elim

theorem course_of_reaches (hr : Reaches (next polling w) .finding h stage) : Course polling w h stage := by
  induction hr with
  | refl => exact .finding
  | step _ hl ih => exact ih.step hl

theorem came_of_ends {result : Except Error IssueResponse} (he : Ends (next polling w) .finding h result) :
    ∃ before, h = before ++ [counted w result] ∧ Came polling w before result := by
  obtain ⟨stage, hr, hd⟩ := he
  cases course_of_reaches hr with
  | finding => cases hd
  | preparing => cases hd
  | obtaining =>
    obtain ⟨result, -, hd⟩ := within_done.mp hd
    cases result with
    | error => cases hd
    | ok =>
      simp only [nextObtained] at hd
      split at hd
      · cases hd
      · obtain ⟨_, -, hd⟩ := within_done.mp hd
        cases hd
  | binding =>
    obtain ⟨_, -, hd⟩ := within_done.mp hd
    cases hd
  | counting => cases hd
  | finished came =>
    cases hd
    exact ⟨_, rfl, came⟩

end IssueStage

end CertEnroll.Enrollment
