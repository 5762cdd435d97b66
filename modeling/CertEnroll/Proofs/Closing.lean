import CertEnroll.Proofs.Issued
import CertEnroll.Proofs.Samples

namespace CertEnroll

namespace Error

def kindsHandedOut : List String :=
  ["malformed_certificate", "storage_write", "lease_binding"]

def kindsDecided : List String :=
  "ca_retrieval" :: kindsHandedOut

def kindsUndecided : List String :=
  "polling_exhausted" :: "ca_submission" :: kindsUnsubmitted

theorem kind_ne_issued (e : Error) : e.kind ≠ "issued" := by
  cases e <;> simp [kind]

end Error

theorem RoleBook.Replies.kind {name : String} {book : RoleBook} {e : Error} (hr : book.Replies name (.error e)) :
    e.kind ∈ ["storage", "serialization"] := by
  generalize hf : Except.error e = found at hr
  cases hr with
  | listed => cases hf
  | stored read =>
    rcases read with cause | _ | octets
    · cases hf
      simp [StoreError.toError, Error.kind]
    · cases hf
    · simp only [Store.readRole, RolePolicy.decode, decodeOctets] at hf
      split at hf <;> cases hf
      simp [Error.kind]

theorem RoleBook.Replies.not_decided {name : String} {book : RoleBook} {e : Error}
    (hr : book.Replies name (.error e)) : e.kind ∉ Error.kindsDecided := by
  have hother : ∀ kind ∈ ["storage", "serialization"], kind ∉ Error.kindsDecided := by decide
  exact hother _ hr.kind

namespace Enrollment

variable {polling : PollPolicy} {wish : Wish} {p : Prepared} {result : Except Error IssueResponse}
  {h h' h'' : History}

def Event.isLookupFailure : Event → Bool
  | ⟨.findRole _, .error _⟩ => true
  | _ => false

namespace History

def lookupFailed (h : History) : Bool :=
  h.any Event.isLookupFailure

def handsOut (h : History) : Bool :=
  h.outcomes.any Except.isOk

theorem lookupFailed_of_mem {role : String} {e : Error} (hm : ⟨.findRole role, .error e⟩ ∈ h) :
    h.lookupFailed = true :=
  List.any_eq_true.mpr ⟨_, hm, rfl⟩

theorem lookupFailed_append (h h' : History) : lookupFailed (h ++ h') = (h.lookupFailed || h'.lookupFailed) :=
  List.any_append

theorem lookupFailed_eq_false (hs : h.Spares Call.isPreparing) : h.lookupFailed = false := by
  apply List.any_eq_false.mpr
  rintro ⟨call, reply⟩ he hf
  cases call with
  | findRole => exact hs.not_mem rfl he
  | _ => cases hf

end History

inductive Closes (wish : Wish) (h : History) : Except Error IssueResponse → Prop
  | astray {e : Error} (failed : ⟨.findRole wish.role, .error e⟩ ∈ h) (unpolled : h.outcomes = []) :
    Closes wish h (.error e)
  | undecided {e : Error} (found : h.lookupFailed = false) (polls : ∀ o ∈ h.outcomes, isUndecided o = true)
    (kind : e.kind ∈ Error.kindsUndecided) : Closes wish h (.error e)
  | refused {e : Error} {earlier : List Outcome} {cause : AuthorityError} (found : h.lookupFailed = false)
    (polls : h.outcomes = earlier ++ [.error (.failed cause)]) (undecided : ∀ o ∈ earlier, isUndecided o = true)
    (kind : e.kind = "ca_retrieval") : Closes wish h (.error e)
  | handedOut {result : Except Error IssueResponse} {earlier : List Outcome} {issued : IssuedSet}
    (found : h.lookupFailed = false) (polls : h.outcomes = earlier ++ [.ok issued])
    (undecided : ∀ o ∈ earlier, isUndecided o = true)
    (kind : ∀ e, result = .error e → e.kind ∈ Error.kindsHandedOut) : Closes wish h result

theorem Closes.counted (hc : Closes wish h result) : Closes wish (h ++ [IssueStage.counted wish result]) result := by
  have ho : History.outcomes (h ++ [IssueStage.counted wish result]) = h.outcomes := h.outcomes_quiet rfl
  have hf : History.lookupFailed (h ++ [IssueStage.counted wish result]) = h.lookupFailed := by
    rw [History.lookupFailed_append]
    exact Bool.or_false _
  cases hc with
  | astray failed unpolled => exact .astray (List.mem_append_left _ failed) (ho.trans unpolled)
  | undecided found polls kind => exact .undecided (hf.trans found) (ho ▸ polls) kind
  | refused found polls undecided kind => exact .refused (hf.trans found) (ho.trans polls) undecided kind
  | handedOut found polls undecided kind => exact .handedOut (hf.trans found) (ho.trans polls) undecided kind

theorem Wish.closes_unplanned {found : Except Error (Option RolePolicy)} {e : Error}
    (planned : wish.plan found = .error e) : Closes wish [⟨.findRole wish.role, found⟩] (.error e) := by
  have hkind (hk : e.kind ∈ Error.kindsUnsubmitted) : e.kind ∈ Error.kindsUndecided :=
    List.mem_cons_of_mem _ (List.mem_cons_of_mem _ hk)
  rcases plan_eq_error.mp planned with hr | ⟨policy, rfl, hn | ⟨names, -, hs⟩⟩
  · rcases found with cause | _ | policy
    · cases hr
      exact .astray List.mem_cons_self rfl
    · cases hr
      exact .undecided rfl (List.forall_mem_nil _) (hkind (by simp [Error.kind, Error.kindsUnsubmitted]))
    · cases hr
  · exact .undecided rfl (List.forall_mem_nil _) (hkind (SubjectNames.normalize_error hn))
  · exact .undecided rfl (List.forall_mem_nil _) (hkind (RolePolicy.keySpec_error hs))

namespace Wish.Requests

variable (requested : wish.Requests h p)

include requested

theorem found (hs : h'.Spares Call.isPreparing) : History.lookupFailed (h ++ h') = false := by
  obtain ⟨planned, -⟩ := requested
  obtain ⟨rfl, -⟩ := plan_eq_ok.mp planned
  rw [History.lookupFailed_append, History.lookupFailed_eq_false hs]
  rfl

theorem closes_unobtained {e : Error}
    (obtained : Ends (ObtainStage.next polling p.request) .submitting h' (.error e)) :
    Closes wish (h ++ h') (.error e) := by
  obtain ⟨_, reached, -⟩ := id obtained
  have hfound := requested.found
    (ObtainStage.spares_of_reaches reached rfl (fun _ => rfl) rfl (fun _ => rfl) (fun _ => rfl))
  have ho := requested.outcomes h'
  rcases ObtainStage.ends_error obtained with ⟨cause, rfl, rfl⟩ | ⟨handle, polls, rfl, hr⟩
  · refine .undecided hfound (ho ▸ List.forall_mem_nil _) ?_
    simp [Error.kind, Error.kindsUndecided]
  · obtain ⟨earlier, last, hp, hu, hv⟩ := PollStage.told_of_reaches hr
    -- The last poll gave an error, or it left things open and a bound was met.
    cases hv with
    | failed cause => exact .refused hfound (ho.trans hp) hu rfl
    | exhausted undecided =>
      refine .undecided hfound ?_ List.mem_cons_self
      rw [ho.trans hp]
      exact List.forall_mem_append.mpr ⟨hu, List.forall_mem_singleton.mpr undecided⟩

theorem closes_obtained {issued : IssuedSet} {result : Except Error IssueResponse}
    (obtained : Ends (ObtainStage.next polling p.request) .submitting h' (.ok issued))
    (hp : h''.Spares Call.isPreparing) (hs : h''.Spares Call.isPollingOn)
    (kind : ∀ e, result = .error e → e.kind ∈ Error.kindsHandedOut) : Closes wish (h ++ h' ++ h'') result := by
  obtain ⟨_, reached, -⟩ := id obtained
  have hprepared : h'.Spares Call.isPreparing :=
    ObtainStage.spares_of_reaches reached rfl (fun _ => rfl) rfl (fun _ => rfl) (fun _ => rfl)
  obtain ⟨earlier, ho, hu⟩ := requested.outcomes_ok obtained h'' hs
  refine .handedOut ?_ ho hu kind
  rw [List.append_assoc]
  exact requested.found (spares_append.mpr ⟨hprepared, hp⟩)

end Wish.Requests

theorem IssueStage.Came.closes (came : Came polling wish h result) : Closes wish h result := by
  cases came with
  | unplanned planned => exact Wish.closes_unplanned planned
  | unprepared planned prepared =>
    have hk := SigningRequest.build_error (Wish.prepare_eq_error.mp prepared)
    have hfound := (Wish.plan_eq_ok.mp planned).1
    refine .undecided (by rw [hfound]; rfl) (List.forall_mem_nil _) ?_
    exact List.mem_cons_of_mem _ (List.mem_cons_of_mem _ hk)
  | unobtained requested obtained => exact requested.closes_unobtained obtained
  | @unread h h' _ _ _ requested obtained read =>
    -- The certificate was handed out, though it cannot be read.
    rw [← List.append_nil (h ++ h')]
    refine requested.closes_obtained obtained spares_nil spares_nil fun e he => ?_
    cases he
    rw [materialize_error (Wish.job_eq_error.mp read)]
    exact List.mem_cons_self
  | bound requested obtained _ kept =>
    obtain ⟨_, hr, -⟩ := id kept
    refine requested.closes_obtained obtained
      (BindStage.spares_of_reaches hr (fun _ _ => rfl) (fun _ _ _ => rfl) rfl (fun _ => rfl))
      (BindStage.spares_of_reaches hr (fun _ _ => rfl) (fun _ _ _ => rfl) rfl (fun _ => rfl)) fun e he => ?_
    cases he
    exact List.mem_cons_of_mem _ (BindStage.concluded_of_ends kept).error_kind

theorem closes_of_ends (he : Ends (IssueStage.next polling wish) .finding h result) : Closes wish h result := by
  obtain ⟨before, rfl, came⟩ := IssueStage.came_of_ends he
  exact came.closes.counted

def isFailureOf (kinds : List String) : Except Error IssueResponse → Bool
  | .ok _ => false
  | .error e => kinds.contains e.kind

section Labels

variable {earlier : List Outcome} {last : Outcome}

theorem outcomeLabel_undecided {outcome : Outcome} (hu : isUndecided outcome = true) :
    outcomeLabel outcome ∈ ["pending", "timeout"] := by
  rcases outcome with (_ | _ | cause) | issued
  · exact List.mem_cons_self
  · exact List.mem_cons_of_mem _ List.mem_cons_self
  · cases hu
  · cases hu

theorem count_undecided {polls : List Outcome} (hu : ∀ o ∈ polls, isUndecided o = true) {label : String}
    (hl : label ∉ ["pending", "timeout"]) : (polls.map outcomeLabel).count label = 0 := by
  apply List.count_eq_zero_of_not_mem
  intro hm
  obtain ⟨outcome, ho, rfl⟩ := List.mem_map.mp hm
  exact hl (outcomeLabel_undecided (hu outcome ho))

theorem any_isOk_undecided {polls : List Outcome} (hu : ∀ o ∈ polls, isUndecided o = true) :
    polls.any Except.isOk = false := by
  apply List.any_eq_false.mpr
  intro outcome ho hok
  cases outcome with
  | ok => cases hu _ ho
  | error => cases hok

theorem count_decided (polls : h.outcomes = earlier ++ [last]) (hu : ∀ o ∈ earlier, isUndecided o = true)
    {label : String} (hl : label ∉ ["pending", "timeout"]) :
    h.labels.count label = [outcomeLabel last].count label := by
  rw [History.labels, polls, List.map_append, List.count_append, count_undecided hu hl, Nat.zero_add]
  rfl

theorem handsOut_decided (polls : h.outcomes = earlier ++ [last]) (hu : ∀ o ∈ earlier, isUndecided o = true) :
    h.handsOut = last.isOk := by
  rw [History.handsOut, polls, List.any_append, any_isOk_undecided hu]
  exact Bool.or_false _

end Labels

theorem isFailureOf_error {kinds : List String} {e : Error} :
    isFailureOf kinds (.error e) = true ↔ e.kind ∈ kinds :=
  List.contains_iff_mem

theorem resultLabel_eq_issued : resultLabel result = "issued" ↔ result.isOk = true := by
  cases result with
  | ok => exact iff_of_true rfl rfl
  | error e => exact iff_of_false e.kind_ne_issued Bool.false_ne_true

theorem resultLabel_eq_kind {e : Error} : resultLabel result = e.kind ↔ isFailureOf [e.kind] result = true := by
  cases result with
  | ok => exact iff_of_false e.kind_ne_issued.symm Bool.false_ne_true
  | error => rw [isFailureOf_error, List.mem_singleton, resultLabel]

namespace Closes

variable (hc : Closes wish h result)

include hc

theorem count_issued : h.labels.count "issued" = if h.handsOut then 1 else 0 := by
  cases hc with
  | astray _ unpolled => simp [History.labels, History.handsOut, unpolled]
  | undecided _ polls => simp [History.labels, History.handsOut, count_undecided polls, any_isOk_undecided polls]
  | refused _ polls undecided =>
    rw [count_decided polls undecided (by decide), handsOut_decided polls undecided]
    rfl
  | handedOut _ polls undecided =>
    rw [count_decided polls undecided (by decide), handsOut_decided polls undecided]
    rfl

theorem count_refused :
    h.labels.count "error" = if !h.lookupFailed && isFailureOf ["ca_retrieval"] result then 1 else 0 := by
  cases hc with
  | astray failed unpolled => simp [History.labels, unpolled, History.lookupFailed_of_mem failed]
  | undecided found polls kind =>
    have hother : ∀ kind ∈ Error.kindsUndecided, kind ≠ "ca_retrieval" := by decide
    simp [History.labels, count_undecided polls, isFailureOf, hother _ kind]
  | refused found polls undecided kind =>
    rw [count_decided polls undecided (by decide), found]
    simp [isFailureOf, kind, outcomeLabel, RetrieveError.outcome]
  | handedOut found polls undecided kind =>
    have hother : ∀ kind ∈ Error.kindsHandedOut, kind ≠ "ca_retrieval" := by decide
    rw [count_decided polls undecided (by decide), found]
    cases result with
    | ok => rfl
    | error e => simp [isFailureOf, outcomeLabel, hother _ (kind e rfl)]

theorem handsOut_eq :
    h.handsOut = (result.isOk || (!h.lookupFailed && isFailureOf Error.kindsHandedOut result)) := by
  cases hc with
  | astray failed unpolled =>
    rw [History.handsOut, unpolled, History.lookupFailed_of_mem failed]
    rfl
  | undecided found polls kind =>
    have hother : ∀ kind ∈ Error.kindsUndecided, kind ∉ Error.kindsHandedOut := by decide
    rw [History.handsOut, any_isOk_undecided polls, found,
      Bool.eq_false_iff.mpr (isFailureOf_error.not.mpr (hother _ kind))]
    rfl
  | refused found polls undecided kind =>
    rw [handsOut_decided polls undecided, found, isFailureOf, kind]
    rfl
  | handedOut found polls undecided kind =>
    rw [handsOut_decided polls undecided, found]
    cases result with
    | ok => rfl
    | error e =>
      rw [isFailureOf_error.mpr (kind e rfl)]
      rfl

end Closes

end Enrollment

end CertEnroll
