import CertEnroll.Proofs.Closing
import CertEnroll.Proofs.Recorded
import Mathlib.Algebra.BigOperators.Finprod

namespace CertEnroll.Enrollment

variable {ω : Type} {answer : Surroundings ω} {w w' : ω} {h : History}

structure Finished where
  polling : PollPolicy
  wish : Wish
  history : History
  result : Except Error IssueResponse
  ended : Ends (IssueStage.next polling wish) .finding history result

namespace Finished

def label (c : Finished) : String :=
  resultLabel c.result

def labelFor? (role : String) (c : Finished) : Option String :=
  if c.wish.role = role then some c.label else none

def isLookedUp (c : Finished) : Bool :=
  !c.history.lookupFailed

def isFailureOf (kinds : List String) (c : Finished) : Bool :=
  Enrollment.isFailureOf kinds c.result

theorem samples (c : Finished) : c.history.samples = c.history.labels.map .poll ++ [.enrollment c.wish.role c.label] :=
  samples_of_ends c.ended

theorem closes (c : Finished) : Closes c.wish c.history c.result :=
  closes_of_ends c.ended

theorem outcomeFor_samples (role : String) (c : Finished) :
    c.history.samples.filterMap (Sample.outcomeFor? role) = (c.labelFor? role).toList := by
  have hpolls (labels : List String) : (labels.map Sample.poll).filterMap (Sample.outcomeFor? role) = [] := by
    simp [List.filterMap_map, Sample.outcomeFor?]
  rw [c.samples, List.filterMap_append, hpolls, List.nil_append, labelFor?]
  by_cases hr : c.wish.role = role <;> simp [Sample.outcomeFor?, hr]

theorem pollOutcome_samples (c : Finished) : c.history.samples.filterMap Sample.pollOutcome? = c.history.labels := by
  rw [c.samples, List.filterMap_append, List.filterMap_map]
  simp [Sample.pollOutcome?, Function.comp_def]

end Finished

section Merged

variable {calls : List Finished} (merged : h.Perm (calls.flatMap Finished.history))

include merged

theorem perm_samples (label? : Sample → Option String) :
    (h.samples.filterMap label?).Perm (calls.flatMap fun c => c.history.samples.filterMap label?) := by
  have hp := (merged.filterMap Event.sample?).filterMap label?
  rwa [List.filterMap_flatMap, List.filterMap_flatMap] at hp

theorem perm_enrollments (role : String) :
    (h.samples.filterMap (Sample.outcomeFor? role)).Perm (calls.filterMap (Finished.labelFor? role)) := by
  have hp := perm_samples merged (Sample.outcomeFor? role)
  simp only [Finished.outcomeFor_samples] at hp
  rwa [← List.filterMap_eq_flatMap_toList] at hp

theorem perm_polls :
    (h.samples.filterMap Sample.pollOutcome?).Perm (calls.flatMap fun c => c.history.labels) := by
  have hp := perm_samples merged Sample.pollOutcome?
  simpa only [Finished.pollOutcome_samples] using hp

theorem perm_labels : h.labels.Perm (calls.flatMap fun c => c.history.labels) := by
  have hp := (merged.filterMap Event.outcome?).map outcomeLabel
  rwa [List.filterMap_flatMap, List.map_flatMap] at hp

end Merged

theorem count_labels {outcome : String} {kind : Finished → Bool}
    (each : ∀ c : Finished, c.history.labels.count outcome = if kind c then 1 else 0) (calls : List Finished) :
    (calls.flatMap fun c => c.history.labels).count outcome = calls.countP kind := by
  induction calls with
  | nil => rfl
  | cons c calls ih => rw [List.flatMap_cons, List.count_append, ih, each, List.countP_cons, Nat.add_comm]

theorem countP_handsOut (calls : List Finished) :
    calls.countP (·.history.handsOut) =
      calls.countP (·.result.isOk) + calls.countP fun c => c.isLookedUp && c.isFailureOf Error.kindsHandedOut := by
  induction calls with
  | nil => rfl
  | cons c calls ih =>
    have hc : c.history.handsOut = (c.result.isOk || (c.isLookedUp && c.isFailureOf Error.kindsHandedOut)) :=
      c.closes.handsOut_eq
    rw [List.countP_cons, List.countP_cons, List.countP_cons, ih, hc]
    -- What came to a response is no failure.
    cases hr : c.result with
    | ok => simp [Finished.isFailureOf, isFailureOf, hr, Except.isOk, Except.toBool, Nat.add_right_comm]
    | error e => simp [Except.isOk, Except.toBool, Nat.add_assoc]

theorem finsum_count (labels : List String) : ∑ᶠ label, labels.count label = labels.length := by
  have hs : (fun label => labels.count label).support ⊆ labels.toFinset := by
    intro label hl
    exact List.mem_toFinset.mpr (List.count_pos_iff.mp (Nat.pos_of_ne_zero hl))
  rw [finsum_eq_sum_of_support_subset _ hs, List.sum_toFinset_count_eq_length]

namespace Finished

variable (c : Finished)

theorem samples_unsubmitted (hu : ∀ request handle, ⟨.submit request, .ok handle⟩ ∉ c.history) :
    c.history.samples = [.enrollment c.wish.role c.label] := by
  have ho : c.history.outcomes = [] := by
    apply List.eq_nil_iff_forall_not_mem.mpr
    intro outcome hm
    obtain ⟨handle, he⟩ := History.mem_outcomes.mp hm
    obtain ⟨earlier, later, hsplit⟩ := List.append_of_mem he
    obtain ⟨_, hr, -⟩ := c.ended
    obtain ⟨s, s', hearlier, leads⟩ := hr.split hsplit
    obtain ⟨request, hsubmit⟩ := (IssueStage.course_of_reaches hearlier).allows leads
    exact hu request handle (hsplit ▸ List.mem_append_left _ hsubmit)
  rw [c.samples, History.labels, ho]
  rfl

theorem not_isFailureOf {kinds : List String}
    (roles : ∀ e, ⟨.findRole c.wish.role, .error e⟩ ∈ c.history → e.kind ∉ kinds) (hl : c.isLookedUp = false) :
    c.isFailureOf kinds = false := by
  have hf : c.history.lookupFailed = true := by simpa [isLookedUp] using hl
  obtain ⟨polling, wish, history, result, ended⟩ := c
  cases closes_of_ends ended with
  | astray failed => exact Bool.eq_false_iff.mpr (isFailureOf_error.not.mpr (roles _ failed))
  | undecided found | refused found | handedOut found => cases hf.symm.trans found

theorem countP_isFailureOf {calls : List Finished} {kinds : List String}
    (roles : ∀ c ∈ calls, ∀ e, ⟨.findRole c.wish.role, .error e⟩ ∈ c.history → e.kind ∉ kinds) :
    (calls.countP fun c => c.isLookedUp && c.isFailureOf kinds) = calls.countP (·.isFailureOf kinds) := by
  apply List.countP_congr
  intro c hm
  cases hl : c.isLookedUp with
  | true => rw [Bool.true_and]
  | false => rw [c.not_isFailureOf (roles c hm) hl, Bool.false_and]

end Finished

structure Conserves (m : Metrics) (h : History) (calls : List Finished) : Prop where
  finished (role : String) : m.count (.durations role) = calls.countP fun c => c.wish.role = role
  outcomes (role : String) : ∑ᶠ outcome, m.count (.enrollments role outcome) = m.count (.durations role)
  issued (role : String) :
    m.count (.enrollments role "issued") = calls.countP fun c => c.wish.role = role && c.result.isOk
  failures (role : String) (e : Error) :
    m.count (.enrollments role e.kind) = calls.countP fun c => c.wish.role = role && c.isFailureOf [e.kind]
  polls : ∑ᶠ outcome, m.count (.polls outcome) = h.countP fun e => e.call.isRetrieval
  handedOut : m.count (.polls "issued") = calls.countP fun c => c.history.handsOut
  followed : m.count (.polls "issued") =
    calls.countP (·.result.isOk) + calls.countP fun c => c.isLookedUp && c.isFailureOf Error.kindsHandedOut
  refused : m.count (.polls "error") = calls.countP fun c => c.isLookedUp && c.isFailureOf ["ca_retrieval"]
  unsubmitted : ∀ c ∈ calls, (∀ request handle, ⟨.submit request, .ok handle⟩ ∉ c.history) →
    c.history.samples = [.enrollment c.wish.role c.label]

theorem Tallied.conserves {m : Metrics} {calls : List Finished} (ht : Tallied m h.samples)
    (merged : h.Perm (calls.flatMap Finished.history)) : Conserves m h calls := by
  have henrollments (role outcome : String) :
      m.count (.enrollments role outcome) = (calls.filterMap (Finished.labelFor? role)).count outcome := by
    rw [ht.enrollments, (perm_enrollments merged role).count_eq]
  have hdurations (role : String) : m.count (.durations role) = (calls.filterMap (Finished.labelFor? role)).length := by
    rw [ht.durations, (perm_enrollments merged role).length_eq]
  have heach (role outcome : String) :
      m.count (.enrollments role outcome) = calls.countP fun c => c.wish.role = role && c.label == outcome := by
    rw [henrollments, List.count_eq_countP, List.countP_filterMap]
    apply List.countP_congr
    intro c _
    by_cases hr : c.wish.role = role <;> simp [Finished.labelFor?, hr]
  have hpolls (outcome : String) :
      m.count (.polls outcome) = (calls.flatMap fun c => c.history.labels).count outcome := by
    rw [ht.polls, (perm_polls merged).count_eq]
  have hissued := count_labels (fun c => c.closes.count_issued) calls
  exact {
    finished role := by
      rw [hdurations, List.length_filterMap_eq_countP]
      apply List.countP_congr
      intro c _
      by_cases hr : c.wish.role = role <;> simp [Finished.labelFor?, hr]
    outcomes role := by
      simp only [henrollments, hdurations]
      exact finsum_count _
    issued role := by
      rw [heach]
      apply List.countP_congr
      intro c _
      simp only [Bool.and_eq_true, beq_iff_eq, Finished.label, resultLabel_eq_issued]
    failures role e := by
      rw [heach]
      apply List.countP_congr
      intro c _
      simp only [Bool.and_eq_true, beq_iff_eq, Finished.label, resultLabel_eq_kind, Finished.isFailureOf]
    polls := by
      simp only [hpolls, ← h.length_outcomes]
      rw [finsum_count, ← (perm_labels merged).length_eq, History.labels, List.length_map]
    handedOut := by rw [hpolls, hissued]
    followed := by rw [hpolls, hissued, countP_handsOut]
    refused := by
      rw [hpolls]
      exact count_labels (fun c => c.closes.count_refused) calls
    unsubmitted c _ hu := c.samples_unsubmitted hu }

theorem Conserves.decided {m : Metrics} {calls : List Finished} (hc : Conserves m h calls)
    (roles : ∀ c ∈ calls, ∀ e, ⟨.findRole c.wish.role, .error e⟩ ∈ c.history → e.kind ∉ Error.kindsDecided) :
    m.count (.polls "issued") = calls.countP (·.result.isOk) + calls.countP (·.isFailureOf Error.kindsHandedOut) ∧
      m.count (.polls "error") = calls.countP (·.isFailureOf ["ca_retrieval"]) := by
  constructor
  · rw [hc.followed, Finished.countP_isFailureOf]
    exact fun c hm e he hk => roles c hm e he (List.mem_cons_of_mem _ hk)
  · rw [hc.refused, Finished.countP_isFailureOf]
    intro c hm e he hk
    apply roles c hm e he
    rw [List.mem_singleton.mp hk]
    exact List.mem_cons_self

theorem rehearsals_counted (send : Http.Request → Http.Outcome) (t : Trouble) {world world' : World}
    (answered : Answered (t.answer send) world h world') (fresh : world.metrics = {}) {calls : List Finished}
    (merged : h.Perm (calls.flatMap Finished.history)) :
    Conserves world'.metrics h calls ∧
      world'.metrics.count (.polls "issued") =
          calls.countP (·.result.isOk) + calls.countP (·.isFailureOf Error.kindsHandedOut) ∧
        world'.metrics.count (.polls "error") = calls.countP (·.isFailureOf ["ca_retrieval"]) := by
  have hc := (Recording.tallied (Trouble.recording send t) answered fresh).conserves merged
  refine ⟨hc, hc.decided fun c hm e he => ?_⟩
  have hh := merged.symm.subset (List.mem_flatMap.mpr ⟨c, hm, he⟩)
  have replies (name : String) (world : World) := t.findRole_replies send name world.store world.roles
  exact (replies_of_answered (t.answer_roles send) replies answered hh).not_decided

/-- Whatever the surroundings reply and however enrollments take turns, a fresh recorder ends up with counts that
agree with each other and with what the enrollments came to. -/
theorem counts_conserved {metrics : ω → Metrics} (recording : Recording answer metrics)
    (answered : Answered answer w h w') (fresh : metrics w = {}) {calls : List Finished}
    (merged : h.Perm (calls.flatMap Finished.history)) :
    Conserves (metrics w') h calls ∧
      ((∀ c ∈ calls, ∀ e, ⟨.findRole c.wish.role, .error e⟩ ∈ c.history → e.kind ∉ Error.kindsDecided) →
        (metrics w').count (.polls "issued") =
            calls.countP (·.result.isOk) + calls.countP (·.isFailureOf Error.kindsHandedOut) ∧
          (metrics w').count (.polls "error") = calls.countP (·.isFailureOf ["ca_retrieval"])) ∧
      ((∀ c ∈ calls, ∀ found, ⟨.findRole c.wish.role, found⟩ ∈ c.history →
          ∃ book : RoleBook, book.Replies c.wish.role found) →
        (metrics w').count (.polls "issued") =
            calls.countP (·.result.isOk) + calls.countP (·.isFailureOf Error.kindsHandedOut) ∧
          (metrics w').count (.polls "error") = calls.countP (·.isFailureOf ["ca_retrieval"])) := by
  have hc := (recording.tallied answered fresh).conserves merged
  refine ⟨hc, hc.decided, fun books => hc.decided fun c hm e he => ?_⟩
  obtain ⟨book, hr⟩ := books c hm _ he
  exact hr.not_decided

open LocalCa (trialHandle trialIssued materialize_trial)

def strained (found : Except Error (Option RolePolicy)) : Surroundings Metrics
  | .findRole name, m => (if name = "web" then .ok (some leasedPolicy) else found, m)
  | .chance, m => ([1], m)
  | .submit _, m => (.ok trialHandle, m)
  | .retrieve _, m => (.ok trialIssued, m)
  | .clock, m => ((0 : Nat), m)
  | .sleep _, m => ((), m)
  | .put _ _, m => (.ok (), m)
  | .createLease _ _ _, m => (.error unavailable, m)
  | .today, m => (⟨0, 0⟩, m)
  | .commitLease _, m => (.ok (), m)
  | .count sample, m => ((), m.record sample)

theorem strained_recording (found : Except Error (Option RolePolicy)) : Recording (strained found) id where
  records _ _ := rfl
  keeps call _ hc := by cases call <;> first | rfl | cases hc

def strayWish : Wish :=
  ⟨"mail", "example.com", []⟩

def strayHistory (e : Error) : History :=
  [⟨.findRole "mail", .error e⟩, IssueStage.counted strayWish (.error e)]

theorem ends_strayWish (e : Error) :
    Ends (IssueStage.next ⟨1, none, none⟩ strayWish) .finding (strayHistory e) (.error e) := by
  have start : Reaches (IssueStage.next ⟨1, none, none⟩ strayWish) .finding [] _ := .refl
  have failed := start.step (e := ⟨.findRole "mail", .error e⟩) ⟨.error e, rfl, rfl⟩
  exact ⟨_, failed.step (e := IssueStage.counted strayWish (.error e)) ⟨(), rfl, rfl⟩, rfl⟩

def stray (e : Error) : Finished :=
  ⟨_, _, _, _, ends_strayWish e⟩

theorem answered_stray (e : Error) : Answered (strained (.error e)) {} (stray e).history
    (Metrics.record (.enrollment "mail" e.kind) {}) :=
  (Answered.refl.step (.findRole "mail")).step (.count (.enrollment "mail" e.kind))

/-- A store of roles may fail as if a certificate had been refused or had been handed out; no poll is counted then. -/
theorem lookup_failures_unpolled :
    (∃ h m c, Recording (strained (.error (.caRetrieval "1" "sealed"))) id ∧
      Answered (strained (.error (.caRetrieval "1" "sealed"))) {} h m ∧ h.Perm ([c].flatMap Finished.history) ∧
      Metrics.count (.polls "error") m = 0 ∧ [c].countP (·.isFailureOf ["ca_retrieval"]) = 1) ∧
    ∃ h m c, Recording (strained (.error (.malformedCertificate "sealed"))) id ∧
      Answered (strained (.error (.malformedCertificate "sealed"))) {} h m ∧
      h.Perm ([c].flatMap Finished.history) ∧ Metrics.count (.polls "issued") m = 0 ∧
      [c].countP (·.result.isOk) + [c].countP (·.isFailureOf Error.kindsHandedOut) = 1 :=
  ⟨⟨_, _, stray _, strained_recording _, answered_stray _, .refl _, rfl, rfl⟩,
    ⟨_, _, stray _, strained_recording _, answered_stray _, .refl _, rfl, rfl⟩⟩

def sealed : Error :=
  .storage "storage backend error: sealed"

theorem counts_conserved_strained :
    ∃ h m, Answered (strained (.error sealed)) {} h m ∧
      Metrics.count (.enrollments "web" "lease_binding") m = 1 ∧
      Metrics.count (.durations "mail") m = 1 ∧ Metrics.count (.polls "issued") m = 1 ∧
      Metrics.count (.polls "error") m = 0 := by
  obtain ⟨certificate, hc⟩ := materialize_trial
  let job := leasedJob certificate
  let leased : Finished := ⟨_, _, _, _, ends_leasedWish hc⟩
  have obtained : Answered (strained (.error sealed)) {} _ _ :=
    (((((Answered.refl.step (.findRole "web")).step .chance).step (.submit SigningRequest.trialRequest)).step
      .clock).step (.retrieve trialHandle)).step (.count (.poll "issued"))
  have bound := (obtained.step (.createLease "web" Binding.secretType job.leaseData)).step
    (.count (.enrollment "web" "lease_binding"))
  have answered := (bound.step (.findRole "mail")).step (.count (.enrollment "mail" "storage"))
  have merged : (leasedHistory job ++ strayHistory sealed).Perm ([leased, stray sealed].flatMap Finished.history) :=
    .refl _
  obtain ⟨hconserves, -, hbooks⟩ := counts_conserved (strained_recording _) answered rfl merged
  have hroles : ∀ c ∈ [leased, stray sealed], ∀ found, ⟨.findRole c.wish.role, found⟩ ∈ c.history →
      ∃ book : RoleBook, book.Replies c.wish.role found := by
    intro c hm found hf
    rcases List.mem_pair.mp hm with rfl | rfl
    · obtain rfl : found = .ok (some leasedPolicy) := by
        simpa [leased, leasedHistory, obtainedHistory, trialWish, Binding.creating, IssueStage.counted] using hf
      exact ⟨_, .listed [("web", leasedPolicy)]⟩
    · obtain rfl : found = .error sealed := by
        simpa [stray, strayHistory, strayWish, IssueStage.counted] using hf
      exact ⟨_, .stored (.error (.backend "sealed"))⟩
  obtain ⟨hissued, hrefused⟩ := hbooks hroles
  refine ⟨_, _, answered, ?_, ?_, ?_, ?_⟩
  · exact (hconserves.failures "web" (job.unleased unavailable)).trans rfl
  · exact (hconserves.finished "mail").trans rfl
  · exact hissued.trans rfl
  · exact hrefused.trans rfl

end CertEnroll.Enrollment
