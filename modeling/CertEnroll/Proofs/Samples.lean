import CertEnroll.Enrollment.Trouble
import CertEnroll.Proofs.Failure
import Mathlib.Data.List.Basic

/-!
What is counted. Metrics hold for each series how many samples it has, whatever else happens between them. Every
poll counts once by its outcome, right after it, and every enrollment counts once, at its end.
-/

namespace CertEnroll

namespace Series

def enrollments (role outcome : String) : Series :=
  ⟨Sample.enrollmentsName, [("role", role), ("outcome", outcome)]⟩

def durations (role : String) : Series :=
  ⟨Sample.durationName, [("role", role)]⟩

def polls (outcome : String) : Series :=
  ⟨Sample.pollsName, [("outcome", outcome)]⟩

end Series

namespace Sample

def outcomeFor? (role : String) : Sample → Option String
  | .enrollment other outcome => if other = role then some outcome else none
  | .poll _ => none

def pollOutcome? : Sample → Option String
  | .enrollment _ _ => none
  | .poll outcome => some outcome

variable (sample : Sample) (role outcome : String)

theorem count_enrollments :
    sample.series.count (.enrollments role outcome) = (sample.outcomeFor? role).toList.countP (· == outcome) := by
  cases sample with
  | enrollment other result =>
    by_cases hr : other = role <;>
      simp [series, outcomeFor?, Series.enrollments, List.count_cons, List.countP_cons, enrollmentsName, durationName,
        hr]
  | poll => simp [series, outcomeFor?, Series.enrollments, enrollmentsName, pollsName]

theorem count_durations :
    sample.series.count (.durations role) = (sample.outcomeFor? role).toList.countP fun _ => true := by
  cases sample with
  | enrollment other result =>
    by_cases hr : other = role <;>
      simp [series, outcomeFor?, Series.durations, enrollmentsName, durationName, hr]
  | poll => simp [series, outcomeFor?, Series.durations, durationName, pollsName]

theorem count_polls :
    sample.series.count (.polls outcome) = sample.pollOutcome?.toList.countP (· == outcome) := by
  cases sample <;>
    simp [series, pollOutcome?, Series.polls, List.count_cons, List.countP_cons, enrollmentsName, durationName,
      pollsName]

end Sample

namespace Metrics

theorem count_cons (other s : Series) (n : Nat) (counts : List (Series × Nat)) :
    count s ⟨(other, n) :: counts⟩ = if s = other then n else count s ⟨counts⟩ := by
  by_cases hs : s = other
  · simp [count, hs]
  · simp [count, List.lookup_cons, beq_false_of_ne hs, hs]

theorem count_increased (s t : Series) (counts : List (Series × Nat)) :
    count s ⟨increased t counts⟩ = count s ⟨counts⟩ + if t = s then 1 else 0 := by
  induction counts with
  | nil =>
    rw [increased, count_cons]
    simp [count, eq_comm]
  | cons entry counts ih =>
    obtain ⟨other, n⟩ := entry
    by_cases ht : other = t
    · by_cases hs : s = other <;> simp_all [increased, count_cons, eq_comm]
    · by_cases hs : s = other <;> simp_all [increased, count_cons, eq_comm]

theorem count_record (sample : Sample) (m : Metrics) (s : Series) :
    (m.record sample).count s = m.count s + sample.series.count s := by
  obtain ⟨counts⟩ := m
  rw [record]
  induction sample.series generalizing counts with
  | nil => rfl
  | cons t more ih =>
    rw [List.foldl_cons, ih, count_increased, List.count_cons]
    simp only [beq_iff_eq]
    omega

end Metrics

namespace Enrollment

variable {ω : Type} {answer : Surroundings ω} {metrics : ω → Metrics} {w w' : ω} {h h' : History}

def Event.sample? : Event → Option Sample
  | ⟨.count sample, _⟩ => some sample
  | _ => none

def Call.isRetrieval : Call → Bool
  | .retrieve _ => true
  | _ => false

namespace History

def samples (h : History) : List Sample :=
  h.filterMap Event.sample?

def labels (h : History) : List String :=
  h.outcomes.map outcomeLabel

theorem samples_append (h h' : History) : samples (h ++ h') = h.samples ++ h'.samples :=
  List.filterMap_append

theorem samples_eq_nil (hs : h.Spares Call.isCount) : h.samples = [] := by
  apply List.eq_nil_iff_forall_not_mem.mpr
  intro sample hm
  obtain ⟨⟨call, reply⟩, he, hc⟩ := List.mem_filterMap.mp hm
  cases call with
  | count => exact hs.not_mem rfl he
  | _ => cases hc

theorem length_outcomes (h : History) : h.outcomes.length = h.countP fun e => e.call.isRetrieval := by
  rw [outcomes, List.length_filterMap_eq_countP]
  apply List.countP_congr
  rintro ⟨call, reply⟩ -
  cases call <;> simp [Event.outcome?, Call.isRetrieval]

end History

structure Recording (answer : Surroundings ω) (metrics : ω → Metrics) : Prop where
  records : ∀ sample w, metrics (answer (.count sample) w).2 = (metrics w).record sample
  keeps : ∀ call w, call.isCount = false → metrics (answer call w).2 = metrics w

structure Tallied (m : Metrics) (samples : List Sample) : Prop where
  enrollments (role outcome : String) :
    m.count (.enrollments role outcome) = (samples.filterMap (Sample.outcomeFor? role)).count outcome
  durations (role : String) : m.count (.durations role) = (samples.filterMap (Sample.outcomeFor? role)).length
  polls (outcome : String) : m.count (.polls outcome) = (samples.filterMap Sample.pollOutcome?).count outcome

theorem World.recording (send : Http.Request → Http.Outcome) : Recording (World.answer send) World.metrics where
  records _ _ := rfl
  keeps call w hc := by cases call <;> first | rfl | cases hc

theorem Trouble.recording (send : Http.Request → Http.Outcome) (t : Trouble) :
    Recording (t.answer send) World.metrics where
  records := (World.recording send).records
  keeps call w hc := by
    cases call with
    | findRole | put => rfl
    | createLease | commitLease =>
      dsimp only [answer]
      split
      · rfl
      · exact (World.recording send).keeps _ w hc
    | _ => exact (World.recording send).keeps _ w hc

namespace Recording

variable (recording : Recording answer metrics)

include recording

theorem count_answered (ha : Answered answer w h w') (s : Series) :
    (metrics w').count s = (metrics w).count s + (h.samples.flatMap Sample.series).count s := by
  induction ha with
  | refl => rfl
  | @step h w' call before ih =>
    rw [History.samples_append, List.flatMap_append, List.count_append, ← Nat.add_assoc, ← ih]
    cases call with
    | count sample =>
      rw [recording.records, Metrics.count_record]
      simp [History.samples, Event.sample?]
    | _ =>
      rw [recording.keeps _ _ rfl]
      rfl

theorem count_fresh (ha : Answered answer w h w') (fresh : metrics w = {}) {s : Series}
    {label? : Sample → Option String} {kind : String → Bool}
    (each : ∀ sample : Sample, sample.series.count s = (label? sample).toList.countP kind) :
    (metrics w').count s = (h.samples.filterMap label?).countP kind := by
  have hseries : List.count s ∘ Sample.series = List.countP kind ∘ fun sample => (label? sample).toList := funext each
  rw [recording.count_answered ha, fresh, List.filterMap_eq_flatMap_toList, List.count_flatMap, List.countP_flatMap,
    hseries]
  exact Nat.zero_add _

theorem tallied (ha : Answered answer w h w') (fresh : metrics w = {}) : Tallied (metrics w') h.samples where
  enrollments role outcome := recording.count_fresh ha fresh (Sample.count_enrollments · role outcome)
  durations role := by
    rw [recording.count_fresh ha fresh (Sample.count_durations · role), List.countP_true]
  polls outcome := recording.count_fresh ha fresh (Sample.count_polls · outcome)

end Recording

def pollSample (outcome : Outcome) : Sample :=
  .poll (outcomeLabel outcome)

namespace PollStage

variable {polling : PollPolicy} {handle : PickupHandle} {stage stage' : PollStage} {e : Event}

def uncounted : PollStage → List Outcome
  | .counting _ _ outcome => [outcome]
  | _ => []

theorem uncounted_judged (started : Nat) (attempts : UInt32) (outcome : Outcome) :
    (judged polling handle started attempts outcome).uncounted = [] := by
  have hu : (undecided polling handle started attempts).uncounted = [] := by
    unfold undecided
    split
    · rfl
    · split <;> rfl
  rcases outcome with (_ | _ | cause) | issued
  · exact hu
  · exact hu
  · rfl
  · rfl

theorem samples_leads (hl : (stage.next polling handle).Leads e stage') :
    History.samples [e] ++ stage'.uncounted.map pollSample =
      stage.uncounted.map pollSample ++ (History.outcomes [e]).map pollSample := by
  cases stage with
  | starting | retrieving | sleeping =>
    obtain ⟨_, rfl, rfl⟩ := hl
    rfl
  | counting =>
    -- The step before told the outcome, this one counts it.
    obtain ⟨_, rfl, rfl⟩ := hl
    rw [uncounted_judged]
    rfl
  | timing =>
    obtain ⟨_, rfl, rfl⟩ := hl
    dsimp only
    split <;> rfl
  | finished => exact hl.elim

theorem samples_of_reaches (hr : Reaches (next polling handle) .starting h stage) :
    h.samples ++ stage.uncounted.map pollSample = h.outcomes.map pollSample := by
  induction hr with
  | refl => rfl
  | step _ hl ih =>
    rw [History.samples_append, History.outcomes_append, List.map_append, List.append_assoc, samples_leads hl,
      ← List.append_assoc, ih]

theorem samples_of_finished {result : Except Error IssuedSet}
    (hr : Reaches (next polling handle) .starting h (.finished result)) : h.samples = h.outcomes.map pollSample := by
  have hs : h.samples ++ [] = h.outcomes.map pollSample := samples_of_reaches hr
  rwa [List.append_nil] at hs

end PollStage

variable {polling : PollPolicy} {wish : Wish} {p : Prepared} {result : Except Error IssueResponse}

theorem ObtainStage.samples_of_ends {request : SigningRequest} {result : Except Error IssuedSet}
    (ho : Ends (next polling request) .submitting h result) : h.samples = h.outcomes.map pollSample := by
  cases result with
  | ok issued =>
    obtain ⟨handle, polls, rfl, hr⟩ := ends_ok ho
    change History.samples polls = (History.outcomes polls).map pollSample
    exact PollStage.samples_of_finished hr
  | error e =>
    rcases ends_error ho with ⟨cause, rfl, -⟩ | ⟨handle, polls, rfl, hr⟩
    · rfl
    · change History.samples polls = (History.outcomes polls).map pollSample
      exact PollStage.samples_of_finished hr

theorem Wish.Requests.samples {obtained : Except Error IssuedSet} (requested : wish.Requests h p)
    (ho : Ends (ObtainStage.next polling p.request) .submitting h' obtained) :
    History.samples (h ++ h') = (History.outcomes (h ++ h')).map pollSample := by
  rw [History.samples_append, History.samples_eq_nil (requested.spares (fun _ => rfl) rfl), List.nil_append,
    requested.outcomes, ObtainStage.samples_of_ends ho]

theorem IssueStage.Came.samples (came : Came polling wish h result) : h.samples = h.outcomes.map pollSample := by
  cases came with
  | unplanned => rfl
  | unprepared => rfl
  | unobtained requested obtained => exact requested.samples obtained
  | unread requested obtained => exact requested.samples obtained
  | @bound h h' h'' _ _ _ _ requested obtained _ kept =>
    obtain ⟨_, hr, -⟩ := kept
    have hs : h''.samples = [] :=
      History.samples_eq_nil (BindStage.spares_of_reaches hr (fun _ _ => rfl) (fun _ _ _ => rfl) rfl (fun _ => rfl))
    have ho : h''.outcomes = [] :=
      History.outcomes_eq_nil (BindStage.spares_of_reaches hr (fun _ _ => rfl) (fun _ _ _ => rfl) rfl (fun _ => rfl))
    rw [History.samples_append, History.outcomes_append, hs, ho, List.append_nil, List.append_nil]
    exact requested.samples obtained

theorem samples_of_ends (he : Ends (IssueStage.next polling wish) .finding h result) :
    h.samples = h.labels.map .poll ++ [.enrollment wish.role (resultLabel result)] := by
  obtain ⟨before, rfl, came⟩ := IssueStage.came_of_ends he
  rw [History.samples_append, came.samples, History.labels, before.outcomes_quiet rfl, List.map_map]
  rfl

end Enrollment

end CertEnroll
