import CertEnroll.Enrollment.Poll
import CertEnroll.Proofs.History

/-!
Polling, step by step: what the polls so far came to, how many the policy still allows, and what the last one
decides. The counter tells the number of polls wherever their number is bounded.
-/

namespace CertEnroll

namespace PollPolicy

def Allows (p : PollPolicy) (polls : Nat) : Prop :=
  ∀ most ∈ p.maxAttempts, polls ≤ max 1 most.toNat

def AllowsMore (p : PollPolicy) (polls : Nat) : Prop :=
  ∀ most ∈ p.maxAttempts, polls < most.toNat

theorem AllowsMore.allows {p : PollPolicy} {polls : Nat} (h : p.AllowsMore polls) : p.Allows (polls + 1) :=
  fun most hm => Nat.le_trans (h most hm) (Nat.le_max_right 1 most.toNat)

end PollPolicy

namespace Enrollment

abbrev Outcome := Except RetrieveError IssuedSet

def isUndecided : Outcome → Bool
  | .ok _ => false
  | .error e => e.isRetryable

namespace PollStage

inductive Verdict (policy : PollPolicy) (handle : PickupHandle) (polls : Nat) :
    Outcome → Except Error IssuedSet → Prop
  | issued (issued : IssuedSet) : Verdict policy handle polls (.ok issued) (.ok issued)
  | failed (cause : AuthorityError) :
    Verdict policy handle polls (.error (.failed cause)) (.error (.caRetrieval handle.id cause.message))
  | exhausted {last : Outcome} (undecided : isUndecided last = true) (bounded : policy.isBounded = true) :
    Verdict policy handle polls last
      (.error (.pollingExhausted handle.id (UInt32.ofNat polls).toNat))

def Told (policy : PollPolicy) (handle : PickupHandle) (polls : List Outcome) : PollStage → Prop
  | .starting => polls = []
  | .retrieving _ attempts =>
    (∀ o ∈ polls, isUndecided o = true) ∧ attempts = .ofNat polls.length ∧ policy.Allows (polls.length + 1)
  | .counting _ attempts outcome =>
    attempts = .ofNat polls.length ∧ policy.Allows polls.length ∧
      ∃ earlier, polls = earlier ++ [outcome] ∧ ∀ o ∈ earlier, isUndecided o = true
  | .timing _ attempts _ =>
    (∀ o ∈ polls, isUndecided o = true) ∧ attempts = .ofNat polls.length ∧
      policy.AllowsMore polls.length ∧ policy.isBounded = true ∧ polls ≠ []
  | .sleeping _ attempts =>
    (∀ o ∈ polls, isUndecided o = true) ∧ attempts = .ofNat polls.length ∧ policy.AllowsMore polls.length
  | .finished result =>
    ∃ earlier last, polls = earlier ++ [last] ∧ (∀ o ∈ earlier, isUndecided o = true) ∧
      Verdict policy handle polls.length last result

variable {policy : PollPolicy} {handle : PickupHandle} {polls : List Outcome}

theorem told_exhausted (hu : ∀ o ∈ polls, isUndecided o = true) (hb : policy.isBounded = true)
    (hne : polls ≠ []) : Told policy handle polls (exhausted handle (.ofNat polls.length)) := by
  refine ⟨polls.dropLast, polls.getLast hne, (List.dropLast_concat_getLast hne).symm, ?_, ?_⟩
  · exact fun o ho => hu o (List.dropLast_subset polls ho)
  · exact .exhausted (hu _ (List.getLast_mem hne)) hb

theorem allowsMore_of_not_reached (ha : policy.Allows polls.length) (hne : polls ≠ [])
    (hmax : ¬ policy.maxAttempts.any (· ≤ UInt32.ofNat polls.length) = true) :
    policy.AllowsMore polls.length := by
  intro most hm
  have hle := ha most hm
  have hsize := most.toNat_lt
  have hlen := List.length_pos_iff.mpr hne
  -- The number of polls is at most a number of 32 bits, so that the counter has not wrapped.
  rw [Option.mem_def.mp hm] at hmax
  simp only [Option.any_some, decide_eq_true_eq, UInt32.not_le, UInt32.lt_iff_toNat_lt] at hmax
  rwa [UInt32.toNat_ofNat', Nat.mod_eq_of_lt (by omega)] at hmax

theorem told_undecided (started : Nat) (ha : policy.Allows polls.length) (hne : polls ≠ [])
    (hu : ∀ o ∈ polls, isUndecided o = true) :
    Told policy handle polls (undecided policy handle started (.ofNat polls.length)) := by
  unfold undecided
  split
  · rename_i hmax
    apply told_exhausted hu _ hne
    cases hm : policy.maxAttempts <;> simp_all [PollPolicy.isBounded]
  · rename_i hmax
    have hmore := allowsMore_of_not_reached ha hne hmax
    split
    · exact ⟨hu, rfl, hmore⟩
    · rename_i deadline hd
      exact ⟨hu, rfl, hmore, by simp [PollPolicy.isBounded, hd], hne⟩

theorem told_judged {started : Nat} {attempts : UInt32} {outcome : Outcome}
    (ht : Told policy handle polls (.counting started attempts outcome)) :
    Told policy handle polls (judged policy handle started attempts outcome) := by
  obtain ⟨rfl, ha, earlier, hp, he⟩ := ht
  have hne : polls ≠ [] := by simp [hp]
  have hu (hl : isUndecided outcome = true) : ∀ o ∈ polls, isUndecided o = true := by
    rw [hp]
    exact List.forall_mem_append.mpr ⟨he, List.forall_mem_singleton.mpr hl⟩
  rcases outcome with (_ | _ | cause) | issued
  · exact told_undecided started ha hne (hu rfl)
  · exact told_undecided started ha hne (hu rfl)
  · exact ⟨earlier, _, hp, he, .failed cause⟩
  · exact ⟨earlier, _, hp, he, .issued issued⟩

theorem Told.step {h : History} {e : Event} {stage stage' : PollStage}
    (ht : Told policy handle h.outcomes stage) (hl : (stage.next policy handle).Leads e stage') :
    Told policy handle (History.outcomes (h ++ [e])) stage' := by
  cases stage with
  | starting =>
    obtain ⟨now, rfl, rfl⟩ := hl
    rw [History.outcomes_quiet h rfl, show h.outcomes = [] from ht]
    exact ⟨by simp, rfl, fun most _ => Nat.le_max_left 1 most.toNat⟩
  | retrieving started attempts =>
    obtain ⟨outcome, rfl, rfl⟩ := hl
    obtain ⟨hu, rfl, ha⟩ := ht
    have ho : History.outcomes (h ++ [⟨.retrieve handle, outcome⟩]) = h.outcomes ++ [outcome] :=
      History.outcomes_append h _
    rw [ho]
    refine ⟨?_, ?_, h.outcomes, rfl, hu⟩
    · rw [List.length_append, List.length_singleton]
      exact (UInt32.ofNat_add _ 1).symm
    · rwa [List.length_append]
  | counting started attempts outcome =>
    obtain ⟨reply, rfl, rfl⟩ := hl
    rw [History.outcomes_quiet h rfl]
    exact told_judged ht
  | timing started attempts deadline =>
    obtain ⟨now, rfl, rfl⟩ := hl
    obtain ⟨hu, rfl, hmore, hb, hne⟩ := ht
    rw [History.outcomes_quiet h rfl]
    dsimp only
    split
    · exact told_exhausted hu hb hne
    · exact ⟨hu, rfl, hmore⟩
  | sleeping started attempts =>
    obtain ⟨reply, rfl, rfl⟩ := hl
    obtain ⟨hu, hc, hmore⟩ := ht
    rw [History.outcomes_quiet h rfl]
    exact ⟨hu, hc, hmore.allows⟩
  | finished result => exact hl.elim

theorem told_of_reaches {h : History} {stage : PollStage}
    (hr : Reaches (next policy handle) .starting h stage) : Told policy handle h.outcomes stage := by
  induction hr with
  | refl => rfl
  | step _ hl ih => exact ih.step hl

theorem leads_call {e : Event} {stage stage' : PollStage} (hl : (stage.next policy handle).Leads e stage') :
    e.call = .retrieve handle ∨ e.call = .clock ∨ (∃ nanos, e.call = .sleep nanos) ∨
      ∃ sample, e.call = .count sample := by
  cases stage with
  | starting | timing =>
    obtain ⟨_, rfl, rfl⟩ := hl
    exact .inr (.inl rfl)
  | retrieving =>
    obtain ⟨_, rfl, rfl⟩ := hl
    exact .inl rfl
  | counting =>
    obtain ⟨_, rfl, rfl⟩ := hl
    exact .inr (.inr (.inr ⟨_, rfl⟩))
  | sleeping =>
    obtain ⟨_, rfl, rfl⟩ := hl
    exact .inr (.inr (.inl ⟨_, rfl⟩))
  | finished => exact hl.elim

theorem spares_of_reaches {kind : Call → Bool} {h : History} {stage : PollStage}
    (hr : Reaches (next policy handle) .starting h stage) (hretrieve : kind (.retrieve handle) = false)
    (hclock : kind .clock = false) (hsleep : ∀ nanos, kind (.sleep nanos) = false)
    (hcount : ∀ sample, kind (.count sample) = false) : h.Spares kind := by
  refine hr.all fun hl => ?_
  rcases leads_call hl with h | h | ⟨nanos, h⟩ | ⟨sample, h⟩ <;> rw [h]
  · exact hretrieve
  · exact hclock
  · exact hsleep nanos
  · exact hcount sample

theorem next_eq_done {stage : PollStage} {result : Except Error IssuedSet} :
    stage.next policy handle = .done result ↔ stage = .finished result := by
  cases stage <;> simp [next]

theorem Verdict.eq_ok {count : Nat} {last : Outcome} {issued : IssuedSet}
    (hv : Verdict policy handle count last (.ok issued)) : last = .ok issued := by
  cases hv
  rfl

theorem Verdict.not_ok {count : Nat} {last : Outcome} {e : Error}
    (hv : Verdict policy handle count last (.error e)) (issued : IssuedSet) : last ≠ .ok issued := by
  rintro rfl
  cases hv with
  | exhausted undecided => cases undecided

def attempts? : PollStage → Option UInt32
  | .retrieving _ attempts | .counting _ attempts _ | .timing _ attempts _ | .sleeping _ attempts =>
    some attempts
  | .starting | .finished _ => none

theorem Told.counted {stage : PollStage} {attempts : UInt32} (ht : Told policy handle polls stage)
    (hm : policy.maxAttempts.isSome = true) (ha : stage.attempts? = some attempts) :
    attempts.toNat = polls.length := by
  obtain ⟨most, hmost⟩ := Option.isSome_iff_exists.mp hm
  have hsize := most.toNat_lt
  have hcount (hle : policy.Allows polls.length) : (UInt32.ofNat polls.length).toNat = polls.length := by
    have := hle most hmost
    rw [UInt32.toNat_ofNat', Nat.mod_eq_of_lt (by omega)]
  have hless {n : Nat} (hle : policy.Allows (n + 1)) : policy.Allows n :=
    fun most hm => Nat.le_of_succ_le (hle most hm)
  cases stage with
  | starting => cases ha
  | retrieving =>
    cases ha
    obtain ⟨-, rfl, hle⟩ := ht
    exact hcount (hless hle)
  | counting =>
    cases ha
    obtain ⟨rfl, hle, -⟩ := ht
    exact hcount hle
  | timing =>
    cases ha
    obtain ⟨-, rfl, hmore, -, -⟩ := ht
    exact hcount (hless hmore.allows)
  | sleeping =>
    cases ha
    obtain ⟨-, rfl, hmore⟩ := ht
    exact hcount (hless hmore.allows)
  | finished => cases ha

theorem Told.undecided {e : Event} {stage stage' : PollStage} (ht : Told policy handle polls stage)
    (hl : (stage.next policy handle).Leads e stage') (he : e.call.isPollingOn = true) :
    ∀ o ∈ polls, isUndecided o = true := by
  cases stage with
  | retrieving => exact ht.1
  | sleeping => exact ht.1
  | starting | counting | timing =>
    obtain ⟨_, rfl, rfl⟩ := hl
    cases he
  | finished => exact hl.elim

theorem isUndecided_iff {outcome : Outcome} :
    isUndecided outcome = true ↔ ∃ e, outcome = .error e ∧ e.isRetryable = true := by
  cases outcome <;> simp [isUndecided]

end PollStage

end Enrollment

end CertEnroll
