import CertEnroll.Proofs.PollBound
import CertEnroll.Proofs.PollingEnds

namespace CertEnroll.Enrollment

variable {p : PollPolicy} {handle : PickupHandle} {outcomes : Nat → Outcome} {lasting : Nat → Nat}
  {deadline clock : Nat} {h : History} {stage stage' : PollStage} {t : Timeline}

theorem Timeline.ticking (outcomes : Nat → Outcome) (lasting : Nat → Nat) :
    Ticking (Timeline.answer outcomes lasting) Timeline.clock where
  told _ := rfl
  forward call t := by
    cases call with
    | retrieve => exact Nat.le_add_right t.clock _
    | sleep => exact Nat.le_add_right t.clock _
    | _ => exact Nat.le_refl _
  pause _ _ := Nat.le_refl _

theorem Timeline.polls_eq (ha : Answered (Timeline.answer outcomes lasting) ⟨clock, 0, 0⟩ h t) :
    t.polls = h.outcomes.length := by
  induction ha with
  | refl => rfl
  | @step h t call _ ih =>
    cases call with
    | retrieve handle => exact (congrArg (· + 1) ih).trans (by simp [History.outcomes, Event.outcome?])
    | _ => exact ih.trans (congrArg List.length (h.outcomes_quiet rfl).symm)

namespace PollStage

theorem allows_of_reaches (hr : Reaches (next p handle) .starting h stage) : p.Allows h.outcomes.length := by
  induction hr with
  | refl => exact fun most _ => Nat.zero_le _
  | @step h s s' e before leads ih =>
    cases s with
    | retrieving started attempts =>
      obtain ⟨outcome, rfl, -⟩ := leads
      obtain ⟨-, -, hallows⟩ := told_of_reaches before
      simpa [History.outcomes, Event.outcome?] using hallows
    | starting | counting | timing | sleeping =>
      obtain ⟨_, rfl, -⟩ := leads
      rwa [h.outcomes_quiet rfl]
    | finished => exact leads.elim

structure LastInTime (p : PollPolicy) (lasting : Nat → Nat) (clock deadline : Nat) (t : Timeline) : Prop where
  polled : 0 < t.polls
  spaced : clock + (t.polls - 1) * p.interval + lasting (t.polls - 1) ≤ t.clock
  inTime : t.clock ≤ clock + deadline + lasting (t.polls - 1)

def InTime (p : PollPolicy) (lasting : Nat → Nat) (clock deadline : Nat) : PollStage → Timeline → Prop
  | .starting, t => t.clock = clock ∧ t.polls = 0
  | .retrieving started _, t =>
    started = clock ∧ clock + t.polls * p.interval ≤ t.clock ∧ t.clock ≤ clock + deadline
  | .counting started _ _, t => started = clock ∧ LastInTime p lasting clock deadline t
  | .timing started _ due, t => started = clock ∧ due = deadline ∧ LastInTime p lasting clock deadline t
  | .sleeping started _, t =>
    started = clock ∧ LastInTime p lasting clock deadline t ∧ t.clock + p.interval ≤ clock + deadline
  | .finished result, t =>
    LastInTime p lasting clock deadline t ∧ ∀ pickup attempts,
      result = .error (.pollingExhausted pickup attempts) →
        (∃ most ∈ p.maxAttempts, most.toNat ≤ attempts) ∨ clock + deadline < t.clock + p.interval

theorem LastInTime.polled_once {lasted : Nat} (hspaced : clock + t.polls * p.interval ≤ t.clock)
    (hlasted : lasted = lasting t.polls) (hin : t.clock ≤ clock + deadline) :
    LastInTime p lasting clock deadline { t with clock := t.clock + lasted, polls := t.polls + 1 } := by
  subst hlasted
  refine ⟨Nat.succ_pos _, ?_, ?_⟩ <;> simp only [Nat.add_sub_cancel] <;> omega

theorem LastInTime.paused (hl : LastInTime p lasting clock deadline t) :
    clock + t.polls * p.interval ≤ t.clock + p.interval := by
  have hspaced := hl.spaced
  have hpolls : (t.polls - 1) * p.interval + p.interval = t.polls * p.interval := by
    rw [← Nat.succ_mul, Nat.succ_eq_add_one, Nat.sub_add_cancel hl.polled]
  omega

theorem inTime_judged (hd : p.deadline = some deadline) (hl : LastInTime p lasting clock deadline t)
    (attempts : UInt32) (outcome : Outcome) :
    InTime p lasting clock deadline (judged p handle clock attempts outcome) t := by
  have hundecided : InTime p lasting clock deadline (undecided p handle clock attempts) t := by
    unfold undecided
    split
    · rename_i hmost
      refine ⟨hl, fun pickup reported he => .inl ?_⟩
      obtain ⟨most, hm, hle⟩ := (Option.any_eq_true _ _).mp hmost
      cases he
      exact ⟨most, hm, by simpa [UInt32.le_iff_toNat_le] using hle⟩
    · rw [hd]
      exact ⟨rfl, rfl, hl⟩
  cases outcome with
  | ok issued => exact ⟨hl, fun _ _ he => by cases he⟩
  | error e =>
    cases e with
    | pending | timeout => exact hundecided
    | failed cause => exact ⟨hl, fun _ _ he => by cases he⟩

theorem InTime.step (hd : p.deadline = some deadline) (hi : InTime p lasting clock deadline stage t) {call : Call}
    (hl : (stage.next p handle).Leads ⟨call, (Timeline.answer outcomes lasting call t).1⟩ stage') :
    InTime p lasting clock deadline stage' (Timeline.answer outcomes lasting call t).2 := by
  cases stage with
  | starting =>
    obtain ⟨now, hcall, rfl⟩ := hl
    cases hcall
    obtain ⟨rfl, hpolls⟩ := hi
    refine ⟨rfl, ?_, Nat.le_add_right _ _⟩
    simp [Timeline.answer, hpolls]
  | retrieving started attempts =>
    obtain ⟨outcome, hcall, rfl⟩ := hl
    cases hcall
    obtain ⟨rfl, hspaced, hin⟩ := hi
    exact ⟨rfl, .polled_once hspaced rfl hin⟩
  | counting started attempts outcome =>
    obtain ⟨_, hcall, rfl⟩ := hl
    cases hcall
    obtain ⟨rfl, hlast⟩ := hi
    exact inTime_judged hd hlast attempts outcome
  | timing started attempts due =>
    obtain ⟨now, hcall, rfl⟩ := hl
    cases hcall
    obtain ⟨rfl, rfl, hlast⟩ := hi
    have hstarted : started ≤ t.clock := by
      have := hlast.spaced
      omega
    dsimp only [Timeline.answer]
    split
    · rename_i hover
      rw [overdue, decide_eq_true_eq] at hover
      refine ⟨hlast, fun _ _ _ => .inr ?_⟩
      omega
    · rename_i hover
      rw [overdue, decide_eq_true_eq] at hover
      refine ⟨rfl, hlast, ?_⟩
      omega
  | sleeping started attempts =>
    obtain ⟨_, hcall, rfl⟩ := hl
    cases hcall
    obtain ⟨rfl, hlast, hin⟩ := hi
    exact ⟨rfl, hlast.paused, hin⟩
  | finished => exact hl.elim

theorem inTime_of_reaches (hd : p.deadline = some deadline) (hr : Reaches (next p handle) .starting h stage)
    (ha : Answered (Timeline.answer outcomes lasting) ⟨clock, 0, 0⟩ h t) :
    InTime p lasting clock deadline stage t := by
  induction hr generalizing t with
  | refl =>
    obtain rfl := ha.unmoved
    exact ⟨rfl, rfl⟩
  | @step h s s' e before leads ih =>
    obtain ⟨t₀, earlier, he, rfl⟩ := ha.last
    rw [he] at leads
    exact (ih earlier).step hd leads

theorem InTime.polls_le (hI : 0 < p.interval) (hi : InTime p lasting clock deadline stage t) :
    t.polls ≤ deadline / p.interval + 1 := by
  have hlast (hl : LastInTime p lasting clock deadline t) : t.polls ≤ deadline / p.interval + 1 := by
    have hspaced := hl.spaced
    have hin := hl.inTime
    have hfits : t.polls - 1 ≤ deadline / p.interval := (Nat.le_div_iff_mul_le hI).mpr (by omega)
    omega
  cases stage with
  | starting => exact hi.2 ▸ Nat.zero_le _
  | retrieving =>
    obtain ⟨-, hspaced, hin⟩ := hi
    exact Nat.le_succ_of_le ((Nat.le_div_iff_mul_le hI).mpr (by omega))
  | counting => exact hlast hi.2
  | timing => exact hlast hi.2.2
  | sleeping => exact hlast hi.2.1
  | finished => exact hlast hi.1

theorem polls_le_allowed (hd : p.deadline = some deadline) (hI : 0 < p.interval)
    (hr : Reaches (next p handle) .starting h stage)
    (ha : Answered (Timeline.answer outcomes lasting) ⟨clock, 0, 0⟩ h t) : t.polls ≤ p.pollsAllowed := by
  apply le_min
  · have hallows := allows_of_reaches hr
    cases hm : p.maxAttempts with
    | none => exact le_top
    | some most =>
      rw [Option.elim_some, Nat.cast_le, Timeline.polls_eq ha]
      exact hallows most hm
  · rw [hd, Option.elim_some, Nat.cast_le]
    exact (inTime_of_reaches hd hr ha).polls_le hI

end PollStage

open PollStage

/-- However long polls take, none begins after the deadline, there are no more of them than the policy allows,
and polling is over by the deadline but for the time of its last poll. -/
theorem polling_keeps_deadline (p : PollPolicy) {deadline : Nat} (hd : p.deadline = some deadline)
    (hI : 0 < p.interval) (handle : PickupHandle) (outcomes : Nat → Outcome) (lasting : Nat → Nat) (clock : Nat) :
    (∀ {h stage t}, Reaches (PollStage.next p handle) .starting h stage →
      Answered (Timeline.answer outcomes lasting) ⟨clock, 0, 0⟩ h t →
        t.polls ≤ p.pollsAllowed ∧
        ∀ started attempts, stage = .retrieving started attempts → t.clock ≤ clock + deadline) ∧
    ∃ steps result t,
      (∀ fuel, steps ≤ fuel → run (PollStage.next p handle) (Timeline.answer outcomes lasting)
        (fun _ _ => false) fuel .starting ⟨clock, 0, 0⟩ = .done result t) ∧
      0 < t.polls ∧ t.polls ≤ p.pollsAllowed ∧ t.clock ≤ clock + deadline + lasting (t.polls - 1) ∧
      ∀ pickup attempts, result = .error (.pollingExhausted pickup attempts) →
        (∃ most ∈ p.maxAttempts, most.toNat ≤ attempts) ∨ clock + deadline < t.clock + p.interval := by
  constructor
  · intro h stage t hr ha
    refine ⟨polls_le_allowed hd hI hr ha, ?_⟩
    rintro started attempts rfl
    exact (inTime_of_reaches hd hr ha).2.2
  · have hbounded : p.isBounded = true := by simp [PollPolicy.isBounded, hd]
    have hhalts : Halts p handle (Timeline.answer outcomes lasting) .starting ⟨clock, 0, 0⟩ :=
      halts_starting hbounded hI (fun _ => Timeline.ticking outcomes lasting) ⟨clock, 0, 0⟩
    obtain ⟨fuel, result, t, hrun⟩ := hhalts
    obtain ⟨h, hfollows⟩ := run_follows (PollStage.next p handle) (Timeline.answer outcomes lasting)
      (fun _ _ => false) fuel .starting ⟨clock, 0, 0⟩
    rw [hrun] at hfollows
    obtain ⟨hends, ha⟩ := hfollows
    obtain ⟨stage, hr, hdone⟩ := id hends
    rw [next_eq_done.mp hdone] at hr
    obtain ⟨hlast, hexhausted⟩ := inTime_of_reaches hd hr ha
    exact ⟨h.length + 1, result, t, fun fuel hf => run_of_ends hends ha hf, hlast.polled,
      polls_le_allowed hd hI hr ha, hlast.inTime, hexhausted⟩

theorem polling_keeps_deadline_slow :
    ∃ steps, (∀ fuel, steps ≤ fuel → run (PollStage.next ⟨5, none, some 12⟩ ⟨"scripted-1"⟩)
        (Timeline.answer (fun _ => .error .pending) fun _ => 4) (fun _ _ => false) fuel .starting ⟨0, 0, 0⟩ =
      .done (.error (.pollingExhausted "scripted-1" 2)) ⟨13, 2, 1⟩) ∧ 13 ≤ 0 + 12 + 4 ∧ 0 + 12 < 13 + 5 := by
  obtain ⟨-, steps, result, t, hrun, -, -, hclock, hexhausted⟩ := polling_keeps_deadline ⟨5, none, some 12⟩ rfl
    (by decide) ⟨"scripted-1"⟩ (fun _ => .error .pending) (fun _ => 4) 0
  have hvalue (fuel : Nat) : run (PollStage.next ⟨5, none, some 12⟩ ⟨"scripted-1"⟩)
      (Timeline.answer (fun _ => .error .pending) fun _ => 4) (fun _ _ => false) (fuel + 9) .starting ⟨0, 0, 0⟩ =
        .done (.error (.pollingExhausted "scripted-1" 2)) ⟨13, 2, 1⟩ := rfl
  have hsame := (hrun (steps + 9) (Nat.le_add_right _ _)).symm.trans (hvalue steps)
  rw [Progress.done.injEq] at hsame
  obtain ⟨rfl, rfl⟩ := hsame
  exact ⟨steps, hrun, hclock, (hexhausted _ _ rfl).resolve_left (by simp)⟩

end CertEnroll.Enrollment
