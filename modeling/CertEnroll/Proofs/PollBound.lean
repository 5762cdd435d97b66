import CertEnroll.Proofs.Polling
import Mathlib.Data.ENat.Lattice

namespace CertEnroll

noncomputable def PollPolicy.pollsAllowed (p : PollPolicy) : ENat :=
  min (p.maxAttempts.elim ⊤ fun most => (max 1 most.toNat : Nat))
    (p.deadline.elim ⊤ fun deadline => (deadline / p.interval + 1 : Nat))

namespace Enrollment

open Classical in
noncomputable def decidedAt (outcomes : Nat → Outcome) : ENat :=
  if h : ∃ n, isUndecided (outcomes n) = false then (Nat.find h + 1 : Nat) else ⊤

structure Timeline where
  clock : Nat
  polls : Nat := 0
  pauses : Nat := 0

instance (call : Call) : Inhabited call.Reply :=
  match call with
  | .findRole _ => ⟨.ok none⟩
  | .chance => ⟨[]⟩
  | .submit _ => ⟨.error (.transport "")⟩
  | .retrieve _ => ⟨.error .pending⟩
  | .clock => ⟨(0 : Nat)⟩
  | .sleep _ => ⟨()⟩
  | .put _ _ => ⟨.ok ()⟩
  | .createLease _ _ _ => ⟨.ok default⟩
  | .today => ⟨(default : Instant)⟩
  | .commitLease _ => ⟨.ok ()⟩
  | .count _ => ⟨()⟩

def Timeline.answer (outcomes : Nat → Outcome) (lasting : Nat → Nat) : Surroundings Timeline
  | .clock, t => (t.clock, t)
  | .retrieve _, t =>
    (outcomes t.polls, { t with clock := t.clock + lasting t.polls, polls := t.polls + 1 })
  | .sleep nanos, t => ((), { t with clock := t.clock + nanos, pauses := t.pauses + 1 })
  | _, t => (default, t)

def settled (handle : PickupHandle) : Outcome → Except Error IssuedSet
  | .ok issued => .ok issued
  | .error e => .error (.caRetrieval handle.id e.message)

namespace PollStage

variable {p : PollPolicy} {handle : PickupHandle} {outcomes : Nat → Outcome}

def goesOn (p : PollPolicy) (handle : PickupHandle) (outcomes : Nat → Outcome) (fuel : Nat)
    (stage : PollStage) (t : Timeline) : Progress PollStage (Except Error IssuedSet) Timeline :=
  run (next p handle) (Timeline.answer outcomes fun _ => 0) (fun _ _ => false) fuel stage t

def Spent (p : PollPolicy) (polls : Nat) : Prop :=
  (∃ most ∈ p.maxAttempts, most.toNat ≤ polls) ∨ ∃ deadline ∈ p.deadline, deadline < polls * p.interval

theorem spent_iff (hI : 0 < p.interval) {polls : Nat} (hp : 0 < polls) :
    Spent p polls ↔ p.pollsAllowed ≤ polls := by
  unfold Spent PollPolicy.pollsAllowed
  rw [min_le_iff]
  apply or_congr
  · cases p.maxAttempts with
    | none => simp
    | some most =>
      simp only [Option.mem_def, Option.some.injEq, exists_eq_left', Option.elim_some, Nat.cast_le]
      omega
  · cases p.deadline with
    | none => simp
    | some deadline =>
      simp only [Option.mem_def, Option.some.injEq, exists_eq_left', Option.elim_some, Nat.cast_le]
      rw [Nat.add_one_le_iff, Nat.div_lt_iff_lt_mul hI]

def paused (p : PollPolicy) (clock polls : Nat) : Timeline :=
  ⟨clock + polls * p.interval, polls, polls⟩

def polled (p : PollPolicy) (clock polls : Nat) : Timeline :=
  ⟨clock + polls * p.interval, polls + 1, polls⟩

variable {clock polls fuel : Nat}

theorem reached_iff (hp : polls < 2 ^ 32) :
    p.maxAttempts.any (· ≤ UInt32.ofNat polls) = true ↔ ∃ most ∈ p.maxAttempts, most.toNat ≤ polls := by
  cases p.maxAttempts with
  | none => simp
  | some most =>
    simp only [Option.any_some, decide_eq_true_eq, UInt32.le_iff_toNat_le, UInt32.toNat_ofNat',
      Nat.mod_eq_of_lt hp, Option.mem_def, Option.some.injEq, exists_eq_left']

theorem overdue_iff (deadline : Nat) :
    overdue p clock (clock + polls * p.interval) deadline = true ↔ deadline < (polls + 1) * p.interval := by
  simp [overdue, Nat.succ_mul]

theorem goesOn_polled :
    goesOn p handle outcomes (fuel + 2) (.retrieving clock (.ofNat polls)) (paused p clock polls) =
      goesOn p handle outcomes fuel
        (judged p handle clock (.ofNat (polls + 1)) (outcomes polls))
        (polled p clock polls) := by
  rw [UInt32.ofNat_add]
  rfl

theorem judged_undecided {outcome : Outcome} (hu : isUndecided outcome = true) (started : Nat)
    (attempts : UInt32) :
    judged p handle started attempts outcome = undecided p handle started attempts := by
  rcases outcome with (_ | _ | cause) | issued
  · rfl
  · rfl
  · cases hu
  · cases hu

theorem goesOn_undecided (hu : isUndecided (outcomes polls) = true) :
    goesOn p handle outcomes (fuel + 2) (.retrieving clock (.ofNat polls)) (paused p clock polls) =
      goesOn p handle outcomes fuel (undecided p handle clock (.ofNat (polls + 1)))
        (polled p clock polls) := by
  rw [goesOn_polled, judged_undecided hu]

theorem goesOn_timed (deadline : Nat) (attempts : UInt32) :
    goesOn p handle outcomes (fuel + 1) (.timing clock attempts deadline) (polled p clock polls) =
      goesOn p handle outcomes fuel
        (if overdue p clock (clock + polls * p.interval) deadline then exhausted handle attempts
          else .sleeping clock attempts) (polled p clock polls) :=
  rfl

theorem goesOn_slept (attempts : UInt32) :
    goesOn p handle outcomes (fuel + 1) (.sleeping clock attempts) (polled p clock polls) =
      goesOn p handle outcomes fuel (.retrieving clock attempts) (paused p clock (polls + 1)) := by
  rw [polled, paused, Nat.succ_mul, ← Nat.add_assoc]
  rfl

theorem goesOn_decided (hd : isUndecided (outcomes polls) = false) (hf : 3 ≤ fuel) :
    goesOn p handle outcomes fuel (.retrieving clock (.ofNat polls)) (paused p clock polls) =
      .done (settled handle (outcomes polls)) (polled p clock polls) := by
  obtain ⟨fuel, rfl⟩ := Nat.exists_eq_add_of_le' hf
  rw [show fuel + 3 = (fuel + 1) + 2 from rfl, goesOn_polled]
  rcases ho : outcomes polls with (_ | _ | cause) | issued
  · simp [ho, isUndecided, RetrieveError.isRetryable] at hd
  · simp [ho, isUndecided, RetrieveError.isRetryable] at hd
  · rfl
  · rfl

theorem goesOn_spent (hp : polls + 1 < 2 ^ 32) (hu : isUndecided (outcomes polls) = true)
    (hs : Spent p (polls + 1)) (hf : 4 ≤ fuel) :
    goesOn p handle outcomes fuel (.retrieving clock (.ofNat polls)) (paused p clock polls) =
      .done (.error (.pollingExhausted handle.id (polls + 1)))
        (polled p clock polls) := by
  obtain ⟨fuel, rfl⟩ := Nat.exists_eq_add_of_le' hf
  have hcount : (UInt32.ofNat (polls + 1)).toNat = polls + 1 := by
    rw [UInt32.toNat_ofNat', Nat.mod_eq_of_lt hp]
  have hexhausted (fuel : Nat) (t : Timeline) :
      goesOn p handle outcomes (fuel + 1) (exhausted handle (.ofNat (polls + 1))) t =
        .done (.error (.pollingExhausted handle.id (polls + 1))) t := by
    rw [exhausted, hcount]
    rfl
  rw [show fuel + 4 = (fuel + 2) + 2 from rfl, goesOn_undecided hu, undecided]
  split
  · exact hexhausted _ _
  · rename_i hmax
    obtain ⟨deadline, hd, hlt⟩ := hs.resolve_left (fun hm => hmax ((reached_iff hp).mpr hm))
    rw [Option.mem_def.mp hd, goesOn_timed, if_pos ((overdue_iff deadline).mpr hlt)]
    exact hexhausted _ _

theorem goesOn_unspent (handle : PickupHandle) (clock : Nat) (hp : polls + 1 < 2 ^ 32)
    (hu : isUndecided (outcomes polls) = true) (hs : ¬ Spent p (polls + 1)) :
    ∃ steps ≤ 4, ∀ fuel,
      goesOn p handle outcomes (fuel + steps) (.retrieving clock (.ofNat polls)) (paused p clock polls) =
        goesOn p handle outcomes fuel (.retrieving clock (.ofNat (polls + 1)))
          (paused p clock (polls + 1)) := by
  have hmax : ¬ p.maxAttempts.any (· ≤ UInt32.ofNat (polls + 1)) = true :=
    fun hm => hs (.inl ((reached_iff hp).mp hm))
  cases hd : p.deadline with
  | none =>
    refine ⟨3, by omega, fun fuel => ?_⟩
    rw [show fuel + 3 = (fuel + 1) + 2 from rfl, goesOn_undecided hu, undecided, if_neg hmax, hd]
    exact goesOn_slept _
  | some deadline =>
    refine ⟨4, by omega, fun fuel => ?_⟩
    have hearly : ¬ overdue p clock (clock + polls * p.interval) deadline = true :=
      fun hl => hs (.inr ⟨deadline, hd, (overdue_iff deadline).mp hl⟩)
    rw [show fuel + 4 = (fuel + 2) + 2 from rfl, goesOn_undecided hu, undecided, if_neg hmax, hd]
    rw [goesOn_timed, if_neg hearly]
    exact goesOn_slept _

theorem goesOn_through {last : Nat} {result : Except Error IssuedSet} (hlast : last < 2 ^ 32)
    (hgo : ∀ i < last, isUndecided (outcomes i) = true ∧ ¬ Spent p (i + 1))
    (hend : ∀ fuel, 4 ≤ fuel →
      goesOn p handle outcomes fuel (.retrieving clock (.ofNat last)) (paused p clock last) =
        .done result (polled p clock last))
    (left : Nat) (hl : left ≤ last) (hf : 4 * left + 4 ≤ fuel) :
    goesOn p handle outcomes fuel (.retrieving clock (.ofNat (last - left))) (paused p clock (last - left)) =
      .done result (polled p clock last) := by
  -- The induction is on the polls that are left, so that the last one is its base.
  induction left generalizing fuel with
  | zero => exact hend fuel hf
  | succ left ih =>
    obtain ⟨hu, hs⟩ := hgo (last - (left + 1)) (by omega)
    obtain ⟨steps, hsteps, hround⟩ := goesOn_unspent handle clock (by omega) hu hs
    have hnext : last - (left + 1) + 1 = last - left := by omega
    have hfuel : fuel - steps + steps = fuel := by omega
    rw [← hfuel, hround, hnext]
    exact ih (by omega) (by omega)

def EndsAfter (p : PollPolicy) (handle : PickupHandle) (outcomes : Nat → Outcome) (clock polls : Nat)
    (result : Except Error IssuedSet) : Prop :=
  ∀ fuel, 4 * polls + 1 ≤ fuel →
    run (next p handle) (Timeline.answer outcomes fun _ => 0) (fun _ _ => false) fuel .starting ⟨clock, 0, 0⟩ =
      .done result ⟨clock + (polls - 1) * p.interval, polls, polls - 1⟩

theorem endsAfter {last : Nat} {result : Except Error IssuedSet} (hlast : last < 2 ^ 32)
    (hgo : ∀ i < last, isUndecided (outcomes i) = true ∧ ¬ Spent p (i + 1))
    (hend : ∀ fuel, 4 ≤ fuel →
      goesOn p handle outcomes fuel (.retrieving clock (.ofNat last)) (paused p clock last) =
        .done result (polled p clock last)) :
    EndsAfter p handle outcomes clock (last + 1) result := by
  intro fuel hf
  obtain ⟨fuel, rfl⟩ : ∃ f, fuel = f + 1 := ⟨fuel - 1, by omega⟩
  have hrun := goesOn_through hlast hgo hend last (le_refl last) (by omega : 4 * last + 4 ≤ fuel)
  rw [Nat.sub_self] at hrun
  have hzero : paused p clock 0 = ⟨clock, 0, 0⟩ := by simp [paused]
  rw [hzero] at hrun
  exact hrun

theorem undecided_of_lt_decidedAt {i : Nat} (h : ((i + 1 : Nat) : ENat) < decidedAt outcomes) :
    isUndecided (outcomes i) = true := by
  by_contra hd
  have hex : ∃ n, isUndecided (outcomes n) = false := ⟨i, by simpa using hd⟩
  rw [decidedAt, dif_pos hex, Nat.cast_lt] at h
  have := Nat.find_min' hex (by simpa using hd : isUndecided (outcomes i) = false)
  omega

theorem exists_of_decidedAt_eq {n : Nat} (h : decidedAt outcomes = n) :
    ∃ i, n = i + 1 ∧ isUndecided (outcomes i) = false := by
  unfold decidedAt at h
  split at h
  · rename_i hex
    exact ⟨_, (Nat.cast_inj.mp h).symm, Nat.find_spec hex⟩
  · exact absurd h (ENat.top_ne_natCast n)

theorem not_spent_of_lt (hI : 0 < p.interval) {i : Nat} (h : ((i + 1 : Nat) : ENat) < p.pollsAllowed) :
    ¬ Spent p (i + 1) := by
  rw [spent_iff hI (Nat.succ_pos i)]
  exact not_le.mpr h

theorem pollsAllowed_pos (p : PollPolicy) : 0 < p.pollsAllowed := by
  unfold PollPolicy.pollsAllowed
  rw [lt_min_iff]
  constructor
  · cases p.maxAttempts <;> simp
  · cases p.deadline <;> simp

theorem pollsAllowed_lt (hm : p.maxAttempts.isSome = true) : p.pollsAllowed < (2 ^ 32 : Nat) := by
  obtain ⟨most, hmost⟩ := Option.isSome_iff_exists.mp hm
  have hsize := most.toNat_lt
  refine (min_le_left _ _).trans_lt ?_
  rw [hmost, Option.elim_some, Nat.cast_lt]
  omega

variable (outcomes clock)

theorem endsAfter_decided (hI : 0 < p.interval) (handle : PickupHandle) {n : Nat} (hn : n < 2 ^ 32)
    (hd : decidedAt outcomes = n) (hle : decidedAt outcomes ≤ p.pollsAllowed) :
    EndsAfter p handle outcomes clock n (settled handle (outcomes (n - 1))) := by
  obtain ⟨last, rfl, hlast⟩ := exists_of_decidedAt_eq hd
  refine endsAfter (by omega) (fun i hi => ?_) fun fuel hf => goesOn_decided hlast (by omega)
  have hlt : ((i + 1 : Nat) : ENat) < decidedAt outcomes := by
    rw [hd, Nat.cast_lt]
    omega
  exact ⟨undecided_of_lt_decidedAt hlt, not_spent_of_lt hI (hlt.trans_le hle)⟩

theorem endsAfter_spent (hI : 0 < p.interval) (handle : PickupHandle) {n : Nat} (hn : n < 2 ^ 32)
    (hp : p.pollsAllowed = n) (hlt : p.pollsAllowed < decidedAt outcomes) :
    EndsAfter p handle outcomes clock n (.error (.pollingExhausted handle.id n)) := by
  have hpos := pollsAllowed_pos p
  rw [hp, ← Nat.cast_zero, Nat.cast_lt] at hpos
  obtain ⟨last, rfl⟩ : ∃ i, n = i + 1 := ⟨n - 1, by omega⟩
  have hspent : Spent p (last + 1) := (spent_iff hI (Nat.succ_pos last)).mpr (le_of_eq hp)
  have hu : isUndecided (outcomes last) = true := undecided_of_lt_decidedAt (hp ▸ hlt)
  refine endsAfter (by omega) (fun i hi => ?_) fun fuel hf => goesOn_spent hn hu hspent hf
  have hless : ((i + 1 : Nat) : ENat) < p.pollsAllowed := by
    rw [hp, Nat.cast_lt]
    omega
  exact ⟨undecided_of_lt_decidedAt (hless.trans hlt), not_spent_of_lt hI hless⟩

end PollStage

open PollStage

/-- Polls that take no time go on until one decides the matter or a bound is met; what they come to is then
the decision or the bound. However long polls take, only undecided ones are followed by others, and the
counter counts them. -/
theorem polling_ends (p : PollPolicy) (hI : 0 < p.interval) (handle : PickupHandle) :
    (∀ (outcomes : Nat → Outcome) (clock n : Nat),
      min (decidedAt outcomes) p.pollsAllowed = n → n < 2 ^ 32 →
        (decidedAt outcomes ≤ p.pollsAllowed →
          EndsAfter p handle outcomes clock n (settled handle (outcomes (n - 1)))) ∧
        (p.pollsAllowed < decidedAt outcomes →
          EndsAfter p handle outcomes clock n (.error (.pollingExhausted handle.id n)))) ∧
      (p.maxAttempts.isSome = true →
        ∀ outcomes, min (decidedAt outcomes) p.pollsAllowed < (2 ^ 32 : Nat)) ∧
      (p.isBounded = false → ∀ {h pickup attempts},
        ¬ Ends (PollStage.next p handle) .starting h (.error (.pollingExhausted pickup attempts))) ∧
      ∀ {h stage}, Reaches (PollStage.next p handle) .starting h stage →
        (∀ {earlier outcome later}, h = earlier ++ ⟨.retrieve handle, outcome⟩ :: later →
          (∃ e ∈ later, e.call.isPollingOn = true) → ∃ e, outcome = .error e ∧ e.isRetryable = true) ∧
        (p.maxAttempts.isSome = true → ∀ attempts ∈ stage.attempts?, attempts.toNat = h.outcomes.length) := by
  refine ⟨?_, ?_, ?_, ?_⟩
  · intro outcomes clock n hmin hn
    constructor
    · intro hle
      rw [min_eq_left hle] at hmin
      exact endsAfter_decided outcomes clock hI handle hn hmin hle
    · intro hlt
      rw [min_eq_right hlt.le] at hmin
      exact endsAfter_spent outcomes clock hI handle hn hmin hlt
  · intro hm outcomes
    exact (min_le_right _ _).trans_lt (pollsAllowed_lt hm)
  · rintro hb h pickup attempts ⟨stage, hr, hd⟩
    have ht := told_of_reaches hr
    cases stage with
    | finished result =>
      cases hd
      obtain ⟨_, _, _, _, hv⟩ := ht
      cases hv with
      | exhausted _ hbounded => simp [hb] at hbounded
    | starting | retrieving | counting | timing | sleeping => cases hd
  · intro h stage hr
    refine ⟨?_, fun hm attempts ha => (told_of_reaches hr).counted hm ha⟩
    rintro earlier outcome later rfl ⟨e, he, hon⟩
    obtain ⟨between, after, rfl⟩ := List.append_of_mem he
    rw [← List.cons_append, ← List.append_assoc] at hr
    obtain ⟨s, s', hs, hl⟩ := hr.split rfl
    apply isUndecided_iff.mp
    apply (told_of_reaches hs).undecided hl hon
    rw [History.outcomes_append]
    exact List.mem_append_right _ List.mem_cons_self

theorem polling_ends_at_deadline :
    EndsAfter ⟨5, none, some 10⟩ ⟨"scripted-1"⟩ (fun _ => .error .pending) 0 3
      (.error (.pollingExhausted "scripted-1" 3)) := by
  have hnever : decidedAt (fun _ => .error .pending) = ⊤ := by
    simp [decidedAt, isUndecided, RetrieveError.isRetryable]
  have hallowed : PollPolicy.pollsAllowed ⟨5, none, some 10⟩ = (3 : Nat) := min_eq_right le_top
  have hends := (polling_ends ⟨5, none, some 10⟩ (by decide) ⟨"scripted-1"⟩).1 (fun _ => .error .pending) 0 3
  rw [hnever, hallowed] at hends
  exact (hends (min_eq_right le_top) (by decide)).2 (ENat.natCast_lt_top 3)

end Enrollment

end CertEnroll
