import CertEnroll.Enrollment.World
import CertEnroll.Proofs.Polling

/-!
Polling with a bound ends, whatever the CA answers. A bound on the number of polls is enough by itself; for a deadline
the clock has to go on while polling pauses.
-/

namespace CertEnroll.Enrollment

variable {ω : Type}

structure Ticking (answer : Surroundings ω) (clock : ω → Nat) : Prop where
  told : ∀ w, (answer .clock w).1 = clock w
  forward : ∀ call w, clock w ≤ clock (answer call w).2
  pause : ∀ nanos w, clock w + nanos ≤ clock (answer (.sleep nanos) w).2

theorem World.ticking (send : Http.Request → Http.Outcome) : Ticking (World.answer send) World.clock where
  told _ := rfl
  forward call w := by
    cases call with
    | sleep nanos => exact Nat.le_add_right w.clock nanos
    | _ => exact Nat.le_refl _
  pause _ _ := Nat.le_refl _

namespace PollStage

def Halts (p : PollPolicy) (handle : PickupHandle) (answer : Surroundings ω) (stage : PollStage) (w : ω) : Prop :=
  ∃ fuel result w', run (next p handle) answer (fun _ _ => false) fuel stage w = .done result w'

variable {p : PollPolicy} {handle : PickupHandle} {answer : Surroundings ω} {clock : ω → Nat} {stage : PollStage}
  {started : Nat} {attempts : UInt32} {w : ω}

theorem halts_finished (result : Except Error IssuedSet) (w : ω) : Halts p handle answer (.finished result) w :=
  ⟨1, result, w, rfl⟩

theorem halts_ask {call : Call} {resume : call.Reply → PollStage} (hn : stage.next p handle = .ask call resume)
    (hh : Halts p handle answer (resume (answer call w).1) (answer call w).2) : Halts p handle answer stage w := by
  obtain ⟨fuel, result, w', hr⟩ := hh
  exact ⟨fuel + 1, result, w', (run_ask hn fuel).trans hr⟩

theorem halts_retrieving (forward : ∀ call w, clock w ≤ clock (answer call w).2)
    (again : ∀ w₁, ¬ p.maxAttempts.any (· ≤ attempts + 1) = true → clock w ≤ clock w₁ →
      (∀ deadline ∈ p.deadline, ∃ w₀, clock w ≤ clock w₀ ∧ w₁ = (answer .clock w₀).2 ∧
        overdue p started (answer .clock w₀).1 deadline = false) →
      Halts p handle answer (.retrieving started (attempts + 1)) (answer (.sleep p.interval) w₁).2) :
    Halts p handle answer (.retrieving started attempts) w := by
  apply halts_ask rfl
  apply halts_ask rfl
  generalize hw₀ : (answer (.count _) (answer (.retrieve handle) w).2).2 = w₀
  have hlater : clock w ≤ clock w₀ := by
    rw [← hw₀]
    exact Nat.le_trans (forward _ _) (forward _ _)
  have undecided_halts : Halts p handle answer (undecided p handle started (attempts + 1)) w₀ := by
    unfold undecided
    split
    · exact halts_finished _ _
    · rename_i hmost
      cases hd : p.deadline with
      | none =>
        apply halts_ask rfl
        exact again w₀ hmost hlater (by simp [hd])
      | some deadline =>
        apply halts_ask rfl
        split
        · exact halts_finished _ _
        · rename_i hover
          apply halts_ask rfl
          apply again _ hmost (Nat.le_trans hlater (forward _ _))
          intro other ho
          rw [hd, Option.mem_some_iff] at ho
          subst ho
          exact ⟨w₀, hlater, rfl, Bool.eq_false_iff.mpr hover⟩
  cases (answer (.retrieve handle) w).1 with
  | ok issued => exact halts_finished _ _
  | error e =>
    cases e with
    | pending | timeout => exact undecided_halts
    | failed cause => exact halts_finished _ _

theorem halts_of_most {most : UInt32} (hm : p.maxAttempts = some most) (ha : attempts.toNat < max 1 most.toNat) :
    Halts p handle answer (.retrieving started attempts) w := by
  obtain ⟨left, hleft⟩ : ∃ left, max 1 most.toNat - attempts.toNat = left := ⟨_, rfl⟩
  induction left using Nat.strongRecOn generalizing attempts w with
  | ind left ih =>
    -- The number of polls bounds this, so that any clock will do.
    have still : ∀ call w, (fun _ : ω => 0) w ≤ (fun _ => 0) (answer call w).2 := fun _ _ => Nat.le_refl 0
    apply halts_retrieving still
    intro w₁ hmost _ _
    have hsize := most.toNat_lt
    have hnext : (attempts + 1).toNat = attempts.toNat + 1 := by
      rw [UInt32.toNat_add, UInt32.toNat_one, Nat.mod_eq_of_lt (by omega)]
    have hless : attempts.toNat + 1 < most.toNat := by
      rw [hm, Option.any_some, decide_eq_true_eq, UInt32.le_iff_toNat_le, hnext] at hmost
      omega
    exact ih _ (by omega) (by omega) rfl

theorem halts_of_deadline {deadline : Nat} (hd : p.deadline = some deadline) (hI : 0 < p.interval)
    (ticking : Ticking answer clock) : Halts p handle answer (.retrieving started attempts) w := by
  -- Each round is a pause closer to the deadline; one that would end after it is not begun.
  obtain ⟨left, hleft⟩ : ∃ left, started + deadline + 1 - clock w = left := ⟨_, rfl⟩
  induction left using Nat.strongRecOn generalizing attempts w with
  | ind left ih =>
    apply halts_retrieving ticking.forward
    intro w₁ _ _ htimed
    obtain ⟨w₀, hlater, rfl, hover⟩ := htimed deadline hd
    have hforward := ticking.forward .clock w₀
    have hpause := ticking.pause p.interval (answer .clock w₀).2
    rw [overdue, ticking.told, decide_eq_false_iff_not] at hover
    exact ih _ (by omega) rfl

theorem halts_starting (hb : p.isBounded = true) (hI : 0 < p.interval)
    (ticking : p.maxAttempts = none → Ticking answer clock) (w : ω) : Halts p handle answer .starting w := by
  apply halts_ask rfl
  cases hm : p.maxAttempts with
  | some most => exact halts_of_most hm (Nat.lt_of_lt_of_le Nat.one_pos (Nat.le_max_left _ _))
  | none =>
    rw [PollPolicy.isBounded, hm] at hb
    obtain ⟨deadline, hd⟩ := Option.isSome_iff_exists.mp hb
    exact halts_of_deadline hd hI (ticking hm)

end PollStage

end CertEnroll.Enrollment
