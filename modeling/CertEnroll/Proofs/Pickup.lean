import CertEnroll.Proofs.Entries
import Mathlib.Data.List.Pairwise

/-!
Visits to a place where certificates wait to be picked up, one atomic step after the other. What stands under a
handle can be told from the visits: nothing before it was given out, then the certificate with the polls that
are left, and nothing again from the moment that the certificate was handed out.
-/

namespace CertEnroll

variable {κ ρ : Type}

/-- A step of a task with the answer it got. `κ` is what can be submitted, `ρ` names the tasks. -/
inductive Visit (κ ρ : Type)
  | submit (task : ρ) (what : κ) (reply : Except AuthorityError PickupHandle)
  | check (task : ρ) (handle : PickupHandle) (reply : Except RetrieveError Unit)
  | take (task : ρ) (handle : PickupHandle) (reply : Except RetrieveError IssuedSet)

namespace Visit

def task : Visit κ ρ → ρ
  | .submit task _ _ | .check task _ _ | .take task _ _ => task

def isPending (handle : PickupHandle) : Visit κ ρ → Bool
  | .check _ other (.error .pending) => other = handle
  | _ => false

def isHandout (handle : PickupHandle) : Visit κ ρ → Bool
  | .take _ other (.ok _) => other = handle
  | _ => false

def given? : Visit κ ρ → Option PickupHandle
  | .submit _ _ (.ok handle) => some handle
  | _ => none

def Asks (handle : PickupHandle) : Visit κ ρ → Prop
  | .submit _ _ _ => False
  | .check _ other _ => other = handle
  | .take _ other _ => other = handle

def IsUnknown : Visit κ ρ → Prop
  | .submit _ _ _ => False
  | .check _ handle reply => reply = .error (PickupTable.unknown handle.id)
  | .take _ handle reply => reply = .error (PickupTable.unknown handle.id)

def Concerns (handle : PickupHandle) (v : Visit κ ρ) : Prop :=
  v.given? = some handle ∨ v.Asks handle

end Visit

open Visit

def Given (handle : PickupHandle) (visits : List (Visit κ ρ)) : Prop :=
  ∃ task what, .submit task what (.ok handle) ∈ visits

def Passed (handle : PickupHandle) (visits : List (Visit κ ρ)) : Prop :=
  ∃ task, .check task handle (.ok ()) ∈ visits

def Fresh (visits : List (Visit κ ρ)) : Prop :=
  (visits.filterMap given?).Nodup

variable {visits earlier later : List (Visit κ ρ)} {v : Visit κ ρ} {handle other : PickupHandle}

theorem mem_given : handle ∈ visits.filterMap given? ↔ Given handle visits := by
  rw [List.mem_filterMap]
  constructor
  · rintro ⟨v, hv, hg⟩
    match v, hg with
    | .submit task what (.ok _), rfl => exact ⟨task, what, hv⟩
  · rintro ⟨task, what, hv⟩
    exact ⟨_, hv, rfl⟩

theorem Fresh.of_append (h : Fresh (earlier ++ later)) : Fresh earlier := by
  rw [Fresh, List.filterMap_append] at h
  exact (List.nodup_append.mp h).1

theorem Fresh.not_given {task : ρ} {what : κ} (h : Fresh (visits ++ [.submit task what (.ok handle)])) :
    ¬ Given handle visits := by
  intro hg
  rw [Fresh, List.filterMap_append] at h
  exact (List.nodup_append.mp h).2.2 handle (mem_given.mpr hg) handle (by simp [given?]) rfl

theorem Fresh.unique {task task' : ρ} {what what' : κ} (h : Fresh visits)
    (hm : .submit task what (.ok handle) ∈ visits) (hm' : .submit task' what' (.ok handle) ∈ visits) :
    task = task' ∧ what = what' := by
  have hpairs : visits.Pairwise fun v v' => ∀ handle, v.given? = some handle → v'.given? ≠ some handle := by
    apply (List.pairwise_filterMap.mp h).imp
    intro v v' hv handle hg hg'
    exact hv handle hg handle hg' rfl
  have hsymm : Std.Symm fun (v v' : Visit κ ρ) =>
      ∀ handle, v.given? = some handle → v'.given? ≠ some handle :=
    ⟨fun v v' hv handle hg' hg => hv handle hg hg'⟩
  by_contra hne
  have hv : Visit.submit task what (.ok handle) ≠ .submit task' what' (.ok handle) := by
    rintro ⟨⟩
    exact hne ⟨rfl, rfl⟩
  exact hpairs.forall hm hm' hv handle rfl rfl

/-- What is under the handle after the visits, whose submissions were `signed` and which were to be turned
away `polls` times each. -/
inductive Standing (signed : κ → Except AuthorityError IssuedSet) (polls : Nat) (handle : PickupHandle)
    (visits : List (Visit κ ρ)) : Option Pickup → Prop
  | unknown (ungiven : ¬ Given handle visits) (unpassed : ¬ Passed handle visits)
    (unpolled : visits.countP (isPending handle) = 0) (unhanded : visits.countP (isHandout handle) = 0) :
    Standing signed polls handle visits none
  | waiting {task : ρ} {what : κ} {issued : IssuedSet} {remaining : Nat}
    (given : .submit task what (.ok handle) ∈ visits) (sign : signed what = .ok issued)
    (polled : visits.countP (isPending handle) + remaining = polls)
    (unhanded : visits.countP (isHandout handle) = 0) (ready : Passed handle visits → remaining = 0) :
    Standing signed polls handle visits (some ⟨remaining, issued⟩)
  | gone (given : Given handle visits) (polled : visits.countP (isPending handle) = polls)
    (handed : visits.countP (isHandout handle) = 1) : Standing signed polls handle visits none

variable {signed : κ → Except AuthorityError IssuedSet} {polls : Nat} {p : Option Pickup}

theorem given_append : Given handle (visits ++ [v]) ↔ Given handle visits ∨ v.given? = some handle := by
  rw [← mem_given, ← mem_given, List.filterMap_append, List.mem_append]
  apply or_congr_right
  cases hg : v.given? <;> simp [hg, eq_comm]

theorem passed_append :
    Passed handle (visits ++ [v]) ↔ Passed handle visits ∨ ∃ task, v = .check task handle (.ok ()) := by
  simp only [Passed, List.mem_append, List.mem_singleton, exists_or]
  apply or_congr_right
  exact exists_congr fun _ => eq_comm

theorem Standing.plain (h : Standing signed polls handle visits p) (hg : v.given? ≠ some handle)
    (hpass : ∀ task, v ≠ .check task handle (.ok ())) (hpend : v.isPending handle = false)
    (hhand : v.isHandout handle = false) : Standing signed polls handle (visits ++ [v]) p := by
  have hpending : (visits ++ [v]).countP (isPending handle) = visits.countP (isPending handle) := by
    simp [List.countP_append, hpend]
  have hhandout : (visits ++ [v]).countP (isHandout handle) = visits.countP (isHandout handle) := by
    simp [List.countP_append, hhand]
  have hpassed : Passed handle (visits ++ [v]) ↔ Passed handle visits := by
    simp [passed_append, hpass]
  cases h with
  | unknown ungiven unpassed unpolled unhanded =>
    refine .unknown ?_ (hpassed.not.mpr unpassed) (hpending.trans unpolled) (hhandout.trans unhanded)
    simp [given_append, ungiven, hg]
  | waiting given sign polled unhanded ready =>
    exact .waiting (List.mem_append_left _ given) sign (hpending ▸ polled) (hhandout.trans unhanded)
      fun hp => ready (hpassed.mp hp)
  | gone given polled handed =>
    exact .gone (given_append.mpr (.inl given)) (hpending.trans polled) (hhandout.trans handed)

theorem Standing.unconcerned (h : Standing signed polls handle visits p) (hc : ¬ v.Concerns handle) :
    Standing signed polls handle (visits ++ [v]) p := by
  have hg : v.given? ≠ some handle := fun hg => hc (.inl hg)
  have ha : ¬ v.Asks handle := fun ha => hc (.inr ha)
  refine h.plain hg ?_ ?_ ?_
  · rintro task rfl
    exact ha rfl
  · unfold isPending
    split
    · exact decide_eq_false ha
    · rfl
  · unfold isHandout
    split
    · exact decide_eq_false ha
    · rfl

namespace PickupTable

/-- Visits to a table that is empty at first. What is taken has passed the check, or there are no polls to be
turned away. -/
inductive Course (signed : κ → Except AuthorityError IssuedSet) (polls : Nat) :
    List (Visit κ ρ) → PickupTable → Prop
  | empty : Course signed polls [] {}
  | refuse {visits : List (Visit κ ρ)} {t : PickupTable} (task : ρ) (what : κ) (cause : AuthorityError)
    (before : Course signed polls visits t) :
    Course signed polls (visits ++ [.submit task what (.error cause)]) t
  | park {visits : List (Visit κ ρ)} {t : PickupTable} (task : ρ) {what : κ} {issued : IssuedSet}
    {handle : PickupHandle} (before : Course signed polls visits t) (sign : signed what = .ok issued)
    (fresh : ¬ Given handle visits) :
    Course signed polls (visits ++ [.submit task what (.ok handle)]) (t.insert handle.id ⟨polls, issued⟩)
  | check {visits : List (Visit κ ρ)} {t : PickupTable} (task : ρ) (handle : PickupHandle)
    (before : Course signed polls visits t) :
    Course signed polls (visits ++ [.check task handle (t.check handle.id).1]) (t.check handle.id).2
  | take {visits : List (Visit κ ρ)} {t : PickupTable} (task : ρ) (handle : PickupHandle)
    (before : Course signed polls visits t) (passed : Passed handle visits ∨ polls = 0) :
    Course signed polls (visits ++ [.take task handle (t.take handle.id).1]) (t.take handle.id).2

variable {t : PickupTable}

theorem id_ne (h : other ≠ handle) : other.id ≠ handle.id := by
  rintro hid
  cases other
  cases handle
  exact h (congrArg PickupHandle.mk hid)

theorem standing_check (task : ρ) (h : Standing signed polls handle visits (t.lookup handle.id)) :
    Standing signed polls handle (visits ++ [.check task handle (t.check handle.id).1])
      ((t.check handle.id).2.lookup handle.id) := by
  cases hl : t.lookup handle.id with
  | none =>
    rw [hl] at h
    rw [check_missing hl, hl]
    exact h.plain nofun nofun rfl rfl
  | some p =>
    rw [hl] at h
    cases h with
    | @waiting task' what issued remaining given sign polled unhanded ready =>
      cases remaining with
      | zero =>
        rw [check_ready hl, hl]
        refine .waiting (List.mem_append_left _ given) sign ?_ ?_ fun _ => rfl
        · simpa [List.countP_append, isPending] using polled
        · simpa [List.countP_append, isHandout] using unhanded
      | succ remaining =>
        rw [check_pending hl, lookup_insert, if_pos rfl]
        refine .waiting (List.mem_append_left _ given) sign ?_ ?_ fun hp => ?_
        · simp only [List.countP_append, List.countP_singleton, isPending, decide_true, if_true]
          omega
        · simpa [List.countP_append, isHandout] using unhanded
        · -- The check was not passed now, and had it been passed before, no poll would be left.
          have hp : Passed handle visits := by simpa [passed_append] using hp
          cases ready hp

theorem standing_take (task : ρ) (h : Standing signed polls handle visits (t.lookup handle.id))
    (hp : Passed handle visits ∨ polls = 0) :
    Standing signed polls handle (visits ++ [.take task handle (t.take handle.id).1])
      ((t.take handle.id).2.lookup handle.id) := by
  cases hl : t.lookup handle.id with
  | none =>
    rw [hl] at h
    rw [take_missing hl, hl]
    exact h.plain nofun nofun rfl rfl
  | some p =>
    rw [hl] at h
    rw [take_present hl, lookup_erase, if_pos rfl]
    cases h with
    | @waiting task' what issued remaining given sign polled unhanded ready =>
      have hr : remaining = 0 := by
        rcases hp with hp | hp
        · exact ready hp
        · omega
      refine .gone ⟨task', what, List.mem_append_left _ given⟩ ?_ ?_
      · simp only [List.countP_append, List.countP_singleton, isPending]
        simpa [hr] using polled
      · simp [List.countP_append, isHandout, unhanded]

theorem Course.standing (hc : Course signed polls visits t) (handle : PickupHandle) :
    Standing signed polls handle visits (t.lookup handle.id) := by
  induction hc with
  | empty => exact .unknown (by simp [Given]) (by simp [Passed]) rfl rfl
  | refuse task what cause before ih => exact ih.unconcerned (by simp [Concerns, given?, Asks])
  | @park visits t task what issued parked before sign fresh ih =>
    by_cases hh : parked = handle
    · subst hh
      rw [lookup_insert, if_pos rfl]
      -- Nothing was asked of the handle before with any success, as it had not been given out.
      cases hl : t.lookup parked.id with
      | none =>
        rw [hl] at ih
        cases ih with
        | unknown ungiven unpassed unpolled unhanded =>
          refine .waiting (List.mem_append_right _ List.mem_cons_self) sign ?_ ?_ fun hp => ?_
          · simp [List.countP_append, isPending, unpolled]
          · simp [List.countP_append, isHandout, unhanded]
          · exact absurd (by simpa [passed_append] using hp) unpassed
        | gone given => exact absurd given fresh
      | some p =>
        rw [hl] at ih
        cases ih with
        | waiting given => exact absurd ⟨_, _, given⟩ fresh
    · rw [lookup_insert, if_neg (id_ne fun hne => hh hne.symm)]
      exact ih.unconcerned (by simp [Concerns, given?, Asks, hh])
  | @check visits t task asked before ih =>
    by_cases hh : asked = handle
    · subst hh
      exact standing_check task ih
    · rw [lookup_check_of_ne (id_ne fun hne => hh hne.symm)]
      exact ih.unconcerned (by simp [Concerns, given?, Asks, hh])
  | @take visits t task asked before passed ih =>
    by_cases hh : asked = handle
    · subst hh
      exact standing_take task ih passed
    · rw [lookup_take_of_ne (id_ne fun hne => hh hne.symm)]
      exact ih.unconcerned (by simp [Concerns, given?, Asks, hh])

theorem split_of_concat {α : Type} {all before after : List α} {last a : α}
    (hs : all ++ [last] = before ++ a :: after) :
    (∃ after', all = before ++ a :: after') ∨ all = before ∧ last = a := by
  rcases List.eq_nil_or_concat after with rfl | ⟨after', last', rfl⟩
  · obtain ⟨rfl, he⟩ := List.append_inj' hs rfl
    exact .inr ⟨rfl, (List.cons.inj he).1⟩
  · rw [List.concat_eq_append, ← List.cons_append, ← List.append_assoc] at hs
    exact .inl ⟨after', (List.append_inj' hs rfl).1⟩

theorem Course.split (hc : Course signed polls visits t) (hs : visits = earlier ++ v :: later) :
    ∃ t, Course signed polls earlier t ∧
      (∀ task handle reply, v = .check task handle reply → reply = (t.check handle.id).1) ∧
      ∀ task handle reply, v = .take task handle reply →
        reply = (t.take handle.id).1 ∧ (Passed handle earlier ∨ polls = 0) := by
  induction hc generalizing later with
  | empty => simp at hs
  | @refuse _ t _ _ _ before ih =>
    rcases split_of_concat hs with ⟨later', hs⟩ | ⟨rfl, rfl⟩
    · exact ih hs
    · exact ⟨t, before, nofun, nofun⟩
  | @park _ t _ _ _ _ before _ _ ih =>
    rcases split_of_concat hs with ⟨later', hs⟩ | ⟨rfl, rfl⟩
    · exact ih hs
    · exact ⟨t, before, nofun, nofun⟩
  | @check _ t _ _ before ih =>
    rcases split_of_concat hs with ⟨later', hs⟩ | ⟨rfl, rfl⟩
    · exact ih hs
    · refine ⟨t, before, ?_, nofun⟩
      rintro _ _ _ ⟨⟩
      rfl
  | @take _ t _ _ before passed ih =>
    rcases split_of_concat hs with ⟨later', hs⟩ | ⟨rfl, rfl⟩
    · exact ih hs
    · refine ⟨t, before, nofun, ?_⟩
      rintro _ _ _ ⟨⟩
      exact ⟨rfl, passed⟩

end PickupTable

structure HandedOut (signed : κ → Except AuthorityError IssuedSet) (polls : Nat) (visits : List (Visit κ ρ)) :
    Prop where
  once : ∀ handle, visits.countP (isHandout handle) ≤ 1
  atMost : ∀ handle, visits.countP (isPending handle) ≤ polls
  own : ∀ {earlier later task handle issued}, visits = earlier ++ .take task handle (.ok issued) :: later →
    ∃ task what, .submit task what (.ok handle) ∈ earlier ∧ signed what = .ok issued
  ripe : ∀ {earlier later task handle issued}, visits = earlier ++ .take task handle (.ok issued) :: later →
    earlier.countP (isPending handle) = polls
  emptied : ∀ {earlier later task handle issued}, visits = earlier ++ .take task handle (.ok issued) :: later →
    ∀ v ∈ later, v.Asks handle → v.IsUnknown
  ungiven : ∀ {earlier v later handle}, visits = earlier ++ v :: later → ¬ Given handle earlier →
    v.Asks handle → v.IsUnknown

theorem Standing.polled_le (h : Standing signed polls handle visits p) :
    visits.countP (isPending handle) ≤ polls := by
  cases h <;> omega

theorem Standing.handed_le (h : Standing signed polls handle visits p) :
    visits.countP (isHandout handle) ≤ 1 := by
  cases h <;> omega

namespace PickupTable

variable {t : PickupTable} {task : ρ} {issued : IssuedSet}

theorem Course.handout (hc : Course signed polls visits t)
    (hs : visits = earlier ++ .take task handle (.ok issued) :: later) :
    (∃ task what, .submit task what (.ok handle) ∈ earlier ∧ signed what = .ok issued) ∧
      earlier.countP (isPending handle) = polls := by
  obtain ⟨t, before, -, htake⟩ := hc.split hs
  obtain ⟨hr, hp⟩ := htake _ _ _ rfl
  have hstanding := before.standing handle
  cases hl : t.lookup handle.id with
  | none =>
    rw [take_missing hl] at hr
    cases hr
  | some p =>
    rw [take_present hl] at hr
    cases hr
    rw [hl] at hstanding
    cases hstanding with
    | waiting given sign polled unhanded ready =>
      refine ⟨⟨_, _, given, sign⟩, ?_⟩
      rcases hp with hp | hp
      · have := ready hp
        omega
      · omega

theorem Course.unknown (hc : Course signed polls visits t) (hs : visits = earlier ++ v :: later)
    (ha : v.Asks handle) (hl : ∀ p, ¬ Standing signed polls handle earlier (some p)) : v.IsUnknown := by
  obtain ⟨t, before, hcheck, htake⟩ := hc.split hs
  have hnone : t.lookup handle.id = none := by
    cases hp : t.lookup handle.id with
    | none => rfl
    | some p => exact absurd (hp ▸ before.standing handle) (hl p)
  cases v with
  | submit => exact ha.elim
  | check task asked reply =>
    obtain rfl : asked = handle := ha
    have hr := hcheck _ _ _ rfl
    rw [check_missing hnone] at hr
    exact hr
  | take task asked reply =>
    obtain rfl : asked = handle := ha
    have hr := (htake _ _ _ rfl).1
    rw [take_missing hnone] at hr
    exact hr

theorem Course.check_reply {reply : Except RetrieveError Unit} (hc : Course signed polls visits t)
    (hm : .check task handle reply ∈ visits) :
    reply = .ok () ∨ reply = .error .pending ∨ reply = .error (PickupTable.unknown handle.id) := by
  obtain ⟨earlier, later, hs⟩ := List.append_of_mem hm
  obtain ⟨t, -, hcheck, -⟩ := hc.split hs
  exact hcheck _ _ _ rfl ▸ t.check_reply handle.id

theorem Course.take_reply {reply : Except RetrieveError IssuedSet} (hc : Course signed polls visits t)
    (hm : .take task handle reply ∈ visits) :
    reply = .error (PickupTable.unknown handle.id) ∨ ∃ issued, reply = .ok issued := by
  obtain ⟨earlier, later, hs⟩ := List.append_of_mem hm
  obtain ⟨t, -, -, htake⟩ := hc.split hs
  exact (htake _ _ _ rfl).1 ▸ t.take_reply handle.id

theorem Course.handedOut (hc : Course signed polls visits t) : HandedOut signed polls visits where
  once handle := (hc.standing handle).handed_le
  atMost handle := (hc.standing handle).polled_le
  own hs := (hc.handout hs).1
  ripe hs := (hc.handout hs).2
  emptied := by
    intro earlier later task handle issued hs v hv ha
    obtain ⟨between, after, rfl⟩ := List.append_of_mem hv
    rw [← List.cons_append, ← List.append_assoc] at hs
    refine hc.unknown hs ha fun p hp => ?_
    -- Nothing stands under a handle whose certificate was handed out before.
    cases hp with
    | waiting _ _ _ unhanded =>
      have hmem : .take task handle (.ok issued) ∈ earlier ++ .take task handle (.ok issued) :: between :=
        List.mem_append_right _ List.mem_cons_self
      have := List.countP_eq_zero.mp unhanded _ hmem
      simp [isHandout] at this
  ungiven := by
    intro earlier v later handle hs hg ha
    refine hc.unknown hs ha fun p hp => ?_
    cases hp with
    | waiting given => exact hg ⟨_, _, given⟩

end PickupTable

end CertEnroll
