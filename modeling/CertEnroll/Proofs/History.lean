import CertEnroll.Enrollment.Call
import Mathlib.Logic.Function.Basic

/-!
Histories: what stages asked and what they were told, the oldest first. `Reaches` leaves every reply open, so
that what holds of all reached stages holds whatever the surroundings do and wherever a run is broken off.
-/

namespace CertEnroll.Enrollment

variable {σ τ ρ κ ω : Type}

structure Event where
  call : Call
  reply : call.Reply

abbrev History := List Event

def Next.Leads : Next σ ρ → Event → σ → Prop
  | .done _, _, _ => False
  | .ask call resume, e, s => ∃ reply, e = ⟨call, reply⟩ ∧ s = resume reply

inductive Reaches (next : σ → Next σ ρ) (start : σ) : History → σ → Prop
  | refl : Reaches next start [] start
  | step {h : History} {s t : σ} {e : Event} (before : Reaches next start h s)
      (leads : (next s).Leads e t) : Reaches next start (h ++ [e]) t

def Ends (next : σ → Next σ ρ) (start : σ) (h : History) (result : ρ) : Prop :=
  ∃ s, Reaches next start h s ∧ next s = .done result

/-- The surroundings, from one world on, give the replies of the history, which leads to the other world. -/
inductive Answered (answer : Surroundings ω) (w : ω) : History → ω → Prop
  | refl : Answered answer w [] w
  | step {h : History} {w' : ω} (call : Call) (before : Answered answer w h w') :
      Answered answer w (h ++ [⟨call, (answer call w').1⟩]) (answer call w').2

theorem within_leads {n : Next σ ρ} {part : σ → τ} {finish : ρ → Next τ κ} {e : Event} {t : τ} :
    (n.within part finish).Leads e t ↔
      (∃ s, n.Leads e s ∧ t = part s) ∨ ∃ result, n = .done result ∧ (finish result).Leads e t := by
  cases n with
  | done result => simp [Next.within, Next.Leads]
  | ask call resume =>
    simp only [Next.within, Next.Leads, reduceCtorEq, false_and, exists_false, or_false]
    constructor
    · rintro ⟨reply, rfl, rfl⟩
      exact ⟨resume reply, ⟨reply, rfl, rfl⟩, rfl⟩
    · rintro ⟨_, ⟨reply, rfl, rfl⟩, rfl⟩
      exact ⟨reply, rfl, rfl⟩

theorem within_done {n : Next σ ρ} {part : σ → τ} {finish : ρ → Next τ κ} {result : κ} :
    n.within part finish = .done result ↔ ∃ r, n = .done r ∧ finish r = .done result := by
  cases n <;> simp [Next.within]

theorem Reaches.split {next : σ → Next σ ρ} {start t : σ} {h earlier later : History} {e : Event}
    (hr : Reaches next start h t) (hs : h = earlier ++ e :: later) :
    ∃ s s', Reaches next start earlier s ∧ (next s).Leads e s' := by
  induction hr generalizing later with
  | refl => simp at hs
  | @step h s t e' before leads ih =>
    rcases List.eq_nil_or_concat later with rfl | ⟨later, last, rfl⟩
    · obtain ⟨rfl, he⟩ := List.append_inj' hs rfl
      obtain rfl := (List.cons.inj he).1
      exact ⟨s, t, before, leads⟩
    · rw [List.concat_eq_append, ← List.cons_append, ← List.append_assoc] at hs
      exact ih (List.append_inj' hs rfl).1

theorem Reaches.all {next : σ → Next σ ρ} {start t : σ} {h : History} {holds : Event → Prop}
    (hr : Reaches next start h t) (hl : ∀ {s e s'}, (next s).Leads e s' → holds e) : ∀ e ∈ h, holds e := by
  induction hr with
  | refl => exact List.forall_mem_nil _
  | step _ leads ih => exact List.forall_mem_append.mpr ⟨ih, List.forall_mem_singleton.mpr (hl leads)⟩

def Progress.Follows (next : σ → Next σ ρ) (start : σ) (answer : Surroundings ω) (w : ω) (h : History) :
    Progress σ ρ ω → Prop
  | .done result w' => Ends next start h result ∧ Answered answer w h w'
  | .underway s w' => Reaches next start h s ∧ Answered answer w h w'

section Runs

variable {next : σ → Next σ ρ} {start s : σ} {answer : Surroundings ω} {w w' : ω} {h : History}

theorem run_ask {call : Call} {resume : call.Reply → σ} (hs : next s = .ask call resume) (fuel : Nat) :
    run next answer (fun _ _ => false) (fuel + 1) s w =
      run next answer (fun _ _ => false) fuel (resume (answer call w).1) (answer call w).2 := by
  rw [run, hs]
  rfl

theorem run_follows_from (refuses : Call → ω → Bool) (fuel : Nat) (hs : Reaches next start h s)
    (hw : Answered answer w h w') :
    ∃ h', (run next answer refuses fuel s w').Follows next start answer w h' := by
  induction fuel generalizing h s w' with
  | zero => exact ⟨h, hs, hw⟩
  | succ fuel ih =>
    unfold run
    cases hn : next s with
    | done result => exact ⟨h, ⟨s, hs, hn⟩, hw⟩
    | ask call resume =>
      dsimp only
      split
      · exact ⟨h, hs, hw⟩
      · exact ih (hs.step (by rw [hn]; exact ⟨_, rfl, rfl⟩)) (hw.step call)

theorem run_follows (next : σ → Next σ ρ) (answer : Surroundings ω) (refuses : Call → ω → Bool) (fuel : Nat)
    (start : σ) (w : ω) : ∃ h, (run next answer refuses fuel start w).Follows next start answer w h :=
  run_follows_from refuses fuel .refl .refl

theorem run_ends_from {n : Nat} (bounded : ∀ {h s}, Reaches next start h s → h.length ≤ n) (fuel : Nat)
    (hs : Reaches next start h s) (hw : Answered answer w h w') (hf : n < h.length + fuel) :
    ∃ h' result w'', Ends next start h' result ∧ Answered answer w h' w'' ∧
      run next answer (fun _ _ => false) fuel s w' = .done result w'' := by
  induction fuel generalizing h s w' with
  | zero =>
    -- The history would be longer than any.
    have := bounded hs
    omega
  | succ fuel ih =>
    unfold run
    cases hn : next s with
    | done result => exact ⟨h, result, w', ⟨s, hs, hn⟩, hw, rfl⟩
    | ask call resume =>
      have hlead : (next s).Leads ⟨call, (answer call w').1⟩ (resume (answer call w').1) := by
        rw [hn]; exact ⟨_, rfl, rfl⟩
      exact ih (hs.step hlead) (hw.step call) (by simp only [List.length_append, List.length_singleton]; omega)

theorem run_ends {n : Nat} (bounded : ∀ {h s}, Reaches next start h s → h.length ≤ n)
    (answer : Surroundings ω) (w : ω) :
    ∃ h result w', Ends next start h result ∧ Answered answer w h w' ∧
      run next answer (fun _ _ => false) (n + 1) start w = .done result w' :=
  run_ends_from bounded (n + 1) .refl .refl (by simp)

theorem Answered.unmoved (ha : Answered answer w [] w') : w' = w := by
  generalize hs : ([] : History) = h at ha
  cases ha with
  | refl => rfl
  | step => simp at hs

theorem Answered.last {e : Event} {w'' : ω} (ha : Answered answer w (h ++ [e]) w'') :
    ∃ w', Answered answer w h w' ∧ e = ⟨e.call, (answer e.call w').1⟩ ∧ w'' = (answer e.call w').2 := by
  generalize hs : h ++ [e] = h' at ha
  cases ha with
  | refl => simp at hs
  | @step h₀ w' call before =>
    obtain ⟨rfl, he⟩ := List.append_inj' hs rfl
    obtain rfl := (List.cons.inj he).1
    exact ⟨w', before, rfl, rfl⟩

theorem run_of_reaches {fuel : Nat} (hs : Reaches next start h s) (ha : Answered answer w h w') :
    run next answer (fun _ _ => false) (h.length + fuel) start w =
      run next answer (fun _ _ => false) fuel s w' := by
  induction hs generalizing fuel w' with
  | refl =>
    obtain rfl := ha.unmoved
    rw [List.length_nil, Nat.zero_add]
  | @step h s t e before leads ih =>
    obtain ⟨w₁, earlier, he, rfl⟩ := ha.last
    rw [List.length_append, List.length_singleton, Nat.add_assoc, Nat.add_comm 1, ih earlier, run]
    cases hn : next s with
    | done result =>
      rw [hn] at leads
      exact leads.elim
    | ask call resume =>
      rw [hn] at leads
      obtain ⟨reply, rfl, rfl⟩ := leads
      obtain rfl : reply = (answer call w₁).1 := by
        injection he with _ hreply
      rfl

theorem run_of_ends {fuel : Nat} {result : ρ} (he : Ends next start h result) (ha : Answered answer w h w')
    (hf : h.length < fuel) : run next answer (fun _ _ => false) fuel start w = .done result w' := by
  obtain ⟨s, hs, hd⟩ := he
  obtain ⟨more, rfl⟩ := Nat.exists_eq_add_of_lt hf
  rw [Nat.add_assoc, run_of_reaches hs ha, run, hd]

end Runs

def History.Spares (kind : Call → Bool) (h : History) : Prop :=
  ∀ e ∈ h, kind e.call = false

section Spares

variable {kind : Call → Bool} {h h' : History} {e : Event}

theorem spares_append : History.Spares kind (h ++ h') ↔ h.Spares kind ∧ h'.Spares kind :=
  List.forall_mem_append

theorem spares_cons : History.Spares kind (e :: h) ↔ kind e.call = false ∧ h.Spares kind :=
  List.forall_mem_cons

theorem spares_nil : History.Spares kind [] :=
  List.forall_mem_nil _

theorem History.Spares.not_mem (hs : h.Spares kind) (he : kind e.call = true) : e ∉ h :=
  fun hm => absurd (hs e hm) (by simp [he])

end Spares

theorem Answered.spared {α : Type} {kind : Call → Bool} {answer : Surroundings ω} {view : ω → α}
    (frame : ∀ call w, kind call = false → view (answer call w).2 = view w) {h : History} {w w' : ω}
    (ha : Answered answer w h w') (hs : h.Spares kind) : view w' = view w := by
  induction ha with
  | refl => rfl
  | step call before ih =>
    have hcall : kind call = false := hs _ (List.mem_append_right _ List.mem_cons_self)
    exact (frame call _ hcall).trans (ih fun e he => hs e (List.mem_append_left _ he))

theorem Answered.all {answer : Surroundings ω} (always : ω → Prop) (holds : Event → Prop)
    (hstep : ∀ call w, always w → always (answer call w).2 ∧ holds ⟨call, (answer call w).1⟩) {h : History}
    {w w' : ω} (ha : Answered answer w h w') (hw : always w) : always w' ∧ ∀ e ∈ h, holds e := by
  induction ha with
  | refl => exact ⟨hw, List.forall_mem_nil _⟩
  | step call before ih =>
    obtain ⟨hw', hh⟩ := hstep call _ ih.1
    exact ⟨hw', List.forall_mem_append.mpr ⟨ih.2, List.forall_mem_singleton.mpr hh⟩⟩

namespace Call

def isLeasing : Call → Bool
  | .createLease _ _ _ | .commitLease _ => true
  | _ => false

def isKeeping : Call → Bool
  | .put _ _ => true
  | call => call.isLeasing

def isPollingOn : Call → Bool
  | .retrieve _ | .sleep _ => true
  | _ => false

def isPreparing : Call → Bool
  | .findRole _ | .chance => true
  | _ => false

def isSubmission : Call → Bool
  | .submit _ => true
  | _ => false

def isCount : Call → Bool
  | .count _ => true
  | _ => false

def isToAuthority : Call → Bool
  | .retrieve _ => true
  | call => call.isSubmission

end Call

structure Write where
  key : String
  value : Octets
  outcome : Except StoreError Unit

namespace Event

def write? : Event → Option Write
  | ⟨.put key value, outcome⟩ => some ⟨key, value, outcome⟩
  | _ => none

def outcome? : Event → Option (Except RetrieveError IssuedSet)
  | ⟨.retrieve _, outcome⟩ => some outcome
  | _ => none

def isFailure : Event → Bool
  | ⟨.put _ _, .error _⟩ | ⟨.createLease _ _ _, .error _⟩ | ⟨.commitLease _, .error _⟩ => true
  | _ => false

theorem isKeeping_of_isFailure {e : Event} (he : e.isFailure = true) : e.call.isKeeping = true := by
  obtain ⟨call, reply⟩ := e
  cases call with
  | put | createLease | commitLease => rfl
  | _ => cases he

end Event

def Write.apply (contents : String → Option Octets) (w : Write) : String → Option Octets :=
  match w.outcome with
  | .ok () => Function.update contents w.key (some w.value)
  | .error _ => contents

namespace History

def writes (h : History) : List Write :=
  h.filterMap Event.write?

def outcomes (h : History) : List (Except RetrieveError IssuedSet) :=
  h.filterMap Event.outcome?

def contents (before : String → Option Octets) (h : History) : String → Option Octets :=
  h.writes.foldl Write.apply before

@[simp] theorem outcomes_append (h h' : History) : (h ++ h').outcomes = h.outcomes ++ outcomes h' :=
  List.filterMap_append

theorem mem_outcomes {h : History} {outcome : Except RetrieveError IssuedSet} :
    outcome ∈ h.outcomes ↔ ∃ handle, ⟨.retrieve handle, outcome⟩ ∈ h := by
  rw [outcomes, List.mem_filterMap]
  constructor
  · rintro ⟨⟨call, reply⟩, hm, ho⟩
    cases call <;> cases ho
    exact ⟨_, hm⟩
  · rintro ⟨handle, hm⟩
    exact ⟨_, hm, rfl⟩

theorem outcomes_eq_nil {h : History} (hs : h.Spares Call.isPollingOn) : h.outcomes = [] := by
  refine List.eq_nil_iff_forall_not_mem.mpr fun outcome ho => ?_
  obtain ⟨handle, hm⟩ := mem_outcomes.mp ho
  exact hs.not_mem rfl hm

theorem outcomes_quiet (h : History) {e : Event} (he : e.outcome? = none) :
    (h ++ [e]).outcomes = h.outcomes := by
  rw [outcomes_append, outcomes, outcomes, List.filterMap_cons_none he, List.filterMap_nil, List.append_nil]

@[simp] theorem writes_append (h h' : History) : (h ++ h').writes = h.writes ++ writes h' :=
  List.filterMap_append

theorem contents_append (before : String → Option Octets) (h h' : History) :
    contents before (h ++ h') = contents (contents before h) h' := by
  rw [contents, writes_append, List.foldl_append]
  rfl

end History

theorem foldl_apply_ok (value : Octets) (keys : List String) (before : String → Option Octets)
    (key : String) :
    (keys.map fun k => Write.mk k value (.ok ())).foldl Write.apply before key =
      if key ∈ keys then some value else before key := by
  induction keys generalizing before with
  | nil => rfl
  | cons k keys ih =>
    simp only [List.map_cons, List.foldl_cons, ih, Write.apply, Function.update_apply, List.mem_cons]
    by_cases hk : key = k <;> by_cases hm : key ∈ keys <;> simp [hk, hm]

end CertEnroll.Enrollment
