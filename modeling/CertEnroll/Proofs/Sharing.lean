import CertEnroll.Enrollment.World
import CertEnroll.Proofs.Handout
import CertEnroll.Proofs.Order
import Mathlib.Data.List.Basic

/-!
Enrollments that run side by side and share a CA of their own, a store in memory and the leases. Between any two
steps of one, others may take any number of theirs. Each enrollment still goes through its own stages only, and
the CA tells it of nothing but its own request.
-/

namespace CertEnroll.Enrollment

variable {ι : Type}

inductive Move (ι : Type)
  | visit (v : Visit LocalCa.Submission ι)
  | call (who : ι) (e : Event)

namespace Move

def visit? : Move ι → Option (Visit LocalCa.Submission ι)
  | .visit v => some v
  | .call _ _ => none

/-- What is told by the step, and to whom. A check that was passed tells nothing yet. -/
def told? : Move ι → Option (ι × Event)
  | .call who e => some (who, e)
  | .visit (.submit who s reply) => some (who, ⟨.submit s.request, reply⟩)
  | .visit (.check _ _ (.ok ())) => none
  | .visit (.check who handle (.error e)) => some (who, ⟨.retrieve handle, .error e⟩)
  | .visit (.take who handle reply) => some (who, ⟨.retrieve handle, reply⟩)

def toldTo [DecidableEq ι] (who : ι) (m : Move ι) : Option Event :=
  m.told?.bind fun (other, e) => if other = who then some e else none

def key? : Move ι → Option String
  | .call _ ⟨.put key _, _⟩ => some key
  | _ => none

end Move

def visitsOf (moves : List (Move ι)) : List (Visit LocalCa.Submission ι) :=
  moves.filterMap Move.visit?

def historyOf [DecidableEq ι] (who : ι) (moves : List (Move ι)) : History :=
  moves.filterMap (Move.toldTo who)

inductive Answers : MemoryStore × LeaseTable → Event → MemoryStore × LeaseTable → Prop
  | put {store : MemoryStore} {leases : LeaseTable} (key : String) (value : Octets) :
    Answers (store, leases) ⟨.put key value, .ok ()⟩ (store.put key value, leases)
  | commit {store : MemoryStore} {leases : LeaseTable} (now : Instant) (lease : Lease) :
    Answers (store, leases) ⟨.commitLease lease, .ok ()⟩ (store, leases.commit now lease)
  | other {kept : MemoryStore × LeaseTable} {e : Event} (elsewhere : e.call.isToAuthority = false)
    (unwritten : e.write? = none) (uncommitted : ∀ lease, e ≠ ⟨.commitLease lease, .ok ()⟩) :
    Answers kept e kept

structure Sharing (ι : Type) where
  desk : LocalCa.Desk ι
  store : MemoryStore
  leases : LeaseTable
  stages : ι → IssueStage

namespace Sharing

def start (ca : LocalCa) (store : MemoryStore) (leases : LeaseTable) : Sharing ι :=
  ⟨LocalCa.desk ca, store, leases, fun _ => .finding⟩

variable (polling : ι → PollPolicy) (wish : ι → Wish)

def next (s : Sharing ι) (who : ι) : IssueStage.After :=
  (s.stages who).next (polling who) (wish who)

variable [DecidableEq ι]

inductive Step : Sharing ι → Move ι → Sharing ι → Prop
  | call {s : Sharing ι} {who : ι} {e : Event} {stage : IssueStage} {kept : MemoryStore × LeaseTable}
    (leads : (s.next polling wish who).Leads e stage) (answers : Answers (s.store, s.leases) e kept) :
    Step s (.call who e)
      { s with store := kept.1, leases := kept.2, stages := Function.update s.stages who stage }
  | visit {s : Sharing ι} {v : Visit LocalCa.Submission ι} {desk : LocalCa.Desk ι} {who : ι} {e : Event}
    {stage : IssueStage} (done : LocalCa.Step s.desk v desk) (told : (Move.visit v).told? = some (who, e))
    (leads : (s.next polling wish who).Leads e stage) :
    Step s (.visit v) { s with desk, stages := Function.update s.stages who stage }
  | pass {s : Sharing ι} {who : ι} {handle : PickupHandle} {desk : LocalCa.Desk ι}
    {resume : Except RetrieveError IssuedSet → IssueStage}
    (done : LocalCa.Step s.desk (.check who handle (.ok ())) desk)
    (asks : s.next polling wish who = .ask (.retrieve handle) resume) :
    Step s (.visit (.check who handle (.ok ()))) { s with desk }

end Sharing

section Worlds

open Sharing

variable [DecidableEq ι] {polling : ι → PollPolicy} {wish : ι → Wish} {s : Sharing ι} {who : ι} {call : Call}
  {resume : call.Reply → IssueStage}

structure Matches (world : World) (s : Sharing ι) : Prop where
  authority : world.authority = .inProcess s.desk.ca
  store : world.store = .memory s.store
  leases : world.leases = s.leases
  free : ∀ who, s.desk.between who = none

theorem matches_answer (send : Http.Request → Http.Outcome) {world : World} (hm : Matches world s)
    (asks : s.next polling wish who = .ask call resume) :
    ∃ moves s', Run (Step polling wish) s moves s' ∧
      historyOf who moves = [⟨call, (World.answer send call world).1⟩] ∧
      Matches (World.answer send call world).2 s' ∧
      s'.stages = Function.update s.stages who (resume (World.answer send call world).1) := by
  obtain ⟨ha, hst, hl, hfree⟩ := hm
  have one {e : Event} {kept : MemoryStore × LeaseTable} {stage : IssueStage} {world' : World}
      (leads : (s.next polling wish who).Leads e stage) (answers : Answers (s.store, s.leases) e kept)
      (ha' : world'.authority = world.authority) (hst' : world'.store = .memory kept.1)
      (hl' : world'.leases = kept.2) :
      ∃ moves s', Run (Step polling wish) s moves s' ∧ historyOf who moves = [e] ∧ Matches world' s' ∧
        s'.stages = Function.update s.stages who stage := by
    refine ⟨[.call who e], _, Run.refl.step (.call leads answers), ?_, ⟨ha'.trans ha, hst', hl', hfree⟩, rfl⟩
    simp [historyOf, Move.toldTo, Move.told?]
  have leads (reply : call.Reply) : (s.next polling wish who).Leads ⟨call, reply⟩ (resume reply) := by
    rw [asks]
    exact ⟨reply, rfl, rfl⟩
  cases call with
  | findRole | clock | count | today | chance | sleep | createLease =>
    exact one (leads _) (.other rfl rfl nofun) rfl hst hl
  | put key value =>
    have hput : World.answer send (.put key value) world =
        (.ok (), { world with store := .memory (s.store.put key value) }) := by
      simp only [World.answer, hst]
      rfl
    rw [hput]
    exact one (leads _) (.put key value) rfl rfl hl
  | commitLease lease =>
    exact one (leads _) (.commit world.today lease) rfl hst (congrArg (LeaseTable.commit world.today lease) hl)
  | submit request =>
    let sub : LocalCa.Submission := ⟨world.today, world.draw.1, request⟩
    have hsubmit : World.answer send (.submit request) world =
        ((s.desk.ca.submit sub.now sub.chance request).1,
          { world.draw.2 with authority := .inProcess (s.desk.ca.submit sub.now sub.chance request).2 }) := by
      have hdraw : world.draw.2.authority = .inProcess s.desk.ca := ha
      simp only [World.answer, hdraw]
      rfl
    have done : LocalCa.Step s.desk (.submit who sub (s.desk.ca.submit sub.now sub.chance request).1) _ :=
      .submit who sub rfl
    rw [hsubmit]
    refine ⟨[.visit _], _, Run.refl.step (.visit done rfl (leads _)), ?_, ⟨rfl, hst, hl, hfree⟩, rfl⟩
    simp [historyOf, Move.toldTo, Move.told?, sub]
  | retrieve handle =>
    have hretrieve : World.answer send (.retrieve handle) world =
        ((s.desk.ca.retrieve handle).1,
          { world with authority := .inProcess (s.desk.ca.retrieve handle).2 }) := by
      simp only [World.answer, ha]
      rfl
    rw [hretrieve, LocalCa.retrieve_eq]
    rcases hcheck : s.desk.ca.check handle with ⟨e | _, ca⟩
    · have done : LocalCa.Step s.desk (.check who handle (.error e)) _ := .turnAway (hfree who) hcheck
      refine ⟨[.visit _], _, Run.refl.step (.visit done rfl (leads _)), ?_, ⟨rfl, hst, hl, hfree⟩, rfl⟩
      simp [historyOf, Move.toldTo, Move.told?]
    · have passed : LocalCa.Step s.desk (.check who handle (.ok ())) _ := .pass (hfree who) hcheck
      let halfway : Sharing ι := { s with desk := ⟨ca, Function.update s.desk.between who (some handle)⟩ }
      have first : Step polling wish s (.visit (.check who handle (.ok ()))) halfway := .pass passed asks
      have done : LocalCa.Step halfway.desk (.take who handle (ca.take handle).1) _ :=
        .take (Function.update_self _ _ _) rfl
      refine ⟨[.visit _, .visit _], _, (Run.refl.step first).step (.visit done rfl (leads _)), ?_,
        ⟨rfl, hst, hl, ?_⟩, rfl⟩
      · rw [historyOf, List.filterMap_cons_none rfl]
        simp [Move.toldTo, Move.told?]
      · intro other
        change Function.update (Function.update s.desk.between who (some handle)) who none other = none
        rw [Function.update_idem, Function.update_apply]
        split
        · rfl
        · exact hfree other

end Worlds

section Runs

open Sharing

variable [DecidableEq ι] {polling : ι → PollPolicy} {wish : ι → Wish} {ca : LocalCa} {store : MemoryStore}
  {leases : LeaseTable} {moves : List (Move ι)} {m : Move ι} {s s' : Sharing ι} {who : ι}

omit [DecidableEq ι] in
theorem visitsOf_append (moves moves' : List (Move ι)) :
    visitsOf (moves ++ moves') = visitsOf moves ++ visitsOf moves' :=
  List.filterMap_append

theorem historyOf_append (who : ι) (moves moves' : List (Move ι)) :
    historyOf who (moves ++ moves') = historyOf who moves ++ historyOf who moves' :=
  List.filterMap_append

theorem toldTo_eq_some {e : Event} : m.toldTo who = some e ↔ m.told? = some (who, e) := by
  rw [Move.toldTo]
  cases ht : m.told? with
  | none => simp
  | some told =>
    obtain ⟨other, e'⟩ := told
    by_cases ho : other = who <;> simp [ho]

theorem Sharing.Step.leads (hs : Step polling wish s m s') (who : ι) :
    (m.toldTo who = none ∧ s'.stages who = s.stages who) ∨
      ∃ e, m.toldTo who = some e ∧ (s.next polling wish who).Leads e (s'.stages who) := by
  have main {other : ι} {e : Event} {stage : IssueStage} (told : m.told? = some (other, e))
      (leads : (s.next polling wish other).Leads e stage) :
      (m.toldTo who = none ∧ Function.update s.stages other stage who = s.stages who) ∨
        ∃ e, m.toldTo who = some e ∧
          (s.next polling wish who).Leads e (Function.update s.stages other stage who) := by
    by_cases ho : who = other
    · subst ho
      rw [Function.update_self]
      exact .inr ⟨e, toldTo_eq_some.mpr told, leads⟩
    · rw [Function.update_of_ne ho]
      refine .inl ⟨?_, rfl⟩
      simp [Move.toldTo, told, Ne.symm ho]
  cases hs with
  | call leads answers => exact main rfl leads
  | visit done told leads => exact main told leads
  | pass done asks => exact .inl ⟨rfl, rfl⟩

theorem reaches_of_run (hr : Run (Step polling wish) (start ca store leases) moves s) (who : ι) :
    Reaches (IssueStage.next (polling who) (wish who)) .finding (historyOf who moves) (s.stages who) := by
  induction hr with
  | refl => exact .refl
  | @step moves s s' m before hs ih =>
    rw [historyOf_append, historyOf, historyOf, List.filterMap_cons, List.filterMap_nil]
    rcases hs.leads who with ⟨hnone, hstage⟩ | ⟨e, he, hleads⟩
    · rw [hnone, hstage, List.append_nil]
      exact ih
    · rw [he]
      exact ih.step hleads

theorem desk_of_run (hr : Run (Step polling wish) (start ca store leases) moves s) :
    Run LocalCa.Step (LocalCa.desk ca) (visitsOf moves) s.desk := by
  induction hr with
  | refl => exact .refl
  | step before hs ih =>
    rw [visitsOf_append]
    cases hs with
    | @call who e =>
      have hnone : visitsOf [Move.call who e] = [] := rfl
      rw [hnone, List.append_nil]
      exact ih
    | visit done => exact ih.step done
    | pass done => exact ih.step done

omit [DecidableEq ι] in
theorem mem_visitsOf {v : Visit LocalCa.Submission ι} : v ∈ visitsOf moves ↔ .visit v ∈ moves := by
  rw [visitsOf, List.mem_filterMap]
  constructor
  · rintro ⟨_ | _, hm, hv⟩
    · cases hv
      exact hm
    · cases hv
  · exact fun hm => ⟨_, hm, rfl⟩

theorem mem_historyOf {e : Event} : e ∈ historyOf who moves ↔ ∃ m ∈ moves, m.told? = some (who, e) := by
  simp only [historyOf, List.mem_filterMap, toldTo_eq_some]

theorem Answers.elsewhere {kept kept' : MemoryStore × LeaseTable} {e : Event} (ha : Answers kept e kept') :
    e.call.isToAuthority = false := by
  cases ha with
  | put | commit => rfl
  | other elsewhere => exact elsewhere

theorem elsewhere_of_run (hr : Run (Step polling wish) (start ca store leases) moves s) {e : Event}
    (hm : .call who e ∈ moves) : e.call.isToAuthority = false := by
  induction hr with
  | refl => cases hm
  | step before hs ih =>
    rcases List.mem_append.mp hm with hm | hm
    · exact ih hm
    · rw [← List.mem_singleton.mp hm] at hs
      cases hs with
      | call leads answers => exact answers.elsewhere

theorem mem_submissions (hr : Run (Step polling wish) (start ca store leases) moves s)
    {request : SigningRequest} {reply : Except AuthorityError PickupHandle} :
    ⟨.submit request, reply⟩ ∈ historyOf who moves ↔
      ∃ sub : LocalCa.Submission, sub.request = request ∧ .submit who sub reply ∈ visitsOf moves := by
  rw [mem_historyOf]
  constructor
  · rintro ⟨m, hm, ht⟩
    match m with
    | .call other e =>
      cases ht
      cases elsewhere_of_run hr hm
    | .visit (.submit other sub reply') =>
      cases ht
      exact ⟨sub, rfl, mem_visitsOf.mpr hm⟩
    | .visit (.check _ _ (.ok ())) => cases ht
    | .visit (.check _ _ (.error _)) => cases ht
    | .visit (.take _ _ _) => cases ht
  · rintro ⟨sub, rfl, hv⟩
    exact ⟨_, mem_visitsOf.mp hv, rfl⟩

def outcomeFor (who : ι) : Visit LocalCa.Submission ι → Option (Except RetrieveError IssuedSet)
  | .check task _ (.error e) => if task = who then some (.error e) else none
  | .take task _ reply => if task = who then some reply else none
  | _ => none

theorem outcomes_of_run (hr : Run (Step polling wish) (start ca store leases) moves s) (who : ι) :
    (historyOf who moves).outcomes = (visitsOf moves).filterMap (outcomeFor who) := by
  rw [historyOf, History.outcomes, visitsOf, List.filterMap_filterMap, List.filterMap_filterMap]
  apply List.filterMap_congr
  intro m hm
  cases m with
  | call other e =>
    have he : e.outcome? = none := by
      have := elsewhere_of_run hr hm
      obtain ⟨call, reply⟩ := e
      cases call <;> first | rfl | cases this
    by_cases ho : other = who <;> simp [Move.toldTo, Move.told?, Move.visit?, ho, he]
  | visit v =>
    cases v with
    | submit other sub reply =>
      by_cases ho : other = who <;>
        simp [Move.toldTo, Move.told?, Move.visit?, outcomeFor, ho, Event.outcome?]
    | check other handle reply =>
      cases reply with
      | ok => rfl
      | error e =>
        by_cases ho : other = who <;>
          simp [Move.toldTo, Move.told?, Move.visit?, outcomeFor, ho, Event.outcome?]
    | take other handle reply =>
      by_cases ho : other = who <;>
        simp [Move.toldTo, Move.told?, Move.visit?, outcomeFor, ho, Event.outcome?]

theorem Sharing.Step.asks {v : Visit LocalCa.Submission ι} {handle : PickupHandle}
    (hs : Step polling wish s (.visit v) s') (ha : v.Asks handle) :
    ∃ e stage, (s.next polling wish v.task).Leads e stage ∧ e.call = .retrieve handle := by
  cases hs with
  | visit done told leads =>
    match v, told with
    | .check task asked (.error e), rfl =>
      obtain rfl : asked = handle := ha
      exact ⟨_, _, leads, rfl⟩
    | .take task asked reply, rfl =>
      obtain rfl : asked = handle := ha
      exact ⟨_, _, leads, rfl⟩
  | pass done asks =>
    rename_i resume
    obtain rfl := ha
    refine ⟨⟨.retrieve _, .error .pending⟩, resume (.error .pending), ?_, rfl⟩
    rw [Visit.task, asks]
    exact ⟨_, rfl, rfl⟩

theorem asked_own (hr : Run (Step polling wish) (start ca store leases) moves s)
    {v : Visit LocalCa.Submission ι} {handle : PickupHandle} (hv : v ∈ visitsOf moves) (ha : v.Asks handle) :
    ∃ sub, .submit v.task sub (.ok handle) ∈ visitsOf moves := by
  induction hr with
  | refl => cases hv
  | @step moves s s' m before hs ih =>
    rw [visitsOf_append] at hv ⊢
    rcases List.mem_append.mp hv with hv | hv
    · obtain ⟨sub, hsub⟩ := ih hv
      exact ⟨sub, List.mem_append_left _ hsub⟩
    · obtain rfl := List.mem_singleton.mp (mem_visitsOf.mp hv)
      obtain ⟨e, stage, leads, hcall⟩ := hs.asks ha
      have hallows := (IssueStage.course_of_reaches (reaches_of_run before v.task)).allows leads
      rw [hcall] at hallows
      obtain ⟨request, hrequest⟩ := hallows
      obtain ⟨sub, -, hsub⟩ := (mem_submissions before).mp hrequest
      exact ⟨sub, List.mem_append_left _ hsub⟩

end Runs

end CertEnroll.Enrollment
