import CertEnroll.Enrollment.Trouble
import CertEnroll.Proofs.Failure
import CertEnroll.Proofs.Handout

/-!
What an error tells of the certificate. It says that the certificate exists exactly when the CA has handed
one out that could be read, and that a record is missing exactly when a write that the role asks for failed;
what went wrong in the store or with the lease does not matter.
-/

namespace CertEnroll

namespace Error

theorem isIssued_iff {e : Error} : e.isIssued = true ↔ e.kind ∈ ["storage_write", "lease_binding"] := by
  cases e <;> simp [isIssued, kind]

theorem isIssued_of_unrecorded {e : Error} (hu : e.isIssuedButUnrecorded = true) : e.isIssued = true := by
  cases e <;> first | rfl | cases hu

theorem not_issued_of_unsubmitted {e : Error} (hk : e.kind ∈ kindsUnsubmitted) : e.isIssued = false := by
  have hdisjoint : ∀ kind ∈ kindsUnsubmitted, kind ∉ ["storage_write", "lease_binding"] := by decide
  exact Bool.eq_false_iff.mpr fun hi => hdisjoint _ hk (isIssued_iff.mp hi)

end Error

theorem Http.Exchange.resolve_map {α β : Type} (send : Http.Request → Http.Outcome) (f : α → β) (x : Exchange α) :
    (x.map f).resolve send = f (x.resolve send) := by
  cases x <;> rfl

/-- A role is found or missing as the book says, or the store that keeps the roles gives trouble. -/
inductive RoleBook.Replies (name : String) : RoleBook → Except Error (Option RolePolicy) → Prop
  | listed (roles : List (String × RolePolicy)) : Replies name (.listed roles) (.ok (roles.lookup name))
  | stored (read : Except StoreError (Option Octets)) : Replies name .stored (Store.readRole read)

theorem RoleBook.Replies.not_issued {name : String} {book : RoleBook}
    {found : Except Error (Option RolePolicy)} {e : Error} (hr : book.Replies name found)
    (he : RoleBook.require name found = .error e) : e.isIssued = false := by
  cases hr with
  | listed roles =>
    cases hl : roles.lookup name <;> rw [hl] at he <;> cases he
    rfl
  | stored read =>
    rcases read with cause | _ | octets
    · cases he
      rfl
    · cases he
      rfl
    · simp only [Store.readRole, RolePolicy.decode, decodeOctets] at he
      split at he <;> cases he
      rfl

theorem SubjectNames.normalize_error {commonName : String} {altNames : List String} {e : Error}
    (he : normalize commonName altNames = .error e) : e.kind ∈ Error.kindsUnsubmitted := by
  dsimp only [normalize] at he
  split at he <;> cases he
  exact List.mem_cons_self

theorem Curve.ofName_error {name : String} {e : Error} (he : ofName name = .error e) :
    e.kind ∈ Error.kindsUnsubmitted := by
  unfold ofName at he
  split at he <;> cases he
  simp [Error.kind, Error.kindsUnsubmitted]

theorem RolePolicy.keySpec_error {policy : RolePolicy} {e : Error} (he : policy.keySpec = .error e) :
    e.kind ∈ Error.kindsUnsubmitted := by
  unfold keySpec at he
  split at he
  · dsimp only at he
    generalize (if policy.keyBits = 0 then defaultRsaBits else policy.keyBits) = bits at he
    split at he <;> cases he
    simp [Error.kind, Error.kindsUnsubmitted]
  · cases hc : Curve.ofName policy.keyCurve <;> rw [hc] at he <;> cases he
    exact Curve.ofName_error hc
  · cases he
    simp [Error.kind, Error.kindsUnsubmitted]

namespace SigningRequest

variable {names : SubjectNames} {spec : KeySpec} {e : Error}

theorem checkNames_error (he : checkNames names = .error e) : e.kind ∈ Error.kindsUnsubmitted := by
  unfold checkNames at he
  split at he <;> cases he
  simp [Error.kind, Error.kindsUnsubmitted]

theorem sign_error {key : Crypto.PrivateKey} (he : sign names spec key = .error e) :
    e.kind ∈ Error.kindsUnsubmitted := by
  unfold sign at he
  cases hc : checkNames names with
  | error e' =>
    rw [hc] at he
    cases he
    exact checkNames_error hc
  | ok =>
    rw [hc] at he
    simp only [bind, Except.bind] at he
    split at he <;> cases he
    simp [Error.kind, Error.kindsUnsubmitted]

theorem build_error {seed : Octets} (he : build names spec seed = .error e) :
    e.kind ∈ Error.kindsUnsubmitted := by
  unfold build at he
  split at he
  · cases he
    simp [Error.kind, Error.kindsUnsubmitted]
  · exact sign_error he

theorem build_names {seed : Octets} {request : SigningRequest} {key : KeyMaterial}
    (hb : build names spec seed = .ok (request, key)) : request.names = names := by
  unfold build at hb
  split at hb
  · cases hb
  · unfold sign at hb
    simp only [bind, Except.bind] at hb
    split at hb
    · cases hb
    · split at hb
      · cases hb
      · simp only [pure, Except.pure, Except.ok.injEq, Prod.mk.injEq] at hb
        rw [← hb.1]

end SigningRequest

namespace Enrollment

variable {polling : PollPolicy} {w : Wish} {h : History} {e : Error}

namespace Wish

def Unrecorded (w : Wish) (h : History) (certificate : MaterializedCertificate) : Prop :=
  ∃ policy names key value cause,
    ⟨.findRole w.role, .ok (some policy)⟩ ∈ h ∧
      SubjectNames.normalize w.commonName w.altNames = .ok names ∧
        (policy.storeByCommonName = true ∧ key = CertificateRecord.commonNameKey names.commonName ∨
          policy.storeBySerial = true ∧ key = CertificateRecord.serialKey certificate.storageSerial) ∧
          ⟨.put key value, .error cause⟩ ∈ h

structure Tells (w : Wish) (h : History) (e : Error) : Prop where
  issued : e.isIssued = true ↔ ∃ certificate, h.Delivers certificate
  unrecorded : e.isIssuedButUnrecorded = true ↔
    ∃ certificate, h.Delivers certificate ∧ w.Unrecorded h certificate

theorem Tells.counted (ht : w.Tells h e) (result : Except Error IssueResponse) :
    w.Tells (h ++ [IssueStage.counted w result]) e where
  issued := by
    rw [ht.issued]
    simp only [History.Delivers, mem_counted (e := ⟨.retrieve _, _⟩) rfl]
  unrecorded := by
    rw [ht.unrecorded]
    simp only [History.Delivers, Unrecorded, mem_counted (e := ⟨.retrieve _, _⟩) rfl,
      mem_counted (e := ⟨.findRole _, _⟩) rfl, mem_counted (e := ⟨.put _ _, _⟩) rfl]

theorem tells_undelivered (hi : e.isIssued = false)
    (ho : ∀ issued, .ok issued ∈ h.outcomes → ∀ certificate, issued.materialize ≠ .ok certificate) :
    w.Tells h e := by
  have hd (certificate : MaterializedCertificate) : ¬ h.Delivers certificate := by
    rintro ⟨handle, issued, hm, hc⟩
    exact ho issued (History.mem_outcomes.mpr ⟨handle, hm⟩) certificate hc
  refine ⟨⟨fun hi' => ?_, ?_⟩, ⟨fun hu => ?_, ?_⟩⟩
  · cases hi.symm.trans hi'
  · rintro ⟨certificate, hc⟩
    exact absurd hc (hd certificate)
  · cases hi.symm.trans (Error.isIssued_of_unrecorded hu)
  · rintro ⟨certificate, hc, -⟩
    exact absurd hc (hd certificate)

theorem plan_not_issued {book : RoleBook} {found : Except Error (Option RolePolicy)}
    (hr : book.Replies w.role found) (hp : w.plan found = .error e) : e.isIssued = false := by
  rcases plan_eq_error.mp hp with hf | ⟨policy, -, hn | ⟨names, -, hs⟩⟩
  · exact hr.not_issued hf
  · exact Error.not_issued_of_unsubmitted (SubjectNames.normalize_error hn)
  · exact Error.not_issued_of_unsubmitted (RolePolicy.keySpec_error hs)

end Wish

theorem ObtainStage.not_issued {request : SigningRequest}
    (ho : Ends (ObtainStage.next polling request) .submitting h (.error e)) : e.isIssued = false := by
  have hdisjoint : ∀ kind ∈ ["ca_submission", "ca_retrieval", "polling_exhausted"],
      kind ∉ ["storage_write", "lease_binding"] := by decide
  exact Bool.eq_false_iff.mpr fun hi => hdisjoint _ (ObtainStage.error_kind ho) (Error.isIssued_iff.mp hi)

theorem materialize_not_issued {issued : IssuedSet} (hm : issued.materialize = .error e) : e.isIssued = false := by
  rw [Bool.eq_false_iff, ne_eq, Error.isIssued_iff, materialize_error hm]
  decide

theorem Binding.AllWritten.no_failure {b : Binding} {octets : Octets} {key : String} {value : Octets}
    {cause : StoreError} (hw : b.AllWritten octets h) : ⟨.put key value, .error cause⟩ ∉ h := by
  intro hm
  have hm : Write.mk key value (.error cause) ∈ h.writes := List.mem_filterMap.mpr ⟨_, hm, rfl⟩
  rw [hw, b.copies_eq] at hm
  obtain ⟨_, -, hk⟩ := List.mem_map.mp hm
  cases congrArg Write.outcome hk

theorem Wish.Requests.job {p : Prepared} {issued : IssuedSet} {job : Binding} (requested : w.Requests h p)
    (read : w.job p issued = .ok job) :
    ∃ names, ⟨.findRole w.role, .ok (some job.policy)⟩ ∈ h ∧
      SubjectNames.normalize w.commonName w.altNames = .ok names ∧ job.commonName = names.commonName := by
  obtain ⟨planned, prepared⟩ := requested
  obtain ⟨rfl, hn, -⟩ := Wish.plan_eq_ok.mp planned
  obtain ⟨hp, hb⟩ := Wish.prepare_eq_ok.mp prepared
  obtain ⟨certificate, -, rfl⟩ := Wish.job_eq_ok.mp read
  refine ⟨_, ?_, hn, congrArg SubjectNames.commonName (SigningRequest.build_names hb)⟩
  rw [← hp]
  exact List.mem_cons_self

theorem Wish.Requests.tells {p : Prepared} {issued : IssuedSet} {job : Binding} {h' h'' : History}
    (requested : w.Requests h p)
    (obtained : Ends (ObtainStage.next polling p.request) .submitting h' (.ok issued))
    (read : w.job p issued = .ok job) (kept : Ends (BindStage.next job) (.start job) h'' (.error e)) :
    w.Tells (h ++ h' ++ h'') e := by
  have hc := BindStage.concluded_of_ends kept
  obtain ⟨certificate, hm, hjob⟩ := Wish.job_eq_ok.mp read
  obtain rfl : job.certificate = certificate := by rw [hjob]
  have hd := delivers_of_obtained obtained hm h h''
  refine ⟨⟨fun _ => ⟨_, hd⟩, fun _ => Error.isIssued_iff.mpr hc.error_kind⟩, ?_⟩
  rcases (hc.error_iff e).mp rfl with ⟨key, cause, hg, rfl⟩ | ⟨cause, hw, -, rfl⟩
  · refine ⟨fun _ => ⟨_, hd, ?_⟩, fun _ => rfl⟩
    obtain ⟨names, hrole, hn, hname⟩ := requested.job read
    obtain ⟨hkey, hfails⟩ := hg.fails
    refine ⟨job.policy, names, key, job.record.encode, cause, ?_, hn, hname ▸ Binding.mem_keys.mp hkey, ?_⟩
    · exact List.mem_append_left _ (List.mem_append_left _ hrole)
    · exact List.mem_append_right _ hfails
  · refine ⟨fun hu => ?_, ?_⟩
    · cases hu
    -- A lease is asked for only when all is written, so that no write can have failed.
    · rintro ⟨_, -, _, _, _, _, _, -, -, -, hput⟩
      have hspares := requested.spares_keeping obtained
      exact absurd ((List.mem_append.mp hput).resolve_left (hspares.not_mem rfl)) hw.no_failure

theorem IssueStage.Came.tells {book : RoleBook} (came : Came polling w h (.error e))
    (roles : ∀ found, ⟨.findRole w.role, found⟩ ∈ h → book.Replies w.role found) : w.Tells h e := by
  cases came with
  | unplanned planned =>
    exact Wish.tells_undelivered (Wish.plan_not_issued (roles _ List.mem_cons_self) planned)
      (fun _ hm => absurd hm List.not_mem_nil)
  | unprepared _ prepared =>
    exact Wish.tells_undelivered
      (Error.not_issued_of_unsubmitted (SigningRequest.build_error (Wish.prepare_eq_error.mp prepared)))
      (fun _ hm => absurd hm List.not_mem_nil)
  | unobtained requested obtained =>
    refine Wish.tells_undelivered (ObtainStage.not_issued obtained) fun issued hm => ?_
    rw [requested.outcomes] at hm
    exact absurd hm (ObtainStage.outcomes_error obtained issued)
  | unread requested obtained read =>
    have hr := Wish.job_eq_error.mp read
    refine Wish.tells_undelivered (materialize_not_issued hr) fun issued' hm certificate hc => ?_
    obtain ⟨earlier, ho, hu⟩ := ObtainStage.outcomes_ok obtained
    rw [requested.outcomes, ho, List.mem_append, List.mem_singleton] at hm
    rcases hm with hm | hm
    · cases hu _ hm
    · cases hm
      cases hr.symm.trans hc
  | bound requested obtained read kept => exact requested.tells obtained read kept

theorem tells_of_ends {book : RoleBook} (failed : Ends (IssueStage.next polling w) .finding h (.error e))
    (roles : ∀ found, ⟨.findRole w.role, found⟩ ∈ h → book.Replies w.role found) : w.Tells h e := by
  obtain ⟨before, rfl, came⟩ := IssueStage.came_of_ends failed
  exact (came.tells fun found hm => roles found (List.mem_append_left _ hm)).counted _

/-- Whatever the CA, the store and the leases reply, an error tells whether the certificate exists and whether
a record of it is missing. -/
theorem error_tells_issued {book : RoleBook} (failed : Ends (IssueStage.next polling w) .finding h (.error e))
    (roles : ∀ found, ⟨.findRole w.role, found⟩ ∈ h → book.Replies w.role found) :
    (e.isIssued = true ↔ ∃ certificate, h.Delivers certificate) ∧
      (e.isIssuedButUnrecorded = true ↔
        ∃ certificate, h.Delivers certificate ∧ w.Unrecorded h certificate) :=
  ⟨(tells_of_ends failed roles).issued, (tells_of_ends failed roles).unrecorded⟩

theorem IssueStage.next_obtained {w : Wish} {p : Prepared} {issued : IssuedSet} {job : Binding} (polling : PollPolicy)
    (handle : PickupHandle) (hj : w.job p issued = .ok job) :
    (IssueStage.obtaining p (.polling handle (.finished (.ok issued)))).next polling w =
      nextBinding w job (.start job) := by
  simp only [next, ObtainStage.next, PollStage.next, Next.within, nextObtained, hj]

section

open LocalCa (trialHandle trialIssued materialize_trial)
open SigningRequest (trialKey trialNames trialRequest build_trial)

def trialWish : Wish :=
  ⟨"web", "example.com", []⟩

def trialPrepared (policy : RolePolicy) : Prepared :=
  ⟨policy, trialRequest, ⟨.ec .p256, trialKey.pem⟩⟩

def trialJob (policy : RolePolicy) (certificate : MaterializedCertificate) : Binding :=
  ⟨"web", policy, "example.com", certificate, trialKey.pem⟩

theorem plan_trial (policy : RolePolicy) (hs : policy.keySpec = .ok (.ec .p256)) :
    trialWish.plan (.ok (some policy)) = .ok ⟨policy, trialNames, .ec .p256⟩ := by
  have hnames : SubjectNames.normalize "example.com" [] = .ok trialNames := by decide
  exact Wish.plan_eq_ok.mpr ⟨rfl, hnames, hs⟩

theorem prepare_trial (policy : RolePolicy) :
    Wish.prepare ⟨policy, trialNames, .ec .p256⟩ [1] = .ok (trialPrepared policy) :=
  Wish.prepare_eq_ok.mpr ⟨rfl, build_trial⟩

theorem job_trial {certificate : MaterializedCertificate} (policy : RolePolicy)
    (hc : trialIssued.materialize = .ok certificate) :
    trialWish.job (trialPrepared policy) trialIssued = .ok (trialJob policy certificate) :=
  Wish.job_eq_ok.mpr ⟨certificate, hc, rfl⟩

def obtainedHistory (policy : RolePolicy) : History :=
  [⟨.findRole "web", .ok (some policy)⟩, ⟨.chance, [1]⟩, ⟨.submit trialRequest, .ok trialHandle⟩,
    ⟨.clock, (0 : Nat)⟩, ⟨.retrieve trialHandle, .ok trialIssued⟩, ⟨.count (.poll "issued"), ()⟩]

theorem reaches_obtained {policy : RolePolicy} (hs : policy.keySpec = .ok (.ec .p256)) :
    Reaches (IssueStage.next ⟨1, none, none⟩ trialWish) .finding (obtainedHistory policy)
      (.obtaining (trialPrepared policy) (.polling trialHandle (.finished (.ok trialIssued)))) := by
  have start : Reaches (IssueStage.next ⟨1, none, none⟩ trialWish) .finding [] _ := .refl
  have found : Reaches (IssueStage.next ⟨1, none, none⟩ trialWish) .finding _
      (.preparing ⟨policy, trialNames, .ec .p256⟩) :=
    start.step (e := ⟨.findRole "web", .ok (some policy)⟩)
      ⟨.ok (some policy), rfl, by simp only [plan_trial policy hs]⟩
  have ready : Reaches (IssueStage.next ⟨1, none, none⟩ trialWish) .finding _
      (.obtaining (trialPrepared policy) .submitting) :=
    found.step (e := ⟨.chance, [1]⟩) ⟨[1], rfl, by simp only [prepare_trial]⟩
  have submitted := ready.step (e := ⟨.submit trialRequest, .ok trialHandle⟩) ⟨.ok trialHandle, rfl, rfl⟩
  have started := submitted.step (e := ⟨.clock, (0 : Nat)⟩) ⟨(0 : Nat), rfl, rfl⟩
  have retrieved := started.step (e := ⟨.retrieve trialHandle, .ok trialIssued⟩) ⟨.ok trialIssued, rfl, rfl⟩
  exact retrieved.step (e := ⟨.count (.poll "issued"), ()⟩) ⟨(), rfl, rfl⟩

def storingPolicy : RolePolicy :=
  { keyType := "ec", keyCurve := "P256", storeByCommonName := true }

def full : StoreError :=
  .backend "disk full"

def fullHistory (job : Binding) : History :=
  obtainedHistory storingPolicy ++ [job.putting "certs/example.com" (.error full)] ++
    [IssueStage.counted trialWish (.error (job.unwritten "certs/example.com" full))]

theorem ends_full {certificate : MaterializedCertificate} (hc : trialIssued.materialize = .ok certificate) :
    Ends (IssueStage.next ⟨1, none, none⟩ trialWish) .finding (fullHistory (trialJob storingPolicy certificate))
      (.error ((trialJob storingPolicy certificate).unwritten "certs/example.com" full)) := by
  let job := trialJob storingPolicy certificate
  have refused : Reaches (IssueStage.next ⟨1, none, none⟩ trialWish) .finding
      (obtainedHistory storingPolicy ++ [job.putting "certs/example.com" (.error full)])
      (.binding job (.finished (.error (job.unwritten "certs/example.com" full)))) := by
    refine (reaches_obtained rfl).step (e := job.putting "certs/example.com" (.error full)) ?_
    rw [IssueStage.next_obtained _ trialHandle (job_trial storingPolicy hc)]
    exact ⟨.error full, rfl, rfl⟩
  exact ⟨_, refused.step (e := IssueStage.counted trialWish _) ⟨(), rfl, rfl⟩, rfl⟩

theorem error_tells_issued_sealed :
    (∃ h, Ends (IssueStage.next ⟨1, none, none⟩ trialWish) .finding h
        (.error (.storage "storage backend error: sealed")) ∧
      ¬ ∃ certificate, h.Delivers certificate) ∧
    ∃ h serial, Ends (IssueStage.next ⟨1, none, none⟩ trialWish) .finding h
        (.error (.storageWrite "certs/example.com" serial "storage backend error: disk full")) ∧
      ∃ certificate, h.Delivers certificate ∧ trialWish.Unrecorded h certificate := by
  constructor
  · let found : Except Error (Option RolePolicy) := Store.readRole (.error (.backend "sealed"))
    let h : History := [⟨.findRole "web", found⟩,
      IssueStage.counted trialWish (.error (.storage "storage backend error: sealed"))]
    have hstart : Reaches (IssueStage.next ⟨1, none, none⟩ trialWish) .finding [] _ := .refl
    have hrole := hstart.step (e := ⟨.findRole "web", found⟩) ⟨found, rfl, rfl⟩
    have hcount := hrole.step (e := IssueStage.counted trialWish (.error (.storage "storage backend error: sealed")))
      ⟨(), rfl, rfl⟩
    have hends : Ends (IssueStage.next ⟨1, none, none⟩ trialWish) .finding h _ := ⟨_, hcount, rfl⟩
    have hroles : ∀ reply, ⟨.findRole trialWish.role, reply⟩ ∈ h → RoleBook.stored.Replies trialWish.role reply := by
      intro reply hm
      obtain ⟨-, rfl⟩ : trialWish.role = "web" ∧ reply = found := by
        simpa [h, IssueStage.counted] using hm
      exact .stored _
    have htells := (error_tells_issued hends hroles).1
    exact ⟨h, hends, fun hd => absurd (htells.mpr hd) (by decide)⟩
  · obtain ⟨certificate, hc⟩ := materialize_trial
    have hroles : ∀ found, ⟨.findRole trialWish.role, found⟩ ∈ fullHistory (trialJob storingPolicy certificate) →
        (RoleBook.listed [("web", storingPolicy)]).Replies trialWish.role found := by
      intro found hm
      obtain rfl : found = .ok (some storingPolicy) := by
        simpa [fullHistory, obtainedHistory, trialWish, Binding.putting, IssueStage.counted] using hm
      exact .listed [("web", storingPolicy)]
    exact ⟨_, _, ends_full hc, (error_tells_issued (ends_full hc) hroles).2.mp rfl⟩

end

theorem World.answer_roles (send : Http.Request → Http.Outcome) (call : Call) (w : World) :
    (World.answer send call w).2.roles = w.roles := by
  cases call <;> rfl

theorem World.findRole_replies (send : Http.Request → Http.Outcome) (name : String) (w : World) :
    w.roles.Replies name (World.answer send (.findRole name) w).1 := by
  rw [World.answer]
  cases w.roles with
  | listed roles => exact .listed roles
  | stored =>
    rw [RoleBook.find?, Store.role?, Http.Exchange.resolve_map]
    exact .stored _

namespace Trouble

variable (send : Http.Request → Http.Outcome) (t : Trouble)

theorem findRole_replies (name : String) (s : Store) (book : RoleBook) :
    book.Replies name (t.findRole send name s book) := by
  cases book with
  | listed roles => exact .listed roles
  | stored => exact .stored _

theorem answer_roles (call : Call) (world : World) : (t.answer send call world).2.roles = world.roles := by
  cases call with
  | createLease | commitLease =>
    dsimp only [answer]
    split <;> rfl
  | _ => rfl

end Trouble

theorem replies_of_answered {answer : Surroundings World}
    (keeps : ∀ call (w : World), (answer call w).2.roles = w.roles)
    (replies : ∀ name (w : World), w.roles.Replies name (answer (.findRole name) w).1) {world world' : World}
    (answered : Answered answer world h world') {name : String} {found : Except Error (Option RolePolicy)}
    (hm : ⟨.findRole name, found⟩ ∈ h) : world.roles.Replies name found := by
  have hstep (call : Call) (w' : World) (hw : w'.roles = world.roles) :
      (answer call w').2.roles = world.roles ∧
        ∀ found, ⟨call, (answer call w').1⟩ = Event.mk (.findRole name) found → world.roles.Replies name found := by
    refine ⟨(keeps call w').trans hw, fun found he => ?_⟩
    cases he
    exact hw ▸ replies name w'
  have hall := (answered.all (fun w' => w'.roles = world.roles)
    (fun event => ∀ found, event = ⟨.findRole name, found⟩ → world.roles.Replies name found) hstep rfl).2
  exact hall _ hm found rfl

theorem failed_rehearsal_tells (send : Http.Request → Http.Outcome) (t : Trouble)
    (refuses : Call → World → Bool) (fuel : Nat) {world world' : World}
    (hr : run (IssueStage.next polling w) (t.answer send) refuses fuel .finding world =
      .done (.error e) world') : ∃ h, Answered (t.answer send) world h world' ∧ w.Tells h e := by
  obtain ⟨h, hf⟩ := run_follows (IssueStage.next polling w) (t.answer send) refuses fuel .finding world
  rw [hr] at hf
  obtain ⟨failed, answered⟩ := hf
  have replies (name : String) (world : World) := t.findRole_replies send name world.store world.roles
  exact ⟨h, answered, tells_of_ends failed fun _ hm => replies_of_answered (t.answer_roles send) replies answered hm⟩

end Enrollment

end CertEnroll
