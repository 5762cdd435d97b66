import CertEnroll.Authority.Backend
import CertEnroll.Proofs.Pickup
import CertEnroll.Proofs.RequestForm

/-!
Handing certificates out to tasks that run side by side. The steps of all tasks may come in any order, and other
steps between the two of a retrieval; still each certificate goes to one of those who ask for it, after all the
polls that were to be turned away, and only under the handle of its own submission.
-/

namespace CertEnroll

variable {κ ρ σ μ : Type}

inductive Run (step : σ → μ → σ → Prop) (start : σ) : List μ → σ → Prop
  | refl : Run step start [] start
  | step {moves : List μ} {s s' : σ} {m : μ} (before : Run step start moves s) (next : step s m s') :
    Run step start (moves ++ [m]) s'

structure Spared (signed : κ → Except AuthorityError IssuedSet) (v : Visit κ ρ) (before after : PickupTable) :
    Prop where
  others : ∀ handle, ¬ v.Concerns handle → after.lookup handle.id = before.lookup handle.id
  unsigned : ∀ {task what reply cause}, v = .submit task what reply → signed what = .error cause →
    reply = .error cause ∧ after = before

namespace PickupTable

inductive Step (signed : κ → Except AuthorityError IssuedSet) (polls : Nat) :
    PickupTable → Visit κ ρ → PickupTable → Prop
  | refuse {t : PickupTable} (task : ρ) {what : κ} {cause : AuthorityError} (sign : signed what = .error cause) :
    Step signed polls t (.submit task what (.error cause)) t
  | park {t : PickupTable} (task : ρ) {what : κ} {issued : IssuedSet} (handle : PickupHandle)
    (sign : signed what = .ok issued) :
    Step signed polls t (.submit task what (.ok handle)) (t.insert handle.id ⟨polls, issued⟩)
  | check {t : PickupTable} (task : ρ) (handle : PickupHandle) :
    Step signed polls t (.check task handle (t.check handle.id).1) (t.check handle.id).2
  | take {t : PickupTable} (task : ρ) (handle : PickupHandle) :
    Step signed polls t (.take task handle (t.take handle.id).1) (t.take handle.id).2

variable {signed : κ → Except AuthorityError IssuedSet} {polls : Nat} {t t' : PickupTable} {v : Visit κ ρ}
  {visits : List (Visit κ ρ)} {handle : PickupHandle}

theorem Step.lookup_eq (hs : Step signed polls t v t') (hc : ¬ v.Concerns handle) :
    t'.lookup handle.id = t.lookup handle.id := by
  cases hs with
  | refuse => rfl
  | park task parked =>
    rw [lookup_insert, if_neg]
    apply id_ne
    rintro rfl
    exact hc (.inl rfl)
  | check task asked =>
    apply lookup_check_of_ne
    apply id_ne
    rintro rfl
    exact hc (.inr rfl)
  | take task asked =>
    apply lookup_take_of_ne
    apply id_ne
    rintro rfl
    exact hc (.inr rfl)

theorem Step.spared (hs : Step signed polls t v t') : Spared signed v t t' where
  others _ hc := hs.lookup_eq hc
  unsigned := by
    rintro task what reply cause rfl he
    cases hs with
    | refuse _ sign =>
      cases sign.symm.trans he
      exact ⟨rfl, rfl⟩
    | park _ _ sign => cases sign.symm.trans he

theorem Course.step (hc : Course signed polls visits t) (hs : Step signed polls t v t')
    (hf : Fresh (visits ++ [v]))
    (hp : ∀ task handle reply, v = .take task handle reply → Passed handle visits ∨ polls = 0) :
    Course signed polls (visits ++ [v]) t' := by
  cases hs with
  | refuse task sign => exact .refuse task _ _ hc
  | park task handle sign => exact .park task hc sign hf.not_given
  | check task handle => exact .check task handle hc
  | take task handle => exact .take task handle hc (hp _ _ _ rfl)

end PickupTable

theorem CertificateForm.sign_eq {f : CertificateForm} {key : Crypto.PrivateKey} {signature : Octets}
    (hs : key.sign (f.tree key.algorithm.tree).encode = some signature) :
    f.sign key = some (Pem.Block.mk Pem.certificateLabel
      (Der.Tree.sequence [f.tree key.algorithm.tree, key.algorithm.tree, .bitString signature]).encode).write := by
  simp only [sign, hs]
  rfl

theorem IssuedSet.materialize_written {issued : IssuedSet} {contents : Octets} {leaf : Der.Certificate}
    (hw : Text.trim issued.certificate = Text.trim (Pem.Block.mk Pem.certificateLabel contents).write)
    (hl : Der.readCertificate contents = some leaf) :
    ∃ kept, issued.materialize = .ok kept ∧ kept.certificate = Text.trim issued.certificate ∧
      kept.serialNumber = Serial.format leaf.serial ∧ kept.notAfter = ⟨leaf.notAfter, 0⟩ := by
  have hread : Pem.read (Text.trim issued.certificate) = .ok ⟨Pem.certificateLabel, contents⟩ := by
    rw [hw]
    apply Pem.read_trim_write <;> simp [Pem.certificateLabel]
  exact ⟨_, materialize_eq_ok.mpr ⟨contents, leaf, leafContents_eq_ok.mpr hread, hl, rfl⟩, rfl, rfl, rfl⟩

namespace LocalCa

open SigningRequest (Contents)

structure Submission where
  now : Instant
  chance : Octets
  request : SigningRequest

def signed (ca : LocalCa) (s : Submission) : Except AuthorityError IssuedSet :=
  ca.sign s.now s.chance s.request.pem

theorem check_eq (handle : PickupHandle) (ca : LocalCa) :
    ca.check handle = ((ca.pickups.check handle.id).1, { ca with pickups := (ca.pickups.check handle.id).2 }) :=
  rfl

theorem take_eq (handle : PickupHandle) (ca : LocalCa) :
    ca.take handle = ((ca.pickups.take handle.id).1, { ca with pickups := (ca.pickups.take handle.id).2 }) :=
  rfl

theorem retrieve_eq (handle : PickupHandle) (ca : LocalCa) :
    ca.retrieve handle = match ca.check handle with
      | (.ok (), ca) => ca.take handle
      | (.error e, ca) => (.error e, ca) :=
  rfl

/-- A CA with the handles of the retrievals that have taken the first step and not the second. -/
structure Desk (ρ : Type) where
  ca : LocalCa
  between : ρ → Option PickupHandle

def desk (ca : LocalCa) : Desk ρ := ⟨ca, fun _ => none⟩

section

variable [DecidableEq ρ]

inductive Step : Desk ρ → Visit Submission ρ → Desk ρ → Prop
  | submit {d : Desk ρ} {ca : LocalCa} {reply : Except AuthorityError PickupHandle} (task : ρ) (s : Submission)
    (done : d.ca.submit s.now s.chance s.request = (reply, ca)) :
    Step d (.submit task s reply) { d with ca }
  | pass {d : Desk ρ} {ca : LocalCa} {task : ρ} {handle : PickupHandle} (free : d.between task = none)
    (done : d.ca.check handle = (.ok (), ca)) :
    Step d (.check task handle (.ok ())) ⟨ca, Function.update d.between task (some handle)⟩
  | turnAway {d : Desk ρ} {ca : LocalCa} {task : ρ} {handle : PickupHandle} {e : RetrieveError}
    (free : d.between task = none) (done : d.ca.check handle = (.error e, ca)) :
    Step d (.check task handle (.error e)) { d with ca }
  | take {d : Desk ρ} {ca : LocalCa} {task : ρ} {handle : PickupHandle} {reply : Except RetrieveError IssuedSet}
    (passed : d.between task = some handle) (done : d.ca.take handle = (reply, ca)) :
    Step d (.take task handle reply) ⟨ca, Function.update d.between task none⟩

variable {ca : LocalCa} {d d' : Desk ρ} {visits : List (Visit Submission ρ)} {v : Visit Submission ρ}

theorem submit_eq (s : Submission) (ca : LocalCa) :
    ca.submit s.now s.chance s.request = match ca.signed s with
      | .error e => (.error e, ca)
      | .ok issued =>
        (.ok ⟨Uuid.text (s.chance.drop 16)⟩, ca.park (Uuid.text (s.chance.drop 16)) issued) :=
  rfl

theorem sign_eq_ok {now : Instant} {chance : Octets} {pem certificate : String} {c : Contents}
    (hr : readRequest pem = .ok c) (hs : (ca.leafForm now chance c).sign ca.key = some certificate) :
    ca.sign now chance pem = .ok ⟨certificate, [ca.root]⟩ := by
  rw [sign, hr]
  simp only [bind, Except.bind, hs]
  rfl

section Steps

variable (task : ρ) {handle : PickupHandle} {issued : IssuedSet}

theorem Step.parks {s : Submission} (hs : d.ca.signed s = .ok issued) :
    Step d (.submit task s (.ok ⟨Uuid.text (s.chance.drop 16)⟩))
      { d with ca := d.ca.park (Uuid.text (s.chance.drop 16)) issued } := by
  apply Step.submit task s
  rw [submit_eq, hs]

theorem Step.turns_away {remaining : Nat} (free : d.between task = none)
    (hl : d.ca.pickups.lookup handle.id = some ⟨remaining + 1, issued⟩) :
    Step d (.check task handle (.error .pending))
      { d with ca := { d.ca with pickups := d.ca.pickups.insert handle.id ⟨remaining, issued⟩ } } := by
  apply Step.turnAway free
  rw [check_eq, PickupTable.check_pending hl]

theorem Step.passes (free : d.between task = none) (hl : d.ca.pickups.lookup handle.id = some ⟨0, issued⟩) :
    Step d (.check task handle (.ok ())) ⟨d.ca, Function.update d.between task (some handle)⟩ := by
  apply Step.pass free
  rw [check_eq, PickupTable.check_ready hl]

theorem Step.hands_out {remaining : Nat} (passed : d.between task = some handle)
    (hl : d.ca.pickups.lookup handle.id = some ⟨remaining, issued⟩) :
    Step d (.take task handle (.ok issued))
      ⟨{ d.ca with pickups := d.ca.pickups.erase handle.id }, Function.update d.between task none⟩ := by
  apply Step.take passed
  rw [take_eq, PickupTable.take_present hl]

theorem Step.misses (passed : d.between task = some handle) (hl : d.ca.pickups.lookup handle.id = none) :
    Step d (.take task handle (.error (PickupTable.unknown handle.id)))
      ⟨d.ca, Function.update d.between task none⟩ := by
  apply Step.take passed
  rw [take_eq, PickupTable.take_missing hl]

end Steps

theorem Step.table (hs : Step d v d') :
    d'.ca = { d.ca with pickups := d'.ca.pickups } ∧
      PickupTable.Step d.ca.signed d.ca.pendingPolls d.ca.pickups v d'.ca.pickups := by
  cases hs with
  | submit task s done =>
    rw [submit_eq] at done
    cases hsign : d.ca.signed s with
    | error cause =>
      rw [hsign] at done
      cases done
      exact ⟨rfl, .refuse task hsign⟩
    | ok issued =>
      rw [hsign] at done
      cases done
      exact ⟨rfl, .park task _ hsign⟩
  | pass free done | turnAway free done =>
    rw [check_eq] at done
    obtain ⟨hr, rfl⟩ := Prod.mk.inj done
    exact ⟨rfl, hr ▸ .check _ _⟩
  | take passed done =>
    rw [take_eq] at done
    obtain ⟨rfl, rfl⟩ := Prod.mk.inj done
    exact ⟨rfl, .take _ _⟩

structure Tended (ca : LocalCa) (visits : List (Visit Submission ρ)) (d : Desk ρ) : Prop where
  ca_eq : d.ca = { ca with pickups := d.ca.pickups }
  passed : ∀ task handle, d.between task = some handle → Passed handle visits
  course : PickupTable.Course ca.signed ca.pendingPolls visits d.ca.pickups

end

section

variable {ca : LocalCa} {d d' : Desk ρ} {visits : List (Visit Submission ρ)} {v : Visit Submission ρ}

theorem Tended.empty (hp : ca.pickups = {}) : Tended ca [] (desk ca : Desk ρ) where
  ca_eq := rfl
  passed := nofun
  course := by
    change PickupTable.Course _ _ [] ca.pickups
    rw [hp]
    exact .empty

theorem Tended.signed_eq (h : Tended ca visits d) : d.ca.signed = ca.signed := by
  rw [h.ca_eq]
  rfl

theorem Tended.polls_eq (h : Tended ca visits d) : d.ca.pendingPolls = ca.pendingPolls := by
  rw [h.ca_eq]

variable [DecidableEq ρ]

theorem Tended.step (h : Tended ca visits d) (hs : Step d v d') (hf : Fresh (visits ++ [v])) :
    Tended ca (visits ++ [v]) d' := by
  refine ⟨?_, ?_, ?_⟩
  · rw [hs.table.1, h.ca_eq]
  · intro task handle hb
    rw [passed_append]
    cases hs with
    | submit | turnAway => exact .inl (h.passed task handle hb)
    | @pass ca' task' asked free done =>
      change Function.update d.between task' (some asked) task = some handle at hb
      rw [Function.update_apply] at hb
      split at hb
      · cases hb
        exact .inr ⟨_, rfl⟩
      · exact .inl (h.passed task handle hb)
    | @take ca' task' asked reply passed done =>
      change Function.update d.between task' none task = some handle at hb
      rw [Function.update_apply] at hb
      split at hb
      · cases hb
      · exact .inl (h.passed task handle hb)
  · have ht := hs.table.2
    rw [h.signed_eq, h.polls_eq] at ht
    apply h.course.step ht hf
    rintro task handle reply rfl
    cases hs with
    | take passed done => exact .inl (h.passed _ _ passed)

theorem tended_of_run (hr : Run Step (desk ca) visits d) (hp : ca.pickups = {}) (hf : Fresh visits) :
    Tended ca visits d := by
  induction hr with
  | refl => exact .empty hp
  | step before next ih => exact (ih hf.of_append).step next hf

theorem Tended.spared (h : Tended ca visits d) (hs : Step d v d') :
    Spared ca.signed v d.ca.pickups d'.ca.pickups :=
  h.signed_eq ▸ hs.table.2.spared

end

end LocalCa

namespace VaultPki

structure Submission where
  chance : Octets
  request : SigningRequest
  outcome : Http.Outcome

def signed (s : Submission) : Except AuthorityError IssuedSet :=
  readSigned (.ofOutcome s.outcome)

inductive Step : VaultPki → Visit Submission ρ → VaultPki → Prop
  | submit {ca ca' : VaultPki} {reply : Except AuthorityError PickupHandle} (task : ρ) (s : Submission)
    (done : (ca.submit s.chance s.request).resolve (fun _ => s.outcome) = (reply, ca')) :
    Step ca (.submit task s reply) ca'
  | take {ca ca' : VaultPki} {reply : Except RetrieveError IssuedSet} (task : ρ) {handle : PickupHandle}
    (done : ca.retrieve handle = (reply, ca')) : Step ca (.take task handle reply) ca'

variable {ca ca' : VaultPki} {visits : List (Visit Submission ρ)} {v : Visit Submission ρ}

theorem submit_resolve (s : Submission) (ca : VaultPki) :
    (ca.submit s.chance s.request).resolve (fun _ => s.outcome) = match signed s with
      | .error e => (.error e, ca)
      | .ok issued =>
        (.ok ⟨Uuid.text (s.chance.take 16)⟩, ca.park (Uuid.text (s.chance.take 16)) issued) :=
  rfl

theorem retrieve_eq (handle : PickupHandle) (ca : VaultPki) :
    ca.retrieve handle =
      ((ca.pickups.take handle.id).1, { ca with pickups := (ca.pickups.take handle.id).2 }) :=
  rfl

theorem submit_of_signed {s : Submission} {issued : IssuedSet} (hs : signed s = .ok issued) (ca : VaultPki) :
    (ca.submit s.chance s.request).resolve (fun _ => s.outcome) =
      (.ok ⟨Uuid.text (s.chance.take 16)⟩, ca.park (Uuid.text (s.chance.take 16)) issued) := by
  rw [submit_resolve, hs]

theorem Step.table (hs : Step ca v ca') : PickupTable.Step signed 0 ca.pickups v ca'.pickups := by
  cases hs with
  | submit task s done =>
    rw [submit_resolve] at done
    cases hsign : signed s with
    | error cause =>
      rw [hsign] at done
      cases done
      exact .refuse task hsign
    | ok issued =>
      rw [hsign] at done
      cases done
      exact .park task _ hsign
  | take task done =>
    rw [retrieve_eq] at done
    obtain ⟨rfl, rfl⟩ := Prod.mk.inj done
    exact .take task _

theorem course_of_run (hr : Run Step ca visits ca') (hp : ca.pickups = {}) (hf : Fresh visits) :
    PickupTable.Course signed 0 visits ca'.pickups := by
  induction hr with
  | refl => exact hp ▸ .empty
  | step before next ih => exact (ih hf.of_append).step next.table hf fun _ _ _ _ => .inr rfl

end VaultPki

section

variable [DecidableEq ρ]

/-- Whatever the order in which tasks submit and retrieve, with any steps of others between the two of a
retrieval: a certificate goes to one of those who ask for it, once as many of them as were to be turned away have
been, and everyone else who asks is told for good that there is none. -/
theorem hands_out_once :
    (∀ {ca : LocalCa} {visits : List (Visit LocalCa.Submission ρ)} {d : LocalCa.Desk ρ},
      Run LocalCa.Step (LocalCa.desk ca) visits d → ca.pickups = {} → Fresh visits →
        HandedOut ca.signed ca.pendingPolls visits ∧
          ∀ {v d'}, LocalCa.Step d v d' → Spared ca.signed v d.ca.pickups d'.ca.pickups) ∧
    (∀ (handle : PickupHandle) (ca : LocalCa), ca.retrieve handle = match ca.check handle with
      | (.ok (), ca) => ca.take handle
      | (.error e, ca) => (.error e, ca)) ∧
    (∀ {ca ca' : VaultPki} {visits : List (Visit VaultPki.Submission ρ)},
      Run VaultPki.Step ca visits ca' → ca.pickups = {} → Fresh visits →
        HandedOut VaultPki.signed 0 visits ∧
          ∀ {v : Visit VaultPki.Submission ρ} {next : VaultPki}, VaultPki.Step ca' v next →
            Spared VaultPki.signed v ca'.pickups next.pickups) ∧
    ∀ id, (PickupTable.unknown id).isRetryable = false := by
  refine ⟨?_, LocalCa.retrieve_eq, ?_, fun _ => rfl⟩
  · intro ca visits d hr hp hf
    have htended := LocalCa.tended_of_run hr hp hf
    exact ⟨htended.course.handedOut, fun hs => htended.spared hs⟩
  · intro ca ca' visits hr hp hf
    exact ⟨(VaultPki.course_of_run hr hp hf).handedOut, fun hs => hs.table.spared⟩

end

namespace LocalCa

open SigningRequest (contentsOf trialKey trialNames trialSignature trialRequest)

def trialCa : LocalCa := ⟨trialKey, "root", 1, defaultValidity, {}⟩

def trialSubmission : Submission := ⟨⟨0, 0⟩, List.replicate 32 7, trialRequest⟩

def trialHandle : PickupHandle := ⟨Uuid.text (trialSubmission.chance.drop 16)⟩

def trialForm : CertificateForm :=
  trialCa.leafForm trialSubmission.now trialSubmission.chance (contentsOf trialNames trialKey trialSignature)

def trialSeal : Octets :=
  [48, 69, 2, 33, 0, 208, 232, 255, 212, 122, 13, 215, 172, 33, 220, 63, 22, 175, 51, 57, 123, 144, 53, 151, 76, 152,
    155, 146, 153, 131, 32, 20, 169, 29, 183, 228, 246, 2, 32, 3, 55, 249, 191, 24, 239, 19, 232, 106, 96, 106, 249,
    37, 167, 61, 102, 222, 38, 170, 140, 200, 53, 145, 219, 237, 64, 44, 213, 126, 210, 106, 242]

def trialBlock : Pem.Block where
  label := Pem.certificateLabel
  contents := (Der.Tree.sequence
    [trialForm.tree trialKey.algorithm.tree, trialKey.algorithm.tree, .bitString trialSeal]).encode

def trialIssued : IssuedSet := ⟨trialBlock.write, ["root"]⟩

theorem readRequest_trial : readRequest trialRequest.pem = .ok (contentsOf trialNames trialKey trialSignature) := by
  have hc : ((contentsOf trialNames trialKey trialSignature).key?.any accepts &&
      (contentsOf trialNames trialKey trialSignature).isSigned) = true := by
    decide +kernel
  rw [readRequest, SigningRequest.ofPem?_trial]
  exact if_pos hc

theorem signed_trial : trialCa.signed trialSubmission = .ok trialIssued := by
  have hs : trialForm.sign trialKey = some trialBlock.write := by
    apply CertificateForm.sign_eq
    decide +kernel
  exact sign_eq_ok readRequest_trial hs

theorem materialize_trial : ∃ certificate, trialIssued.materialize = .ok certificate := by
  have hcertificate : (Der.readCertificate trialBlock.contents).isSome = true := by decide +kernel
  obtain ⟨leaf, hleaf⟩ := Option.isSome_iff_exists.mp hcertificate
  have hwritten : Text.trim trialIssued.certificate =
      Text.trim (Pem.Block.mk Pem.certificateLabel trialBlock.contents).write := rfl
  obtain ⟨certificate, hm, -⟩ := IssuedSet.materialize_written hwritten hleaf
  exact ⟨certificate, hm⟩

def race : List (Visit Submission Bool) :=
  [.submit true trialSubmission (.ok trialHandle), .check true trialHandle (.error .pending),
    .check true trialHandle (.ok ()), .check false trialHandle (.ok ()), .take true trialHandle (.ok trialIssued),
    .take false trialHandle (.error (PickupTable.unknown trialHandle.id))]

def parkedDesk : Desk Bool :=
  ⟨trialCa.park trialHandle.id trialIssued, fun _ => none⟩

def readyDesk (between : Bool → Option PickupHandle) : Desk Bool where
  ca := { trialCa with
    pickups := parkedDesk.ca.pickups.insert trialHandle.id ⟨0, trialIssued⟩ }
  between

theorem lookup_ready (between : Bool → Option PickupHandle) :
    (readyDesk between).ca.pickups.lookup trialHandle.id = some ⟨0, trialIssued⟩ := by
  rw [readyDesk, PickupTable.lookup_insert, if_pos rfl]

theorem parks_trial : Step (desk trialCa) (.submit true trialSubmission (.ok trialHandle)) parkedDesk :=
  Step.parks true signed_trial

theorem turns_away_trial :
    Step parkedDesk (.check true trialHandle (.error .pending)) (readyDesk fun _ => none) := by
  have hl : parkedDesk.ca.pickups.lookup trialHandle.id = some ⟨0 + 1, trialIssued⟩ := by
    rw [parkedDesk, park, PickupTable.lookup_insert, if_pos rfl]
    rfl
  exact Step.turns_away true rfl hl

theorem run_race : ∃ d, Run Step (desk trialCa) race d := by
  have hgone : (PickupTable.erase trialHandle.id (readyDesk fun _ => none).ca.pickups).lookup trialHandle.id =
      none := by
    rw [PickupTable.lookup_erase, if_pos rfl]
  have ready := (Run.refl.step parks_trial).step turns_away_trial
  have first := ready.step (Step.passes true rfl (lookup_ready _))
  have second := first.step (Step.passes false rfl (lookup_ready _))
  have won := second.step (Step.hands_out true rfl (lookup_ready _))
  have lost := won.step (Step.misses false rfl hgone)
  exact ⟨_, lost⟩

end LocalCa

namespace VaultPki

def trialVault : VaultPki where
  client := ⟨⟨"https", "", some "vault.example.com", some 8200, "", none, none⟩, ⟨"token"⟩, none⟩
  mount := "pki"
  role := "web"

def trialReply : String :=
  "\x7b\"data\":\x7b\"certificate\":\"leaf\",\"issuing_ca\":\"root\",\"serial_number\":\"01\"\x7d\x7d"

def trialSubmission : Submission :=
  ⟨List.replicate 16 7, SigningRequest.trialRequest, .reply ⟨200, .whole (Text.Utf8.encode trialReply)⟩⟩

def trialHandle : PickupHandle := ⟨Uuid.text (trialSubmission.chance.take 16)⟩

def trialIssued : IssuedSet := ⟨"leaf", ["root"]⟩

theorem signed_trial : signed trialSubmission = .ok trialIssued := by decide

def race : List (Visit Submission Bool) :=
  [.submit true trialSubmission (.ok trialHandle), .take true trialHandle (.ok trialIssued),
    .take false trialHandle (.error (PickupTable.unknown trialHandle.id))]

theorem run_race : ∃ ca, Run Step trialVault race ca := by
  let parked : PickupTable := PickupTable.insert trialHandle.id ⟨0, trialIssued⟩ {}
  have hparked : parked.lookup trialHandle.id = some ⟨0, trialIssued⟩ := by
    rw [PickupTable.lookup_insert, if_pos rfl]
  have hgone : (parked.erase trialHandle.id).lookup trialHandle.id = none := by
    rw [PickupTable.lookup_erase, if_pos rfl]
  have taken (pickups : PickupTable) : { trialVault with pickups }.retrieve trialHandle =
      ((pickups.take trialHandle.id).1, { trialVault with pickups := (pickups.take trialHandle.id).2 }) := rfl
  have submitted : Run Step trialVault [.submit true trialSubmission (.ok trialHandle)]
      { trialVault with pickups := parked } :=
    Run.refl.step (.submit true trialSubmission (submit_of_signed signed_trial trialVault))
  have won := submitted.step (.take true (by rw [taken, PickupTable.take_present hparked]))
  have lost := won.step (.take false (by rw [taken, PickupTable.take_missing hgone]))
  exact ⟨_, lost⟩

end VaultPki

theorem hands_out_once_race :
    (∃ d, Run LocalCa.Step (LocalCa.desk LocalCa.trialCa) LocalCa.race d) ∧
      HandedOut LocalCa.trialCa.signed 1 LocalCa.race ∧
      (∃ ca, Run VaultPki.Step VaultPki.trialVault VaultPki.race ca) ∧
      HandedOut VaultPki.signed 0 VaultPki.race := by
  obtain ⟨d, hlocal⟩ := LocalCa.run_race
  obtain ⟨ca, hvault⟩ := VaultPki.run_race
  have hfresh : Fresh LocalCa.race := List.nodup_cons.mpr ⟨List.not_mem_nil, List.nodup_nil⟩
  have hfresh' : Fresh VaultPki.race := List.nodup_cons.mpr ⟨List.not_mem_nil, List.nodup_nil⟩
  have hout := (hands_out_once.1 hlocal rfl hfresh).1
  have hout' := (hands_out_once.2.2.1 hvault rfl hfresh').1
  exact ⟨⟨d, hlocal⟩, hout, ⟨ca, hvault⟩, hout'⟩

end CertEnroll
