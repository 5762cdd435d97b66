import CertEnroll.Proofs.Issued
import CertEnroll.Proofs.Rebinding
import CertEnroll.Proofs.Served

namespace CertEnroll

def Error.TellsStored (e : Error) : Prop :=
  e.isIssued = true ∧ e.isIssuedButUnrecorded = false

def RolePolicy.stores (p : RolePolicy) : Bool :=
  p.storeByCommonName || p.storeBySerial

namespace Enrollment

variable {b : Binding} {h h' h'' : History} {e : Error}

theorem History.writes_eq_nil (hs : h.Spares Call.isKeeping) : h.writes = [] := by
  apply List.eq_nil_iff_forall_not_mem.mpr
  intro write hw
  obtain ⟨⟨call, reply⟩, hm, he⟩ := List.mem_filterMap.mp hw
  cases call with
  | put => exact hs.not_mem rfl hm
  | _ => cases he

theorem History.contents_eq_self (hs : h.Spares Call.isKeeping) (before : String → Option Octets) :
    h.contents before = before := by
  rw [History.contents, History.writes_eq_nil hs, List.foldl_nil]

namespace Binding

def Recorded (b : Binding) (contents : String → Option Octets) : Prop :=
  contents (CertificateRecord.commonNameKey b.commonName) = some b.record.encode ∨
    contents (CertificateRecord.serialKey b.certificate.storageSerial) = some b.record.encode

structure StoredAsAsked (b : Binding) (before : String → Option Octets) (h : History) : Prop where
  recorded : b.policy.stores = true → b.Recorded (h.contents before)
  untouched : b.policy.stores = false → h.contents before = before

theorem AllWritten.contents (hw : b.AllWritten b.record.encode h) (before : String → Option Octets) (key : String) :
    h.contents before key = if key ∈ b.keys then some b.record.encode else before key := by
  rw [History.contents, allWritten_iff.mp hw]
  exact foldl_apply_ok _ _ _ _

theorem AllWritten.storedAsAsked (hw : b.AllWritten b.record.encode h) (before : String → Option Octets) :
    b.StoredAsAsked before h where
  recorded hs := by
    rw [RolePolicy.stores, Bool.or_eq_true] at hs
    rcases hs with hname | hserial
    · left
      rw [hw.contents, if_pos (mem_keys.mpr (.inl ⟨hname, rfl⟩))]
    · right
      rw [hw.contents, if_pos (mem_keys.mpr (.inr ⟨hserial, rfl⟩))]
  untouched hs := by
    obtain ⟨hname, hserial⟩ := Bool.or_eq_false_iff.mp hs
    have hkeys : b.keys = [] := by simp [keys, hname, hserial]
    funext key
    rw [hw.contents, hkeys, if_neg List.not_mem_nil]

theorem Concluded.allWritten {octets : Octets} (hc : b.Concluded octets h (.error e)) (ht : e.TellsStored) :
    b.AllWritten octets h := by
  rcases (hc.error_iff e).mp rfl with ⟨_, _, -, rfl⟩ | ⟨_, hw, -, -⟩
  · cases ht.2
  · exact hw

end Binding

def Wish.Binds (w : Wish) (h : History) (b : Binding) : Prop :=
  ∃ first rest p handle issued, h = first ++ rest ∧ w.Requests first p ∧
    ⟨.retrieve handle, .ok issued⟩ ∈ rest ∧ w.job p issued = .ok b

variable {polling : PollPolicy} {w : Wish}

theorem IssueStage.Came.kept {book : RoleBook} (came : Came polling w h (.error e))
    (roles : ∀ found, ⟨.findRole w.role, found⟩ ∈ h → book.Replies w.role found) (hi : e.isIssued = true) :
    ∃ p issued b h₁ h₂ h₃, h = h₁ ++ h₂ ++ h₃ ∧ w.Requests h₁ p ∧
      Ends (ObtainStage.next polling p.request) .submitting h₂ (.ok issued) ∧ w.job p issued = .ok b ∧
        Ends (BindStage.next b) (.start b) h₃ (.error e) := by
  cases came with
  | unplanned planned => cases hi.symm.trans (Wish.plan_not_issued (roles _ List.mem_cons_self) planned)
  | unprepared _ prepared =>
    have hu := SigningRequest.build_error (Wish.prepare_eq_error.mp prepared)
    cases hi.symm.trans (Error.not_issued_of_unsubmitted hu)
  | unobtained _ obtained => cases hi.symm.trans (ObtainStage.not_issued obtained)
  | unread _ _ read => cases hi.symm.trans (materialize_not_issued (Wish.job_eq_error.mp read))
  | bound requested obtained read kept => exact ⟨_, _, _, _, _, _, rfl, requested, obtained, read, kept⟩

theorem stored_of_issue {book : RoleBook} (failed : Ends (IssueStage.next polling w) .finding h (.error e))
    (roles : ∀ found, ⟨.findRole w.role, found⟩ ∈ h → book.Replies w.role found) (told : e.TellsStored)
    (before : String → Option Octets) : ∃ b, w.Binds h b ∧ b.StoredAsAsked before h := by
  obtain ⟨bound, rfl, came⟩ := IssueStage.came_of_ends failed
  obtain ⟨p, issued, b, h₁, h₂, h₃, rfl, requested, obtained, read, kept⟩ :=
    came.kept (fun found hm => roles found (List.mem_append_left _ hm)) told.1
  obtain ⟨earlier, ho, -⟩ := ObtainStage.outcomes_ok obtained
  obtain ⟨handle, hm⟩ := History.mem_outcomes.mp (ho ▸ List.mem_append_right earlier List.mem_cons_self)
  have hw := (BindStage.concluded_of_ends kept).allWritten told
  have hcount : History.Spares Call.isKeeping [IssueStage.counted w (.error e)] := spares_cons.mpr ⟨rfl, spares_nil⟩
  have hcontents : History.contents before (h₁ ++ h₂ ++ h₃ ++ [IssueStage.counted w (.error e)]) =
      h₃.contents before := by
    rw [History.contents_append, History.contents_eq_self hcount, History.contents_append,
      History.contents_eq_self (requested.spares_keeping obtained)]
  have hbinds : w.Binds (h₁ ++ h₂ ++ h₃ ++ [IssueStage.counted w (.error e)]) b := by
    refine ⟨h₁, h₂ ++ h₃ ++ [IssueStage.counted w (.error e)], p, handle, issued, ?_, requested, ?_, read⟩
    · simp only [List.append_assoc]
    · exact List.mem_append_left _ (List.mem_append_left _ hm)
  have hs := hw.storedAsAsked before
  refine ⟨b, hbinds, ?_, ?_⟩
  · intro hstores
    rw [hcontents]
    exact hs.recorded hstores
  · intro hstores
    rw [hcontents]
    exact hs.untouched hstores

/-- Where an error says that a certificate was issued and stored, every write that the role asks for was made; if it
asks for none, the store is as it was. -/
theorem told_stored_as_asked (before : String → Option Octets) :
    (∀ {b : Binding} {h : History} {e : Error}, Ends (BindStage.next b) (.start b) h (.error e) → e.TellsStored →
      b.StoredAsAsked before h) ∧
    ∀ {polling : PollPolicy} {w : Wish} {book : RoleBook} {h : History} {e : Error},
      Ends (IssueStage.next polling w) .finding h (.error e) →
        (∀ found, ⟨.findRole w.role, found⟩ ∈ h → book.Replies w.role found) → e.TellsStored →
          ∃ b, w.Binds h b ∧ b.StoredAsAsked before h := by
  constructor
  · intro b h e failed told
    exact ((BindStage.concluded_of_ends failed).allWritten told).storedAsAsked before
  · intro polling w book h e failed roles told
    exact stored_of_issue failed roles told before

open LocalCa (trialHandle trialIssued materialize_trial)

def Binding.leased : Binding where
  role := "web"
  policy := { storeByCommonName := true, generateLease := true }
  commonName := "example.com"
  certificate := ⟨"leaf", "leaf\nissuer", "1A:2B:03", ⟨0, 0⟩⟩
  privateKey := ⟨"key"⟩

def Binding.leasedOnly : Binding :=
  { Binding.leased with policy := { generateLease := true } }

def unavailable : Error := .internal Trouble.leaseMessage

def Binding.leasedTold : History :=
  [Binding.leased.putting "certs/example.com" (.ok ()), Binding.leased.creating (.error unavailable)]

theorem ends_leased :
    Ends (BindStage.next .leased) (.start .leased) Binding.leasedTold
      (.error (Binding.leased.unleased unavailable)) := by
  have hstart : Reaches (BindStage.next .leased) (.start .leased) [] _ := .refl
  have hput := hstart.step (e := Binding.leased.putting "certs/example.com" (.ok ())) ⟨.ok (), rfl, rfl⟩
  exact ⟨_, hput.step (e := Binding.leased.creating (.error unavailable)) ⟨.error unavailable, rfl, rfl⟩, rfl⟩

def leasedPolicy : RolePolicy := { keyType := "ec", keyCurve := "P256", generateLease := true }

def leasedJob (certificate : MaterializedCertificate) : Binding :=
  trialJob leasedPolicy certificate

def leasedHistory (job : Binding) : History :=
  obtainedHistory leasedPolicy ++ [job.creating (.error unavailable)] ++
    [IssueStage.counted trialWish (.error (job.unleased unavailable))]

theorem ends_leasedWish {certificate : MaterializedCertificate} (hc : trialIssued.materialize = .ok certificate) :
    Ends (IssueStage.next ⟨1, none, none⟩ trialWish) .finding (leasedHistory (leasedJob certificate))
      (.error ((leasedJob certificate).unleased unavailable)) := by
  let job := leasedJob certificate
  have refused : Reaches (IssueStage.next ⟨1, none, none⟩ trialWish) .finding
      (obtainedHistory leasedPolicy ++ [job.creating (.error unavailable)])
      (.binding job (.finished (.error (job.unleased unavailable)))) := by
    refine (reaches_obtained rfl).step (e := job.creating (.error unavailable)) ?_
    rw [IssueStage.next_obtained _ trialHandle (job_trial leasedPolicy hc)]
    exact ⟨.error unavailable, rfl, rfl⟩
  exact ⟨_, refused.step (e := IssueStage.counted trialWish _) ⟨(), rfl, rfl⟩, rfl⟩

theorem told_stored_as_asked_leased :
    ∃ job b : Binding, (Binding.leased.unleased unavailable).TellsStored ∧
      Binding.leased.Recorded (Binding.leasedTold.contents fun _ => none) ∧
      (job.unleased unavailable).TellsStored ∧ trialWish.Binds (leasedHistory job) b ∧
      (leasedHistory job).contents (fun _ => none) = fun _ => none := by
  have htold (b : Binding) : (b.unleased unavailable).TellsStored := ⟨rfl, rfl⟩
  have hstored := (told_stored_as_asked fun _ => none).1 ends_leased (htold _)
  obtain ⟨certificate, hc⟩ := materialize_trial
  have hfound : ∀ found, ⟨.findRole trialWish.role, found⟩ ∈ leasedHistory (leasedJob certificate) →
      found = .ok (some leasedPolicy) := by
    intro found hm
    simpa [leasedHistory, obtainedHistory, trialWish, Binding.creating, IssueStage.counted] using hm
  have hroles : ∀ found, ⟨.findRole trialWish.role, found⟩ ∈ leasedHistory (leasedJob certificate) →
      (RoleBook.listed [("web", leasedPolicy)]).Replies trialWish.role found := by
    intro found hm
    rw [hfound found hm]
    exact .listed [("web", leasedPolicy)]
  obtain ⟨b, hbinds, hnowhere⟩ := (told_stored_as_asked fun _ => none).2 (ends_leasedWish hc) hroles (htold _)
  have hpolicy : b.policy = leasedPolicy := by
    obtain ⟨first, rest, p, handle, issued, hsplit, requested, -, read⟩ := hbinds
    obtain ⟨-, hrole, -⟩ := requested.job read
    have hm := hfound _ (hsplit ▸ List.mem_append_left rest hrole)
    exact Option.some.inj (Except.ok.inj hm)
  exact ⟨leasedJob certificate, b, htold _, hstored.recorded rfl, htold _, hbinds,
    hnowhere.untouched (by rw [hpolicy]; rfl)⟩

/-- The certificate is said to be issued and stored, and the store is empty. -/
theorem said_stored_but_nowhere :
    ∃ e, run (BindStage.next .leasedOnly) (Trouble.answer (fun _ => .unreachable) { lease := .create })
        (fun _ _ => false) 6 (.start .leasedOnly) (.around {}) = .done (.error e) (.around {}) ∧
      e.TellsStored ∧
      e.message = "Certificate 1A:2B:03 was issued and stored but no lease was created: " ++
        "Internal error: lease backend unavailable" ∧
      ¬ Binding.leasedOnly.Recorded fun key => MemoryStore.get? key {} := by
  refine ⟨Binding.leasedOnly.unleased unavailable, rfl, ⟨rfl, rfl⟩, by decide, ?_⟩
  rintro (hname | hserial)
  · cases hname
  · cases hserial

end Enrollment

end CertEnroll
