import CertEnroll.Proofs.PollBound
import CertEnroll.Proofs.Platform

/-!
The client's timeout while a platform is asked for certificates. Before the answer begins the timeout puts the
poll off; inside the body of an answer it is taken for a body that cannot be read, and polling ends.
-/

namespace CertEnroll

namespace Http

inductive Outcome.TimesOut : Outcome → Prop
  | unanswered : TimesOut .timedOut
  | unread : TimesOut (.reply ⟨200, .lost true⟩)

end Http

namespace Tpp

open Http (Outcome)

variable {t : Tpp} {handle : PickupHandle} {url : Url} {send : Http.Request → Outcome} {outcome : Outcome}

theorem retrieve_resolve (hurl : t.target retrievePath = .ok url)
    (hsend : send (t.post url (retrieval handle)) = outcome) :
    (t.retrieve handle).resolve send = readRetrieved url outcome := by
  rw [retrieve, hurl, ← hsend]
  rfl

theorem readReply_lost (status : Nat) (timedOut timedOut' : Bool) :
    readReply ⟨status, .lost timedOut⟩ = readReply ⟨status, .lost timedOut'⟩ := by
  simp only [readReply, readBody, rejection, bodyText]

theorem readRetrieved_timesOut (url : Url) (fired : outcome.TimesOut) :
    readRetrieved url outcome = .error .timeout ∧ outcome = .timedOut ∨
      readRetrieved url outcome = .error (.failed undecodable) ∧ outcome ≠ .timedOut := by
  cases fired with
  | unanswered => exact .inl ⟨rfl, rfl⟩
  | unread => exact .inr ⟨rfl, nofun⟩

end Tpp

namespace Enrollment

open Tpp

theorem PollStage.result_of_failed {p : PollPolicy} {handle : PickupHandle} {h : History} {cause : AuthorityError}
    {result : Except Error IssuedSet} (he : Ends (PollStage.next p handle) .starting h result)
    (hf : .error (.failed cause) ∈ h.outcomes) : result = .error (.caRetrieval handle.id cause.message) := by
  obtain ⟨stage, hr, hd⟩ := he
  obtain rfl := PollStage.next_eq_done.mp hd
  obtain ⟨earlier, last, ho, hu, hv⟩ := PollStage.told_of_reaches hr
  rw [ho, List.mem_append, List.mem_singleton] at hf
  rcases hf with hf | rfl
  · cases hu _ hf
  · cases hv with
    | failed => rfl
    | exhausted undecided => cases undecided

/-- When the client's timeout strikes, the poll is put off exactly if no answer had begun; inside the body of
an answer it ends polling, as whatever else breaks a body off does. -/
theorem timeout_puts_off_iff (t : Tpp) (handle : PickupHandle) {url : Url} {send : Http.Request → Http.Outcome}
    (hurl : t.target retrievePath = .ok url) (fired : (send (t.post url (retrieval handle))).TimesOut) :
    ((t.retrieve handle).resolve send = .error .timeout ↔ send (t.post url (retrieval handle)) = .timedOut) ∧
    (isUndecided ((t.retrieve handle).resolve send) = true ↔ send (t.post url (retrieval handle)) = .timedOut) ∧
    (send (t.post url (retrieval handle)) ≠ .timedOut →
      (t.retrieve handle).resolve send = .error (.failed undecodable) ∧
      ∀ {p h result}, Ends (PollStage.next p handle) .starting h result →
        (t.retrieve handle).resolve send ∈ h.outcomes →
          result = .error (.caRetrieval handle.id "unexpected CA response: error decoding response body")) ∧
    ∀ status timedOut timedOut', readReply ⟨status, .lost timedOut⟩ = readReply ⟨status, .lost timedOut'⟩ := by
  rw [retrieve_resolve hurl rfl]
  rcases readRetrieved_timesOut url fired with ⟨hread, hunanswered⟩ | ⟨hread, hanswered⟩
  · have hundecided : isUndecided (readRetrieved url (send (t.post url (retrieval handle)))) = true := by
      rw [hread]
      rfl
    exact ⟨iff_of_true hread hunanswered, iff_of_true hundecided hunanswered,
      fun hne => absurd hunanswered hne, readReply_lost⟩
  · rw [hread]
    refine ⟨iff_of_false nofun hanswered, iff_of_false nofun hanswered, fun _ => ⟨rfl, ?_⟩, readReply_lost⟩
    exact fun hends hm => PollStage.result_of_failed hends hm

def trialUrl : Url :=
  ⟨"https", "", some "tpp.example.com", none, "/vedsdk/certificates/retrieve", none, none⟩

theorem target_trial : trialPlatform.target retrievePath = .ok trialUrl := by
  decide

def stalled : Http.Request → Http.Outcome :=
  fun _ => .reply ⟨200, .lost true⟩

theorem timeout_puts_off_iff_stalled :
    (trialPlatform.retrieve ⟨trialDn⟩).resolve stalled = .error (.failed undecodable) ∧
      (trialPlatform.retrieve ⟨trialDn⟩).resolve (fun _ => .timedOut) = .error .timeout := by
  have hstalled := @timeout_puts_off_iff trialPlatform ⟨trialDn⟩ trialUrl stalled target_trial .unread
  have hsilent := @timeout_puts_off_iff trialPlatform ⟨trialDn⟩ trialUrl (fun _ => .timedOut) target_trial .unanswered
  exact ⟨(hstalled.2.2.1 nofun).1, hsilent.1.mpr rfl⟩

/-- One poll that stalls ends polling, though the policy has no bound. -/
theorem stalled_body_ends_polling :
    (trialPlatform.retrieve ⟨trialDn⟩).resolve stalled ≠ .error .timeout ∧
      run (PollStage.next ⟨5, none, none⟩ ⟨trialDn⟩)
          (Timeline.answer (fun _ => (trialPlatform.retrieve ⟨trialDn⟩).resolve stalled) fun _ => 30)
          (fun _ _ => false) 4 .starting ⟨0, 0, 0⟩ =
        .done (.error (.caRetrieval trialDn "unexpected CA response: error decoding response body")) ⟨30, 1, 0⟩ := by
  have hread : (trialPlatform.retrieve ⟨trialDn⟩).resolve stalled = .error (.failed undecodable) :=
    retrieve_resolve target_trial rfl
  rw [hread]
  exact ⟨nofun, rfl⟩

end Enrollment

end CertEnroll
