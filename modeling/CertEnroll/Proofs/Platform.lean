import CertEnroll.Enrollment.Poll
import CertEnroll.Proofs.Addresses
import CertEnroll.Proofs.Base64
import CertEnroll.Proofs.History
import CertEnroll.Proofs.JsonText

/-!
Polling a platform without a bound. One request is put, and then certificates are asked for under the name that the
platform gave it, until an answer does not put off; that answer decides.
-/

namespace CertEnroll

def Http.Exchange.sent {α : Type} : Exchange α → List Request
  | .ready _ => []
  | .ask request _ => [request]

namespace Tpp

def isWaiting (status : Nat) : Bool :=
  status = 202 ∨ status = 408 ∨ status = 504

def unblanked (data : String) : Octets :=
  Text.Utf8.encode (String.ofList (data.toList.filter fun c => !Text.isBlank c))

def Holds (data : String) (certificate : String) (chain : List String) : Prop :=
  ∃ text, unblanked data = Text.Base64.encode (Text.Utf8.encode text) ∧ Pem.splitBundle text = certificate :: chain

theorem readCertificates_eq_ok {data : String} {issued : IssuedSet} :
    readCertificates data = .ok issued ↔ Holds data issued.certificate issued.chain := by
  unfold readCertificates Holds unblanked
  dsimp only
  constructor
  · intro h
    split at h
    · cases h
    · rename_i octets hoctets
      split at h
      · cases h
      · rename_i text htext
        split at h
        · cases h
        · rename_i certificate chain hbundle
          obtain rfl := Except.ok.inj h
          rw [Text.Utf8.eq_encode_of_decode htext] at hoctets
          exact ⟨text, Text.Base64.decode_eq_ok.mp hoctets, hbundle⟩
  · rintro ⟨text, hdata, hbundle⟩
    rw [Text.Base64.decode_eq_ok.mpr hdata]
    simp only [Text.Utf8.decode_encode, hbundle]

structure Settles (dn : String) (status : Nat) (body : Octets) (result : Except Error IssuedSet) : Prop where
  refused : status ≠ 200 → result =
    .error (.caRetrieval dn s!"CA rejected the request (status {status}): {Text.Utf8.decodeLossy body}")
  issued_iff : status = 200 → ∀ issued, result = .ok issued ↔
    ∃ data, readBody "RetrieveResponse" "CertificateData" (.whole body) = .ok data ∧
      Holds data issued.certificate issued.chain
  ended : status = 200 → (∃ issued, result = .ok issued) ∨ ∃ cause, result = .error (.caRetrieval dn cause)
  bundle : ∀ {data certificate chain}, status = 200 → body = (Json.object [("CertificateData", .string data)]).octets →
    Holds data certificate chain → result = .ok ⟨certificate, chain⟩

theorem readReply_waiting {reply : Http.Reply} (hw : isWaiting reply.status = true) :
    ∃ e, readReply reply = .error e ∧ e.isRetryable = true := by
  obtain ⟨status, body⟩ := reply
  rw [isWaiting, decide_eq_true_eq] at hw
  rcases hw with rfl | rfl | rfl
  · exact ⟨.pending, rfl, rfl⟩
  · exact ⟨.timeout, rfl, rfl⟩
  · exact ⟨.timeout, rfl, rfl⟩

theorem readReply_refused {status : Nat} (hw : isWaiting status = false) (hs : status ≠ 200) (body : Http.Body) :
    readReply ⟨status, body⟩ = .error (.failed (rejection ⟨status, body⟩)) := by
  simp only [isWaiting, decide_eq_false_iff_not, not_or] at hw
  obtain ⟨h202, h408, h504⟩ := hw
  unfold readReply
  split
  · exact absurd ‹_› hs
  · exact absurd ‹_› h202
  · exact absurd ‹_› h408
  · exact absurd ‹_› h504
  · rfl

theorem readReply_ok {body : Octets} {issued : IssuedSet} :
    readReply ⟨200, .whole body⟩ = .ok issued ↔
      ∃ data, readBody "RetrieveResponse" "CertificateData" (.whole body) = .ok data ∧
        Holds data issued.certificate issued.chain := by
  simp only [readReply]
  cases readBody "RetrieveResponse" "CertificateData" (.whole body) with
  | error e => simp
  | ok data =>
    simp only [Except.ok.injEq, exists_eq_left', ← readCertificates_eq_ok]
    cases readCertificates data <;> simp [Except.mapError]

theorem readReply_failed (body : Octets) : (∃ issued, readReply ⟨200, .whole body⟩ = .ok issued) ∨
    ∃ cause, readReply ⟨200, .whole body⟩ = .error (.failed cause) := by
  simp only [readReply]
  cases readBody "RetrieveResponse" "CertificateData" (.whole body) with
  | error e => exact .inr ⟨e, rfl⟩
  | ok data =>
    dsimp only
    cases readCertificates data with
    | error e => exact .inr ⟨e, rfl⟩
    | ok issued => exact .inl ⟨issued, rfl⟩

theorem readBody_member (record member text : String) :
    readBody record member (.whole (Json.object [(member, .string text)]).octets) = .ok text := by
  have hmembers : Document.readMembers [member] (fun _ node _ => Document.readString node) [] ""
      [(some member, .text text)] = .ok ([member], text) := by
    simp [Document.readMembers, Document.readString, Bind.bind, Except.bind]
  have hfound : [member].find? (fun field => !([member].contains field)) = none := by simp
  have hread : readMember record member (.ofJson (.object [(member, .string text)])) = .ok text := by
    simp only [readMember, Document.Node.ofJson, Document.ofJsonMembers, Document.readRecord, hmembers]
    dsimp only [bind, Except.bind, Document.passTail]
    rw [hfound]
    rfl
  simp only [readBody, Json.decodeText_octets (v := Json.object [(member, .string text)]) _ rfl, hread]

theorem Settles.of_read {dn : String} {body : Octets} {result : Except Error IssuedSet}
    (hok : ∀ issued, result = .ok issued ↔ readReply ⟨200, .whole body⟩ = .ok issued)
    (hended : (∃ issued, result = .ok issued) ∨ ∃ cause, result = .error (.caRetrieval dn cause)) :
    Settles dn 200 body result where
  refused h := absurd rfl h
  issued_iff _ issued := (hok issued).trans readReply_ok
  ended _ := hended
  bundle _ hbody hholds := (hok _).mpr (readReply_ok.mpr ⟨_, by rw [hbody, readBody_member], hholds⟩)

structure Posts (t : Tpp) (path : String) (r : Http.Request) (value : Json) : Prop where
  method : r.method = .post
  address : ∃ url, Url.parse (t.base ++ path) = .ok url ∧ r.url = ({ url with user := "" } : Url).text
  token : r.headers = [("authorization", "Bearer " ++ t.token.exposed)]
  body : ∃ body, r.body = some body ∧ Json.parse body.octets = .ok value

def IsSubmission (t : Tpp) (request : SigningRequest) (r : Http.Request) : Prop :=
  ∃ value, t.Posts "/vedsdk/certificates/request" r value ∧
    value.member? "PolicyDN" = some (.string t.policy) ∧
    value.member? "PKCS10" = some (.string request.pem) ∧
    value.member? "ObjectName" = some (.string request.names.commonName) ∧
    value.member? "DisableAutomaticRenewal" = some (.bool true)

def IsRetrieval (t : Tpp) (dn : String) (r : Http.Request) : Prop :=
  ∃ value, t.Posts "/vedsdk/certificates/retrieve" r value ∧
    value.member? "CertificateDN" = some (.string dn) ∧
    value.member? "Format" = some (.string "base64") ∧
    value.member? "IncludeChain" = some (.bool true) ∧
    value.member? "RootFirstOrder" = some (.bool false)

theorem posts {t : Tpp} {path : String} {url : Url} {body value : Json} (hurl : t.target path = .ok url)
    (hbody : Json.parse body.octets = .ok value) : t.Posts path (t.post url body) value := by
  obtain ⟨read, hread, -, -, -, rfl⟩ := target_eq_ok.mp hurl
  exact ⟨rfl, ⟨read, hread, rfl⟩, rfl, body, rfl, hbody⟩

theorem isSubmission {t : Tpp} {url : Url} (hurl : t.target requestPath = .ok url) (request : SigningRequest) :
    t.IsSubmission request (t.post url (t.submission request)) :=
  ⟨_, posts hurl (Json.decodeText_octets _ rfl), rfl, rfl, rfl, rfl⟩

theorem isRetrieval {t : Tpp} {url : Url} (hurl : t.target retrievePath = .ok url) (dn : String) :
    t.IsRetrieval dn (t.post url (retrieval ⟨dn⟩)) :=
  ⟨_, posts hurl (Json.decodeText_octets _ rfl), rfl, rfl, rfl, rfl⟩

end Tpp

namespace Enrollment

open Tpp

structure Talk where
  sent : List Http.Request := []
  polls : Nat := 0

/-- A platform that answers every request, and that is all that is said of the surroundings. -/
def Talk.answer (t : Tpp) (submitted : Http.Reply) (replies : Nat → Http.Reply)
    (others : (call : Call) → call.Reply) : Surroundings Talk
  | .submit request, k =>
    ((t.submit request).resolve fun _ => .reply submitted, { k with sent := k.sent ++ (t.submit request).sent })
  | .retrieve handle, k =>
    ((t.retrieve handle).resolve fun _ => .reply (replies k.polls),
      ⟨k.sent ++ (t.retrieve handle).sent, k.polls + 1⟩)
  | call, k => (others call, k)

def replied (statuses : Nat → Nat) (bodies : Nat → Octets) (i : Nat) : Http.Reply :=
  ⟨statuses i, .whole (bodies i)⟩

namespace ObtainStage

section

variable (t : Tpp) (policy : PollPolicy) (request : SigningRequest) (submitted : Http.Reply)
  (replies : Nat → Http.Reply) (others : (call : Call) → call.Reply)

def talks (fuel : Nat) (stage : ObtainStage) (k : Talk) : Progress ObtainStage (Except Error IssuedSet) Talk :=
  run (next policy request) (Talk.answer t submitted replies others) (fun _ _ => false) fuel stage k

end

variable {t : Tpp} {policy : PollPolicy} {request : SigningRequest} {submitted : Http.Reply}
  {replies : Nat → Http.Reply} {others : (call : Call) → call.Reply} {url : Url} {dn : String}
  {fuel started polls : Nat} {attempts : UInt32}

theorem talks_submitted (hurl : t.target requestPath = .ok url) (hsuccess : Http.isSuccess submitted.status = true)
    (hdn : readBody "CertificateRequestResponse" "CertificateDN" submitted.body = .ok dn) :
    talks t policy request submitted replies others (fuel + 2) .submitting {} =
      talks t policy request submitted replies others fuel (.polling ⟨dn⟩ (.retrieving (others .clock) 0))
        ⟨[t.post url (t.submission request)], 0⟩ := by
  have hsubmit : t.submit request = .ask (t.post url (t.submission request)) (readSubmitted url) := by
    rw [submit, hurl]
  have hread : readSubmitted url (.reply submitted) = .ok ⟨dn⟩ := by
    simp only [readSubmitted, hsuccess, hdn, if_true]
    rfl
  have hanswer : Talk.answer t submitted replies others (.submit request) {} =
      (.ok ⟨dn⟩, ⟨[t.post url (t.submission request)], 0⟩) := by
    simp only [Talk.answer, hsubmit, Http.Exchange.resolve, hread]
    rfl
  rw [talks, run_ask rfl, hanswer]
  rfl

theorem talks_polled (hurl : t.target retrievePath = .ok url) (sent : List Http.Request) :
    talks t policy request submitted replies others (fuel + 2) (.polling ⟨dn⟩ (.retrieving started attempts))
        ⟨sent, polls⟩ =
      talks t policy request submitted replies others fuel
        (.polling ⟨dn⟩ (PollStage.judged policy ⟨dn⟩ started (attempts + 1) (readReply (replies polls))))
        ⟨sent ++ [t.post url (retrieval ⟨dn⟩)], polls + 1⟩ := by
  have hretrieve : t.retrieve ⟨dn⟩ = .ask (t.post url (retrieval ⟨dn⟩)) (readRetrieved url) := by
    rw [retrieve, hurl]
  have hanswer : Talk.answer t submitted replies others (.retrieve ⟨dn⟩) ⟨sent, polls⟩ =
      (readReply (replies polls), ⟨sent ++ [t.post url (retrieval ⟨dn⟩)], polls + 1⟩) := by
    simp only [Talk.answer, hretrieve]
    rfl
  rw [talks, run_ask rfl, hanswer]
  rfl

theorem judged_waiting {reply : Http.Reply} (hattempts : policy.maxAttempts = none) (hdeadline : policy.deadline = none)
    (hw : isWaiting reply.status = true) :
    PollStage.judged policy ⟨dn⟩ started attempts (readReply reply) = .sleeping started attempts := by
  have hundecided : PollStage.undecided policy ⟨dn⟩ started attempts = .sleeping started attempts := by
    simp [PollStage.undecided, hattempts, hdeadline]
  obtain ⟨e, he, hretry⟩ := readReply_waiting hw
  rw [he]
  cases e with
  | pending => exact hundecided
  | timeout => exact hundecided
  | failed cause => cases hretry

variable (policy) in
theorem judged_decided {status : Nat} (hw : isWaiting status = false) (body : Octets) :
    ∃ result, PollStage.judged policy ⟨dn⟩ started attempts (readReply ⟨status, .whole body⟩) = .finished result ∧
      Settles dn status body result := by
  by_cases hs : status = 200
  · subst hs
    rcases readReply_failed body with ⟨issued, hread⟩ | ⟨cause, hread⟩
    · rw [hread]
      exact ⟨.ok issued, rfl, .of_read (by simp [hread]) (.inl ⟨issued, rfl⟩)⟩
    · rw [hread]
      exact ⟨.error (.caRetrieval dn cause.message), rfl, .of_read (by simp [hread]) (.inr ⟨cause.message, rfl⟩)⟩
  · rw [readReply_refused hw hs]
    exact ⟨_, rfl, fun _ => rfl, fun h => absurd h hs, fun h => absurd h hs, fun h => absurd h hs⟩

theorem talks_waiting (hattempts : policy.maxAttempts = none) (hdeadline : policy.deadline = none)
    (hurl : t.target retrievePath = .ok url) (n : Nat) (sent : List Http.Request)
    (hw : ∀ i < n, isWaiting (replies i).status = true) :
    talks t policy request submitted replies others (fuel + 3 * n) (.polling ⟨dn⟩ (.retrieving started 0)) ⟨sent, 0⟩ =
      talks t policy request submitted replies others fuel (.polling ⟨dn⟩ (.retrieving started (.ofNat n)))
        ⟨sent ++ List.replicate n (t.post url (retrieval ⟨dn⟩)), n⟩ := by
  induction n generalizing fuel with
  | zero => simp
  | succ n ih =>
    have hfuel : fuel + 3 * (n + 1) = fuel + 3 + 3 * n := by omega
    rw [hfuel, ih fun i hi => hw i (Nat.lt_succ_of_lt hi), talks_polled hurl,
      judged_waiting hattempts hdeadline (hw n (Nat.lt_succ_self n)), List.append_assoc, ← List.replicate_succ',
      UInt32.ofNat_add]
    rfl

variable (policy request submitted others) in
theorem talks_settled (hurl : t.target retrievePath = .ok url) {statuses : Nat → Nat} {bodies : Nat → Octets}
    (hw : isWaiting (statuses polls) = false) (sent : List Http.Request) :
    ∃ result, Settles dn (statuses polls) (bodies polls) result ∧ ∀ fuel,
      talks t policy request submitted (replied statuses bodies) others (fuel + 3)
          (.polling ⟨dn⟩ (.retrieving started attempts)) ⟨sent, polls⟩ =
        .done result ⟨sent ++ [t.post url (retrieval ⟨dn⟩)], polls + 1⟩ := by
  obtain ⟨result, hjudged, hsettles⟩ := judged_decided policy hw (bodies polls)
  refine ⟨result, hsettles, fun fuel => ?_⟩
  rw [talks_polled hurl, replied, hjudged]
  rfl

end ObtainStage

def Talk.after (first poll : Http.Request) (polls : Nat) : Talk :=
  ⟨first :: List.replicate polls poll, polls⟩

/-- As long as the answers put off the polling goes on, and the first that does not settles it. -/
theorem polls_until_settled (t : Tpp) (policy : PollPolicy) {url : Url} {dn : String} (request : SigningRequest)
    (submitted : Http.Reply) (others : (call : Call) → call.Reply) (statuses : Nat → Nat) (bodies : Nat → Octets)
    (hattempts : policy.maxAttempts = none) (hdeadline : policy.deadline = none)
    (hurl : t.target requestPath = .ok url) (hsuccess : Http.isSuccess submitted.status = true)
    (hdn : readBody "CertificateRequestResponse" "CertificateDN" submitted.body = .ok dn) :
    ∃ first poll, t.IsSubmission request first ∧ t.IsRetrieval dn poll ∧
      ∀ n, (∀ i < n, isWaiting (statuses i) = true) →
        ObtainStage.talks t policy request submitted (replied statuses bodies) others (3 * n + 2) .submitting {} =
          .underway (.polling ⟨dn⟩ (.retrieving (others .clock) (.ofNat n))) (Talk.after first poll n) ∧
        (isWaiting (statuses n) = false → ∃ result, Settles dn (statuses n) (bodies n) result ∧
          ∀ fuel, 3 * n + 5 ≤ fuel →
            ObtainStage.talks t policy request submitted (replied statuses bodies) others fuel .submitting {} =
              .done result (Talk.after first poll (n + 1))) := by
  obtain ⟨url', hurl'⟩ := exists_target_retrievePath hurl
  let first := t.post url (t.submission request)
  let poll := t.post url' (retrieval ⟨dn⟩)
  refine ⟨first, poll, isSubmission hurl request, isRetrieval hurl' dn, fun n hw => ?_⟩
  have hrun (fuel : Nat) :
      ObtainStage.talks t policy request submitted (replied statuses bodies) others (fuel + 3 * n + 2) .submitting {} =
        ObtainStage.talks t policy request submitted (replied statuses bodies) others fuel
          (.polling ⟨dn⟩ (.retrieving (others .clock) (.ofNat n))) (Talk.after first poll n) := by
    rw [ObtainStage.talks_submitted hurl hsuccess hdn, ObtainStage.talks_waiting hattempts hdeadline hurl' n _ hw]
    rfl
  constructor
  · have hstart := hrun 0
    rw [Nat.zero_add] at hstart
    exact hstart
  · intro hn
    obtain ⟨result, hsettles, hdone⟩ :=
      ObtainStage.talks_settled policy request submitted others hurl' hn (Talk.after first poll n).sent
    refine ⟨result, hsettles, fun fuel hf => ?_⟩
    obtain ⟨fuel, rfl⟩ := Nat.exists_eq_add_of_le hf
    have hfuel : 3 * n + 5 + fuel = fuel + 3 + 3 * n + 2 := by omega
    have hsent : Talk.after first poll (n + 1) = ⟨(Talk.after first poll n).sent ++ [poll], n + 1⟩ := by
      rw [Talk.after, List.replicate_succ']
      rfl
    rw [hfuel, hrun, hsent]
    exact hdone fuel

def trialPlatform : Tpp :=
  Tpp.create "https://tpp.example.com" "Web" ⟨"token"⟩ 30

def idle : (call : Call) → call.Reply
  | .findRole _ => .ok none
  | .chance => []
  | .submit _ => .ok ⟨""⟩
  | .retrieve _ => .error .pending
  | .clock => 0
  | .sleep _ => ()
  | .put _ _ => .ok ()
  | .createLease _ _ _ => .error (.internal "idle")
  | .today => ⟨0, 0⟩
  | .commitLease _ => .ok ()
  | .count _ => ()

def trialAsked : SigningRequest := ⟨"request", ⟨"example.com", ["example.com"]⟩, .ec .p256⟩

def trialDn : String := "\\VED\\Policy\\Web\\example.com"

def trialSubmitted : Http.Reply := ⟨200, .whole (Json.object [("CertificateDN", .string trialDn)]).octets⟩

def trialCertificate : String := "-----BEGIN CERTIFICATE-----\nAQID\n-----END CERTIFICATE-----"

def trialData : String :=
  "LS0tLS1CRUdJTiBDRVJUSUZJQ0FURS0tLS0tCkFRSUQKLS0tLS1FTkQgQ0VSVElG\nSUNBVEUtLS0tLQ o="

def trialStatus (i : Nat) : Nat :=
  if i = 0 then 202 else 200

def trialBody (_ : Nat) : Octets :=
  (Json.object [("CertificateData", .string trialData)]).octets

theorem polls_until_settled_wrapped :
    ∃ first poll, trialPlatform.IsSubmission trialAsked first ∧ trialPlatform.IsRetrieval trialDn poll ∧
      ObtainStage.talks trialPlatform ⟨5, none, none⟩ trialAsked trialSubmitted (replied trialStatus trialBody) idle 8
          .submitting {} =
        .done (.ok ⟨trialCertificate, []⟩) ⟨[first, poll, poll], 2⟩ := by
  have hurl : trialPlatform.target requestPath =
      .ok ⟨"https", "", some "tpp.example.com", none, "/vedsdk/certificates/request", none, none⟩ := by decide
  have hholds : Holds trialData trialCertificate [] :=
    ⟨trialCertificate ++ "\n", by decide +kernel, by decide +kernel⟩
  have hfirst : ∀ i < 1, isWaiting (trialStatus i) = true := by decide
  have hdn : readBody "CertificateRequestResponse" "CertificateDN" trialSubmitted.body = .ok trialDn :=
    readBody_member _ _ _
  obtain ⟨first, poll, hsubmission, hretrieval, hpolls⟩ := polls_until_settled trialPlatform ⟨5, none, none⟩ trialAsked
    trialSubmitted idle trialStatus trialBody rfl rfl hurl rfl hdn
  obtain ⟨result, hsettles, hdone⟩ := (hpolls 1 hfirst).2 rfl
  obtain rfl := hsettles.bundle rfl rfl hholds
  exact ⟨first, poll, hsubmission, hretrieval, hdone 8 (le_refl 8)⟩

end Enrollment

end CertEnroll
