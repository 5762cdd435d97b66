import CertEnroll.Proofs.Instants
import CertEnroll.Proofs.Leases
import CertEnroll.Proofs.Rebinding

/-!
How long the lease of a kept certificate lasts. Its length is what remained of the certificate when the date was looked
at, and it runs from when the lease was made, so that it ends before the certificate by the time in between.
-/

namespace CertEnroll

structure Lease.Lasts (expiry made dated : Instant) (l : Lease) : Prop where
  length : l.ttl = expiry.total - dated.total
  negative_iff : l.ttl < 0 ↔ expiry.before dated = true
  ending : l.expiresAt = .ofTotal (expiry.total - (dated.total - made.total))
  short : dated.before made = false →
    expiry.before l.expiresAt = false ∧ expiry.since l.expiresAt = dated.since made
  representable : Span.Representable l.ttl ∧ l.expiresAt.Representable
  shown : ∃ seconds : Int, l.toJson.member? "lease_duration" = some (.integer seconds) ∧
    (expiry.before dated = false →
      0 ≤ seconds ∧ seconds * nanosPerSecond ≤ l.ttl ∧ l.ttl < (seconds + 1) * nanosPerSecond) ∧
    (expiry.before dated = true →
      seconds ≤ 0 ∧ l.ttl ≤ seconds * nanosPerSecond ∧ (seconds - 1) * nanosPerSecond < l.ttl)

namespace Lease

variable {expiry made dated : Instant} {l : Lease} {d : Int}

theorem seconds_of_nonneg (hd : 0 ≤ d) :
    0 ≤ seconds d ∧ seconds d * nanosPerSecond ≤ d ∧ d < (seconds d + 1) * nanosPerSecond := by
  have hs : seconds d = d / nanosPerSecond := Int.tdiv_eq_ediv_of_nonneg hd
  rw [hs, nanosPerSecond]
  omega

theorem seconds_of_nonpos (hd : d ≤ 0) :
    seconds d ≤ 0 ∧ d ≤ seconds d * nanosPerSecond ∧ (seconds d - 1) * nanosPerSecond < d := by
  have hneg : seconds (-d) = -seconds d := Int.neg_tdiv d nanosPerSecond
  obtain ⟨hnonneg, hle, hlt⟩ := seconds_of_nonneg (Int.neg_nonneg_of_nonpos hd)
  rw [hneg, nanosPerSecond] at *
  omega

section

variable (he : expiry.Within 0 9999) (hm : made.Within 1970 9999) (hd : dated.Within 1970 9999)
  (issued : l.issuedAt = made) (length : l.ttl = expiry.since dated)

include hm issued length in
theorem expiresAt_of_dated : l.expiresAt = .ofTotal (expiry.total - (dated.total - made.total)) := by
  rw [expiresAt, issued, Instant.plus_eq hm.plain, length, Instant.since]
  congr 1
  omega

include he hd length in
theorem ttl_neg_of_dated : l.ttl < 0 ↔ expiry.before dated = true := by
  have hneg : expiry.total - dated.total < 0 ↔ expiry.total < dated.total := by omega
  rw [Instant.before_iff he.plain hd.plain, length]
  exact hneg

include he hm hd issued length in
theorem short_of_dated (order : dated.before made = false) :
    expiry.before l.expiresAt = false ∧ expiry.since l.expiresAt = dated.since made := by
  have hends := expiresAt_of_dated hm issued length
  rw [← Bool.not_eq_true, Instant.before_iff hd.plain hm.plain] at order
  rw [← Bool.not_eq_true, hends, Instant.before_iff he.plain (Instant.plain_ofTotal _), Instant.since, Instant.since,
    Instant.total_ofTotal]
  have hshort : expiry.total - (expiry.total - (dated.total - made.total)) = dated.total - made.total := by omega
  exact ⟨by omega, hshort⟩

include he hm hd issued length in
theorem representable_of_dated : Span.Representable l.ttl ∧ l.expiresAt.Representable := by
  have hexpiry := he.natAbs_total_lt (by decide)
  have hmade := hm.natAbs_total_lt (by decide)
  have hdated := hd.natAbs_total_lt (by decide)
  constructor
  · have hlength : (expiry.total - dated.total).natAbs < 1000000000000000000000 := by omega
    rw [length]
    exact Span.representable_of_lt hlength
  · rw [expiresAt_of_dated hm issued length]
    apply Instant.representable_ofTotal
    omega

include he hm hd issued length in
theorem lasts_of_dated : l.Lasts expiry made dated where
  length := length
  negative_iff := ttl_neg_of_dated he hd length
  ending := expiresAt_of_dated hm issued length
  short := short_of_dated he hm hd issued length
  representable := representable_of_dated he hm hd issued length
  shown := by
    have hneg := ttl_neg_of_dated he hd length
    refine ⟨seconds l.ttl, rfl, fun h => ?_, fun h => ?_⟩
    · apply seconds_of_nonneg
      rw [← Bool.not_eq_true, ← hneg] at h
      exact Int.not_lt.mp h
    · exact seconds_of_nonpos (Int.le_of_lt (hneg.mpr h))

end

end Lease

namespace LeaseTable

variable {t : LeaseTable} {l : Lease} {acts : List Act}

theorem lookup_commit (now : Instant) (l : Lease) (t : LeaseTable) : (t.commit now l).lookup l.id = some l := by
  rw [lookup, commit, List.find?_cons_of_pos]
  exact beq_self_eq_true l.id

theorem mem_foldl_apply (hl : l ∈ (acts.foldl (fun t a => a.apply t) t).leases) :
    (∃ now, .commit now l ∈ acts) ∨ l ∈ t.leases ∧ ∀ a ∈ acts, a.Keeps l := by
  induction acts generalizing t with
  | nil => exact .inr ⟨hl, List.forall_mem_nil _⟩
  | cons a acts ih =>
    rcases ih hl with ⟨now, hm⟩ | ⟨hm, hk⟩
    · exact .inl ⟨now, List.mem_cons_of_mem _ hm⟩
    · rcases mem_apply.mp hm with ⟨now, rfl⟩ | ⟨hm, ha⟩
      · exact .inl ⟨now, List.mem_cons_self⟩
      · exact .inr ⟨hm, List.forall_mem_cons.mpr ⟨ha, hk⟩⟩

theorem Act.expired {a : Act} {now : Instant} (ha : a.instant? = some now) (hk : a.Keeps l) :
    l.expiresAt.before now = false := by
  cases a with
  | commit => cases ha; exact hk.2
  | prune => cases ha; exact hk
  | revoke => cases ha

def Drops (expiry : Instant) (l : Lease) (t : LeaseTable) : Prop :=
  ∀ {acts : List Act} {a : Act} {now : Instant} {found : Lease}, a ∈ acts → a.instant? = some now →
    expiry.before now = true → (acts.foldl (fun t a => a.apply t) t).lookup l.id = some found →
      ∃ now, .commit now found ∈ acts

theorem drops_commit {expiry : Instant} (ends : expiry.before l.expiresAt = false) (start : Instant) (t : LeaseTable) :
    (t.commit start l).Drops expiry l := by
  intro acts a now found ha hi hnow hf
  have hid : found.id = l.id := by simpa using List.find?_some hf
  refine (mem_foldl_apply (List.mem_of_find?_eq_some hf)).resolve_right ?_
  -- Only the lease itself was there under its identifier, and it had ended.
  rintro ⟨hm, hk⟩
  obtain rfl : found = l := (mem_commit.mp hm).resolve_right fun h => h.2 hid
  have hover := Instant.before_of_not_before ends hnow
  rw [Act.expired hi (hk a ha)] at hover
  exact Bool.false_ne_true hover

end LeaseTable

namespace Enrollment

def World.answerBy (readings : Nat → Instant) (send : Http.Request → Http.Outcome) : Surroundings (Nat × World) :=
  fun call (n, w) =>
    let (reply, after) := World.answer send call { w with today := readings n }
    (reply, n + 1, after)

variable {b : Binding} {h : History} {readings : Nat → Instant} {send : Http.Request → Http.Outcome}
  {n : Nat} {w : World} {s : Nat × World}

theorem World.readings_eq (ha : Answered (World.answerBy readings send) (n, w) h s) : s.1 = n + h.length := by
  induction ha with
  | refl => rfl
  | step call before ih =>
    rw [List.length_append, ← Nat.add_assoc, ← ih]
    rfl

namespace BindStage

def granted (b : Binding) (lease : Lease) (now : Instant) : History :=
  b.kept b.keys ++ [b.creating (.ok lease), ⟨.today, now⟩, ⟨.commitLease (dated b now lease), .ok ()⟩]

theorem ends_leased_ok {response : IssueResponse} (leases : b.policy.generateLease = true)
    (he : Ends (next b) (.start b) h (.ok response)) :
    ∃ lease now, h = granted b lease now ∧ response = b.response (some (dated b now lease)) := by
  obtain ⟨stage, hr, hd⟩ := he
  cases course_of_reaches hr with
  | @writing done keys split =>
    cases keys with
    | cons => cases hd
    | nil =>
      rw [next, if_pos leases] at hd
      cases hd
  | committed lease now =>
    cases hd
    exact ⟨lease, now, rfl, rfl⟩
  | unwritten | uncreated | dating | committing | uncommitted => cases hd

theorem recorded_of_told {lease : Lease} {now : Instant}
    (ha : Answered (World.answerBy readings send) (n, w) (granted b lease now) s) :
    lease.issuedAt = readings (n + b.keys.length) ∧ now = readings (n + b.keys.length + 1) ∧
      ∃ t start, s.2.leases = LeaseTable.commit start (dated b now lease) t := by
  have hsplit : granted b lease now =
      b.kept b.keys ++ [b.creating (.ok lease)] ++ [⟨.today, now⟩] ++
        [⟨.commitLease (dated b now lease), .ok ()⟩] := by
    simp [granted]
  rw [hsplit] at ha
  obtain ⟨⟨_, w₂⟩, looked, -, rfl⟩ := ha.last
  obtain ⟨⟨m₁, w₁⟩, created, htoday, -⟩ := looked.last
  obtain ⟨⟨m₀, w₀⟩, written, hcreate, -⟩ := created.last
  have hmade : m₀ = n + (b.kept b.keys).length := World.readings_eq written
  have hdated : m₁ = n + (b.kept b.keys ++ [b.creating (.ok lease)]).length := World.readings_eq created
  rw [List.length_append, Binding.kept, List.length_map] at hdated
  rw [Binding.kept, List.length_map] at hmade
  subst hmade hdated
  refine ⟨?_, ?_, w₂.leases, _, rfl⟩
  · injection hcreate with _ hreply
    have hlease : lease = (World.newLease b.role Binding.secretType b.leaseData
        { w₀ with today := readings (n + b.keys.length) }).1 := Except.ok.inj hreply
    rw [hlease]
    rfl
  · injection htoday with _ hreply

end BindStage

/-- No certificate ends in a leap second. For every date at which a lease is made and every one at which its length is
found, of which either may come first, the lease handed out is the one recorded, with what remained of the certificate
at the second date. If that was not the earlier one, the lease ends no later than the certificate and is gone once the
table is looked through thereafter. -/
theorem leases_last_as_certificates :
    (∀ {issued : IssuedSet} {kept : MaterializedCertificate}, issued.materialize = .ok kept →
      kept.notAfter.nano = 0) ∧
    ∀ {b : Binding} {readings : Nat → Instant}, b.policy.generateLease = true →
      b.certificate.notAfter.Within 0 9999 → (readings b.keys.length).Within 1970 9999 →
      (readings (b.keys.length + 1)).Within 1970 9999 → ∀ (send : Http.Request → Http.Outcome) (w : World),
        ∃ result calls w',
          run (BindStage.next b) (World.answerBy readings send) (fun _ _ => false) 6 (.start b) (0, w) =
            .done result (calls, w') ∧
          ∀ response, result = .ok response →
            ∃ lease, response.lease = some lease ∧ w'.leases.lookup lease.id = some lease ∧
              lease.Lasts b.certificate.notAfter (readings b.keys.length) (readings (b.keys.length + 1)) ∧
              ((readings (b.keys.length + 1)).before (readings b.keys.length) = false →
                w'.leases.Drops b.certificate.notAfter lease) := by
  constructor
  · intro issued kept hm
    obtain ⟨contents, leaf, -, -, rfl⟩ := IssuedSet.materialize_eq_ok.mp hm
    rfl
  · intro b readings leases expiry made dated send w
    obtain ⟨h, result, ⟨calls, w'⟩, ended, answered, hrun⟩ :=
      run_ends (fun hr => (BindStage.course_of_reaches hr).length_le) (World.answerBy readings send) (0, w)
    refine ⟨result, calls, w', hrun, ?_⟩
    rintro response rfl
    obtain ⟨lease, now, rfl, rfl⟩ := BindStage.ends_leased_ok leases ended
    obtain ⟨hmade, hdated, t, start, htable⟩ := BindStage.recorded_of_told answered
    rw [Nat.zero_add] at hmade hdated
    subst hdated
    have hlasts := Lease.lasts_of_dated (l := BindStage.dated b _ lease) expiry made dated hmade rfl
    refine ⟨_, rfl, ?_, hlasts, ?_⟩
    · rw [htable]
      exact LeaseTable.lookup_commit start _ t
    · intro order
      rw [htable]
      exact LeaseTable.drops_commit (hlasts.short order).1 start t

def Binding.termed : Binding :=
  { Binding.numbered with
    policy := { storeByCommonName := true, storeBySerial := true, generateLease := true }
    certificate := ⟨"leaf", "leaf\nissuer", "1A:2B:03", ⟨110, 0⟩⟩ }

def ticking (calls : Nat) : Instant :=
  ⟨100 + calls, 500000000⟩

theorem leases_last_as_certificates_ticking :
    ∃ response lease calls w',
      run (BindStage.next .termed) (World.answerBy ticking fun _ => .unreachable) (fun _ _ => false) 6 (.start .termed)
        (0, .around {}) = .done (.ok response) (calls, w') ∧
      response.lease = some lease ∧ w'.leases.lookup lease.id = some lease ∧ lease.ttl = 6500000000 ∧
      lease.expiresAt = ⟨109, 0⟩ ∧ lease.toJson.member? "lease_duration" = some (.integer 6) ∧
      (w'.leases.prune ⟨110, 1⟩).lookup lease.id = none := by
  obtain ⟨-, hterms⟩ := leases_last_as_certificates
  obtain ⟨result, calls, w', hrun, hok⟩ :=
    @hterms .termed ticking rfl ⟨by decide, by decide, by decide⟩ ⟨by decide, by decide, by decide⟩
      ⟨by decide, by decide, by decide⟩ (fun _ => .unreachable) (.around {})
  obtain ⟨response, ⟨calls', w''⟩, hdone⟩ : ∃ response s, run (BindStage.next .termed)
      (World.answerBy ticking fun _ => .unreachable) (fun _ _ => false) 6 (.start .termed) (0, .around {}) =
        .done (.ok response) s := ⟨_, _, rfl⟩
  obtain ⟨rfl, -⟩ : result = .ok response ∧ (calls, w') = (calls', w'') := by
    simpa using hrun.symm.trans hdone
  obtain ⟨lease, hresponse, hlookup, hlasts, hdrops⟩ := hok response rfl
  have hlength : lease.ttl = 6500000000 := hlasts.length
  refine ⟨response, lease, calls, w', hrun, hresponse, hlookup, hlength, hlasts.ending, ?_, ?_⟩
  · rw [Lease.toJson, hlength]
    rfl
  · cases hfound : (w'.leases.prune ⟨110, 1⟩).lookup lease.id with
    | none => rfl
    | some found =>
      have hact : LeaseTable.Act.prune ⟨110, 1⟩ ∈ [LeaseTable.Act.prune ⟨110, 1⟩] := List.mem_singleton_self _
      obtain ⟨now, hm⟩ := hdrops (by decide) hact rfl (by decide) hfound
      cases List.mem_singleton.mp hm

end Enrollment

end CertEnroll
