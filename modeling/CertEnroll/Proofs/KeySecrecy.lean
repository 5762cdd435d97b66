import CertEnroll.Proofs.Rebinding

/-!
Where the private key of a kept certificate goes: into the response, and into the stored copies of a role that wants
it kept. Two runs that differ in the key alone write under the same keys, ask for the same lease and fail alike.
-/

namespace CertEnroll

def Json.mapMember (name : String) (f : Json → Json) : Json → Json
  | .object members =>
    .object (members.map fun (other, value) => (other, if other = name then f value else value))
  | value => value

namespace IssueResponse

def withKey (key : Secret) (r : IssueResponse) : IssueResponse :=
  { r with privateKey := key }

theorem toJson_withKey (key : Secret) (r : IssueResponse) :
    (r.withKey key).toJson =
      r.toJson.mapMember "data" (Json.mapMember "private_key" fun _ => .string key.exposed) := by
  obtain ⟨_, _, _, _, _, lease, _⟩ := r
  cases lease <;> rfl

end IssueResponse

namespace Enrollment

variable {ω : Type}

def Event.revalued (value : Octets) : Event → Event
  | ⟨.put key _, outcome⟩ => ⟨.put key value, outcome⟩
  | e => e

def History.revalued (value : Octets) (h : History) : History :=
  h.map (Event.revalued value)

section

variable {value : Octets} {h : History} {e : Event}

theorem Event.revalued_self (he : ∀ write, e.write? = some write → write.value = value) :
    e.revalued value = e := by
  obtain ⟨call, reply⟩ := e
  cases call with
  | put key held =>
    obtain rfl : held = value := he ⟨key, held, reply⟩ rfl
    rfl
  | _ => rfl

theorem History.revalued_self (hw : ∀ write ∈ h.writes, write.value = value) : h.revalued value = h := by
  have hself : ∀ e ∈ h, e.revalued value = e := by
    intro e he
    apply Event.revalued_self
    intro write hwrite
    exact hw write (List.mem_filterMap.mpr ⟨e, he, hwrite⟩)
  exact (List.map_congr_left hself).trans (List.map_id' h)

end

/-- What is written makes no difference to the replies that keeping a certificate gets in worlds that are alike. -/
structure Heedless (answer : Surroundings ω) (alike : ω → ω → Prop) : Prop where
  put : ∀ {w w'} key value value', alike w w' →
    (answer (.put key value) w).1 = (answer (.put key value') w').1 ∧
      alike (answer (.put key value) w).2 (answer (.put key value') w').2
  other : ∀ {w w'} call, call.isLeasing = true ∨ call = .today → alike w w' →
    (answer call w).1 = (answer call w').1 ∧ alike (answer call w).2 (answer call w').2

section

variable {answer : Surroundings ω} {alike : ω → ω → Prop} {h h' : History} {w w' w₁ w₂ : ω}

theorem Heedless.step (heedless : Heedless answer alike) (value : Octets) {call : Call}
    (hcall : call.isKeeping = true ∨ call = .today) (ha : Answered answer w' h' w₂) (hw : alike w₁ w₂) :
    ∃ w₃, Answered answer w' (h' ++ [Event.revalued value ⟨call, (answer call w₁).1⟩]) w₃ ∧
      alike (answer call w₁).2 w₃ := by
  have other (ho : call.isLeasing = true ∨ call = .today)
      (hsame : Event.revalued value ⟨call, (answer call w₂).1⟩ = ⟨call, (answer call w₂).1⟩) :
      ∃ w₃, Answered answer w' (h' ++ [Event.revalued value ⟨call, (answer call w₁).1⟩]) w₃ ∧
        alike (answer call w₁).2 w₃ := by
    obtain ⟨hreply, hafter⟩ := heedless.other call ho hw
    rw [hreply, hsame]
    exact ⟨_, ha.step call, hafter⟩
  cases call with
  | put key held =>
    obtain ⟨hreply, hafter⟩ := heedless.put key held value hw
    rw [Event.revalued, hreply]
    exact ⟨_, ha.step (.put key value), hafter⟩
  | createLease => exact other hcall rfl
  | commitLease => exact other hcall rfl
  | today => exact other (.inr rfl) rfl
  | _ => simp [Call.isKeeping, Call.isLeasing] at hcall

theorem Heedless.answered (heedless : Heedless answer alike) (value : Octets) (ha : Answered answer w h w₁)
    (hcalls : ∀ e ∈ h, e.call.isKeeping = true ∨ e.call = .today) (hw : alike w w') :
    ∃ w₂, Answered answer w' (h.revalued value) w₂ ∧ alike w₁ w₂ := by
  induction ha with
  | refl => exact ⟨w', .refl, hw⟩
  | @step h w₁ call before ih =>
    rw [List.forall_mem_append, List.forall_mem_singleton] at hcalls
    obtain ⟨w₂, ha, halike⟩ := ih hcalls.1
    rw [History.revalued, List.map_append, List.map_singleton]
    exact heedless.step value hcalls.2 ha halike

end

namespace Binding

def withKey (key : Secret) (b : Binding) : Binding :=
  { b with privateKey := key }

structure KeepsKey (b : Binding) (before : String → Option Octets) (h : History) : Prop where
  written : ∀ write ∈ h.writes, b.IsCopy write.value
  stored : ∀ write ∈ h.writes, write.outcome = .ok () →
    ∃ octets, h.contents before write.key = some octets ∧ b.IsCopy octets
  changed : ∀ name, h.contents before name ≠ before name →
    ∃ octets, h.contents before name = some octets ∧ b.IsCopy octets

structure ShowsKey (b : Binding) (response : IssueResponse) : Prop where
  exactly : response.privateKey = b.privateKey
  shown : (response.toJson.member? "data").bind (Json.member? "private_key") = some (.string b.privateKey.exposed)
  alone : ∀ key : Secret, (response.withKey key).toJson =
    response.toJson.mapMember "data" (Json.mapMember "private_key" fun _ => .string key.exposed)

structure Goes (b : Binding) (answer : Surroundings ω) (w : ω) (h : History)
    (result : Except Error IssueResponse) (w' : ω) : Prop where
  ends : Ends (BindStage.next b) (.start b) h result
  answered : Answered answer w h w'
  ran : run (BindStage.next b) answer (fun _ _ => false) 6 (.start b) w = .done result w'

variable {b : Binding} {h : History}

theorem record_withKey (key : Secret) (hp : b.policy.storePrivateKey = false) :
    (b.withKey key).record = b.record := by
  simp only [record, withKey, hp, Bool.false_eq_true, if_false]

theorem Steady.keepsKey {before : String → Option Octets} (hs : b.Steady b.record.encode before h) :
    b.KeepsKey before h where
  written write hm := by
    rw [hs.whole write hm]
    exact b.isCopy_record
  stored write hm ho := by
    refine ⟨write.value, hs.lasting write hm ho, ?_⟩
    rw [hs.whole write hm]
    exact b.isCopy_record
  changed name hn := ⟨b.record.encode, (hs.changed name hn).2, b.isCopy_record⟩

end Binding

namespace BindStage

variable {b : Binding} {h : History} {stage : BindStage}

def withKey (key : Secret) : BindStage → BindStage
  | .finished result => .finished (result.map (IssueResponse.withKey key))
  | stage => stage

theorem leads_withKey (key : Secret) {e : Event} {stage' : BindStage} (hl : (stage.next b).Leads e stage') :
    ((stage.withKey key).next (b.withKey key)).Leads (e.revalued (b.withKey key).record.encode)
      (stage'.withKey key) := by
  cases stage with
  | writing keys =>
    cases keys with
    | nil =>
      by_cases hg : b.policy.generateLease = true
      · have hg' : (b.withKey key).policy.generateLease = true := hg
        simp only [next, withKey, hg, hg', if_true] at hl ⊢
        obtain ⟨reply, rfl, rfl⟩ := hl
        refine ⟨reply, rfl, ?_⟩
        cases reply <;> rfl
      · simp only [next, hg, Bool.false_eq_true, if_false] at hl
        exact hl.elim
    | cons name names =>
      obtain ⟨reply, rfl, rfl⟩ := hl
      refine ⟨reply, rfl, ?_⟩
      cases reply <;> rfl
  | dating lease =>
    obtain ⟨now, rfl, rfl⟩ := hl
    exact ⟨now, rfl, rfl⟩
  | committing lease =>
    obtain ⟨reply, rfl, rfl⟩ := hl
    refine ⟨reply, rfl, ?_⟩
    cases reply <;> rfl
  | finished => exact hl.elim

theorem done_withKey (key : Secret) {result : Except Error IssueResponse} (hd : stage.next b = .done result) :
    (stage.withKey key).next (b.withKey key) = .done (result.map (IssueResponse.withKey key)) := by
  cases stage with
  | writing keys =>
    cases keys with
    | nil =>
      by_cases hg : b.policy.generateLease = true
      · simp only [next, hg, if_true, reduceCtorEq] at hd
      · have hg' : ¬ (b.withKey key).policy.generateLease = true := hg
        simp only [next, hg, Bool.false_eq_true, if_false, Next.done.injEq] at hd
        simp only [next, withKey, hg', Bool.false_eq_true, if_false]
        rw [← hd]
        rfl
    | cons => cases hd
  | dating => cases hd
  | committing => cases hd
  | finished held =>
    obtain rfl : held = result := Next.done.inj hd
    rfl

theorem reaches_withKey (key : Secret) (hr : Reaches (next b) (.start b) h stage) :
    Reaches (next (b.withKey key)) (.start (b.withKey key)) (h.revalued (b.withKey key).record.encode)
      (stage.withKey key) := by
  induction hr with
  | refl => exact .refl
  | step _ leads ih =>
    rw [History.revalued, List.map_append]
    exact ih.step (leads_withKey key leads)

theorem ends_withKey (key : Secret) {result : Except Error IssueResponse}
    (he : Ends (next b) (.start b) h result) :
    Ends (next (b.withKey key)) (.start (b.withKey key)) (h.revalued (b.withKey key).record.encode)
      (result.map (IssueResponse.withKey key)) := by
  obtain ⟨stage, hr, hd⟩ := he
  exact ⟨_, reaches_withKey key hr, done_withKey key hd⟩

theorem showsKey {response : IssueResponse} (he : Ends (next b) (.start b) h (.ok response)) :
    b.ShowsKey response := by
  obtain ⟨lease, rfl⟩ : ∃ lease, response = b.response lease := by
    obtain ⟨stage, hr, hd⟩ := he
    cases course_of_reaches hr with
    | @writing done keys split =>
      cases keys with
      | nil =>
        simp only [next] at hd
        split at hd
        · cases hd
        · exact ⟨none, (Except.ok.inj (Next.done.inj hd)).symm⟩
      | cons => cases hd
    | committed lease now => exact ⟨_, (Except.ok.inj (Next.done.inj hd)).symm⟩
    | unwritten | uncreated | dating | committing | uncommitted => cases hd
  exact ⟨rfl, rfl, fun key => IssueResponse.toJson_withKey key _⟩

end BindStage

namespace Binding

variable {b : Binding} {answer : Surroundings ω} {w w₁ : ω} {h : History} {result : Except Error IssueResponse}

theorem goes_of_ends (he : Ends (BindStage.next b) (.start b) h result) (ha : Answered answer w h w₁) :
    b.Goes answer w h result w₁ := by
  have hlength : h.length ≤ 5 := by
    obtain ⟨stage, hr, -⟩ := he
    exact (BindStage.course_of_reaches hr).length_le
  exact ⟨he, ha, run_of_ends he ha (Nat.lt_succ_of_le hlength)⟩

theorem exists_goes (b : Binding) (answer : Surroundings ω) (w : ω) : ∃ h result w₁, b.Goes answer w h result w₁ := by
  obtain ⟨h, result, w₁, he, ha, hrun⟩ :=
    run_ends (fun hr => (BindStage.course_of_reaches hr).length_le) answer w
  exact ⟨h, result, w₁, he, ha, hrun⟩

theorem Goes.withKey (hg : b.Goes answer w h result w₁) (key : Secret) (hp : b.policy.storePrivateKey = false) :
    (b.withKey key).Goes answer w h (result.map (IssueResponse.withKey key)) w₁ := by
  obtain ⟨stage, hr, -⟩ := hg.ends
  have hsame : h.revalued (b.withKey key).record.encode = h := by
    rw [record_withKey key hp]
    exact History.revalued_self (BindStage.steady_of_reaches (fun _ => none) hr).whole
  have he := BindStage.ends_withKey key hg.ends
  rw [hsame] at he
  exact goes_of_ends he hg.answered

theorem Goes.withKey_heedless {alike : ω → ω → Prop} (hg : b.Goes answer w h result w₁)
    (heedless : Heedless answer alike) (key : Secret) {w' : ω} (hw : alike w w') :
    ∃ w₂, (b.withKey key).Goes answer w' (h.revalued (b.withKey key).record.encode)
      (result.map (IssueResponse.withKey key)) w₂ ∧ alike w₁ w₂ := by
  obtain ⟨stage, hr, -⟩ := hg.ends
  obtain ⟨w₂, ha, halike⟩ := heedless.answered (b.withKey key).record.encode hg.answered
    (hr.all BindStage.leads_call) hw
  exact ⟨w₂, goes_of_ends (BindStage.ends_withKey key hg.ends) ha, halike⟩

end Binding

/-- Copies hold the private key exactly if the role wants it kept, and a response shows it. Beside that two runs with
different keys do not differ: without the key in the copies the same is written, to the same end; with it only the
values written differ, and so errors and whatever takes no notice of these values, such as leases, are the same. -/
theorem key_kept_secret (b : Binding) :
    (∀ before {h stage}, Reaches (BindStage.next b) (.start b) h stage → b.KeepsKey before h) ∧
      (∀ {h response}, Ends (BindStage.next b) (.start b) h (.ok response) → b.ShowsKey response) ∧
      (∀ {ω : Type} (answer : Surroundings ω) (w : ω), ∃ h result w₁, b.Goes answer w h result w₁) ∧
      ∀ {ω : Type} {answer : Surroundings ω} {w w₁ : ω} {h : History} {result : Except Error IssueResponse},
        b.Goes answer w h result w₁ → ∀ key,
          (b.policy.storePrivateKey = false →
            (b.withKey key).Goes answer w h (result.map (IssueResponse.withKey key)) w₁) ∧
          ∀ {alike : ω → ω → Prop} {w' : ω}, Heedless answer alike → alike w w' →
            ∃ w₂, (b.withKey key).Goes answer w' (h.revalued (b.withKey key).record.encode)
              (result.map (IssueResponse.withKey key)) w₂ ∧ alike w₁ w₂ := by
  refine ⟨?_, BindStage.showsKey, b.exists_goes, ?_⟩
  · intro before h stage hr
    exact (BindStage.steady_of_reaches before hr).keepsKey
  · intro ω answer w w₁ h result hg key
    constructor
    · exact hg.withKey key
    · intro alike w' heedless hw
      exact hg.withKey_heedless heedless key hw

def World.Alike (w w' : World) : Prop :=
  ∃ s s' : MemoryStore, w.store = .memory s ∧ w' = { w with store := .memory s' }

theorem heedless_rehearsal (send : Http.Request → Http.Outcome) (t : Trouble) :
    Heedless (t.answer send) World.Alike where
  put := by
    rintro w _ key value value' ⟨s, s', hs, rfl⟩
    simp only [Trouble.answer, hs, Trouble.put_memory]
    split
    · exact ⟨rfl, s, s', rfl, rfl⟩
    · exact ⟨rfl, s.put key value, s'.put key value', rfl, rfl⟩
  other := by
    rintro w _ call hcall ⟨s, s', hs, rfl⟩
    cases call with
    | createLease | commitLease =>
      simp only [Trouble.answer]
      split
      · exact ⟨rfl, s, s', hs, rfl⟩
      · exact ⟨rfl, s, s', hs, rfl⟩
    | today => exact ⟨rfl, s, s', hs, rfl⟩
    | _ => simp [Call.isLeasing] at hcall

def Binding.copied : Binding :=
  { Binding.twofold with policy := { Binding.twofold.policy with storePrivateKey := true } }

def fullDisk : Surroundings World :=
  Trouble.answer (fun _ => .unreachable) { unwritable := some "certs/1a" }

def otherKey : Secret := ⟨"other"⟩

theorem key_kept_secret_full_disk :
    (∃ h, Ends (BindStage.next .copied) (.start .copied) h (.ok (Binding.copied.response none)) ∧
      Binding.copied.KeepsKey (fun _ => none) h ∧ Binding.copied.ShowsKey (Binding.copied.response none)) ∧
    (∃ h w, Binding.twofold.Goes fullDisk (.around {}) h
        (.error (.storageWrite "certs/1a-2b" "1A:2B" "storage backend error: disk full")) w ∧
      (Binding.twofold.withKey otherKey).Goes fullDisk (.around {}) h
        (.error (.storageWrite "certs/1a-2b" "1A:2B" "storage backend error: disk full")) w) ∧
    ∃ h result w w', Binding.copied.Goes fullDisk (.around {}) h result w ∧
      (Binding.copied.withKey otherKey).Goes fullDisk (.around {})
        (h.revalued (Binding.copied.withKey otherKey).record.encode) (result.map (IssueResponse.withKey otherKey)) w' ∧
      w'.leases = w.leases := by
  obtain ⟨copies, shows, goes, -⟩ := key_kept_secret .copied
  refine ⟨?_, ?_, ?_⟩
  · have hstart : Reaches (BindStage.next .copied) (.start .copied) [] _ := .refl
    have hfirst := hstart.step (e := Binding.copied.putting "certs/example.com" (.ok ())) ⟨.ok (), rfl, rfl⟩
    have hsecond := hfirst.step (e := Binding.copied.putting "certs/1a-2b" (.ok ())) ⟨.ok (), rfl, rfl⟩
    have hends : Ends (BindStage.next .copied) (.start .copied) _ (.ok (Binding.copied.response none)) :=
      ⟨_, hsecond, rfl⟩
    exact ⟨_, hends, copies _ hsecond, shows hends⟩
  · obtain ⟨h, result, w, hg⟩ := (key_kept_secret .twofold).2.2.1 fullDisk (.around {})
    obtain rfl : result = .error (.storageWrite "certs/1a-2b" "1A:2B" "storage backend error: disk full") := by
      have hran : run (BindStage.next .twofold) fullDisk (fun _ _ => false) 6 (.start .twofold) (.around {}) =
          .done (.error (.storageWrite "certs/1a-2b" "1A:2B" "storage backend error: disk full"))
            (.around (MemoryStore.put "certs/example.com" Binding.twofold.record.encode {})) := rfl
      exact (Progress.done.inj (hg.ran.symm.trans hran)).1
    exact ⟨h, w, hg, ((key_kept_secret .twofold).2.2.2 hg otherKey).1 rfl⟩
  · obtain ⟨h, result, w, hg⟩ := goes fullDisk (.around {})
    have halike : (World.around {}).Alike (.around {}) := ⟨{}, {}, rfl, rfl⟩
    obtain ⟨w', hg', s, s', -, rfl⟩ :=
      ((key_kept_secret .copied).2.2.2 hg otherKey).2 (heedless_rehearsal _ _) halike
    exact ⟨h, result, w, _, hg, hg', rfl⟩

end Enrollment

end CertEnroll
