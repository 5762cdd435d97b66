import CertEnroll.Lease
import Mathlib.Data.List.Induction
import Mathlib.Data.List.Nodup

/-!
Which leases a table holds after a history of commits, revocations and prunings. The clock that these read may go
back, and identifiers may be used again.
-/

namespace CertEnroll.LeaseTable

inductive Act
  | commit (now : Instant) (l : Lease)
  | revoke (id : String)
  | prune (now : Instant)

def Act.apply : Act → LeaseTable → LeaseTable
  | .commit now l, t => t.commit now l
  | .revoke id, t => t.erase id
  | .prune now, t => t.prune now

def after (acts : List Act) : LeaseTable :=
  acts.foldl (fun t a => a.apply t) {}

def Act.Keeps (l : Lease) : Act → Prop
  | .commit now other => other.id ≠ l.id ∧ l.expiresAt.before now = false
  | .revoke id => id ≠ l.id
  | .prune now => l.expiresAt.before now = false

def Act.instant? : Act → Option Instant
  | .commit now _ | .prune now => some now
  | .revoke _ => none

def Distinct (t : LeaseTable) : Prop :=
  (t.leases.map Lease.id).Nodup

variable {t : LeaseTable} {l other : Lease} {id : String} {now : Instant} {a : Act} {acts : List Act}

theorem mem_prune : l ∈ (t.prune now).leases ↔ l ∈ t.leases ∧ l.expiresAt.before now = false := by
  simp [prune]

theorem mem_erase : l ∈ (t.erase id).leases ↔ l ∈ t.leases ∧ l.id ≠ id := by
  simp [erase]

theorem mem_commit : other ∈ (t.commit now l).leases ↔
    other = l ∨ (other ∈ t.leases ∧ other.expiresAt.before now = false) ∧ other.id ≠ l.id := by
  simp only [commit, List.mem_cons, mem_erase, mem_prune]

theorem mem_apply : l ∈ (a.apply t).leases ↔ (∃ now, a = .commit now l) ∨ (l ∈ t.leases ∧ a.Keeps l) := by
  cases a with
  | commit now other =>
    simp only [Act.apply, Act.Keeps, mem_commit, Act.commit.injEq]
    constructor
    · rintro (rfl | ⟨⟨hm, hlive⟩, hid⟩)
      · exact .inl ⟨now, rfl, rfl⟩
      · exact .inr ⟨hm, Ne.symm hid, hlive⟩
    · rintro (⟨_, -, rfl⟩ | ⟨hm, hid, hlive⟩)
      · exact .inl rfl
      · exact .inr ⟨⟨hm, hlive⟩, Ne.symm hid⟩
  | revoke id => simp [Act.apply, Act.Keeps, mem_erase, ne_comm]
  | prune now => simp [Act.apply, Act.Keeps, mem_prune]

theorem distinct_apply (a : Act) (hd : t.Distinct) : (a.apply t).Distinct := by
  have hfilter (p : Lease → Bool) {leases : List Lease} (hn : (leases.map Lease.id).Nodup) :
      ((leases.filter p).map Lease.id).Nodup :=
    hn.sublist (List.filter_sublist.map Lease.id)
  cases a with
  | revoke id => exact hfilter _ hd
  | prune now => exact hfilter _ hd
  | commit now l =>
    apply List.nodup_cons.mpr
    constructor
    · intro hm
      obtain ⟨other, ho, hid⟩ := List.mem_map.mp hm
      exact (mem_erase.mp ho).2 hid
    · exact hfilter _ (hfilter _ hd)

theorem lookup_eq_some (hd : t.Distinct) : t.lookup id = some l ↔ l ∈ t.leases ∧ l.id = id := by
  constructor
  · intro h
    exact ⟨List.mem_of_find?_eq_some h, by simpa using List.find?_some h⟩
  · rintro ⟨hm, rfl⟩
    obtain ⟨other, ho⟩ : ∃ other, t.lookup l.id = some other := by
      rw [← Option.isSome_iff_exists, lookup, List.find?_isSome]
      exact ⟨l, hm, by simp⟩
    have hid : other.id = l.id := by simpa using List.find?_some ho
    rw [ho, List.inj_on_of_nodup_map hd (List.mem_of_find?_eq_some ho) hm hid]

theorem after_concat (acts : List Act) (a : Act) : after (acts ++ [a]) = a.apply (after acts) := by
  rw [after, List.foldl_append]
  rfl

theorem distinct_after (acts : List Act) : (after acts).Distinct := by
  induction acts using List.reverseRecOn with
  | nil => exact List.nodup_nil
  | append_singleton acts a ih =>
    rw [after_concat]
    exact distinct_apply a ih

theorem mem_after : l ∈ (after acts).leases ↔
    ∃ earlier now later, acts = earlier ++ .commit now l :: later ∧ ∀ a ∈ later, a.Keeps l := by
  induction acts using List.reverseRecOn with
  | nil => simp [after]
  | append_singleton acts a ih =>
    rw [after_concat, mem_apply, ih]
    constructor
    · rintro (⟨now, rfl⟩ | ⟨⟨earlier, now, later, rfl, hk⟩, ha⟩)
      · exact ⟨acts, now, [], rfl, List.forall_mem_nil _⟩
      · refine ⟨earlier, now, later ++ [a], by simp, ?_⟩
        exact List.forall_mem_append.mpr ⟨hk, List.forall_mem_singleton.mpr ha⟩
    · rintro ⟨earlier, now, later, hs, hk⟩
      -- The last act is the recording itself or one that keeps what was recorded before.
      rcases List.eq_nil_or_concat later with rfl | ⟨later, last, rfl⟩
      · left
        exact ⟨now, (List.cons.inj (List.append_inj' hs rfl).2).1⟩
      · right
        rw [List.concat_eq_append, ← List.cons_append, ← List.append_assoc] at hs
        obtain ⟨rfl, hlast⟩ := List.append_inj' hs rfl
        obtain rfl := (List.cons.inj hlast).1
        rw [List.concat_eq_append, List.forall_mem_append, List.forall_mem_singleton] at hk
        exact ⟨⟨earlier, now, later, rfl, hk.1⟩, hk.2⟩

theorem lookup_prune (hd : t.Distinct) (hl : l ∈ t.leases) (now : Instant) :
    (t.prune now).lookup l.id = if l.expiresAt.before now then none else some l := by
  have hd' : (t.prune now).Distinct := distinct_apply (.prune now) hd
  split
  · rename_i hend
    cases hk : (t.prune now).lookup l.id with
    | none => rfl
    | some other =>
      obtain ⟨hm, hid⟩ := (lookup_eq_some hd').mp hk
      obtain ⟨ho, hlive⟩ := mem_prune.mp hm
      obtain rfl := List.inj_on_of_nodup_map hd ho hl hid
      simp [hend] at hlive
  · rename_i hlive
    rw [lookup_eq_some hd', mem_prune]
    exact ⟨⟨hl, by simpa using hlive⟩, rfl⟩

theorem pruned_eq (hd : t.Distinct) (now : Instant) :
    t.pruned now = t.leases.countP fun l => ((t.prune now).lookup l.id).isNone := by
  have hcount : t.leases.countP (fun l => ((t.prune now).lookup l.id).isNone) =
      t.leases.countP fun l => l.expiresAt.before now := by
    apply List.countP_congr
    intro l hl
    rw [lookup_prune hd hl]
    cases l.expiresAt.before now <;> simp
  have hlength : (t.prune now).leases.length = t.leases.countP fun l => !l.expiresAt.before now := by
    rw [prune, List.countP_eq_length_filter]
  have hsplit := t.leases.length_eq_countP_add_countP fun l => l.expiresAt.before now
  simp only [Bool.not_eq_true] at hsplit
  rw [hcount, pruned, size, size, hlength, hsplit]
  simp

theorem dropped (hk : ¬ a.Keeps l) :
    a = .revoke l.id ∨ (∃ now other, a = .commit now other ∧ other.id = l.id) ∨
      ∃ now, a.instant? = some now ∧ l.expiresAt.before now = true := by
  cases a with
  | commit now other =>
    by_cases hid : other.id = l.id
    · exact .inr (.inl ⟨now, other, rfl, hid⟩)
    · right; right
      refine ⟨now, rfl, ?_⟩
      by_contra hlive
      exact hk ⟨hid, by simpa using hlive⟩
  | revoke id =>
    left
    have hid : id = l.id := by_contra hk
    rw [hid]
  | prune now =>
    right; right
    exact ⟨now, rfl, by simpa [Act.Keeps] using hk⟩

/-- A lease is found exactly if it was the last one recorded under its identifier, was not revoked since, and at no
later look at the clock had come to its end. -/
theorem holds_last_committed (acts : List Act) :
    (after acts).Distinct ∧
      (∀ {id l}, (after acts).lookup id = some l ↔ l.id = id ∧
        ∃ earlier now later, acts = earlier ++ .commit now l :: later ∧ ∀ a ∈ later, a.Keeps l) ∧
      (∀ now l, (after (acts ++ [.commit now l])).lookup l.id = some l) ∧
      (∀ {id l a}, (after acts).lookup id = some l → (after (acts ++ [a])).lookup id ≠ some l →
        a = .revoke id ∨ (∃ now other, a = .commit now other ∧ other.id = id) ∨
          ∃ now, a.instant? = some now ∧ l.expiresAt.before now = true) ∧
      (∀ {now l id other}, (after (acts ++ [.commit now l])).lookup id = some other → id ≠ l.id →
        other.expiresAt.before now = false) ∧
      ∀ now, (after acts).pruned now =
        (after acts).leases.countP fun l => ((after (acts ++ [.prune now])).lookup l.id).isNone := by
  have hd := distinct_after acts
  refine ⟨hd, ?_, ?_, ?_, ?_, ?_⟩
  · intro id l
    rw [lookup_eq_some hd, mem_after, and_comm]
  · intro now l
    rw [lookup_eq_some (distinct_after _), after_concat]
    exact ⟨mem_commit.mpr (.inl rfl), rfl⟩
  · intro id l a hl hgone
    obtain ⟨hm, rfl⟩ := (lookup_eq_some hd).mp hl
    apply dropped
    intro hk
    apply hgone
    rw [lookup_eq_some (distinct_after _), after_concat]
    exact ⟨mem_apply.mpr (.inr ⟨hm, hk⟩), rfl⟩
  · intro now l id other ho hne
    obtain ⟨hm, rfl⟩ := (lookup_eq_some (distinct_after _)).mp ho
    rw [after_concat] at hm
    rcases mem_commit.mp hm with rfl | ⟨⟨-, hlive⟩, -⟩
    · exact absurd rfl hne
    · exact hlive
  · intro now
    rw [after_concat]
    exact pruned_eq hd now

def upTo (id : String) (seconds : Int) : Lease :=
  ⟨id, "certificate", seconds * nanosPerSecond, false, ⟨0, 0⟩, .null⟩

def lapsing : List Act :=
  [.commit ⟨90, 0⟩ (upTo "a" 50), .prune ⟨50, 0⟩]

theorem holds_last_committed_lapsing :
    (after lapsing).lookup "a" = some (upTo "a" 50) ∧
      (after (lapsing ++ [.commit ⟨51, 0⟩ (upTo "b" 60)])).lookup "a" = none ∧
      (upTo "a" 50).expiresAt.before ⟨51, 0⟩ = true := by
  obtain ⟨-, hfound, -, hdropped, -⟩ := holds_last_committed lapsing
  have hpresent : (after lapsing).lookup "a" = some (upTo "a" 50) := by
    apply hfound.mpr
    refine ⟨rfl, [], ⟨90, 0⟩, [.prune ⟨50, 0⟩], rfl, ?_⟩
    exact List.forall_mem_singleton.mpr rfl
  have hgone : (after (lapsing ++ [.commit ⟨51, 0⟩ (upTo "b" 60)])).lookup "a" = none := by decide
  refine ⟨hpresent, hgone, ?_⟩
  have hne : (after (lapsing ++ [.commit ⟨51, 0⟩ (upTo "b" 60)])).lookup "a" ≠ some (upTo "a" 50) := by
    rw [hgone]
    exact nofun
  rcases hdropped hpresent hne with hr | ⟨now, other, hc, hid⟩ | ⟨now, hnow, hend⟩
  · cases hr
  · cases hc
    exact absurd hid (by decide)
  · cases hnow
    exact hend

end CertEnroll.LeaseTable
