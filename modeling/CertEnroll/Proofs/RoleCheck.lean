import CertEnroll.Proofs.ByteOrder
import CertEnroll.Settings.Check
import Mathlib.Data.List.Nodup
import Mathlib.Data.List.Sort

namespace CertEnroll.Settings

open Text.Utf8 (encode encode_le_iff)

section Loops

variable {α : Type} {f : α → Except Error Unit} {l : List α} {e : Error}

theorem forM_cons (f : α → Except Error Unit) (a : α) (l : List α) : (a :: l).forM f = f a >>= fun _ => l.forM f := rfl

theorem forM_eq_ok : l.forM f = .ok () ↔ ∀ a ∈ l, f a = .ok () := by
  induction l with
  | nil => exact ⟨fun _ => List.forall_mem_nil _, fun _ => rfl⟩
  | cons a l ih =>
    rw [forM_cons, List.forall_mem_cons, ← ih]
    cases f a with
    | ok => exact ⟨fun h => ⟨rfl, h⟩, And.right⟩
    | error => exact ⟨nofun, fun h => absurd h.1 nofun⟩

theorem split_of_forM_eq_error (h : l.forM f = .error e) :
    ∃ before a after, l = before ++ a :: after ∧ (∀ b ∈ before, f b = .ok ()) ∧ f a = .error e := by
  induction l with
  | nil => cases h
  | cons a l ih =>
    rw [forM_cons] at h
    cases ha : f a with
    | error e' =>
      rw [ha] at h
      cases h
      exact ⟨[], a, l, rfl, List.forall_mem_nil _, ha⟩
    | ok =>
      rw [ha] at h
      obtain ⟨before, b, after, rfl, hbefore, hb⟩ := ih h
      exact ⟨a :: before, b, after, rfl, List.forall_mem_cons.mpr ⟨ha, hbefore⟩, hb⟩

end Loops

variable {roles order : List (String × RolePolicy)} {name : String} {p : RolePolicy} {e : Error}

theorem mem_sortedRoles {role : String × RolePolicy} : role ∈ sortedRoles roles ↔ role ∈ roles :=
  (List.mergeSort_perm _ _).mem_iff

theorem pairwise_sortedRoles (roles : List (String × RolePolicy)) :
    (sortedRoles roles).Pairwise fun a b => a.1 ≤ b.1 := by
  have htrans (a b c : String × RolePolicy) (hab : decide (a.1 ≤ b.1) = true) (hbc : decide (b.1 ≤ c.1) = true) :
      decide (a.1 ≤ c.1) = true := by
    rw [decide_eq_true_eq] at hab hbc ⊢
    exact String.le_trans hab hbc
  have htotal (a b : String × RolePolicy) : (decide (a.1 ≤ b.1) || decide (b.1 ≤ a.1)) = true := by
    rw [Bool.or_eq_true, decide_eq_true_eq, decide_eq_true_eq]
    exact String.le_total _ _
  exact (List.pairwise_mergeSort htrans htotal roles).imp of_decide_eq_true

theorem sortedRoles_perm (distinct : (roles.map Prod.fst).Nodup) (hp : order.Perm roles) :
    sortedRoles order = sortedRoles roles := by
  have hsorted : (sortedRoles order).Perm (sortedRoles roles) :=
    (List.mergeSort_perm _ _).trans (hp.trans (List.mergeSort_perm _ _).symm)
  -- The order is by names only, and they tell the roles apart.
  refine hsorted.eq_of_pairwise ?_ (pairwise_sortedRoles order) (pairwise_sortedRoles roles)
  intro a b ha hb hab hba
  have ha : a ∈ roles := hp.mem_iff.mp (mem_sortedRoles.mp ha)
  exact List.inj_on_of_nodup_map distinct ha (mem_sortedRoles.mp hb) (String.le_antisymm hab hba)

theorem checkRole_eq_ok : checkRole (name, p) = .ok () ↔ ∃ spec, p.keySpec = .ok spec := by
  rw [checkRole]
  cases p.keySpec with
  | ok spec => exact ⟨fun _ => ⟨spec, rfl⟩, fun _ => rfl⟩
  | error => exact ⟨nofun, fun ⟨_, h⟩ => absurd h nofun⟩

theorem checkRole_eq_error :
    checkRole (name, p) = .error e ↔ ∃ cause, p.keySpec = .error cause ∧
      e = .config s!"Role '{name}' has an invalid key policy: {cause.message}" := by
  rw [checkRole]
  cases p.keySpec with
  | ok => exact ⟨nofun, fun ⟨_, h, _⟩ => absurd h nofun⟩
  | error cause =>
    constructor
    · intro h
      cases h
      exact ⟨cause, rfl, rfl⟩
    · rintro ⟨_, h, rfl⟩
      cases h
      rfl

def NamesFirst (roles : List (String × RolePolicy)) (e : Error) : Prop :=
  ∃ name p cause, (name, p) ∈ roles ∧ p.keySpec = .error cause ∧
    e = .config s!"Role '{name}' has an invalid key policy: {cause.message}" ∧
    ∀ {other q cause'}, (other, q) ∈ roles → q.keySpec = .error cause' → encode name ≤ encode other

theorem namesFirst_of_forM (h : (sortedRoles roles).forM checkRole = .error e) : NamesFirst roles e := by
  obtain ⟨before, ⟨name, p⟩, after, hsplit, hbefore, hfails⟩ := split_of_forM_eq_error h
  obtain ⟨cause, hcause, rfl⟩ := checkRole_eq_error.mp hfails
  have hmem {role : String × RolePolicy} : role ∈ roles ↔ role ∈ before ∨ role = (name, p) ∨ role ∈ after := by
    rw [← mem_sortedRoles, hsplit, List.mem_append, List.mem_cons]
  refine ⟨name, p, cause, hmem.mpr (.inr (.inl rfl)), hcause, rfl, ?_⟩
  intro other q cause' hq hfails'
  rcases hmem.mp hq with hq | hq | hq
  · obtain ⟨spec, hspec⟩ := checkRole_eq_ok.mp (hbefore _ hq)
    exact absurd (hspec.symm.trans hfails') nofun
  · cases hq
    exact encode_le_iff.mpr (String.le_refl _)
  · have hpairs := pairwise_sortedRoles roles
    rw [hsplit] at hpairs
    have hlater := (List.pairwise_cons.mp (List.pairwise_append.mp hpairs).2.1).1 _ hq
    exact encode_le_iff.mpr hlater

theorem NamesFirst.unique (distinct : (roles.map Prod.fst).Nodup) {e' : Error} (h : NamesFirst roles e)
    (h' : NamesFirst roles e') : e = e' := by
  obtain ⟨name, p, cause, hm, hp, rfl, hfirst⟩ := h
  obtain ⟨name', p', cause', hm', hp', rfl, hfirst'⟩ := h'
  obtain rfl : name = name' :=
    String.le_antisymm (encode_le_iff.mp (hfirst hm' hp')) (encode_le_iff.mp (hfirst' hm hp))
  obtain ⟨-, rfl⟩ := Prod.mk.inj (List.inj_on_of_nodup_map distinct hm hm' rfl)
  rw [Except.error.inj (hp.symm.trans hp')]

theorem forM_eq_error (distinct : (roles.map Prod.fst).Nodup) :
    (sortedRoles roles).forM checkRole = .error e ↔ NamesFirst roles e := by
  refine ⟨namesFirst_of_forM, fun h => ?_⟩
  cases hloop : (sortedRoles roles).forM checkRole with
  | error e' => rw [(namesFirst_of_forM hloop).unique distinct h]
  | ok =>
    obtain ⟨name, p, cause, hm, hp, -, -⟩ := h
    obtain ⟨spec, hspec⟩ := checkRole_eq_ok.mp (forM_eq_ok.mp hloop _ (mem_sortedRoles.mpr hm))
    exact absurd (hspec.symm.trans hp) nofun

end CertEnroll.Settings
