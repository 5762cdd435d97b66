import CertEnroll.Proofs.Listing
import CertEnroll.Proofs.StoredRoles

namespace CertEnroll

namespace RolePolicy

def IsFlat (name : String) : Prop :=
  '/' ∉ name.toList.dropLast

variable {name level more : String}

theorem isFlat_of_plain (plain : '/' ∉ name.toList) : IsFlat name :=
  fun hm => plain (List.dropLast_subset _ hm)

theorem isFlat_level (plain : '/' ∉ level.toList) : IsFlat (level ++ "/") := by
  have hlast : (level ++ "/").toList.dropLast = level.toList := by
    rw [String.toList_append]
    exact List.dropLast_concat
  rwa [IsFlat, hlast]

theorem IsFlat.cases (hf : IsFlat name) :
    '/' ∉ name.toList ∨ ∃ level, name = level ++ "/" ∧ '/' ∉ level.toList := by
  by_cases hm : '/' ∈ name.toList
  · right
    have hne : name.toList ≠ [] := List.ne_nil_of_mem hm
    have hsplit := List.dropLast_append_getLast hne
    have hlast : name.toList.getLast hne = '/' := by
      rw [← hsplit, List.mem_append, List.mem_singleton] at hm
      exact (hm.resolve_left hf).symm
    refine ⟨String.ofList name.toList.dropLast, ?_, by rwa [String.toList_ofList]⟩
    rw [← String.toList_inj, String.toList_append, String.toList_ofList, ← hsplit, hlast]
    simp
  · exact .inl hm

theorem IsFlat.ends (hf : IsFlat (level ++ "/" ++ more)) : more = "" := by
  by_contra hne
  have hmore : more.toList ≠ [] := by simpa using hne
  apply hf
  rw [String.toList_append, List.dropLast_append_of_ne_nil hmore]
  simp

end RolePolicy

namespace Store

open RolePolicy (IsFlat)

variable {find : String → Option RolePolicy} {s : MemoryStore} {name : String}

theorem has_key_iff (hs : s.Holds find) : s.Has (RolePolicy.key name) ↔ (find name).isSome = true := by
  rw [MemoryStore.Has, hs.held, Option.isSome_map]

theorem mem_listed (hs : s.Holds find) : name ∈ s.list RolePolicy.keyStart ↔
    ('/' ∉ name.toList ∧ (find name).isSome = true) ∨
      ∃ level, name = level ++ "/" ∧ '/' ∉ level.toList ∧ ∃ more, (find (name ++ more)).isSome = true := by
  simp only [MemoryStore.mem_list_iff, String.append_assoc, ← has_key_iff hs]
  rfl

theorem listed_iff_isFlat (hs : s.Holds find) (hf : (find name).isSome = true) :
    name ∈ s.list RolePolicy.keyStart ↔ IsFlat name := by
  rw [mem_listed hs]
  constructor
  · rintro (⟨plain, -⟩ | ⟨level, rfl, plain, -⟩)
    · exact RolePolicy.isFlat_of_plain plain
    · exact RolePolicy.isFlat_level plain
  · intro hflat
    rcases hflat.cases with plain | ⟨level, rfl, plain⟩
    · exact .inl ⟨plain, hf⟩
    · exact .inr ⟨level, rfl, plain, "", by rwa [String.append_empty]⟩

theorem lists_found_iff (hs : s.Holds find) :
    (∀ name, name ∈ s.list RolePolicy.keyStart ↔ (find name).isSome = true) ↔
      ∀ name, (find name).isSome = true → IsFlat name := by
  constructor
  · intro h name hf
    exact (listed_iff_isFlat hs hf).mp ((h name).mpr hf)
  · intro h name
    refine ⟨fun hn => ?_, fun hf => (listed_iff_isFlat hs hf).mpr (h name hf)⟩
    rcases (mem_listed hs).mp hn with ⟨-, hf⟩ | ⟨level, rfl, -, more, hf⟩
    · exact hf
    · rwa [(h _ hf).ends, String.append_empty] at hf

theorem role?_eq_some (hs : s.Holds find) (send : Http.Request → Http.Outcome) (name : String) :
    (∃ p, (role? name (.memory s)).resolve send = .ok (some p)) ↔ (find name).isSome = true := by
  rw [role?_of_holds hs, Option.isSome_iff_exists]
  simp only [Except.ok.injEq]

theorem lookup_reverse_isSome {puts : List (String × RolePolicy)} :
    (puts.reverse.lookup name).isSome = true ↔ name ∈ puts.map Prod.fst := by
  simp [List.lookup_isSome_iff]

end Store

open RolePolicy (IsFlat)

/-- Roles put into an empty memory are found under the names that they were put under, and listed under those of them
that are flat. What else is listed are levels. So the listing tells which roles there are exactly if no name has a slash
before its end. -/
theorem lists_roles_iff {puts : List (String × RolePolicy)} (fits : ∀ role ∈ puts, role.2.Fits)
    (send : Http.Request → Http.Outcome) :
    ∃ (s : MemoryStore) (listed : List String), Store.putRoles send puts (.memory {}) = .ok (.memory s) ∧
      (Store.memory s).listRoles.resolve send = .ok listed ∧ listed.Nodup ∧
      (∀ name, (∃ p, ((Store.memory s).role? name).resolve send = .ok (some p)) ↔ name ∈ puts.map Prod.fst) ∧
      (∀ name ∈ puts.map Prod.fst, name ∈ listed ↔ IsFlat name) ∧
      (∀ name, name ∈ listed ↔ ('/' ∉ name.toList ∧ name ∈ puts.map Prod.fst) ∨
        ∃ level, name = level ++ "/" ∧ '/' ∉ level.toList ∧ ∃ more, name ++ more ∈ puts.map Prod.fst) ∧
      ((∀ name, name ∈ listed ↔ ∃ p, ((Store.memory s).role? name).resolve send = .ok (some p)) ↔
        ∀ name ∈ puts.map Prod.fst, IsFlat name) := by
  obtain ⟨s, hput, hs, -⟩ := Store.putRoles_holds MemoryStore.holds_nothing send fits
  simp only [Option.or_none] at hs
  have hfound (name : String) :
      (∃ p, ((Store.memory s).role? name).resolve send = .ok (some p)) ↔ name ∈ puts.map Prod.fst :=
    (Store.role?_eq_some hs send name).trans Store.lookup_reverse_isSome
  refine ⟨s, s.list RolePolicy.keyStart, hput, rfl, MemoryStore.nodup_list _ s, hfound, ?_, ?_, ?_⟩
  · intro name hm
    exact Store.listed_iff_isFlat hs (Store.lookup_reverse_isSome.mpr hm)
  · intro name
    rw [Store.mem_listed hs]
    simp only [Store.lookup_reverse_isSome]
  · have hlists := Store.lists_found_iff hs
    simp only [Store.lookup_reverse_isSome] at hlists
    simp only [hfound, hlists]

theorem lists_roles_iff_level :
    ∃ (s : MemoryStore) (listed : List String),
      Store.putRoles (fun _ => .unreachable) [("team/", { keyBits := 4096 }), ("", {})] (.memory {}) = .ok (.memory s) ∧
        (Store.memory s).listRoles.resolve (fun _ => .unreachable) = .ok listed ∧
        ∀ name, name ∈ listed ↔
          ∃ p, ((Store.memory s).role? name).resolve (fun _ => .unreachable) = .ok (some p) := by
  have hfits : ∀ role ∈ [("team/", ({ keyBits := 4096 } : RolePolicy)), ("", {})], role.2.Fits := by
    intro role hm
    rcases List.mem_pair.mp hm with rfl | rfl
    · exact Nat.lt_of_lt_of_le (by decide) (Nat.pow_le_pow_right Nat.two_pos (show 13 ≤ 64 by decide))
    · exact Nat.two_pow_pos 64
  have hflat : ∀ name ∈ ["team/", ""], IsFlat name := by
    intro name hm
    rcases List.mem_pair.mp hm with rfl | rfl
    · exact @RolePolicy.isFlat_level "team" (by decide)
    · exact List.not_mem_nil
  obtain ⟨s, listed, hput, hlist, -, -, -, -, hiff⟩ := lists_roles_iff hfits fun _ => .unreachable
  exact ⟨s, listed, hput, hlist, hiff.mpr hflat⟩

/-- The role is there, but what is listed is its level, under which no role is found. -/
theorem nested_role_unlisted :
    ∃ s : MemoryStore, Store.putRoles (fun _ => .unreachable) [("team/web", {})] (.memory {}) = .ok (.memory s) ∧
      ((Store.memory s).role? "team/web").resolve (fun _ => .unreachable) = .ok (some {}) ∧
      (Store.memory s).listRoles.resolve (fun _ => .unreachable) = .ok ["team/"] ∧
      ((Store.memory s).role? "team/").resolve (fun _ => .unreachable) = .ok none := by
  have hs := Store.holds_put MemoryStore.holds_nothing (p := {}) (Nat.two_pow_pos 64) "team/web"
  refine ⟨_, rfl, ?_, ?_, ?_⟩
  · exact Store.role?_of_holds hs "team/web"
  · exact congrArg Except.ok (show MemoryStore.list "role/" _ = ["team/"] by decide)
  · exact Store.role?_of_holds hs "team/"

end CertEnroll
