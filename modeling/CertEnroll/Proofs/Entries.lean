import CertEnroll.Authority.Pickup
import CertEnroll.Store.Basic
import Mathlib.Logic.Function.Basic

namespace CertEnroll

theorem lookup_without {β : Type} (key other : String) (entries : List (String × β)) :
    (entries.filter fun entry => entry.1 ≠ key).lookup other =
      if other = key then none else entries.lookup other := by
  induction entries with
  | nil => simp
  | cons entry entries ih =>
    obtain ⟨k, value⟩ := entry
    by_cases hk : k = key
    · rw [List.filter_cons_of_neg (by simpa using hk), ih, List.lookup_cons]
      split
      · rfl
      · rename_i hne
        rw [beq_false_of_ne (hk ▸ hne)]
    · rw [List.filter_cons_of_pos (by simpa using hk), List.lookup_cons, List.lookup_cons, ih]
      by_cases hother : other = k
      · simp [hother, hk]
      · simp [beq_false_of_ne hother]

theorem lookup_eq_some_iff_mem {β : Type} {entries : List (String × β)} (hn : (entries.map Prod.fst).Nodup)
    {key : String} {value : β} : entries.lookup key = some value ↔ (key, value) ∈ entries := by
  rw [List.lookup_eq_some_iff]
  constructor
  · rintro ⟨before, after, rfl, -⟩
    exact List.mem_append_right _ List.mem_cons_self
  · intro hm
    obtain ⟨before, after, rfl⟩ := List.append_of_mem hm
    refine ⟨before, after, rfl, ?_⟩
    intro other ho
    rw [List.map_append, List.nodup_append] at hn
    have hne : other.1 ≠ key := hn.2.2 _ (List.mem_map_of_mem ho) _ List.mem_cons_self
    exact bne_iff_ne.mpr hne.symm

theorem lookup_perm {β : Type} {entries order : List (String × β)} (hn : (entries.map Prod.fst).Nodup)
    (hp : order.Perm entries) (key : String) : order.lookup key = entries.lookup key := by
  have hn' : (order.map Prod.fst).Nodup := (hp.map Prod.fst).nodup_iff.mpr hn
  apply Option.ext
  intro value
  rw [lookup_eq_some_iff_mem hn, lookup_eq_some_iff_mem hn', hp.mem_iff]

theorem get?_put (key : String) (value : Octets) (s : MemoryStore) :
    (fun other => (s.put key value).get? other) =
      Function.update (fun other => s.get? other) key (some value) := by
  funext other
  rw [Function.update_apply]
  simp only [MemoryStore.get?, MemoryStore.put, MemoryStore.erase, List.lookup_cons, lookup_without]
  by_cases ho : other = key
  · simp [ho]
  · simp [ho, beq_false_of_ne ho]

theorem get?_put_apply (key other : String) (value : Octets) (s : MemoryStore) :
    (s.put key value).get? other = if other = key then some value else s.get? other := by
  have h := congrFun (get?_put key value s) other
  rwa [Function.update_apply] at h

namespace PickupTable

variable {id other : String} {t : PickupTable} {p : Pickup}

theorem lookup_erase (id other : String) (t : PickupTable) :
    (t.erase id).lookup other = if other = id then none else t.lookup other :=
  lookup_without id other t.entries

theorem lookup_insert (id other : String) (p : Pickup) (t : PickupTable) :
    (t.insert id p).lookup other = if other = id then some p else t.lookup other := by
  simp only [lookup, insert, erase, List.lookup_cons, lookup_without]
  by_cases ho : other = id
  · simp [ho]
  · simp [ho, beq_false_of_ne ho]

theorem check_missing (h : t.lookup id = none) : t.check id = (.error (unknown id), t) := by
  simp only [check, h]

theorem check_ready {issued : IssuedSet} (h : t.lookup id = some ⟨0, issued⟩) : t.check id = (.ok (), t) := by
  simp only [check, h, if_true]

theorem check_pending {remaining : Nat} {issued : IssuedSet}
    (h : t.lookup id = some ⟨remaining + 1, issued⟩) :
    t.check id = (.error .pending, t.insert id ⟨remaining, issued⟩) := by
  simp [check, h]

theorem take_missing (h : t.lookup id = none) : t.take id = (.error (unknown id), t) := by
  simp only [take, h]

theorem take_present (h : t.lookup id = some p) : t.take id = (.ok p.issued, t.erase id) := by
  simp only [take, h]

theorem check_reply (id : String) (t : PickupTable) :
    (t.check id).1 = .ok () ∨ (t.check id).1 = .error .pending ∨ (t.check id).1 = .error (unknown id) := by
  unfold check
  split
  · exact .inr (.inr rfl)
  · split
    · exact .inl rfl
    · exact .inr (.inl rfl)

theorem take_reply (id : String) (t : PickupTable) :
    (t.take id).1 = .error (unknown id) ∨ ∃ issued, (t.take id).1 = .ok issued := by
  unfold take
  split
  · exact .inl rfl
  · exact .inr ⟨_, rfl⟩

theorem lookup_check_of_ne (h : other ≠ id) : (t.check id).2.lookup other = t.lookup other := by
  unfold check
  split
  · rfl
  · split
    · rfl
    · rw [lookup_insert, if_neg h]

theorem lookup_take_of_ne (h : other ≠ id) : (t.take id).2.lookup other = t.lookup other := by
  unfold take
  split
  · rfl
  · rw [lookup_erase, if_neg h]

end PickupTable

end CertEnroll
