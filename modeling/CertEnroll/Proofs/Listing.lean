import CertEnroll.Proofs.ByteOrder
import CertEnroll.Proofs.Entries
import Mathlib.Data.List.Nodup
import Mathlib.Data.String.Basic

/-!
What a listing of the store in memory shows, and the walk through all levels that listings make possible. Each key
that starts with a text has one name directly under that text on its way, so the walk meets every such key once.
-/

namespace CertEnroll.MemoryStore

def Has (key : String) (s : MemoryStore) : Prop :=
  (s.get? key).isSome = true

inductive Leads (start : String) : String → String → Prop
  | entry {name : String} (plain : '/' ∉ name.toList) : Leads start name (start ++ name)
  | level {level : String} (plain : '/' ∉ level.toList) (more : String) :
    Leads start (level ++ "/") (start ++ (level ++ "/") ++ more)

def isLevel (name : String) : Bool :=
  name.toList.getLast? == some '/'

variable {start name key : String} {s : MemoryStore}

theorem isLevel_of_plain (plain : '/' ∉ name.toList) : isLevel name = false := by
  rw [isLevel, beq_eq_false_iff_ne]
  exact fun he => plain (List.mem_of_getLast? he)

theorem isLevel_append (level : String) : isLevel (level ++ "/") = true := by
  simp [isLevel]

theorem has_iff : s.Has key ↔ ∃ entry ∈ s.entries, entry.1 = key := by
  rw [Has, get?]
  constructor
  · intro h
    obtain ⟨value, hv⟩ := Option.isSome_iff_exists.mp h
    obtain ⟨before, after, he, -⟩ := List.lookup_eq_some_iff.mp hv
    exact ⟨(key, value), he ▸ List.mem_append_right _ List.mem_cons_self, rfl⟩
  · rintro ⟨entry, hm, rfl⟩
    rw [List.lookup_isSome_iff]
    exact ⟨entry, hm, beq_self_eq_true _⟩

theorem child?_entry {start name : List Char} (plain : '/' ∉ name) : child? start (start ++ name) = some name := by
  have hdrop : name.dropWhile (· ≠ '/') = [] := by
    rw [List.dropWhile_eq_nil_iff]
    intro c hc
    simpa using ne_of_mem_of_not_mem hc plain
  rw [child?, if_pos (List.isPrefixOf_iff_prefix.mpr (List.prefix_append _ _))]
  simp only [List.drop_left, hdrop]

theorem child?_level {start level : List Char} (plain : '/' ∉ level) (more : List Char) :
    child? start (start ++ (level ++ '/' :: more)) = some (level ++ ['/']) := by
  have hne : ∀ c ∈ level, decide (c ≠ '/') = true := by
    intro c hc
    simpa using ne_of_mem_of_not_mem hc plain
  have hdrop : (level ++ '/' :: more).dropWhile (· ≠ '/') = '/' :: more := by
    rw [List.dropWhile_append_of_pos hne]
    rfl
  have htake : (level ++ '/' :: more).takeWhile (· ≠ '/') = level := by
    rw [List.takeWhile_append_of_pos hne]
    exact List.append_nil level
  rw [child?, if_pos (List.isPrefixOf_iff_prefix.mpr (List.prefix_append _ _))]
  simp only [List.drop_left, hdrop, htake]

theorem exists_leads (start more : String) : ∃ name, Leads start name (start ++ more) := by
  by_cases hm : '/' ∈ more.toList
  · obtain ⟨level, rest, hsplit, plain⟩ := List.eq_append_cons_of_mem hm
    have hmore : more = String.ofList level ++ "/" ++ String.ofList rest := by
      rw [← String.toList_inj, hsplit]
      simp
    have hlevel : '/' ∉ (String.ofList level).toList := by rwa [String.toList_ofList]
    refine ⟨String.ofList level ++ "/", ?_⟩
    rw [hmore, ← String.append_assoc]
    exact .level hlevel _
  · exact ⟨more, .entry hm⟩

theorem Leads.child? (h : Leads start name key) : child? start.toList key.toList = some name.toList := by
  cases h with
  | entry plain =>
    rw [String.toList_append]
    exact child?_entry plain
  | level plain more =>
    simpa using child?_level plain more.toList

theorem child?_eq_some : child? start.toList key.toList = some name.toList ↔ Leads start name key := by
  refine ⟨fun h => ?_, Leads.child?⟩
  have hprefix : start.toList <+: key.toList := by
    by_contra hp
    rw [MemoryStore.child?, if_neg (by rwa [List.isPrefixOf_iff_prefix])] at h
    cases h
  obtain ⟨rest, hrest⟩ := hprefix
  obtain rfl : key = start ++ String.ofList rest := by
    rw [← String.toList_inj, ← hrest]
    simp
  obtain ⟨other, ho⟩ := exists_leads start (String.ofList rest)
  rw [ho.child?, Option.some.injEq, String.toList_inj] at h
  exact h ▸ ho

theorem Leads.starts (h : Leads start name key) : ∃ more, key = start ++ more := by
  cases h with
  | entry => exact ⟨name, rfl⟩
  | level _ more => exact ⟨_ ++ more, String.append_assoc⟩

theorem leads_entry_iff (plain : '/' ∉ name.toList) : Leads start name key ↔ key = start ++ name := by
  refine ⟨fun h => ?_, fun h => h ▸ .entry plain⟩
  cases h with
  | entry => rfl
  | level => simp at plain

theorem leads_level_iff {level : String} (plain : '/' ∉ level.toList) :
    Leads start (level ++ "/") key ↔ ∃ more, key = start ++ (level ++ "/") ++ more := by
  refine ⟨fun h => ?_, fun ⟨more, hk⟩ => hk ▸ .level plain more⟩
  generalize hn : level ++ "/" = name at h ⊢
  cases h with
  | entry other =>
    rw [← hn] at other
    simp at other
  | level _ more => exact ⟨more, rfl⟩

theorem Leads.unique {other : String} (h : Leads start name key) (ho : Leads start other key) : name = other := by
  rw [← String.toList_inj]
  exact Option.some.inj (h.child?.symm.trans ho.child?)

theorem mem_insertName {other : String} {names : List String} :
    other ∈ insertName name names ↔ other = name ∨ other ∈ names := by
  induction names with
  | nil => simp [insertName]
  | cons first names ih =>
    unfold insertName
    split
    · rename_i he
      simp [he]
    · split
      · simp
      · simp only [List.mem_cons, ih]
        tauto

theorem pairwise_insertName {names : List String} (hn : names.Pairwise (· < ·)) :
    (insertName name names).Pairwise (· < ·) := by
  induction names with
  | nil => exact List.pairwise_singleton _ _
  | cons first names ih =>
    obtain ⟨hfirst, hrest⟩ := List.pairwise_cons.mp hn
    unfold insertName
    split
    · exact hn
    · rename_i hne
      split
      · rename_i hlt
        refine List.pairwise_cons.mpr ⟨?_, hn⟩
        exact List.forall_mem_cons.mpr ⟨hlt, fun other ho => hlt.trans (hfirst other ho)⟩
      · rename_i hlt
        refine List.pairwise_cons.mpr ⟨fun other ho => ?_, ih hrest⟩
        rcases mem_insertName.mp ho with rfl | ho
        · exact lt_of_le_of_ne (not_lt.mp hlt) (Ne.symm hne)
        · exact hfirst other ho

theorem pairwise_list (start : String) (s : MemoryStore) : (s.list start).Pairwise (· < ·) := by
  obtain ⟨entries⟩ := s
  rw [list]
  induction entries with
  | nil => exact .nil
  | cons entry entries ih =>
    rw [List.foldr_cons]
    split
    · exact pairwise_insertName ih
    · exact ih

theorem mem_list : name ∈ s.list start ↔ ∃ key, s.Has key ∧ Leads start name key := by
  have hentry : name ∈ s.list start ↔ ∃ entry ∈ s.entries, Leads start name entry.1 := by
    obtain ⟨entries⟩ := s
    rw [list]
    induction entries with
    | nil => simp
    | cons entry entries ih =>
      rw [List.foldr_cons, List.exists_mem_cons_iff, ← ih, ← child?_eq_some]
      split
      · rename_i other ho
        rw [mem_insertName, ho, Option.some.injEq, ← String.toList_inj, String.toList_ofList, eq_comm]
      · rename_i hnone
        rw [hnone]
        simp
  rw [hentry]
  constructor
  · rintro ⟨entry, hm, hl⟩
    exact ⟨entry.1, has_iff.mpr ⟨entry, hm, rfl⟩, hl⟩
  · rintro ⟨key, hk, hl⟩
    obtain ⟨entry, hm, rfl⟩ := has_iff.mp hk
    exact ⟨entry, hm, hl⟩

theorem mem_list_iff : name ∈ s.list start ↔
    ('/' ∉ name.toList ∧ s.Has (start ++ name)) ∨
      ∃ level, name = level ++ "/" ∧ '/' ∉ level.toList ∧ ∃ more, s.Has (start ++ name ++ more) := by
  rw [mem_list]
  constructor
  · rintro ⟨key, hk, hl⟩
    cases hl with
    | entry plain => exact .inl ⟨plain, hk⟩
    | level plain more => exact .inr ⟨_, rfl, plain, more, hk⟩
  · rintro (⟨plain, hk⟩ | ⟨level, rfl, plain, more, hk⟩)
    · exact ⟨_, hk, .entry plain⟩
    · exact ⟨_, hk, .level plain more⟩

theorem nodup_list (start : String) (s : MemoryStore) : (s.list start).Nodup :=
  (pairwise_list start s).imp ne_of_lt

def extent (s : MemoryStore) : Nat :=
  (s.entries.map fun entry => entry.1.length).max?.getD 0

theorem length_le_extent (hk : s.Has key) : key.length ≤ s.extent := by
  obtain ⟨entry, hm, rfl⟩ := has_iff.mp hk
  exact List.le_max?_getD_of_mem (List.mem_map_of_mem hm)

theorem extent_descends (hn : name ∈ s.list start) (hl : isLevel name = true) :
    s.extent - (start ++ name).length < s.extent - start.length := by
  obtain ⟨key, hk, hleads⟩ := mem_list.mp hn
  have hextent := length_le_extent hk
  cases hleads with
  | entry plain => simp [isLevel_of_plain plain] at hl
  | level plain more =>
    simp only [String.length_append] at hextent ⊢
    have hslash : "/".length = 1 := rfl
    omega

def walk (start : String) (s : MemoryStore) : List String :=
  (s.list start).attach.flatMap fun ⟨name, _⟩ =>
    if _hl : isLevel name then walk (start ++ name) s else [start ++ name]
termination_by s.extent - start.length
decreasing_by
  exact extent_descends ‹_› ‹_›

def found (start : String) (s : MemoryStore) (name : String) : List String :=
  if isLevel name then s.walk (start ++ name) else [start ++ name]

theorem walk_eq (start : String) (s : MemoryStore) : s.walk start = (s.list start).flatMap (found start s) := by
  have hfound : ∀ name (_ : name ∈ s.list start),
      (if _hl : isLevel name then s.walk (start ++ name) else [start ++ name]) = found start s name :=
    fun _ _ => dite_eq_ite
  rw [walk, List.flatMap_subtype hfound, List.unattach_attach]

theorem mem_found (hn : name ∈ s.list start)
    (hw : isLevel name = true → ∀ key, key ∈ s.walk (start ++ name) ↔ s.Has key ∧ ∃ more, key = start ++ name ++ more) :
    key ∈ found start s name ↔ s.Has key ∧ Leads start name key := by
  obtain ⟨there, hthere, hl⟩ := mem_list.mp hn
  cases hl with
  | entry plain =>
    rw [found, isLevel_of_plain plain, if_neg Bool.false_ne_true, List.mem_singleton, leads_entry_iff plain]
    exact ⟨fun hk => ⟨hk ▸ hthere, hk⟩, And.right⟩
  | @level level plain more =>
    rw [found, if_pos (isLevel_append level), hw (isLevel_append level), leads_level_iff plain]

theorem mem_walk : key ∈ s.walk start ↔ s.Has key ∧ ∃ more, key = start ++ more := by
  -- Every key from `start` on lies under the one name that leads to it, where the walk below finds it.
  induction start using walk.induct s generalizing key with
  | case1 start ih =>
    rw [walk_eq, List.mem_flatMap]
    constructor
    · rintro ⟨name, hn, hk⟩
      obtain ⟨has, hl⟩ := (mem_found hn fun hlevel key => ih name hn hlevel).mp hk
      exact ⟨has, hl.starts⟩
    · rintro ⟨has, more, rfl⟩
      obtain ⟨name, hl⟩ := exists_leads start more
      have hn : name ∈ s.list start := mem_list.mpr ⟨_, has, hl⟩
      exact ⟨name, hn, (mem_found hn fun hlevel key => ih name hn hlevel).mpr ⟨has, hl⟩⟩

theorem nodup_walk (start : String) (s : MemoryStore) : (s.walk start).Nodup := by
  induction start using walk.induct s with
  | case1 start ih =>
    have leads {name key : String} (hn : name ∈ s.list start) (hk : key ∈ found start s name) :
        Leads start name key :=
      ((mem_found hn fun _ _ => mem_walk).mp hk).2
    rw [walk_eq, List.nodup_flatMap]
    constructor
    · intro name hn
      unfold found
      split
      · rename_i hlevel
        exact ih name hn hlevel
      · exact List.nodup_singleton _
    · apply (nodup_list start s).pairwise_of_forall_ne
      intro name hn other ho hne key hk hk'
      exact hne ((leads hn hk).unique (leads ho hk'))

/-- A listing is in the order of octets and shows the rest of each key up to its first slash. Walking on through the
levels shown comes to every key that starts with the text, once, and to nothing else. -/
theorem lists_children (start : String) (s : MemoryStore) :
    (s.list start).Pairwise (fun name other => Text.Utf8.encode name < Text.Utf8.encode other) ∧
      (∀ name, name ∈ s.list start ↔
        ('/' ∉ name.toList ∧ s.Has (start ++ name)) ∨
          ∃ level, name = level ++ "/" ∧ '/' ∉ level.toList ∧ ∃ more, s.Has (start ++ name ++ more)) ∧
      (s.walk start = (s.list start).flatMap fun name =>
        if isLevel name then s.walk (start ++ name) else [start ++ name]) ∧
      (s.walk start).Nodup ∧ ∀ key, key ∈ s.walk start ↔ s.Has key ∧ ∃ more, key = start ++ more :=
  ⟨(pairwise_list start s).imp Text.Utf8.encode_lt_iff.mpr, fun _ => mem_list_iff, walk_eq start s, nodup_walk start s,
    fun _ => mem_walk⟩

example : (⟨[("a//b", []), ("a/", []), ("/a", []), ("", []), ("a", []), ("a/b/c", [])]⟩ : MemoryStore).list "a" =
    ["", "/"] := by decide

end CertEnroll.MemoryStore
