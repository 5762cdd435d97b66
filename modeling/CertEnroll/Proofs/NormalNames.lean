import CertEnroll.Proofs.Texts
import Mathlib.Data.List.Nodup

namespace CertEnroll.Text

def Blank (text : String) : Prop :=
  ∀ c ∈ text.toList, isBlank c = true

def Trimmed (text : String) : Prop :=
  ∀ c, text.toList.head? = some c ∨ text.toList.getLast? = some c → isBlank c = false

theorem trimmed_trim (text : String) : Trimmed (trim text) := by
  intro c hc
  rw [trim, String.toList_ofList] at hc
  rcases hc with hfirst | hlast
  · have hhead := List.head?_dropWhile_not isBlank (trimChars text.toList)
    rw [dropWhile_trimChars, hfirst] at hhead
    exact hhead
  · rw [trimChars, dropEndWhile_eq_rdropWhile] at hlast
    have hne : (text.toList.dropWhile isBlank).rdropWhile isBlank ≠ [] := fun he => by simp [he] at hlast
    rw [List.getLast?_eq_some_getLast hne, Option.some.injEq] at hlast
    simpa [hlast] using List.rdropWhile_last_not isBlank _ hne

theorem Trimmed.trim_eq {text : String} (h : Trimmed text) : trim text = text := by
  have hfirst : text.toList.dropWhile isBlank = text.toList := by
    rw [List.dropWhile_eq_self_iff]
    intro hlength
    rw [h _ (.inl (List.head?_eq_getElem? .. ▸ List.getElem?_eq_getElem hlength))]
    exact Bool.false_ne_true
  have hlast : text.toList.rdropWhile isBlank = text.toList := by
    rw [List.rdropWhile_eq_self_iff]
    intro hne
    rw [h _ (.inr (List.getLast?_eq_some_getLast hne))]
    exact Bool.false_ne_true
  rw [trim, trimChars, hfirst, dropEndWhile_eq_rdropWhile, hlast, String.ofList_toList]

theorem trim_eq_empty {text : String} : trim text = "" ↔ Blank text := by
  have hempty : trim text = "" ↔ trimChars text.toList = [] := by
    rw [trim, ← String.toList_inj, String.toList_ofList]
    rfl
  rw [hempty, trimChars, dropEndWhile_eq_rdropWhile, List.rdropWhile_eq_nil_iff]
  constructor
  · intro hall
    cases hrest : text.toList.dropWhile isBlank with
    | nil => exact List.dropWhile_eq_nil_iff.mp hrest
    | cons c rest =>
      -- What is left after the first blanks starts with a character that is none.
      have hhead := List.head?_dropWhile_not isBlank text.toList
      rw [hrest] at hall hhead
      exact absurd (hall c List.mem_cons_self) (by simpa using hhead)
  · intro hall c hc
    exact hall c ((List.dropWhile_suffix isBlank).subset hc)

end CertEnroll.Text

namespace CertEnroll.SubjectNames

structure FirstSeen (texts names : List String) : Prop where
  mem_iff : ∀ name, name ∈ names ↔ name ∈ texts
  ordered : names.Pairwise fun a b => texts.idxOf a < texts.idxOf b

theorem FirstSeen.nodup {texts names : List String} (h : FirstSeen texts names) : names.Nodup := by
  apply h.ordered.imp
  rintro a _ hlt rfl
  exact Nat.lt_irrefl _ hlt

theorem firstSeen_distinct (texts : List String) : FirstSeen texts (distinct texts) := by
  refine ⟨fun name => mem_distinct, ?_⟩
  induction texts with
  | nil => exact List.Pairwise.nil
  | cons first texts ih =>
    rw [distinct, List.pairwise_cons]
    constructor
    · intro name hn
      have hne : first ≠ name := Ne.symm (by simpa using (List.mem_filter.mp hn).2)
      rw [List.idxOf_cons_self, List.idxOf_cons_ne _ hne]
      exact Nat.succ_pos _
    · rw [List.pairwise_filter]
      apply ih.imp
      intro a b hlt ha hb
      have ha : first ≠ a := Ne.symm (by simpa using ha)
      have hb : first ≠ b := Ne.symm (by simpa using hb)
      rw [List.idxOf_cons_ne _ ha, List.idxOf_cons_ne _ hb]
      exact Nat.succ_lt_succ hlt

theorem distinct_of_nodup {names : List String} (hn : names.Nodup) : distinct names = names := by
  induction names with
  | nil => rfl
  | cons first names ih =>
    obtain ⟨hfirst, hn⟩ := List.nodup_cons.mp hn
    rw [distinct, ih hn, List.filter_eq_self.mpr]
    intro name hm
    simpa using fun he : name = first => hfirst (he ▸ hm)

theorem tidy_of_normal {names : List String} (hn : names.Nodup)
    (hnormal : ∀ name ∈ names, Text.trim name = name ∧ name ≠ "") : tidy names = names := by
  have htrim : names.map Text.trim = names := by
    rw [List.map_congr_left fun name hm => (hnormal name hm).1]
    exact List.map_id' names
  rw [tidy, htrim, List.filter_eq_self.mpr fun name hm => by simpa using (hnormal name hm).2]
  exact distinct_of_nodup hn

def given (names : List String) : List String :=
  (names.map Text.trim).filter (· ≠ "")

theorem given_eq_nil {names : List String} : given names = [] ↔ ∀ name ∈ names, Text.Blank name := by
  simp [given, List.filter_eq_nil_iff, Text.trim_eq_empty]

theorem firstSeen_tidy (names : List String) : FirstSeen (given names) (tidy names) :=
  firstSeen_distinct (given names)

theorem tidy_eq_nil {names : List String} : tidy names = [] ↔ ∀ name ∈ names, Text.Blank name := by
  rw [← given_eq_nil, List.eq_nil_iff_forall_not_mem, List.eq_nil_iff_forall_not_mem]
  simp only [(firstSeen_tidy names).mem_iff]

structure Normal (commonName : String) (altNames : List String) (names : SubjectNames) : Prop where
  listed : ∃ first, FirstSeen (given altNames) first ∧
    names.altNames = (if names.commonName ∈ first then first else first ++ [names.commonName]) ∧
    (Text.Blank commonName → first.head? = some names.commonName)
  kept : ¬ Text.Blank commonName → names.commonName = Text.trim commonName
  once : names.altNames.count names.commonName = 1
  entries : ∀ name ∈ names.altNames, ¬ Text.Blank name ∧ Text.Trimmed name

def NothingGiven (commonName : String) (altNames : List String) : Prop :=
  Text.Blank commonName ∧ ∀ name ∈ altNames, Text.Blank name

variable {commonName : String} {altNames : List String} {names : SubjectNames}

theorem normalize_nothing (h : NothingGiven commonName altNames) :
    normalize commonName altNames = .error (.invalidRequest "no domains specified on certificate") := by
  simp only [normalize, Text.trim_eq_empty.mpr h.1, tidy_eq_nil.mpr h.2]

theorem normalize_given (h : ¬ NothingGiven commonName altNames) :
    ∃ names, normalize commonName altNames = .ok names ∧
      (Text.Blank commonName → (tidy altNames).head? = some names.commonName) ∧
      (¬ Text.Blank commonName → names.commonName = Text.trim commonName) := by
  by_cases hc : Text.trim commonName = ""
  · have hblank := Text.trim_eq_empty.mp hc
    cases ht : tidy altNames with
    | nil => exact absurd ⟨hblank, tidy_eq_nil.mp ht⟩ h
    | cons first rest =>
      simp only [normalize, hc, ht]
      exact ⟨_, rfl, fun _ => rfl, fun hne => absurd hblank hne⟩
  · have hgiven : ¬ Text.Blank commonName := fun hb => hc (Text.trim_eq_empty.mpr hb)
    dsimp only [normalize]
    split
    · exact absurd ‹_› hc
    · exact absurd ‹_› hc
    · exact ⟨_, rfl, fun hb => absurd hb hgiven, fun _ => rfl⟩

theorem nodup_of_normalize (h : normalize commonName altNames = .ok names) : names.altNames.Nodup := by
  obtain ⟨-, -, halt⟩ := normalize_eq_ok h
  have hn := (firstSeen_tidy altNames).nodup
  rw [halt]
  split
  · exact hn
  · rename_i hm
    apply List.nodup_append.mpr
    refine ⟨hn, List.nodup_singleton _, ?_⟩
    rintro name hname _ hlast rfl
    exact hm (List.mem_singleton.mp hlast ▸ hname)

theorem not_blank {name : String} (htrim : Text.trim name = name) (hne : name ≠ "") : ¬ Text.Blank name := by
  intro hb
  rw [Text.trim_eq_empty.mpr hb] at htrim
  exact hne htrim.symm

theorem normalize_again (h : normalize commonName altNames = .ok names) :
    normalize names.commonName names.altNames = .ok names := by
  obtain ⟨htrim, hne, -⟩ := normalize_eq_ok h
  obtain ⟨hmem, hentries⟩ := mem_of_normalize h
  have htidy := tidy_of_normal (nodup_of_normalize h) hentries
  have hgiven := not_blank htrim hne
  obtain ⟨names', h', -, hkept⟩ := normalize_given fun hb : NothingGiven _ _ => hgiven hb.1
  have hcommon : names'.commonName = names.commonName := by rw [hkept hgiven, htrim]
  obtain ⟨-, -, halt⟩ := normalize_eq_ok h'
  rw [htidy, hcommon, if_pos hmem] at halt
  have hsame : names' = names := by
    obtain ⟨commonName', altNames'⟩ := names'
    rw [SubjectNames.mk.injEq]
    exact ⟨hcommon, halt⟩
  rw [h', hsame]

theorem normal_of_normalize (h : normalize commonName altNames = .ok names)
    (hpromoted : Text.Blank commonName → (tidy altNames).head? = some names.commonName)
    (hkept : ¬ Text.Blank commonName → names.commonName = Text.trim commonName) :
    Normal commonName altNames names := by
  obtain ⟨-, -, halt⟩ := normalize_eq_ok h
  obtain ⟨hmem, hentries⟩ := mem_of_normalize h
  refine ⟨⟨tidy altNames, firstSeen_tidy altNames, halt, hpromoted⟩, hkept, ?_, ?_⟩
  · exact List.count_eq_one_of_mem (nodup_of_normalize h) hmem
  · intro name hm
    obtain ⟨htrim, hne⟩ := hentries name hm
    exact ⟨not_blank htrim hne, htrim ▸ Text.trimmed_trim name⟩

/-- Names are normalised unless there is none, and normalising them once more changes nothing. -/
theorem normalizes_names (commonName : String) (altNames : List String) :
    (NothingGiven commonName altNames →
      normalize commonName altNames = .error (.invalidRequest "no domains specified on certificate")) ∧
    (¬ NothingGiven commonName altNames →
      ∃ names, normalize commonName altNames = .ok names ∧ Normal commonName altNames names ∧
        normalize names.commonName names.altNames = .ok names) := by
  refine ⟨normalize_nothing, fun hgiven => ?_⟩
  obtain ⟨names, h, hpromoted, hkept⟩ := normalize_given hgiven
  exact ⟨names, h, normal_of_normalize h hpromoted hkept, normalize_again h⟩

theorem normalizes_names_promoted :
    normalize " " [" b", "a", "\u2003b\n"] = .ok ⟨"b", ["b", "a"]⟩ ∧
      Normal " " [" b", "a", "\u2003b\n"] ⟨"b", ["b", "a"]⟩ := by
  have hgiven : ¬ NothingGiven " " [" b", "a", "\u2003b\n"] := by
    intro h
    have hblank : Text.Blank "a" := h.2 "a" (by simp)
    exact absurd (hblank 'a' (by simp)) (by decide)
  obtain ⟨names, h, hnormal, -⟩ := (normalizes_names " " [" b", "a", "\u2003b\n"]).2 hgiven
  have hvalue : normalize " " [" b", "a", "\u2003b\n"] = .ok ⟨"b", ["b", "a"]⟩ := by decide
  obtain rfl := Except.ok.inj (h.symm.trans hvalue)
  exact ⟨hvalue, hnormal⟩

end CertEnroll.SubjectNames
