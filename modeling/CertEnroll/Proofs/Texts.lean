import CertEnroll.SubjectNames
import CertEnroll.Text.Utf8
import Mathlib.Data.List.DropRight

namespace CertEnroll.Text

theorem splitChars_eq_splitOn (sep : Char) (cs : List Char) : splitChars sep cs = cs.splitOn sep := by
  induction cs with
  | nil => rfl
  | cons c cs ih =>
    rw [splitChars, List.splitOn_cons_eq_if_modifyHead, ih]
    by_cases hc : c = sep
    · simp [hc]
    · rw [if_neg hc, beq_false_of_ne hc, if_neg Bool.false_ne_true]
      obtain ⟨piece, pieces, hs⟩ := List.exists_cons_of_ne_nil (List.splitOn_ne_nil sep cs)
      rw [hs]
      rfl

theorem not_mem_of_mem_splitOn {sep : Char} {cs piece : List Char} (hp : piece ∈ cs.splitOn sep) :
    sep ∉ piece := by
  induction cs generalizing piece with
  | nil => simp_all
  | cons c cs ih =>
    rw [List.splitOn_cons_eq_if_modifyHead] at hp
    split at hp
    · rcases List.mem_cons.mp hp with rfl | hp
      · exact List.not_mem_nil
      · exact ih hp
    · rename_i hc
      cases hs : cs.splitOn sep with
      | nil => simp [hs] at hp
      | cons first rest =>
        rw [hs, List.modifyHead_cons, List.mem_cons] at hp
        rcases hp with rfl | hp
        · have hfirst : sep ∉ first := ih (hs ▸ List.mem_cons_self)
          have hne : sep ≠ c := fun h => hc (by simp [h])
          simp [hne, hfirst]
        · exact ih (hs ▸ List.mem_cons_of_mem _ hp)

theorem split_intercalate {sep : Char} {names : List String} (hne : names ≠ [])
    (hs : ∀ name ∈ names, sep ∉ name.toList) :
    split sep ((String.singleton sep).intercalate names) = names := by
  rw [split, splitChars_eq_splitOn, String.toList_intercalate, String.toList_singleton,
    List.splitOn_intercalate]
  · simp
  · simpa using hs
  · simpa using hne

theorem not_mem_of_mem_split {sep : Char} {text piece : String} (hp : piece ∈ split sep text) :
    sep ∉ piece.toList := by
  rw [split, splitChars_eq_splitOn, List.mem_map] at hp
  obtain ⟨cs, hcs, rfl⟩ := hp
  rw [String.toList_ofList]
  exact not_mem_of_mem_splitOn hcs

theorem dropEndWhile_eq_rdropWhile (p : Char → Bool) (cs : List Char) :
    dropEndWhile p cs = cs.rdropWhile p :=
  rfl

theorem prefix_trimChars (cs : List Char) : trimChars cs <+: cs.dropWhile isBlank := by
  rw [trimChars, dropEndWhile_eq_rdropWhile]
  exact List.rdropWhile_prefix isBlank _

theorem mem_of_mem_trim {c : Char} {text : String} (hc : c ∈ (trim text).toList) : c ∈ text.toList := by
  rw [trim, String.toList_ofList] at hc
  exact (List.dropWhile_suffix isBlank).subset ((prefix_trimChars _).subset hc)

theorem dropWhile_trimChars (cs : List Char) : (trimChars cs).dropWhile isBlank = trimChars cs := by
  obtain ⟨rest, hrest⟩ := prefix_trimChars cs
  cases ht : trimChars cs with
  | nil => rfl
  | cons c tail =>
    -- What is left starts where blanks were passed over, so not with one.
    rw [ht, List.cons_append] at hrest
    have := List.head?_dropWhile_not isBlank cs
    rw [← hrest, List.head?_cons] at this
    rw [List.dropWhile_cons_of_neg (by simpa using this)]

@[simp] theorem trim_trim (text : String) : trim (trim text) = trim text := by
  have h : trimChars (trimChars text.toList) = trimChars text.toList := by
    conv_lhs => rw [trimChars, dropWhile_trimChars, trimChars]
    rw [dropEndWhile_eq_rdropWhile, dropEndWhile_eq_rdropWhile, List.rdropWhile_idempotent,
      ← dropEndWhile_eq_rdropWhile, ← trimChars]
  simp only [trim, String.toList_ofList, h]

theorem trimChars_append_blank {first blank : Char} {rest : List Char} (hf : isBlank first = false)
    (hl : isBlank ((first :: rest).getLast (List.cons_ne_nil _ _)) = false) (hb : isBlank blank = true) :
    trimChars (first :: rest ++ [blank]) = first :: rest := by
  have hdrop : (first :: rest ++ [blank]).dropWhile isBlank = first :: rest ++ [blank] :=
    List.dropWhile_cons_of_neg (by simp [hf])
  rw [trimChars, hdrop, dropEndWhile_eq_rdropWhile, List.rdropWhile_concat_pos _ _ _ hb,
    List.rdropWhile_eq_self_iff]
  exact fun _ => by simp [hl]

end CertEnroll.Text

namespace CertEnroll.SubjectNames

theorem mem_distinct {name : String} {names : List String} : name ∈ distinct names ↔ name ∈ names := by
  induction names with
  | nil => rfl
  | cons first names ih =>
    simp only [distinct, List.mem_cons, List.mem_filter, ih, decide_eq_true_eq]
    by_cases hn : name = first <;> simp [hn]

theorem mem_tidy {name : String} {names : List String} (hn : name ∈ tidy names) :
    Text.trim name = name ∧ name ≠ "" := by
  rw [tidy, mem_distinct, List.mem_filter, List.mem_map] at hn
  obtain ⟨⟨raw, -, rfl⟩, hne⟩ := hn
  exact ⟨Text.trim_trim raw, by simpa using hne⟩

theorem normalize_eq_ok {commonName : String} {altNames : List String} {names : SubjectNames}
    (h : normalize commonName altNames = .ok names) :
    Text.trim names.commonName = names.commonName ∧ names.commonName ≠ "" ∧
      names.altNames = if names.commonName ∈ tidy altNames then tidy altNames
        else tidy altNames ++ [names.commonName] := by
  dsimp only [normalize] at h
  split at h
  · cases h
  · rename_i _ first rest hcn ht
    cases h
    obtain ⟨htrim, hne⟩ := mem_tidy (ht ▸ List.mem_cons_self : first ∈ tidy altNames)
    exact ⟨htrim, hne, rfl⟩
  · rename_i hblank hcn
    cases h
    refine ⟨Text.trim_trim commonName, ?_, rfl⟩
    intro he
    cases ht : tidy altNames with
    | nil => exact hblank he ht
    | cons first rest => exact hcn first rest he ht

theorem mem_of_normalize {commonName : String} {altNames : List String} {names : SubjectNames}
    (h : normalize commonName altNames = .ok names) :
    names.commonName ∈ names.altNames ∧
      ∀ name ∈ names.altNames, Text.trim name = name ∧ name ≠ "" := by
  obtain ⟨htrim, hne, halt⟩ := normalize_eq_ok h
  rw [halt]
  split
  · rename_i hmem
    exact ⟨hmem, fun name hn => mem_tidy hn⟩
  · refine ⟨by simp, fun name hn => ?_⟩
    rcases List.mem_append.mp hn with hn | hn
    · exact mem_tidy hn
    · rw [List.mem_singleton.mp hn]
      exact ⟨htrim, hne⟩

theorem parseAltNames_intercalate {names : List String} (hne : names ≠ [])
    (hn : ∀ name ∈ names, Text.trim name = name ∧ name ≠ "") :
    parseAltNames (",".intercalate names) = names ↔ ∀ name ∈ names, ',' ∉ name.toList := by
  constructor
  · intro h name hmem
    rw [← h, parseAltNames, List.mem_filter, List.mem_map] at hmem
    obtain ⟨⟨piece, hp, rfl⟩, -⟩ := hmem
    exact fun hc => Text.not_mem_of_mem_split hp (Text.mem_of_mem_trim hc)
  · intro h
    have hcomma : "," = String.singleton ',' := rfl
    rw [parseAltNames, hcomma, Text.split_intercalate hne h, List.map_congr_left (g := id), List.map_id,
      List.filter_eq_self]
    · exact fun name hmem => by simpa using (hn name hmem).2
    · exact fun name hmem => (hn name hmem).1

end CertEnroll.SubjectNames

namespace CertEnroll.Text.Utf8

def octetsOf (cs : List Char) : List UInt8 :=
  cs.flatMap String.utf8EncodeChar

theorem encode_ofList (cs : List Char) : encode (String.ofList cs) = octetsOf cs := by
  rw [encode, String.toByteArray_ofList, List.utf8Encode, List.toList_data_toByteArray]
  rfl

theorem octetsOf_toList (s : String) : octetsOf s.toList = encode s := by
  rw [← encode_ofList, String.ofList_toList]

theorem octetsOf_append (cs cs' : List Char) : octetsOf (cs ++ cs') = octetsOf cs ++ octetsOf cs' :=
  List.flatMap_append

theorem utf8EncodeChar_of_lt {c : Char} (hc : c.toNat < 128) : String.utf8EncodeChar c = [UInt8.ofNat c.toNat] :=
  if_pos (Nat.le_of_lt_succ hc)

theorem toNat_lt_max (c : Char) : c.toNat < 0x110000 := by
  have hvalid : UInt32.isValidChar c.val := c.valid
  simp only [UInt32.isValidChar, Nat.isValidChar] at hvalid
  change c.val.toNat < 0x110000
  omega

theorem le_of_mem_utf8EncodeChar {c : Char} (hc : 128 ≤ c.toNat) :
    ∀ b ∈ String.utf8EncodeChar c, 128 ≤ b.toNat := by
  have hval : c.val.toNat = c.toNat := rfl
  have hlt := toNat_lt_max c
  simp only [String.utf8EncodeChar, hval]
  rw [if_neg (by omega)]
  split
  · simp only [List.forall_mem_cons, UInt8.toNat_ofNat', List.not_mem_nil, false_implies, implies_true, and_true]
    omega
  · split <;>
      simp only [List.forall_mem_cons, UInt8.toNat_ofNat', List.not_mem_nil, false_implies, implies_true, and_true] <;>
      omega

end CertEnroll.Text.Utf8
