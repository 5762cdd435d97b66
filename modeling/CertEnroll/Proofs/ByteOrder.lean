import CertEnroll.Proofs.Texts

namespace CertEnroll.Text.Utf8

theorem cons_lt_cons {a b : UInt8} {as bs : List UInt8} :
    a :: as < b :: bs ↔ a.toNat < b.toNat ∨ a.toNat = b.toNat ∧ as < bs := by
  rw [List.cons_lt_cons_iff, UInt8.lt_iff_toNat_lt, UInt8.toNat_inj]

theorem append_lt_append {as bs : List UInt8} (hl : as.length = bs.length) (h : as < bs) (after after' : List UInt8) :
    as ++ after < bs ++ after' := by
  induction as generalizing bs with
  | nil =>
    obtain rfl := List.eq_nil_of_length_eq_zero hl.symm
    exact absurd h (List.not_lt_nil _)
  | cons a as ih =>
    obtain ⟨b, bs, rfl⟩ := List.exists_cons_of_length_eq_add_one hl.symm
    rw [List.cons_append, List.cons_append, cons_lt_cons]
    rcases cons_lt_cons.mp h with hab | ⟨hab, h⟩
    · exact .inl hab
    · exact .inr ⟨hab, ih (Nat.succ.inj hl) h⟩

theorem ofNat_cons_lt_cons {a b : Nat} (as bs : List UInt8) (hab : a < b) (hb : b < 256) :
    UInt8.ofNat a :: as < UInt8.ofNat b :: bs := by
  refine cons_lt_cons.mpr (.inl ?_)
  rw [UInt8.toNat_ofNat', UInt8.toNat_ofNat', Nat.mod_eq_of_lt (hab.trans hb), Nat.mod_eq_of_lt hb]
  exact hab

theorem utf8EncodeChar_lt {c d : Char} (hcd : c < d) (after after' : List UInt8) :
    String.utf8EncodeChar c ++ after < String.utf8EncodeChar d ++ after' := by
  have hlt : c.val.toNat < d.val.toNat := Char.lt_def.mp hcd
  have hc : c.val.toNat < 0x110000 := toNat_lt_max c
  have hd : d.val.toNat < 0x110000 := toNat_lt_max d
  simp only [String.utf8EncodeChar]
  generalize c.val.toNat = m at *
  generalize d.val.toNat = n at *
  have head {a b : Nat} (as bs : List UInt8) (hab : a < b) (hb : b < 256) :
      UInt8.ofNat a :: as ++ after < UInt8.ofNat b :: bs ++ after' :=
    ofNat_cons_lt_cons _ _ hab hb
  have same {as bs : List UInt8} (hl : as.length = bs.length) (h : as < bs) : as ++ after < bs ++ after' :=
    append_lt_append hl h after after'
  -- More octets start with a greater one; of as many, the first digit to the base 64 that differs decides.
  by_cases hm₁ : m ≤ 127
  · rw [if_pos hm₁]
    by_cases hn₁ : n ≤ 127
    · rw [if_pos hn₁]
      exact head _ _ hlt (by omega)
    · rw [if_neg hn₁]
      split
      · exact head _ _ (by omega) (by omega)
      · split <;> exact head _ _ (by omega) (by omega)
  rw [if_neg hm₁, if_neg (show ¬ n ≤ 127 by omega)]
  by_cases hm₂ : m ≤ 2047
  · rw [if_pos hm₂]
    by_cases hn₂ : n ≤ 2047
    · rw [if_pos hn₂]
      refine same ?_ ?_
      · rfl
      · simp only [cons_lt_cons, UInt8.toNat_ofNat', List.not_lt_nil, and_false, or_false]
        omega
    · rw [if_neg hn₂]
      split <;> exact head _ _ (by omega) (by omega)
  rw [if_neg hm₂, if_neg (show ¬ n ≤ 2047 by omega)]
  by_cases hm₃ : m ≤ 65535
  · rw [if_pos hm₃]
    by_cases hn₃ : n ≤ 65535
    · rw [if_pos hn₃]
      refine same ?_ ?_
      · rfl
      · simp only [cons_lt_cons, UInt8.toNat_ofNat', List.not_lt_nil, and_false, or_false]
        omega
    · rw [if_neg hn₃]
      exact head _ _ (by omega) (by omega)
  rw [if_neg hm₃, if_neg (show ¬ n ≤ 65535 by omega)]
  refine same ?_ ?_
  · rfl
  · have tail (k : Nat) : (k % 64 + 128) % 256 = k % 64 + 128 := by omega
    have hthird (k : Nat) : k / 64 / 64 = k / 4096 := Nat.div_div_eq_div_mul k 64 64
    have hsecond (k : Nat) : k / 4096 / 64 = k / 262144 := Nat.div_div_eq_div_mul k 4096 64
    simp only [cons_lt_cons, UInt8.toNat_ofNat', List.not_lt_nil, and_false, or_false, tail, ← hsecond, ← hthird]
    omega

theorem octetsOf_cons (c : Char) (cs : List Char) : octetsOf (c :: cs) = String.utf8EncodeChar c ++ octetsOf cs :=
  List.flatMap_cons

theorem octetsOf_lt {cs ds : List Char} (h : cs < ds) : octetsOf cs < octetsOf ds := by
  induction cs generalizing ds with
  | nil =>
    cases ds with
    | nil => exact absurd h (List.not_lt_nil _)
    | cons d ds =>
      obtain ⟨b, more, hb⟩ := List.exists_cons_of_ne_nil (String.utf8EncodeChar_ne_nil (c := d))
      rw [octetsOf_cons, hb]
      exact List.nil_lt_cons _ _
  | cons c cs ih =>
    cases ds with
    | nil => exact absurd h (List.not_lt_nil _)
    | cons d ds =>
      rw [octetsOf_cons, octetsOf_cons]
      rcases List.cons_lt_cons_iff.mp h with hcd | ⟨rfl, htail⟩
      · exact utf8EncodeChar_lt hcd _ _
      · exact List.append_left_lt (ih htail)

theorem encode_lt_iff {s t : String} : encode s < encode t ↔ s < t := by
  have hforward {s t : String} (h : s < t) : encode s < encode t := by
    rw [← octetsOf_toList, ← octetsOf_toList]
    exact octetsOf_lt (String.lt_iff.mp h)
  constructor
  · intro h
    by_contra hst
    have hle : t ≤ s := String.not_lt.mp hst
    by_cases hts : t < s
    · exact List.lt_asymm (hforward hts) h
    · obtain rfl := String.le_antisymm hle (String.not_lt.mp hts)
      exact List.lt_irrefl _ h
  · exact hforward

theorem encode_le_iff {s t : String} : encode s ≤ encode t ↔ s ≤ t := by
  rw [← String.not_lt, ← List.not_lt, encode_lt_iff]

end CertEnroll.Text.Utf8
