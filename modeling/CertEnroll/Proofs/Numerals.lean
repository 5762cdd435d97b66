import CertEnroll.Json.Number
import CertEnroll.Proofs.Texts
import Mathlib.Data.List.TakeWhile

namespace CertEnroll.Json

open Text.Utf8 (octetsOf)

def EndsNumber (rest : List UInt8) : Prop :=
  ∀ b ∈ rest.head?, isDigit b = false ∧ b ≠ 0x2e ∧ isExponentLetter b = false

theorem endsNumber_nil : EndsNumber [] := nofun

theorem endsNumber_cons {b : UInt8} (hb : isDigit b = false ∧ b ≠ 0x2e ∧ isExponentLetter b = false)
    (rest : List UInt8) : EndsNumber (b :: rest) := by
  intro c hc
  rw [List.head?_cons, Option.mem_some] at hc
  exact hc ▸ hb

def numeral (n : Nat) : List UInt8 :=
  (Nat.toDigits 10 n).map fun c => UInt8.ofNat c.toNat

variable {n : Nat} {rest : List UInt8}

theorem digit_range {c : Char} (hc : c ∈ Nat.toDigits 10 n) : 48 ≤ c.toNat ∧ c.toNat ≤ 57 := by
  have h := Nat.isDigit_of_mem_toDigits (by decide) (by decide) hc
  simpa [Char.isDigit, UInt32.le_iff_toNat_le] using h

theorem octetsOf_integer (n : Nat) : octetsOf (scalar (.integer n)) = numeral n := by
  have hscalar : scalar (.integer n) = Nat.toDigits 10 n := by
    simp [scalar, Int.repr_eq_if, Nat.toList_repr]
  rw [hscalar, octetsOf, numeral, List.map_eq_flatMap]
  apply List.flatMap_congr
  intro c hc
  have hrange := digit_range hc
  exact Text.Utf8.utf8EncodeChar_of_lt (by omega)

theorem isDigit_of_mem_numeral : ∀ b ∈ numeral n, isDigit b = true := by
  intro b hb
  obtain ⟨c, hc, rfl⟩ := List.mem_map.mp hb
  have hrange := digit_range hc
  simp only [isDigit, UInt8.toNat_ofNat', Bool.and_eq_true, decide_eq_true_eq]
  omega

theorem numeral_ne_nil (n : Nat) : numeral n ≠ [] := by
  simp [numeral, Nat.toDigits_ne_nil]

theorem digitsValue_numeral (n : Nat) : digitsValue (numeral n) = n := by
  have hfold : digitsValue (numeral n) = Nat.ofDigitChars 10 (Nat.toDigits 10 n) 0 := by
    rw [digitsValue, numeral, List.foldl_map, Nat.ofDigitChars_eq_foldl]
    apply List.foldl_ext
    intro m c hc
    have hrange := digit_range hc
    rw [digitOf, UInt8.toNat_ofNat', Nat.mod_eq_of_lt (by omega)]
    rfl
  rw [hfold, Nat.ofDigitChars_ten_toDigits]

theorem digitChar_ne_zero : ∀ n < 10, 0 < n → UInt8.ofNat n.digitChar.toNat ≠ 0x30 := by decide

theorem head?_numeral (hn : 0 < n) : (numeral n).head? ≠ some 0x30 := by
  induction n using Nat.strongRecOn with
  | ind n ih =>
    by_cases ht : n < 10
    · rw [numeral, Nat.toDigits_of_lt_base ht]
      simpa using digitChar_ne_zero n ht hn
    · have hrec : numeral n = numeral (n / 10) ++ [UInt8.ofNat (n % 10).digitChar.toNat] := by
        rw [numeral, Nat.toDigits_of_base_le (by decide) (by omega), List.map_append]
        rfl
      rw [hrec, List.head?_append_of_ne_nil _ (numeral_ne_nil _)]
      exact ih (n / 10) (by omega) (by omega)

theorem numeral_zero : numeral 0 = [0x30] := by decide

theorem takeWhile_numeral (he : EndsNumber rest) : (numeral n ++ rest).takeWhile isDigit = numeral n := by
  rw [List.takeWhile_append_of_pos isDigit_of_mem_numeral]
  cases rest with
  | nil => simp
  | cons b rest => simp [(he b rfl).1]

theorem dropWhile_numeral (he : EndsNumber rest) : (numeral n ++ rest).dropWhile isDigit = rest := by
  rw [List.dropWhile_append_of_pos isDigit_of_mem_numeral]
  cases rest with
  | nil => rfl
  | cons b rest => simp [(he b rfl).1]

theorem readFraction_none (whole : List UInt8) (he : EndsNumber rest) :
    readFraction false whole rest = .ok (NumberText.node ⟨false, whole, [], none⟩, rest) := by
  cases rest with
  | nil => rfl
  | cons b rest =>
    obtain ⟨-, hp, hl⟩ := he b rfl
    simp only [readFraction, if_neg hp]
    simp only [bind, Except.bind, hl]
    rfl

theorem node_numeral (hn : n ≤ largest) : NumberText.node ⟨false, numeral n, [], none⟩ = .integer n := by
  simp [NumberText.node, digitsValue_numeral, hn]

theorem readNumber_numeral (hn : n ≤ largest) (he : EndsNumber rest) :
    readNumber (numeral n ++ rest) = .ok (.integer n, rest) := by
  obtain ⟨b, more, hb⟩ := List.exists_cons_of_ne_nil (numeral_ne_nil n)
  have hdigit : isDigit b = true := isDigit_of_mem_numeral b (hb ▸ List.mem_cons_self)
  have hminus : b ≠ 0x2d := by
    rintro rfl
    cases hdigit
  have hzero : ¬ (b = 0x30 ∧ more ≠ []) := by
    rintro ⟨rfl, hmore⟩
    rcases Nat.eq_zero_or_pos n with rfl | hpos
    · rw [numeral_zero] at hb
      exact hmore (List.cons.inj hb).2.symm
    · apply head?_numeral hpos
      rw [hb, List.head?_cons]
  have hwhole := takeWhile_numeral (n := n) he
  have hrest := dropWhile_numeral (n := n) he
  rw [hb, List.cons_append] at hwhole hrest
  rw [hb, List.cons_append, readNumber]
  simp only [if_neg hminus, hwhole, hrest, if_neg hzero]
  rw [readFraction_none _ he, ← hb, node_numeral hn]

end CertEnroll.Json
