import CertEnroll.Certificate
import Mathlib.Data.List.Basic

namespace CertEnroll.Text

theorem lowercaseFrom_eq_map {before cs : List Char} (hc : ∀ c ∈ cs, c.toNat < 128) :
    lowercaseFrom before cs = cs.map Char.toLower := by
  induction cs generalizing before with
  | nil => rfl
  | cons c cs ih =>
    have hlow : c.toNat < 128 := hc c List.mem_cons_self
    have hsigma : c ≠ 'Σ' := by
      rintro rfl
      exact absurd hlow (by decide)
    rw [lowercaseFrom, if_neg hsigma, lowercaseChar, if_pos hlow, ih fun c hm => hc c (List.mem_cons_of_mem _ hm)]
    rfl

end CertEnroll.Text

namespace CertEnroll.Serial

def shown : List Char :=
  ':' :: Text.Hex.upperDigits

def IsShown (serial : String) : Prop :=
  ∀ c ∈ serial.toList, c ∈ shown

instance (serial : String) : Decidable (IsShown serial) :=
  List.decidableBAll (· ∈ shown) serial.toList

def keyChar (c : Char) : Char :=
  if c.toLower = ':' then '-' else c.toLower

theorem storageForm_toList {serial : String} (hs : IsShown serial) :
    (storageForm serial).toList = serial.toList.map keyChar := by
  have hascii : shown.all (·.toNat < 128) = true := by decide
  have hlow : ∀ c ∈ serial.toList, c.toNat < 128 :=
    fun c hc => of_decide_eq_true (List.all_eq_true.mp hascii c (hs c hc))
  rw [storageForm, Text.lowercaseFrom_eq_map hlow, String.toList_ofList, List.map_map]
  rfl

theorem keyChar_inj {c d : Char} (hc : c ∈ shown) (hd : d ∈ shown) (he : keyChar c = keyChar d) : c = d := by
  have hall : shown.all (fun c => shown.all fun d => keyChar c = keyChar d → c = d) = true := by decide
  exact of_decide_eq_true (List.all_eq_true.mp (List.all_eq_true.mp hall c hc) d hd) he

theorem map_keyChar_inj {cs ds : List Char} (hc : ∀ c ∈ cs, c ∈ shown) (hd : ∀ d ∈ ds, d ∈ shown)
    (he : cs.map keyChar = ds.map keyChar) : cs = ds := by
  induction cs generalizing ds with
  | nil =>
    cases ds with
    | nil => rfl
    | cons => cases he
  | cons c cs ih =>
    cases ds with
    | nil => cases he
    | cons d ds =>
      rw [List.map_cons, List.map_cons, List.cons.injEq] at he
      rw [List.forall_mem_cons] at hc hd
      rw [keyChar_inj hc.1 hd.1 he.1, ih hc.2 hd.2 he.2]

theorem storageForm_inj {serial other : String} (hs : IsShown serial) (ho : IsShown other) :
    storageForm serial = storageForm other ↔ serial = other := by
  refine ⟨fun he => ?_, congrArg _⟩
  apply String.toList_injective
  apply map_keyChar_inj hs ho
  rw [← storageForm_toList hs, he, storageForm_toList ho]

theorem mem_upperOctet (b : UInt8) : ∀ c ∈ Text.Hex.upperOctet b, c ∈ Text.Hex.upperDigits := by
  have hdigit (n : Nat) : Text.Hex.upperDigit n ∈ Text.Hex.upperDigits := by
    rw [Text.Hex.upperDigit, List.getD_eq_getElem?_getD]
    cases h : Text.Hex.upperDigits[n]? with
    | none => decide
    | some c => exact List.mem_of_getElem? h
  simp [Text.Hex.upperOctet, hdigit]

theorem mem_joined (bytes : List UInt8) : ∀ c ∈ joined bytes, c ∈ shown := by
  fun_induction joined bytes with
  | case1 => exact List.forall_mem_nil _
  | case2 b => exact fun c hc => List.mem_cons_of_mem _ (mem_upperOctet b c hc)
  | case3 b bs hne ih =>
    intro c hc
    rcases List.mem_append.mp hc with hc | hc
    · exact List.mem_cons_of_mem _ (mem_upperOctet b c hc)
    · rcases List.mem_cons.mp hc with rfl | hc
      · exact List.mem_cons_self
      · exact ih c hc

theorem isShown_format (octets : List UInt8) : IsShown (format octets) := by
  intro c hc
  rw [format, String.toList_ofList] at hc
  exact mem_joined _ c hc

end CertEnroll.Serial
