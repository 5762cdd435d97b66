import CertEnroll.Proofs.Chains
import CertEnroll.Proofs.Rebinding

namespace CertEnroll.Text.Hex

theorem idxOf_upperDigit {n : Nat} (hn : n < 16) : upperDigits.idxOf (upperDigit n) = n := by
  decide +revert

theorem upperDigit_mem {n : Nat} (hn : n < 16) : upperDigit n ∈ upperDigits := by
  decide +revert

theorem upperDigit_idxOf {c : Char} (hc : c ∈ upperDigits) : upperDigit (upperDigits.idxOf c) = c := by
  have hall : upperDigits.all (fun c => upperDigit (upperDigits.idxOf c) = c) = true := by decide
  exact of_decide_eq_true (List.all_eq_true.mp hall c hc)

def readOctet : List Char → Option UInt8
  | [high, low] =>
    if high ∈ upperDigits ∧ low ∈ upperDigits then
      some (UInt8.ofNat (16 * upperDigits.idxOf high + upperDigits.idxOf low))
    else none
  | _ => none

theorem readOctet_upperOctet (b : UInt8) : readOctet (upperOctet b) = some b := by
  have hhigh : b.toNat / 16 < 16 := Nat.div_lt_of_lt_mul b.toNat_lt
  have hlow : b.toNat % 16 < 16 := Nat.mod_lt _ (by decide)
  rw [upperOctet, readOctet, if_pos ⟨upperDigit_mem hhigh, upperDigit_mem hlow⟩, idxOf_upperDigit hhigh,
    idxOf_upperDigit hlow, Nat.div_add_mod, UInt8.ofNat_toNat]

theorem readOctet_eq_some {piece : List Char} {b : UInt8} : readOctet piece = some b ↔ piece = upperOctet b := by
  refine ⟨fun h => ?_, fun h => h ▸ readOctet_upperOctet b⟩
  match piece with
  | [] | [_] | _ :: _ :: _ :: _ => cases h
  | [high, low] =>
    rw [readOctet] at h
    split at h
    · rename_i hdigits
      obtain ⟨hhigh, hlow⟩ := hdigits
      have hi : upperDigits.idxOf high < 16 := List.idxOf_lt_length_iff.mpr hhigh
      have hj : upperDigits.idxOf low < 16 := List.idxOf_lt_length_iff.mpr hlow
      obtain rfl := Option.some.inj h
      have hvalue : (UInt8.ofNat (16 * upperDigits.idxOf high + upperDigits.idxOf low)).toNat =
          16 * upperDigits.idxOf high + upperDigits.idxOf low := by
        have hsize : 16 * upperDigits.idxOf high + upperDigits.idxOf low < 256 := by omega
        exact UInt8.toNat_ofNat_of_lt hsize
      rw [upperOctet, hvalue, Nat.mul_add_div (by decide), Nat.mul_add_mod, Nat.div_eq_of_lt hj, Nat.mod_eq_of_lt hj,
        Nat.add_zero, upperDigit_idxOf hhigh, upperDigit_idxOf hlow]
    · cases h

end CertEnroll.Text.Hex

namespace CertEnroll.Serial

open Text.Hex (readOctet upperOctet)

def read (serial : String) : Option (List UInt8) :=
  (Text.splitChars ':' serial.toList).mapM readOctet

theorem mapM_readOctet {pieces : List (List Char)} {octets : List UInt8} :
    pieces.mapM readOctet = some octets ↔ pieces = octets.map upperOctet := by
  induction pieces generalizing octets with
  | nil => simp [eq_comm]
  | cons piece pieces ih =>
    cases octets with
    | nil => simp [Option.bind_eq_some_iff]
    | cons b bs => simp [Option.bind_eq_some_iff, Text.Hex.readOctet_eq_some, ih]

theorem joined_eq (octets : List UInt8) : joined octets = [':'].intercalate (octets.map upperOctet) := by
  fun_induction joined octets with
  | case1 => rfl
  | case2 b => simp
  | case3 b bs hne ih =>
    obtain ⟨c, cs, rfl⟩ := List.exists_cons_of_ne_nil hne
    simp only [List.map_cons] at ih ⊢
    rw [ih, List.intercalate_cons_cons, List.append_assoc]
    rfl

theorem read_eq_some {serial : String} {octets : List UInt8} :
    read serial = some octets ↔ octets ≠ [] ∧ serial = String.ofList (joined octets) := by
  rw [read, Text.splitChars_eq_splitOn, mapM_readOctet, joined_eq]
  constructor
  · intro h
    constructor
    · rintro rfl
      exact List.splitOn_ne_nil ':' _ h
    · rw [← h, List.intercalate_splitOn, String.ofList_toList]
  · rintro ⟨hne, rfl⟩
    rw [String.toList_ofList]
    apply List.splitOn_intercalate
    · intro piece hp hcolon
      obtain ⟨b, -, rfl⟩ := List.mem_map.mp hp
      exact absurd (mem_upperOctet b ':' hcolon) (by decide)
    · rwa [Ne, List.map_eq_nil_iff]

theorem getD_read_joined (octets : List UInt8) : (read (String.ofList (joined octets))).getD [] = octets := by
  cases octets with
  | nil => rfl
  | cons b bs => rw [read_eq_some.mpr ⟨List.cons_ne_nil b bs, rfl⟩, Option.getD_some]

theorem joined_inj {a b : List UInt8} : joined a = joined b ↔ a = b := by
  refine ⟨fun h => ?_, congrArg _⟩
  rw [← getD_read_joined a, h, getD_read_joined]

theorem format_inj {a b : List UInt8} : format a = format b ↔ significant a = significant b := by
  rw [format, format, String.ofList_inj, joined_inj]

theorem significant_cases {octets : List UInt8} (h : octets ≠ []) :
    (Octets.toNat octets = 0 ∧ significant octets = [0]) ∨
      ∃ b bs, b ≠ 0 ∧ significant octets = b :: bs ∧ Octets.toNat (b :: bs) = Octets.toNat octets := by
  -- Dropping zeros keeps the value, so what is left tells whether it is zero.
  have hvalue := Octets.toNat_dropWhile octets
  rw [significant]
  cases hdrop : octets.dropWhile (· == 0) with
  | nil =>
    obtain ⟨b, bs, rfl⟩ := List.exists_cons_of_ne_nil h
    have hzero : b = 0 := eq_of_beq (List.dropWhile_eq_nil_iff.mp hdrop b List.mem_cons_self)
    rw [hdrop] at hvalue
    exact .inl ⟨hvalue.symm, by rw [hzero]; rfl⟩
  | cons b bs =>
    have hhead := List.head?_dropWhile_not (· == 0) octets
    rw [hdrop] at hhead hvalue
    exact .inr ⟨b, bs, ne_of_beq_false hhead, rfl, hvalue⟩

theorem significant_eq {octets : List UInt8} (h : octets ≠ []) :
    significant octets =
      if Octets.toNat octets = 0 then [0]
      else Octets.ofNat (Octets.width (Octets.toNat octets)) (Octets.toNat octets) := by
  rcases significant_cases h with ⟨hvalue, hleft⟩ | ⟨b, bs, hb, hleft, hvalue⟩
  · rw [hleft, if_pos hvalue]
  · -- Since the first octet is not zero, the value needs all of them.
    have hwidth := Octets.width_toNat hb bs
    have hne : Octets.toNat (b :: bs) ≠ 0 := by
      intro hzero
      rw [hzero] at hwidth
      cases hwidth
    rw [hleft, ← hvalue, if_neg hne, hwidth, ← List.length_cons, Octets.ofNat_toNat]

theorem toNat_significant {octets : List UInt8} (h : octets ≠ []) :
    Octets.toNat (significant octets) = Octets.toNat octets := by
  rcases significant_cases h with ⟨hvalue, hleft⟩ | ⟨b, bs, -, hleft, hvalue⟩
  · rw [hleft, hvalue]
    rfl
  · rw [hleft, hvalue]

theorem significant_eq_nil {octets : List UInt8} : significant octets = [] ↔ octets = [] := by
  refine ⟨fun h => ?_, fun h => congrArg significant h⟩
  by_contra hne
  rcases significant_cases hne with ⟨-, hleft⟩ | ⟨b, bs, -, hleft, -⟩ <;> cases hleft.symm.trans h

theorem significant_inj {a b : List UInt8} :
    significant a = significant b ↔ Octets.toNat a = Octets.toNat b ∧ (a = [] ↔ b = []) := by
  rcases eq_or_ne a [] with rfl | ha <;> rcases eq_or_ne b [] with rfl | hb
  · simp
  · exact iff_of_false (fun h => hb (significant_eq_nil.mp h.symm)) fun h => hb (h.2.mp rfl)
  · exact iff_of_false (fun h => ha (significant_eq_nil.mp h)) fun h => ha (h.2.mpr rfl)
  · rw [and_iff_left (iff_of_false ha hb)]
    constructor
    · intro h
      rw [← toNat_significant ha, h, toNat_significant hb]
    · intro h
      rw [significant_eq ha, h, ← significant_eq hb]

theorem read_format {octets : List UInt8} (h : octets ≠ []) : read (format octets) = some (significant octets) :=
  read_eq_some.mpr ⟨fun hnil => h (significant_eq_nil.mp hnil), rfl⟩

theorem key_format_inj {a b : List UInt8} :
    CertificateRecord.serialKey (storageForm (format a)) = CertificateRecord.serialKey (storageForm (format b)) ↔
      Octets.toNat a = Octets.toNat b ∧ (a = [] ↔ b = []) := by
  rw [Enrollment.Binding.serialKey_inj, storageForm_inj (isShown_format a) (isShown_format b), format_inj,
    significant_inj]

theorem read_format_eq_none {octets : List UInt8} : read (format octets) = none ↔ octets = [] := by
  refine ⟨fun h => ?_, fun h => h ▸ rfl⟩
  by_contra hne
  cases (read_format hne).symm.trans h

theorem key_format_eq_keyStart {octets : List UInt8} :
    CertificateRecord.serialKey (storageForm (format octets)) = CertificateRecord.keyStart ↔ octets = [] := by
  have hempty : CertificateRecord.keyStart = CertificateRecord.serialKey (storageForm (format [])) := by decide
  rw [hempty, key_format_inj]
  refine ⟨fun h => h.2.mpr rfl, ?_⟩
  rintro rfl
  exact ⟨rfl, Iff.rfl⟩

/-- A serial number is shown by its value, and goes under a key that no other value has. -/
theorem keys_by_value {a b : List UInt8} (ha : a ≠ []) (hb : b ≠ []) :
    (∃ octets, read (format a) = some octets ∧ Octets.toNat octets = Octets.toNat a ∧
      (octets.head? = some 0 → octets = [0])) ∧
    (CertificateRecord.serialKey (storageForm (format a)) = CertificateRecord.serialKey (storageForm (format b)) ↔
      Octets.toNat a = Octets.toNat b) := by
  refine ⟨⟨significant a, read_format ha, toNat_significant ha, ?_⟩, ?_⟩
  · rcases significant_cases ha with ⟨-, hleft⟩ | ⟨c, cs, hc, hleft, -⟩
    · exact fun _ => hleft
    · rw [hleft, List.head?_cons]
      exact fun h => absurd (Option.some.inj h) hc
  · rw [key_format_inj, and_iff_left (iff_of_false ha hb)]

theorem keys_by_value_padded :
    (∃ octets, read (format [0, 0, 1]) = some octets ∧ Octets.toNat octets = 1) ∧
      CertificateRecord.serialKey (storageForm (format [0, 0, 1])) =
        CertificateRecord.serialKey (storageForm (format [1])) ∧
      CertificateRecord.serialKey (storageForm (format [0, 0, 1])) ≠
        CertificateRecord.serialKey (storageForm (format [1, 0])) := by
  have same := keys_by_value (List.cons_ne_nil 0 [0, 1]) (List.cons_ne_nil 1 [])
  have other := keys_by_value (List.cons_ne_nil 0 [0, 1]) (List.cons_ne_nil 1 [0])
  obtain ⟨octets, hread, hvalue, -⟩ := same.1
  exact ⟨⟨octets, hread, hvalue⟩, same.2.mpr rfl, fun h => absurd (other.2.mp h) (by decide)⟩

end CertEnroll.Serial

namespace CertEnroll

def IssuedSet.serial? (issued : IssuedSet) : Option (List UInt8) :=
  (leafContents (Text.trim issued.certificate)).toOption.bind fun contents =>
    (Der.readCertificate contents).map Der.Certificate.serial

theorem IssuedSet.serial_materialize {issued : IssuedSet} {kept : MaterializedCertificate}
    (hm : issued.materialize = .ok kept) :
    ∃ serial, issued.serial? = some serial ∧ kept.serialNumber = Serial.format serial := by
  obtain ⟨contents, leaf, hcontents, hleaf, rfl⟩ := materialize_eq_ok.mp hm
  refine ⟨leaf.serial, ?_, rfl⟩
  rw [serial?, hcontents, Except.toOption, Option.bind_some, hleaf, Option.map_some]

/-- What is accepted is shown by the value of its serial number, unless the leaf leaves the serial number empty. Then
the key is the bare start of all keys, the same for all such certificates. -/
theorem serial_shown_iff {issued other : IssuedSet} {kept kept' : MaterializedCertificate}
    (hm : issued.materialize = .ok kept) (ho : other.materialize = .ok kept') :
    ∃ serial serial', issued.serial? = some serial ∧ other.serial? = some serial' ∧
      (Serial.read kept.serialNumber = none ↔ serial = []) ∧
      (∀ octets, Serial.read kept.serialNumber = some octets → Octets.toNat octets = Octets.toNat serial) ∧
      (CertificateRecord.serialKey kept.storageSerial = CertificateRecord.keyStart ↔ serial = []) ∧
      (CertificateRecord.serialKey kept.storageSerial = CertificateRecord.serialKey kept'.storageSerial ↔
        Octets.toNat serial = Octets.toNat serial' ∧ (serial = [] ↔ serial' = [])) := by
  obtain ⟨serial, hserial, hshown⟩ := IssuedSet.serial_materialize hm
  obtain ⟨serial', hserial', hshown'⟩ := IssuedSet.serial_materialize ho
  refine ⟨serial, serial', hserial, hserial', ?_, ?_, ?_, ?_⟩
  · rw [hshown, Serial.read_format_eq_none]
  · intro octets hread
    rw [hshown] at hread
    have hne : serial ≠ [] := by
      intro hempty
      cases (Serial.read_format_eq_none.mpr hempty).symm.trans hread
    obtain rfl := Option.some.inj ((Serial.read_format hne).symm.trans hread)
    exact Serial.toNat_significant hne
  · rw [MaterializedCertificate.storageSerial, hshown, Serial.key_format_eq_keyStart]
  · rw [MaterializedCertificate.storageSerial, MaterializedCertificate.storageSerial, hshown, hshown',
      Serial.key_format_inj]

open SigningRequest (trialKey)
open LocalCa (trialForm trialSeal)

def unnumberedBlock (subject : Der.Tree) : Pem.Block where
  label := Pem.certificateLabel
  contents := (Der.Tree.sequence
    [.sequence
      [.leaf 0x02 [], trialKey.algorithm.tree, trialForm.issuer,
        .sequence [CertificateForm.time trialForm.notBefore, CertificateForm.time trialForm.notAfter], subject,
        trialForm.publicKey],
      trialKey.algorithm.tree, .bitString trialSeal]).encode

def unnumbered (subject : Der.Tree) : IssuedSet := ⟨(unnumberedBlock subject).write, []⟩

theorem materialize_unnumbered {subject : Der.Tree}
    (hl : (Der.readCertificate (unnumberedBlock subject).contents).map Der.Certificate.serial = some []) :
    ∃ kept, (unnumbered subject).materialize = .ok kept ∧
      kept.certificate = Text.trim (unnumberedBlock subject).write ∧ kept.serialNumber = "" := by
  obtain ⟨leaf, hleaf, hserial⟩ := Option.map_eq_some_iff.mp hl
  have hwritten : Text.trim (unnumbered subject).certificate =
      Text.trim (Pem.Block.mk Pem.certificateLabel (unnumberedBlock subject).contents).write := rfl
  obtain ⟨kept, hm, hcertificate, hnumber, -⟩ := IssuedSet.materialize_written hwritten hleaf
  refine ⟨kept, hm, hcertificate, ?_⟩
  rw [hnumber, hserial]
  rfl

theorem serial_unnumbered :
    (Der.readCertificate (unnumberedBlock trialForm.subject).contents).map Der.Certificate.serial = some [] := by
  decide +kernel

theorem serial_unnumbered_root :
    (Der.readCertificate (unnumberedBlock trialForm.issuer).contents).map Der.Certificate.serial = some [] := by
  decide +kernel

theorem serial_shown_iff_unnumbered :
    ∃ kept kept', (unnumbered trialForm.subject).materialize = .ok kept ∧
      Enrollment.fetchedSet.materialize = .ok kept' ∧
      CertificateRecord.serialKey kept.storageSerial = CertificateRecord.keyStart ∧
      CertificateRecord.serialKey kept'.storageSerial ≠ CertificateRecord.keyStart := by
  obtain ⟨kept, hm, -, hempty⟩ := materialize_unnumbered serial_unnumbered
  obtain ⟨kept', ho, hnumber, -⟩ := Enrollment.materialize_fetched
  have hunread : Serial.read kept.serialNumber = none := by
    rw [hempty]
    rfl
  have hread : Serial.read kept'.serialNumber ≠ none := by
    rw [hnumber]
    decide
  obtain ⟨serial, -, -, -, hnone, -, hstart, -⟩ := serial_shown_iff hm ho
  obtain ⟨serial', -, -, -, hnone', -, hstart', -⟩ := serial_shown_iff ho hm
  exact ⟨kept, kept', hm, ho, hstart.mpr (hnone.mp hunread), fun hkey => hread (hnone'.mpr (hstart'.mp hkey))⟩

/-- Two certificates that share a key for lack of a serial number. -/
theorem unnumbered_share_key :
    ∃ kept kept', (unnumbered trialForm.subject).materialize = .ok kept ∧
      (unnumbered trialForm.issuer).materialize = .ok kept' ∧ kept.certificate ≠ kept'.certificate ∧
      kept.serialNumber = "" ∧ Serial.read kept.serialNumber = none ∧
      CertificateRecord.serialKey kept.storageSerial = CertificateRecord.keyStart ∧
      CertificateRecord.serialKey kept'.storageSerial = CertificateRecord.keyStart := by
  obtain ⟨kept, hm, hcertificate, hempty⟩ := materialize_unnumbered serial_unnumbered
  obtain ⟨kept', ho, hcertificate', hempty'⟩ := materialize_unnumbered serial_unnumbered_root
  have hstart : CertificateRecord.serialKey (Serial.storageForm "") = CertificateRecord.keyStart := by decide
  have hread (subject : Der.Tree) :
      Pem.read (Text.trim (unnumberedBlock subject).write) = .ok (unnumberedBlock subject) := by
    apply Pem.read_trim_write <;> simp [unnumberedBlock, Pem.certificateLabel]
  have hcontents : (unnumberedBlock trialForm.subject).contents ≠ (unnumberedBlock trialForm.issuer).contents := by
    decide +kernel
  refine ⟨kept, kept', hm, ho, ?_, hempty, ?_, ?_, ?_⟩
  · intro hsame
    rw [hcertificate, hcertificate'] at hsame
    have hblock := Except.ok.inj ((hread _).symm.trans ((congrArg Pem.read hsame).trans (hread _)))
    exact hcontents (congrArg Pem.Block.contents hblock)
  · rw [hempty]
    rfl
  · rw [MaterializedCertificate.storageSerial, hempty, hstart]
  · rw [MaterializedCertificate.storageSerial, hempty', hstart]

end CertEnroll
