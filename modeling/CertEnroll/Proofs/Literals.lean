import CertEnroll.Json.Printer
import CertEnroll.Json.Reader
import CertEnroll.Proofs.Texts

namespace CertEnroll.Json

open Text.Utf8 (octetsOf octetsOf_append octetsOf_toList)

def IsPlain (b : UInt8) : Prop :=
  b ≠ 0x22 ∧ b ≠ 0x5c ∧ ¬ b < 0x20

section

variable {done rest : List UInt8} {sound : Bool}

theorem scanLiteral_end :
    scanLiteral done sound (0x22 :: rest) = .ok (if sound then some done.reverse else none, rest) := by
  rw [scanLiteral.eq_def]
  rfl

theorem scanLiteral_cons {b : UInt8} (hb : IsPlain b) :
    scanLiteral done sound (b :: rest) = scanLiteral (b :: done) sound rest := by
  obtain ⟨hquote, hslash, hcontrol⟩ := hb
  rw [scanLiteral.eq_def]
  simp only [if_neg hquote, if_neg hslash, if_neg hcontrol]

theorem scanLiteral_simple {c e : UInt8} (hu : c ≠ 0x75) (he : simpleEscape? c = some e) :
    scanLiteral done sound (0x5c :: c :: rest) = scanLiteral (e :: done) sound rest := by
  rw [scanLiteral.eq_def]
  simp only [if_neg hu, he]
  rfl

theorem scanLiteral_unit {h i j k : UInt8} {n : Nat} (hn : hexUnit? h i j k = some n) (hl : n < 0xd800) :
    scanLiteral done sound (0x5c :: 0x75 :: h :: i :: j :: k :: rest) =
      scanLiteral ((charOctets n).reverse ++ done) sound rest := by
  rw [scanLiteral.eq_def]
  simp only [hn]
  rw [if_neg (by decide), if_pos trivial, if_pos trivial, if_neg (by omega), if_neg (by omega)]

theorem scanLiteral_plain {octets : List UInt8} (hp : ∀ b ∈ octets, IsPlain b) :
    scanLiteral done sound (octets ++ rest) = scanLiteral (octets.reverse ++ done) sound rest := by
  induction octets generalizing done with
  | nil => rfl
  | cons b octets ih =>
    rw [List.cons_append, scanLiteral_cons (hp b List.mem_cons_self),
      ih fun c hc => hp c (List.mem_cons_of_mem b hc), List.reverse_cons, List.append_assoc, List.singleton_append]

end

theorem isPlain_of_mem {c : Char} (hq : c ≠ '"') (hs : c ≠ '\\') (hc : 32 ≤ c.toNat) :
    ∀ b ∈ String.utf8EncodeChar c, IsPlain b := by
  intro b hb
  by_cases hlow : c.toNat < 128
  · rw [Text.Utf8.utf8EncodeChar_of_lt hlow, List.mem_singleton] at hb
    have hnat : b.toNat = c.toNat := by
      rw [hb, UInt8.toNat_ofNat', Nat.mod_eq_of_lt (by omega)]
    have hne {d : Char} (hd : c ≠ d) : b.toNat ≠ d.toNat := by
      rw [hnat]
      intro he
      exact hd (by rw [← Char.ofNat_toNat c, he, Char.ofNat_toNat])
    refine ⟨?_, ?_, ?_⟩
    · rintro rfl
      exact hne hq rfl
    · rintro rfl
      exact hne hs rfl
    · rw [UInt8.lt_iff_toNat_lt, hnat]
      exact Nat.not_lt.mpr hc
  · have hhigh := Text.Utf8.le_of_mem_utf8EncodeChar (Nat.le_of_not_lt hlow) b hb
    refine ⟨?_, ?_, ?_⟩
    · rintro rfl
      exact absurd hhigh (by decide)
    · rintro rfl
      exact absurd hhigh (by decide)
    · rw [UInt8.lt_iff_toNat_lt]
      exact Nat.not_lt.mpr (Nat.le_trans (by decide) hhigh)

theorem hexUnit?_control : ∀ n < 32, hexUnit? 0x30 0x30 (UInt8.ofNat (Text.Hex.lowerDigit (n / 16)).toNat)
    (UInt8.ofNat (Text.Hex.lowerDigit (n % 16)).toNat) = some n := by decide

theorem lowerDigit_lt : ∀ n < 16, (Text.Hex.lowerDigit n).toNat < 128 := by decide

theorem scanLiteral_escaped (c : Char) (done rest : List UInt8) :
    scanLiteral done true (octetsOf (escaped c) ++ rest) =
      scanLiteral ((String.utf8EncodeChar c).reverse ++ done) true rest := by
  unfold escaped
  -- The characters that have a letter of their own.
  iterate 7
    split
    · subst c
      exact scanLiteral_simple (by decide) rfl
  split
  · rename_i hcontrol
    have hfirst := Text.Utf8.utf8EncodeChar_of_lt (lowerDigit_lt (c.toNat / 16) (by omega))
    have hsecond := Text.Utf8.utf8EncodeChar_of_lt (lowerDigit_lt (c.toNat % 16) (by omega))
    have hc : charOctets c.toNat = String.utf8EncodeChar c := congrArg _ (Char.ofNat_toNat c)
    rw [← hc]
    simp only [octetsOf, List.flatMap_cons, List.flatMap_nil, hfirst, hsecond]
    exact scanLiteral_unit (hexUnit?_control _ hcontrol) (by omega)
  · rw [octetsOf, List.flatMap_singleton]
    exact scanLiteral_plain (isPlain_of_mem ‹_› ‹_› (by omega))

theorem scanLiteral_chars (cs : List Char) (done rest : List UInt8) :
    scanLiteral done true (octetsOf (cs.flatMap escaped) ++ rest) =
      scanLiteral ((octetsOf cs).reverse ++ done) true rest := by
  induction cs generalizing done with
  | nil => rfl
  | cons c cs ih =>
    rw [List.flatMap_cons, octetsOf_append, List.append_assoc, scanLiteral_escaped, ih, octetsOf, octetsOf,
      List.flatMap_cons, List.reverse_append, List.append_assoc]

def unquoted (s : String) : List UInt8 :=
  octetsOf (s.toList.flatMap escaped ++ ['"'])

theorem octetsOf_quote (s : String) : octetsOf (quote s) = 0x22 :: unquoted s := rfl

theorem readLiteral_unquoted (s : String) (rest : List UInt8) :
    readLiteral (unquoted s ++ rest) = .ok (some s, rest) := by
  have hscan : scanLiteral [] true (unquoted s ++ rest) = .ok (some (Text.Utf8.encode s), rest) := by
    have hquote : octetsOf ['"'] ++ rest = 0x22 :: rest := rfl
    rw [unquoted, octetsOf_append, List.append_assoc, scanLiteral_chars, List.append_nil, octetsOf_toList, hquote,
      scanLiteral_end, if_pos rfl, List.reverse_reverse]
  rw [readLiteral, hscan]
  simp only [bind, Except.bind, Option.bind_some, Text.Utf8.decode_encode]
  rfl

end CertEnroll.Json
