import CertEnroll.Pem
import CertEnroll.Proofs.Octets
import CertEnroll.Proofs.Texts

namespace CertEnroll.Text

namespace Base64

theorem value_symbol : ∀ n < 64, value? (symbol n) = some n := by decide

@[simp] theorem value_pad : value? padOctet = none := rfl

theorem symbol_plain : ∀ n < 64, 42 < (symbol n).toNat ∧ (symbol n).toNat < 128 ∧ symbol n ≠ 45 := by decide

theorem encode_plain (octets : Octets) :
    ∀ b ∈ encode octets, 42 < b.toNat ∧ b.toNat < 128 ∧ b ≠ 45 := by
  have hpad : 42 < padOctet.toNat ∧ padOctet.toNat < 128 ∧ padOctet ≠ 45 := by decide
  induction octets using encode.induct with
  | case1 => exact nofun
  | case2 a =>
    have ha := a.toNat_lt
    simp only [encode, List.forall_mem_cons]
    exact ⟨symbol_plain _ (by omega), symbol_plain _ (by omega), hpad, hpad, nofun⟩
  | case3 a b =>
    have ha := a.toNat_lt
    have hb := b.toNat_lt
    simp only [encode, List.forall_mem_cons]
    exact ⟨symbol_plain _ (by omega), symbol_plain _ (by omega), symbol_plain _ (by omega), hpad, nofun⟩
  | case4 a b c rest ih =>
    have ha := a.toNat_lt
    have hb := b.toNat_lt
    have hc := c.toNat_lt
    simp only [encode, List.forall_mem_cons]
    exact ⟨symbol_plain _ (by omega), symbol_plain _ (by omega), symbol_plain _ (by omega),
      symbol_plain _ (by omega), ih⟩

theorem octets_symbols (a b c : UInt8) :
    octets (a.toNat / 4) (a.toNat % 4 * 16 + b.toNat / 16) (b.toNat % 16 * 4 + c.toNat / 64) (c.toNat % 64) =
      [a, b, c] := by
  have ha := a.toNat_lt
  have hb := b.toNat_lt
  have hc := c.toNat_lt
  have h1 : a.toNat / 4 * 4 + (a.toNat % 4 * 16 + b.toNat / 16) / 16 = a.toNat := by omega
  have h2 : (a.toNat % 4 * 16 + b.toNat / 16) % 16 * 16 + (b.toNat % 16 * 4 + c.toNat / 64) / 4 = b.toNat := by
    omega
  have h3 : (b.toNat % 16 * 4 + c.toNat / 64) % 4 * 64 + c.toNat % 64 = c.toNat := by omega
  rw [octets, h1, h2, h3, UInt8.ofNat_toNat, UInt8.ofNat_toNat, UInt8.ofNat_toNat]

theorem decodeBlocks_encode (octets : Octets) : decodeBlocks (encode octets) = some octets := by
  induction octets using encode.induct with
  | case1 => rfl
  | case2 a =>
    have ha := a.toNat_lt
    have hw := value_symbol (a.toNat / 4) (by omega)
    have hx := value_symbol (a.toNat % 4 * 16) (by omega)
    have hgroup := octets_symbols a 0 0
    simp only [UInt8.toNat_zero, Nat.zero_div, Nat.add_zero, Nat.zero_mod, Nat.zero_mul] at hgroup
    simp [encode, decodeBlocks, hw, hx, hgroup]
  | case3 a b =>
    have ha := a.toNat_lt
    have hb := b.toNat_lt
    have hw := value_symbol (a.toNat / 4) (by omega)
    have hx := value_symbol (a.toNat % 4 * 16 + b.toNat / 16) (by omega)
    have hy := value_symbol (b.toNat % 16 * 4) (by omega)
    have hgroup := octets_symbols a b 0
    simp only [UInt8.toNat_zero, Nat.zero_div, Nat.add_zero, Nat.zero_mod] at hgroup
    have hrest : b.toNat % 16 * 4 % 4 = 0 := by omega
    simp [encode, decodeBlocks, hw, hx, hy, hgroup, hrest]
  | case4 a b c rest ih =>
    have ha := a.toNat_lt
    have hb := b.toNat_lt
    have hc := c.toNat_lt
    have hw := value_symbol (a.toNat / 4) (by omega)
    have hx := value_symbol (a.toNat % 4 * 16 + b.toNat / 16) (by omega)
    have hy := value_symbol (b.toNat % 16 * 4 + c.toNat / 64) (by omega)
    have hz := value_symbol (c.toNat % 64) (by omega)
    simp [encode, decodeBlocks, hw, hx, hy, hz, ih, octets_symbols]

theorem length_le_encode (octets : Octets) : octets.length ≤ (encode octets).length := by
  induction octets using encode.induct with
  | case1 => exact Nat.le_refl _
  | case2 a => simp [encode]
  | case3 a b => simp [encode]
  | case4 a b c rest ih =>
    simp only [encode, List.length_cons]
    omega

end Base64

theorem utf8_chars {octets : Octets} (h : ∀ b ∈ octets, b.toNat < 128) :
    Utf8.encode (String.ofList (Octets.chars octets)) = octets := by
  rw [Utf8.encode_ofList]
  induction octets with
  | nil => rfl
  | cons b octets ih =>
    have hb : b.toNat < 128 := h b List.mem_cons_self
    have hval : (Char.ofNat b.toNat).toNat = b.toNat := by
      rw [Char.ofNat, dif_pos (.inl (by omega))]
      exact UInt32.toNat_ofNatLT
    rw [Octets.chars, List.map_cons, Utf8.octetsOf, List.flatMap_cons, Utf8.utf8EncodeChar_of_lt (by omega), hval,
      UInt8.ofNat_toNat, List.singleton_append, List.cons.injEq]
    exact ⟨rfl, ih fun c hc => h c (List.mem_cons_of_mem b hc)⟩

end CertEnroll.Text

namespace CertEnroll.Pem

theorem cutAt_append {c : Char} {mark before : List Char} (hc : c ∉ before) (after : List Char) :
    cutAt (c :: mark) (before ++ (c :: mark ++ after)) = some (before, after) := by
  induction before with
  | nil =>
    rw [List.nil_append, List.cons_append, cutAt, if_pos, ← List.cons_append, List.drop_left]
    exact List.isPrefixOf_iff_prefix.mpr (List.prefix_append (c :: mark) after)
  | cons d before ih =>
    rw [List.mem_cons, not_or] at hc
    rw [List.cons_append, cutAt, if_neg, ih hc.2]
    · rfl
    · simp [hc.1]

def linesText (lines : List (List Char)) : List Char :=
  lines.flatMap fun line => line ++ ['\n']

theorem splitOn_linesText {lines : List (List Char)} {last : List Char} (hn : ∀ line ∈ lines, '\n' ∉ line)
    (hl : '\n' ∉ last) : (linesText lines ++ last).splitOn '\n' = lines ++ [last] := by
  induction lines with
  | nil => exact List.splitOn_eq_singleton hl
  | cons line lines ih =>
    rw [linesText, List.flatMap_cons, List.append_assoc, List.append_assoc, List.singleton_append,
      List.splitOn_append_cons_self_of_not_mem (hn line List.mem_cons_self), List.cons_append, ← linesText,
      ih fun line hl => hn line (List.mem_cons_of_mem _ hl)]

theorem linesOf_linesText {lines : List (List Char)} (hn : ∀ line ∈ lines, '\n' ∉ line) :
    linesOf (linesText lines) = lines := by
  have hs := splitOn_linesText hn (List.not_mem_nil : '\n' ∉ [])
  rw [List.append_nil] at hs
  rw [linesOf, Text.splitChars_eq_splitOn, hs, List.reverse_append]
  simp

theorem linesOf_unended {lines : List (List Char)} {last : List Char} (hn : ∀ line ∈ lines, '\n' ∉ line)
    (hl : '\n' ∉ last) (hne : last ≠ []) : linesOf (linesText lines ++ last) = lines ++ [last] := by
  obtain ⟨c, rest, rfl⟩ := List.exists_cons_of_ne_nil hne
  rw [linesOf, Text.splitChars_eq_splitOn, splitOn_linesText hn hl, List.reverse_append]
  simp

def PlainLine (line : List Char) : Prop :=
  line ≠ [] ∧ ∀ c ∈ line, c ≠ '-' ∧ c ≠ '\n' ∧ Text.isBlank c = false

theorem PlainLine.not_end {line : List Char} (hl : PlainLine line) : endMark.isPrefixOf line = false := by
  obtain ⟨c, rest, rfl⟩ := List.exists_cons_of_ne_nil hl.1
  have hc : ('-' == c) = false := beq_false_of_ne (hl.2 c List.mem_cons_self).1.symm
  simp only [endMark, dashes, List.cons_append, List.isPrefixOf, hc, Bool.false_and]

theorem PlainLine.dropEndWhile {line : List Char} (hl : PlainLine line) :
    Text.dropEndWhile Text.isBlank line = line := by
  rw [Text.dropEndWhile_eq_rdropWhile, List.rdropWhile_eq_self_iff]
  intro hne
  rw [(hl.2 _ (List.getLast_mem hne)).2.2]
  exact Bool.false_ne_true

theorem bodyOf_append {lines : List (List Char)} {last : List Char} (hl : ∀ line ∈ lines, PlainLine line)
    (he : endMark.isPrefixOf last = true) (rest : List (List Char)) :
    bodyOf (lines ++ last :: rest) = .ok lines.flatten := by
  induction lines with
  | nil => rw [List.nil_append, bodyOf, if_pos he, List.flatten_nil]
  | cons line lines ih =>
    have hline := hl line List.mem_cons_self
    rw [List.cons_append, bodyOf, hline.not_end, if_neg Bool.false_ne_true, hline.dropEndWhile,
      ih fun line hm => hl line (List.mem_cons_of_mem _ hm)]
    rfl

theorem labelOf_begin {label : List Char} (hl : '-' ∉ label) :
    labelOf (beginMark ++ label ++ dashes) = .ok label := by
  let title := ['B', 'E', 'G', 'I', 'N', ' '] ++ label
  have htitle : '-' ∉ title := by simpa [title] using hl
  have hdrop : (beginMark ++ label ++ dashes).drop dashes.length = title ++ (dashes ++ []) := by
    rw [beginMark, List.append_assoc, List.append_assoc, List.drop_left, List.append_assoc, List.append_nil]
  have hname : (title.drop 6).takeWhile (· ≠ '-') = label := by
    apply List.takeWhile_eq_self_iff.mpr
    intro c hc
    have : c ≠ '-' := fun h => hl (h ▸ hc)
    simpa using this
  have hcut : cutAt dashes (title ++ (dashes ++ [])) = some (title, []) := cutAt_append htitle []
  rw [labelOf, hdrop, hcut]
  exact congrArg Except.ok hname

def bodyLines (contents : Octets) : List (List Char) :=
  let body := Text.Base64.encode contents
  (Octets.chunks 64 body.length body).map Octets.chars

theorem bodyLines_flatten (contents : Octets) :
    (bodyLines contents).flatten = Octets.chars (Text.Base64.encode contents) := by
  have hflat (pieces : List Octets) : (pieces.map Octets.chars).flatten = Octets.chars pieces.flatten := by
    simp [Octets.chars, List.map_flatten]
    rfl
  rw [bodyLines, hflat, Octets.chunks_flatten (by omega) (Nat.le_refl _)]

theorem plain_char : ∀ n < 128, 42 < n → n ≠ 45 →
    Char.ofNat n ≠ '-' ∧ Char.ofNat n ≠ '\n' ∧ Text.isBlank (Char.ofNat n) = false := by decide

theorem plain_of_mem_bodyLines {contents : Octets} {line : List Char} (hl : line ∈ bodyLines contents) :
    PlainLine line := by
  obtain ⟨piece, hp, rfl⟩ := List.mem_map.mp hl
  obtain ⟨hne, hmem⟩ := Octets.mem_chunks (by omega) hp
  constructor
  · simpa [Octets.chars] using hne
  · intro c hc
    obtain ⟨b, hb, rfl⟩ := List.mem_map.mp hc
    obtain ⟨hlow, hhigh, hdash⟩ := Text.Base64.encode_plain contents b (hmem b hb)
    refine plain_char b.toNat hhigh hlow fun h => hdash ?_
    rw [← UInt8.ofNat_toNat (x := b), h]
    rfl

def openLines (b : Block) : List (List Char) :=
  (beginMark ++ b.label.toList ++ dashes) :: bodyLines b.contents

def lastLine (b : Block) : List Char :=
  endMark ++ b.label.toList ++ dashes

theorem write_toList (b : Block) : b.write.toList = linesText (openLines b) ++ lastLine b ++ ['\n'] := by
  simp [Block.write, openLines, lastLine, linesText, bodyLines, List.flatMap_def, Function.comp_def]

theorem trim_write_toList (b : Block) : (Text.trim b.write).toList = linesText (openLines b) ++ lastLine b := by
  have hne : lastLine b ≠ [] := by simp [lastLine, dashes]
  obtain ⟨rest, hrest⟩ : ∃ rest, linesText (openLines b) ++ lastLine b = '-' :: rest := ⟨_, rfl⟩
  have hlast : (linesText (openLines b) ++ lastLine b).getLast (by simp [hne]) = '-' := by
    simp [lastLine, dashes]
  rw [Text.trim, String.toList_ofList, write_toList]
  simp only [hrest] at hlast ⊢
  exact Text.trimChars_append_blank rfl (by rw [hlast]; rfl) rfl

theorem length_le_write (b : Block) : b.contents.length ≤ b.write.length := by
  have hbody : b.contents.length ≤ (bodyLines b.contents).flatten.length := by
    rw [bodyLines_flatten, Octets.chars, List.length_map]
    exact Text.Base64.length_le_encode b.contents
  have hlines (lines : List (List Char)) : lines.flatten.length ≤ (linesText lines).length := by
    induction lines with
    | nil => exact Nat.le_refl _
    | cons line lines ih =>
      simp only [linesText, List.flatten_cons, List.flatMap_cons, List.length_append] at ih ⊢
      omega
  have htext := hlines (openLines b)
  rw [← String.length_toList, write_toList]
  simp only [openLines, List.flatten_cons, List.length_append] at htext ⊢
  omega

section

variable {b : Block} (hd : '-' ∉ b.label.toList) (hn : '\n' ∉ b.label.toList)

include hd in
theorem readLines_lines : readLines (openLines b ++ [lastLine b]) = .ok b := by
  have hbegin : beginMark.isPrefixOf (beginMark ++ b.label.toList ++ dashes) = true := by
    rw [List.append_assoc]
    exact List.isPrefixOf_iff_prefix.mpr (List.prefix_append _ _)
  have hend : endMark.isPrefixOf (lastLine b) = true := by
    rw [lastLine, List.append_assoc]
    exact List.isPrefixOf_iff_prefix.mpr (List.prefix_append _ _)
  have hascii : ∀ c ∈ Text.Base64.encode b.contents, c.toNat < 128 :=
    fun c hc => (Text.Base64.encode_plain b.contents c hc).2.1
  rw [openLines, List.cons_append, readLines, if_pos hbegin, labelOf_begin hd,
    bodyOf_append (fun line hl => plain_of_mem_bodyLines hl) hend, bodyLines_flatten]
  dsimp only [bind, Except.bind]
  rw [Text.utf8_chars hascii, Text.Base64.decodeBlocks_encode, String.ofList_toList]
  rfl

include hn in
theorem not_mem_openLines : ∀ line ∈ openLines b, '\n' ∉ line := by
  intro line hl
  rcases List.mem_cons.mp hl with rfl | hl
  · simp [beginMark, dashes, hn]
  · exact fun hc => ((plain_of_mem_bodyLines hl).2 _ hc).2.1 rfl

include hn in
theorem not_mem_lastLine : '\n' ∉ lastLine b := by
  simp [lastLine, endMark, dashes, hn]

include hd hn

theorem read_write : read b.write = .ok b := by
  have hlines : linesOf b.write.toList = openLines b ++ [lastLine b] := by
    have hall : linesText (openLines b) ++ lastLine b ++ ['\n'] = linesText (openLines b ++ [lastLine b]) := by
      simp [linesText]
    rw [write_toList, hall, linesOf_linesText]
    exact List.forall_mem_append.mpr ⟨not_mem_openLines hn, List.forall_mem_singleton.mpr (not_mem_lastLine hn)⟩
  rw [read, hlines, readLines_lines hd]

theorem read_trim_write : read (Text.trim b.write) = .ok b := by
  have hne : lastLine b ≠ [] := by simp [lastLine, dashes]
  rw [read, trim_write_toList, linesOf_unended (not_mem_openLines hn) (not_mem_lastLine hn) hne, readLines_lines hd]

end

end CertEnroll.Pem
