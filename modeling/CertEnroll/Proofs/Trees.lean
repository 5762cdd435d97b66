import CertEnroll.Der.Tree
import CertEnroll.Proofs.Octets

namespace CertEnroll.Der

def lengthLimit : Nat := 256 ^ 127

theorem decodeLength_encode {n : Nat} (h : n < lengthLimit) (rest : Octets) :
    Tree.decodeLength (lengthOctets n ++ rest) = some (n, rest) := by
  unfold lengthOctets
  split
  · rename_i hs
    have hn : (UInt8.ofNat n).toNat = n := by
      rw [UInt8.toNat_ofNat']
      omega
    simp [Tree.decodeLength, hn, hs]
  · rename_i hs
    have hw : Octets.width n ≤ 127 := Octets.width_le h
    have hb : (UInt8.ofNat (128 + Octets.width n)).toNat = 128 + Octets.width n := by
      rw [UInt8.toNat_ofNat']
      omega
    have hsize : 128 + Octets.width n - 128 = Octets.width n := by omega
    have htake : (Octets.ofNat (Octets.width n) n ++ rest).take (Octets.width n) =
        Octets.ofNat (Octets.width n) n :=
      List.take_left' (Octets.ofNat_length _ _)
    have hdrop : (Octets.ofNat (Octets.width n) n ++ rest).drop (Octets.width n) = rest :=
      List.drop_left' (Octets.ofNat_length _ _)
    rw [List.cons_append, Tree.decodeLength]
    simp only [hb, hsize, htake, hdrop, Octets.toNat_ofNat_width]
    rw [if_neg (by omega), if_pos]
    refine ⟨?_, trivial, by omega⟩
    simp

theorem eq_of_decodeLength {octets rest : Octets} {n : Nat} (h : Tree.decodeLength octets = some (n, rest)) :
    octets = lengthOctets n ++ rest := by
  unfold Tree.decodeLength at h
  split at h
  · cases h
  · rename_i b octets
    split at h
    · rename_i hs
      obtain ⟨rfl, rfl⟩ := Prod.mk.inj (Option.some.inj h)
      rw [lengthOctets, if_pos hs, UInt8.ofNat_toNat, List.singleton_append]
    · rename_i hs
      dsimp only at h
      split at h
      · rename_i hl
        obtain ⟨hsize, hwidth, hlong⟩ := hl
        obtain ⟨rfl, rfl⟩ := Prod.mk.inj (Option.some.inj h)
        have htake : (octets.take (b.toNat - 128)).length = b.toNat - 128 := by
          rw [List.length_take, Nat.min_eq_left hsize]
        have hb : UInt8.ofNat (128 + (b.toNat - 128)) = b := by
          rw [Nat.add_sub_cancel' (Nat.not_lt.mp hs), UInt8.ofNat_toNat]
        have hn := Octets.ofNat_toNat (octets.take (b.toNat - 128))
        rw [htake] at hn
        rw [lengthOctets, if_neg (Nat.not_lt.mpr hlong), hwidth, hb, hn, List.cons_append, List.take_append_drop]
      · cases h

namespace Tree

theorem eq_of_decodeElement {tag : UInt8} {octets content rest : Octets}
    (h : decodeElement octets = some (tag, content, rest)) : octets = element tag content ++ rest := by
  cases octets with
  | nil => cases h
  | cons b octets =>
    simp only [decodeElement, Option.bind_eq_bind, Option.bind_eq_some_iff] at h
    obtain ⟨⟨n, after⟩, hlength, _, hguard, hread⟩ := h
    have hn : n ≤ after.length := ((Option.guard_eq_some' _).mp hguard).2
    obtain ⟨rfl, rfl, rfl⟩ : b = tag ∧ after.take n = content ∧ after.drop n = rest := by
      simpa using hread
    have htake : (after.take n).length = n := by rw [List.length_take, Nat.min_eq_left hn]
    rw [eq_of_decodeLength hlength, element, htake, List.cons_append, List.cons_append, List.append_assoc,
      List.take_append_drop]

theorem eq_of_decodeItems {fuel : Nat} {octets : Octets} {items : List Tree}
    (h : decodeItems fuel octets = some items) : octets = encodeAll items := by
  induction fuel generalizing octets items with
  | zero =>
    cases octets with
    | nil =>
      cases h
      rfl
    | cons => cases h
  | succ fuel ih =>
    cases octets with
    | nil =>
      cases h
      rfl
    | cons b octets =>
      rw [decodeItems, Option.bind_eq_bind, Option.bind_eq_some_iff] at h
      obtain ⟨⟨tag, content, rest⟩, helement, h⟩ := h
      obtain ⟨first, others, rfl, hencode, hothers⟩ : ∃ first others, first :: others = items ∧
          first.encode = element tag content ∧ decodeItems fuel rest = some others := by
        dsimp only at h
        split at h
        · simp only [Option.bind_eq_bind, Option.bind_eq_some_iff, Option.map_eq_some_iff] at h
          obtain ⟨_, ⟨inner, hinner, rfl⟩, others, hothers, hitems⟩ := h
          exact ⟨_, others, Option.some.inj hitems, by rw [encode, ← ih hinner], hothers⟩
        · simp only [Option.bind_eq_bind, Option.bind_eq_some_iff, Option.bind_some] at h
          obtain ⟨others, hothers, hitems⟩ := h
          exact ⟨_, others, Option.some.inj hitems, rfl, hothers⟩
      rw [encodeAll, hencode, ← ih hothers]
      exact eq_of_decodeElement helement

theorem eq_of_decode {octets : Octets} {t : Tree} (h : decode octets = some t) : octets = t.encode := by
  unfold decode at h
  split at h
  · rename_i hitems
    obtain rfl := Option.some.inj h
    have hall := eq_of_decodeItems hitems
    rwa [encodeAll, encodeAll, List.append_nil] at hall
  · cases h

theorem decodeElement_encode {tag : UInt8} {content : Octets} (ht : tag.toNat % 32 ≠ 31)
    (hl : content.length < lengthLimit) (rest : Octets) :
    decodeElement (element tag content ++ rest) = some (tag, content, rest) := by
  rw [element, List.cons_append, List.cons_append, List.append_assoc, decodeElement,
    decodeLength_encode hl]
  simp [ht]

inductive Proper : Tree → Prop
  | leaf {tag : UInt8} {content : Octets} (primitive : isNodeTag tag = false) (short : tag.toNat % 32 ≠ 31) :
    Proper (leaf tag content)
  | node {tag : UInt8} {items : List Tree} (constructed : isNodeTag tag = true) (short : tag.toNat % 32 ≠ 31)
    (parts : ∀ t ∈ items, Proper t) : Proper (node tag items)

def Decodes (t : Tree) : Prop :=
  ∀ fuel rest, t.encode.length ≤ fuel + 1 → t.encode.length < lengthLimit →
    decodeItems (fuel + 1) (t.encode ++ rest) = (decodeItems fuel rest).map (t :: ·)

theorem length_lt_element (tag : UInt8) (content : Octets) :
    content.length + 1 < (element tag content).length := by
  have : 0 < (lengthOctets content.length).length := by
    unfold lengthOctets
    split <;> simp
  simp only [element, List.length_append, List.length_cons]
  omega

theorem decodeItems_element {tag : UInt8} {content rest : Octets} {fuel : Nat} (ht : tag.toNat % 32 ≠ 31)
    (hl : content.length < lengthLimit) :
    decodeItems (fuel + 1) (element tag content ++ rest) = do
      let first ←
        if isNodeTag tag then (decodeItems fuel content).map (node tag) else some (leaf tag content)
      return first :: (← decodeItems fuel rest) := by
  have hcons : element tag content ++ rest = tag :: (lengthOctets content.length ++ content ++ rest) := rfl
  rw [hcons, decodeItems, ← hcons, decodeElement_encode ht hl]
  rfl

theorem decodeItems_encodeAll {items : List Tree} {fuel : Nat} (hd : ∀ t ∈ items, t.Decodes)
    (hf : (encodeAll items).length ≤ fuel) (hl : (encodeAll items).length < lengthLimit) :
    decodeItems fuel (encodeAll items) = some items := by
  induction items generalizing fuel with
  | nil => cases fuel <;> rfl
  | cons t items ih =>
    have ht : 0 < t.encode.length := by
      cases t with
      | leaf tag content => exact Nat.zero_lt_of_lt (length_lt_element tag content)
      | node tag items => exact Nat.zero_lt_of_lt (length_lt_element tag (encodeAll items))
    rw [encodeAll, List.length_append] at hf hl
    obtain ⟨fuel, rfl⟩ : ∃ f, fuel = f + 1 := ⟨fuel - 1, by omega⟩
    rw [encodeAll, hd t List.mem_cons_self fuel _ (by omega) (by omega),
      ih (fun t ht => hd t (List.mem_cons_of_mem _ ht)) (by omega) (by omega)]
    rfl

theorem Proper.decodes {t : Tree} (ht : t.Proper) : t.Decodes := by
  induction ht with
  | @leaf tag content primitive short =>
    intro fuel rest hf hl
    have := length_lt_element tag content
    simp only [encode] at hf hl ⊢
    rw [decodeItems_element short (by omega), primitive]
    cases decodeItems fuel rest <;> rfl
  | @node tag items constructed short _ ih =>
    intro fuel rest hf hl
    have := length_lt_element tag (encodeAll items)
    simp only [encode] at hf hl ⊢
    rw [decodeItems_element short (by omega), constructed, if_pos rfl,
      decodeItems_encodeAll ih (by omega) (by omega)]
    cases decodeItems fuel rest <;> rfl

theorem decode_encode {t : Tree} (ht : t.Proper) (hl : t.encode.length < lengthLimit) :
    decode t.encode = some t := by
  have hall : encodeAll [t] = t.encode := by simp [encodeAll]
  have hitems : decodeItems t.encode.length (encodeAll [t]) = some [t] :=
    decodeItems_encodeAll (by simpa using ht.decodes) (by rw [hall]) (by rwa [hall])
  rw [hall] at hitems
  rw [decode, decodeAll, hitems]

theorem encode_inj {t t' : Tree} (ht : t.Proper) (ht' : t'.Proper) (hl : t.encode.length < lengthLimit)
    (he : t.encode = t'.encode) : t = t' := by
  have hread := decode_encode ht hl
  rw [he] at hl hread
  exact Option.some.inj (hread.symm.trans (decode_encode ht' hl))

theorem length_le_encodeAll {t : Tree} {items : List Tree} (ht : t ∈ items) :
    t.encode.length ≤ (encodeAll items).length := by
  induction items with
  | nil => cases ht
  | cons first items ih =>
    rw [encodeAll, List.length_append]
    rcases List.mem_cons.mp ht with rfl | ht
    · exact Nat.le_add_right _ _
    · exact (ih ht).trans (Nat.le_add_left _ _)

theorem length_le_node {t : Tree} {items : List Tree} (ht : t ∈ items) (tag : UInt8) :
    t.encode.length ≤ (node tag items).encode.length := by
  have hcontent := length_lt_element tag (encodeAll items)
  rw [encode]
  exact (length_le_encodeAll ht).trans (by omega)

end Tree

end CertEnroll.Der
