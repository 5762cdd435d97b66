import CertEnroll.Proofs.Armour
import Mathlib.Data.List.Infix
import Mathlib.Data.String.Basic

/-!
Bundles of certificates. Splitting finds the blocks of a text: each goes from the first begin mark behind the block
before it to the first end mark from there on, and behind the last one no block is left. Blocks that are put one
below the other fall apart into themselves.
-/

namespace CertEnroll.Pem

section Marks

variable {before mark text : List Char}

structure FirstBehind (before mark text : List Char) : Prop where
  found : before ++ mark <+: text
  least : ∀ {earlier : List Char}, earlier ++ mark <+: text → before.length ≤ earlier.length

namespace FirstBehind

theorem of_start (h : mark <+: text) : FirstBehind [] mark text :=
  ⟨h, fun _ => Nat.zero_le _⟩

theorem cons {c : Char} (h : FirstBehind before mark text) (hn : ¬ mark <+: c :: text) :
    FirstBehind (c :: before) mark (c :: text) where
  found := List.cons_prefix_cons.mpr ⟨rfl, h.found⟩
  least {earlier} he := by
    cases earlier with
    | nil => exact absurd he hn
    | cons d earlier => exact Nat.succ_le_succ (h.least (List.cons_prefix_cons.mp he).2)

theorem unique {before' : List Char} (h : FirstBehind before mark text) (h' : FirstBehind before' mark text) :
    before = before' := by
  have hlength : before.length = before'.length := Nat.le_antisymm (h.least h'.found) (h'.least h.found)
  have hp : before <+: text := (List.prefix_append before mark).trans h.found
  have hp' : before' <+: text := (List.prefix_append before' mark).trans h'.found
  exact (List.prefix_of_prefix_length_le hp hp' hlength.le).eq_of_length hlength

theorem append (h : FirstBehind before mark text) (rest : List Char) : FirstBehind before mark (text ++ rest) where
  found := h.found.trans (List.prefix_append text rest)
  least {earlier} he := by
    by_contra hlt
    -- A mark that comes earlier ends within the text.
    have hlength := h.found.length_le
    simp only [List.length_append] at hlength
    have hwithin : earlier ++ mark <+: text := by
      apply List.prefix_of_prefix_length_le he (List.prefix_append text rest)
      rw [List.length_append]
      omega
    exact hlt (h.least hwithin)

theorem of_append {rest : List Char} (h : FirstBehind before mark (text ++ rest)) (hf : before ++ mark <+: text) :
    FirstBehind before mark text :=
  ⟨hf, fun he => h.least (he.trans (List.prefix_append text rest))⟩

end FirstBehind

theorem cutAt_eq_none : cutAt mark text = none ↔ ¬ mark <:+: text := by
  induction text with
  | nil =>
    rw [List.infix_nil, cutAt]
    split <;> simp_all
  | cons c text ih =>
    rw [cutAt, List.infix_cons_iff]
    split
    · rename_i hp
      simp [List.isPrefixOf_iff_prefix.mp hp]
    · rename_i hp
      have hn : ¬ mark <+: c :: text := fun h => hp (List.isPrefixOf_iff_prefix.mpr h)
      rw [Option.map_eq_none_iff, ih]
      simp [hn]

theorem firstBehind_of_cutAt {after : List Char} (h : cutAt mark text = some (before, after)) :
    FirstBehind before mark text ∧ text = before ++ (mark ++ after) := by
  induction text generalizing before with
  | nil =>
    rw [cutAt] at h
    split at h
    · rename_i hm
      cases h
      exact ⟨.of_start (hm ▸ List.prefix_rfl), by rw [hm]; rfl⟩
    · cases h
  | cons c text ih =>
    rw [cutAt] at h
    split at h
    · rename_i hp
      cases h
      have hprefix := List.isPrefixOf_iff_prefix.mp hp
      exact ⟨.of_start hprefix, (List.prefix_iff_eq_append.mp hprefix).symm⟩
    · rename_i hp
      rw [Option.map_eq_some_iff] at h
      obtain ⟨⟨before, after⟩, hc, he⟩ := h
      cases he
      obtain ⟨hfirst, htext⟩ := ih hc
      exact ⟨hfirst.cons fun h => hp (List.isPrefixOf_iff_prefix.mpr h), congrArg (c :: ·) htext⟩

theorem cutAt_of_firstBehind {after : List Char} (h : FirstBehind before mark text)
    (ht : text = before ++ (mark ++ after)) : cutAt mark text = some (before, after) := by
  cases hc : cutAt mark text with
  | none => exact absurd ⟨before, after, by rw [ht, List.append_assoc]⟩ (cutAt_eq_none.mp hc)
  | some cut =>
    obtain ⟨hfirst, hcut⟩ := firstBehind_of_cutAt hc
    obtain rfl := h.unique hfirst
    rw [ht, List.append_cancel_left_eq, List.append_cancel_left_eq] at hcut
    rw [hcut]

end Marks

inductive Layout
  | last (gap : List Char)
  | piece (gap block : List Char) (rest : Layout)

namespace Layout

def text : Layout → List Char
  | .last gap => gap
  | .piece gap block rest => gap ++ (block ++ rest.text)

def blocks : Layout → List (List Char)
  | .last _ => []
  | .piece _ block rest => block :: rest.blocks

/-- Each block starts with the first begin mark behind the block before it and ends with the first end mark from
there on. The last gap has no begin mark, or no end mark from its first begin mark on. -/
def Proper : Layout → Prop
  | .last gap => ∀ before, FirstBehind before certificateBegin gap → ¬ certificateEnd <:+: gap.drop before.length
  | .piece gap block rest =>
    FirstBehind gap certificateBegin (gap ++ (block ++ rest.text)) ∧
      (∃ body, block = body ++ certificateEnd ∧ FirstBehind body certificateEnd (block ++ rest.text)) ∧
      rest.Proper

end Layout

variable {text gap body rest : List Char}

theorem blocks_eq_nil (h : (Layout.last text).Proper) : blocks text = [] := by
  rw [blocks]
  split
  · rfl
  · rename_i before tail hbegin
    obtain ⟨hfirst, htext⟩ := firstBehind_of_cutAt hbegin
    have hnone := h before hfirst
    rw [htext, List.drop_left] at hnone
    split
    · rfl
    · simp_all [cutAt_eq_none.mpr hnone]

theorem blocks_eq_cons (hb : FirstBehind gap certificateBegin (gap ++ (body ++ certificateEnd ++ rest)))
    (he : FirstBehind body certificateEnd (body ++ certificateEnd ++ rest)) :
    blocks (gap ++ (body ++ certificateEnd ++ rest)) = (body ++ certificateEnd) :: blocks rest := by
  obtain ⟨tail, htail⟩ := hb.found
  rw [List.append_assoc, List.append_cancel_left_eq] at htail
  -- The end mark is looked for from the start of the begin mark on, as the block has it.
  have hcut : cutAt certificateBegin (gap ++ (body ++ certificateEnd ++ rest)) = some (gap, tail) :=
    cutAt_of_firstBehind hb (by rw [htail])
  have hcut' : cutAt certificateEnd (certificateBegin ++ tail) = some (body, rest) := by
    rw [htail]
    exact cutAt_of_firstBehind he (List.append_assoc ..)
  rw [blocks]
  split
  · simp_all
  · rename_i tail' hfound
    obtain ⟨-, rfl⟩ := Prod.mk.inj (Option.some.inj (hcut.symm.trans hfound))
    split
    · simp_all
    · rename_i hfound'
      obtain ⟨rfl, rfl⟩ := Prod.mk.inj (Option.some.inj (hcut'.symm.trans hfound'))
      rfl

namespace Layout

theorem blocks_text {layout : Layout} (h : layout.Proper) : Pem.blocks layout.text = layout.blocks := by
  induction layout with
  | last gap => exact blocks_eq_nil h
  | piece gap block rest ih =>
    obtain ⟨hbegin, ⟨body, rfl, hend⟩, hrest⟩ := h
    rw [text, blocks_eq_cons hbegin hend, ih hrest, blocks]

theorem exists_proper (text : List Char) : ∃ layout : Layout, layout.Proper ∧ layout.text = text := by
  fun_induction Pem.blocks text with
  | case1 text hnone =>
    refine ⟨.last text, ?_, rfl⟩
    intro before hfirst
    have hmark : certificateBegin <:+: text :=
      (List.suffix_append before certificateBegin).isInfix.trans hfirst.found.isInfix
    exact absurd hmark (cutAt_eq_none.mp hnone)
  | case2 text before tail hbegin hnone =>
    obtain ⟨hfirst, htext⟩ := firstBehind_of_cutAt hbegin
    refine ⟨.last text, ?_, rfl⟩
    intro before' hfirst'
    obtain rfl := hfirst.unique hfirst'
    rw [htext, List.drop_left]
    exact cutAt_eq_none.mp hnone
  | case3 text before tail hbegin body rest hend ih =>
    obtain ⟨hfirst, htext⟩ := firstBehind_of_cutAt hbegin
    obtain ⟨hfirst', htail⟩ := firstBehind_of_cutAt hend
    obtain ⟨layout, hproper, rfl⟩ := ih
    have hwhole : body ++ certificateEnd ++ layout.text = certificateBegin ++ tail := by rw [htail, List.append_assoc]
    refine ⟨.piece before (body ++ certificateEnd) layout, ⟨?_, ⟨body, rfl, ?_⟩, hproper⟩, ?_⟩
    · rwa [hwhole, ← htext]
    · rwa [hwhole]
    · rw [Layout.text, hwhole, htext]

end Layout

structure IsBlock (block : List Char) : Prop where
  begins : certificateBegin <+: block
  ends : ∃ body, block = body ++ certificateEnd ∧ FirstBehind body certificateEnd block

theorem IsBlock.blocks_append {block : List Char} (h : IsBlock block) (rest : List Char) :
    blocks (block ++ rest) = block :: blocks rest := by
  obtain ⟨hbegin, body, hblock, hend⟩ := h
  have hend' := hend.append rest
  have hfirst : FirstBehind [] certificateBegin (block ++ rest) :=
    .of_start (hbegin.trans (List.prefix_append block rest))
  rw [hblock] at hfirst hend' ⊢
  exact blocks_eq_cons hfirst hend'

theorem prefix_of_ends (hb : certificateBegin <+: body ++ certificateEnd ++ rest) :
    certificateBegin <+: body ++ certificateEnd := by
  rcases List.prefix_or_prefix_of_prefix hb (List.prefix_append _ rest) with h | h
  · exact h
  · -- Otherwise the end mark would be part of the begin mark, which is two characters longer.
    obtain ⟨tail, htail⟩ := h
    have hend : certificateEnd <+: certificateBegin.drop body.length :=
      ⟨tail, by rw [← htail, List.append_assoc, List.drop_left]⟩
    have hlength := hend.length_le
    have hroom : body.length ≤ 2 := by
      have hbegin : certificateBegin.length = 27 := by decide
      have hends : certificateEnd.length = 25 := by decide
      rw [List.length_drop, hbegin, hends] at hlength
      omega
    have hnone : ∀ n ≤ 2, ¬ certificateEnd <+: certificateBegin.drop n := by decide
    exact absurd hend (hnone _ hroom)

theorem Layout.Proper.isBlock {layout : Layout} (h : layout.Proper) : ∀ block ∈ layout.blocks, IsBlock block := by
  induction layout with
  | last gap => exact List.forall_mem_nil _
  | piece gap block rest ih =>
    obtain ⟨hbegin, ⟨body, rfl, hend⟩, hrest⟩ := h
    have hstart : certificateBegin <+: body ++ certificateEnd ++ rest.text :=
      (List.prefix_append_right_inj gap).mp hbegin.found
    exact List.forall_mem_cons.mpr
      ⟨⟨prefix_of_ends hstart, body, rfl, hend.of_append List.prefix_rfl⟩, ih hrest⟩

theorem isBlock_of_mem {block : List Char} (hb : block ∈ blocks text) : IsBlock block := by
  obtain ⟨layout, hproper, rfl⟩ := Layout.exists_proper text
  rw [Layout.blocks_text hproper] at hb
  exact hproper.isBlock block hb

theorem Layout.proper_nil : (Layout.last []).Proper := by
  intro before hfirst
  have hlength := hfirst.found.length_le
  simp [certificateBegin, dashes] at hlength

theorem blocks_nil : blocks [] = [] :=
  blocks_eq_nil Layout.proper_nil

theorem blocks_eq_singleton {block : List Char} : blocks block = [block] ↔ IsBlock block := by
  constructor
  · intro h
    exact isBlock_of_mem (h ▸ List.mem_singleton_self block)
  · intro h
    rw [← List.append_nil block, h.blocks_append, blocks_nil, List.append_nil]

theorem cutAt_certificateBegin (rest : List Char) : cutAt certificateEnd (certificateBegin ++ '\n' :: rest) =
    (cutAt certificateEnd rest).map fun (before, after) => (certificateBegin ++ '\n' :: before, after) := by
  simp [cutAt, certificateBegin, certificateEnd, beginMark, endMark, dashes, certificateLabel, Function.comp_def]

theorem isBlock_write {b : Block} (hl : b.label = certificateLabel) : IsBlock (Text.trim b.write).toList := by
  have hlast : lastLine b = certificateEnd := by rw [lastLine, hl, certificateEnd]
  have hopen : linesText (openLines b) = certificateBegin ++ '\n' :: linesText (bodyLines b.contents) := by
    rw [openLines, hl, linesText, List.flatMap_cons, certificateBegin, List.append_assoc]
    rfl
  have hdash : '-' ∉ linesText (bodyLines b.contents) := by
    intro hmem
    obtain ⟨line, hline, hc⟩ := List.mem_flatMap.mp hmem
    rcases List.mem_append.mp hc with hc | hc
    · exact ((plain_of_mem_bodyLines hline).2 _ hc).1 rfl
    · cases List.mem_singleton.mp hc
  have hcut : cutAt certificateEnd (linesText (bodyLines b.contents) ++ (certificateEnd ++ [])) =
      some (linesText (bodyLines b.contents), []) :=
    cutAt_append hdash []
  rw [List.append_nil] at hcut
  have hwhole := cutAt_certificateBegin (linesText (bodyLines b.contents) ++ certificateEnd)
  rw [hcut, Option.map_some, ← List.cons_append, ← List.append_assoc] at hwhole
  rw [trim_write_toList, hlast, hopen]
  exact ⟨(List.prefix_append _ _).trans (List.prefix_append _ _), _, rfl, (firstBehind_of_cutAt hwhole).1⟩

def Layout.stacked : List (List Char) → Layout
  | [] => .last []
  | block :: blocks => .piece ['\n'] block (stacked blocks)

@[simp] theorem Layout.blocks_stacked (blocks : List (List Char)) : (Layout.stacked blocks).blocks = blocks := by
  induction blocks with
  | nil => rfl
  | cons block blocks ih => rw [Layout.stacked, Layout.blocks, ih]

theorem Layout.proper_stacked {blocks : List (List Char)} (h : ∀ block ∈ blocks, IsBlock block) :
    (Layout.stacked blocks).Proper := by
  induction blocks with
  | nil => exact proper_nil
  | cons block blocks ih =>
    obtain ⟨hblock, hblocks⟩ := List.forall_mem_cons.mp h
    obtain ⟨hbegin, body, he, hend⟩ := hblock
    refine ⟨?_, ⟨body, he, hend.append _⟩, ih hblocks⟩
    apply FirstBehind.cons (.of_start (hbegin.trans (List.prefix_append _ _)))
    intro hp
    cases (List.cons_prefix_cons.mp hp).1

theorem joinBundle_toList (block : String) (blocks : List String) :
    (joinBundle (block :: blocks)).toList = block.toList ++ (Layout.stacked (blocks.map String.toList)).text := by
  rw [joinBundle, String.toList_intercalate]
  induction blocks generalizing block with
  | nil => simp [Layout.stacked, Layout.text]
  | cons next blocks ih =>
    have hnext := ih next
    simp only [List.map_cons] at hnext ⊢
    rw [List.intercalate_cons_cons, hnext, List.append_assoc]
    rfl

theorem splitBundle_eq_singleton {block : String} : splitBundle block = [block] ↔ IsBlock block.toList := by
  rw [← blocks_eq_singleton, splitBundle]
  constructor
  · intro h
    have hchars := congrArg (List.map String.toList) h
    simpa using hchars
  · intro h
    rw [h]
    simp

theorem splitBundle_of_mem {bundle block : String} (h : block ∈ splitBundle bundle) : splitBundle block = [block] := by
  obtain ⟨chars, hmem, rfl⟩ := List.mem_map.mp h
  rw [splitBundle_eq_singleton, String.toList_ofList]
  exact isBlock_of_mem hmem

theorem splitBundle_joinBundle {blocks : List String} (h : ∀ block ∈ blocks, splitBundle block = [block]) :
    splitBundle (joinBundle blocks) = blocks := by
  cases blocks with
  | nil => simp [joinBundle, splitBundle, blocks_nil]
  | cons block blocks =>
    obtain ⟨hblock, hblocks⟩ := List.forall_mem_cons.mp h
    have hrest : (Layout.stacked (blocks.map String.toList)).Proper := by
      apply Layout.proper_stacked
      intro chars hmem
      obtain ⟨next, hnext, rfl⟩ := List.mem_map.mp hmem
      exact splitBundle_eq_singleton.mp (hblocks next hnext)
    rw [splitBundle, joinBundle_toList, (splitBundle_eq_singleton.mp hblock).blocks_append,
      Layout.blocks_text hrest, Layout.blocks_stacked]
    simp

/-- The blocks are those of the one proper layout of the text, and joining them loses none of them. -/
theorem splits_at_marks (bundle : String) :
    (∀ blocks : List String, splitBundle bundle = blocks ↔
      ∃ layout : Layout, layout.Proper ∧ layout.text = bundle.toList ∧ layout.blocks.map String.ofList = blocks) ∧
    splitBundle (joinBundle (splitBundle bundle)) = splitBundle bundle := by
  refine ⟨fun blocks => ⟨?_, ?_⟩, splitBundle_joinBundle fun block => splitBundle_of_mem⟩
  · rintro rfl
    obtain ⟨layout, hproper, htext⟩ := Layout.exists_proper bundle.toList
    refine ⟨layout, hproper, htext, ?_⟩
    rw [splitBundle, ← htext, Layout.blocks_text hproper]
  · rintro ⟨layout, hproper, htext, rfl⟩
    rw [splitBundle, ← htext, Layout.blocks_text hproper]

end CertEnroll.Pem
