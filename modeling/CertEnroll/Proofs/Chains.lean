import CertEnroll.Certificate
import CertEnroll.Proofs.Bundles
import CertEnroll.Proofs.ClientTimeout
import CertEnroll.Proofs.Handout
import CertEnroll.Proofs.NormalNames

namespace CertEnroll.Pem

variable {lines : List (List Char)} {block : Block}

theorem bodyOf_extended {body : List Char} (h : bodyOf lines = .ok body) (more : List (List Char)) :
    bodyOf (lines ++ more) = .ok body := by
  induction lines generalizing body with
  | nil => cases h
  | cons line lines ih =>
    rw [bodyOf] at h
    rw [List.cons_append, bodyOf]
    split at h
    · rename_i hend
      rwa [if_pos hend]
    · rename_i hend
      rw [if_neg hend]
      cases hrest : bodyOf lines with
      | error flaw =>
        rw [hrest] at h
        cases h
      | ok rest => rwa [ih hrest, ← hrest]

theorem readLines_extended (h : readLines lines = .ok block) (more : List (List Char)) :
    readLines (lines ++ more) = .ok block := by
  induction lines with
  | nil => cases h
  | cons line lines ih =>
    rw [readLines] at h
    rw [List.cons_append, readLines]
    split at h
    · rename_i hbegin
      rw [if_pos hbegin]
      cases hbody : bodyOf lines with
      | error flaw =>
        rw [hbody] at h
        cases hlabel : labelOf line <;> rw [hlabel] at h <;> cases h
      | ok body => rwa [bodyOf_extended hbody, ← hbody]
    · rename_i hbegin
      rw [if_neg hbegin]
      exact ih h

theorem linesOf_of_split {cs last : List Char} (h : Text.splitChars '\n' cs = lines ++ [last]) :
    linesOf cs = lines ++ if last = [] then [] else [last] := by
  rw [linesOf, h, List.reverse_append]
  cases last <;> simp

theorem exists_split (cs : List Char) : ∃ lines last, Text.splitChars '\n' cs = lines ++ [last] :=
  ⟨_, _, (List.dropLast_append_getLast (Text.splitChars_ne_nil '\n' cs)).symm⟩

theorem linesOf_extended (first more : List Char) : linesOf first <+: linesOf (first ++ '\n' :: more) := by
  obtain ⟨lines, last, hfirst⟩ := exists_split first
  obtain ⟨lines', last', hmore⟩ := exists_split more
  -- The end of the line behind the first text makes its last line whole, even an empty one.
  have hwhole : Text.splitChars '\n' (first ++ '\n' :: more) = (lines ++ [last] ++ lines') ++ [last'] := by
    rw [List.append_assoc _ lines', ← hmore, ← hfirst]
    simp only [Text.splitChars_eq_splitOn, List.splitOn_append_cons_self]
  rw [linesOf_of_split hfirst, linesOf_of_split hwhole]
  by_cases hl : last = [] <;> simp [hl]

theorem read_joinBundle {first : String} (h : read first = .ok block) (others : List String) :
    read (joinBundle (first :: others)) = .ok block := by
  rw [read, joinBundle_toList]
  cases others with
  | nil => rwa [List.map_nil, Layout.stacked, Layout.text, List.append_nil]
  | cons next others =>
    obtain ⟨more, hmore⟩ := linesOf_extended first.toList
      (next.toList ++ (Layout.stacked (others.map String.toList)).text)
    rw [List.map_cons, Layout.stacked, Layout.text, List.singleton_append, ← hmore]
    exact readLines_extended h more

theorem IsBlock.getLast? {chars : List Char} (h : IsBlock chars) : chars.getLast? = some '-' := by
  obtain ⟨body, rfl, -⟩ := h.ends
  simp [certificateEnd, dashes]

theorem getLast?_stacked {first : List Char} {blocks : List (List Char)} (hf : first.getLast? = some '-')
    (hb : ∀ block ∈ blocks, IsBlock block) : (first ++ (Layout.stacked blocks).text).getLast? = some '-' := by
  induction blocks generalizing first with
  | nil => rwa [Layout.stacked, Layout.text, List.append_nil]
  | cons block blocks ih =>
    obtain ⟨hblock, hblocks⟩ := List.forall_mem_cons.mp hb
    rw [Layout.stacked, Layout.text, ← List.append_assoc, ← List.append_assoc]
    apply ih _ hblocks
    rw [List.getLast?_append, hblock.getLast?, Option.some_or]

theorem trimmed_joinBundle {first : String} {others : List String}
    (h : ∀ block ∈ first :: others, splitBundle block = [block]) : Text.Trimmed (joinBundle (first :: others)) := by
  obtain ⟨hfirst, hothers⟩ := List.forall_mem_cons.mp h
  have hblock : IsBlock first.toList := splitBundle_eq_singleton.mp hfirst
  -- Blocks begin and end with a dash, and a dash is not blank.
  intro c hc
  rw [joinBundle_toList] at hc
  rcases hc with hhead | hlast
  · obtain ⟨tail, htail⟩ := hblock.begins
    rw [← htail] at hhead
    obtain rfl : '-' = c := Option.some.inj hhead
    rfl
  · rw [getLast?_stacked hblock.getLast?] at hlast
    · obtain rfl : '-' = c := Option.some.inj hlast
      rfl
    · intro chars hmem
      obtain ⟨next, hnext, rfl⟩ := List.mem_map.mp hmem
      exact splitBundle_eq_singleton.mp (hothers next hnext)

theorem trim_of_mem {bundle block : String} (h : block ∈ splitBundle bundle) : Text.trim block = block := by
  have halone : ∀ other ∈ [block], splitBundle other = [other] :=
    List.forall_mem_singleton.mpr (splitBundle_of_mem h)
  simpa [joinBundle] using (trimmed_joinBundle halone).trim_eq

end CertEnroll.Pem

namespace CertEnroll

def IssuedSet.InBlocks (issued : IssuedSet) : Prop :=
  ∀ certificate ∈ issued.certificate :: issued.chain,
    Pem.splitBundle (Text.trim certificate) = [Text.trim certificate]

namespace Tpp

theorem Holds.inBlocks {data : String} {issued : IssuedSet} (h : Holds data issued.certificate issued.chain) :
    issued.InBlocks := by
  obtain ⟨text, -, hbundle⟩ := h
  intro certificate hmem
  rw [← hbundle] at hmem
  rw [Pem.trim_of_mem hmem]
  exact Pem.splitBundle_of_mem hmem

theorem Holds.of_splitBundle {text certificate : String} {chain : List String}
    (h : Pem.splitBundle text = certificate :: chain) :
    Holds (String.ofList (Octets.chars (Text.Base64.encode (Text.Utf8.encode text)))) certificate chain := by
  refine ⟨text, ?_, h⟩
  have hplain := Text.Base64.encode_plain (Text.Utf8.encode text)
  have hvisible : ∀ c ∈ Octets.chars (Text.Base64.encode (Text.Utf8.encode text)), Text.isBlank c = false := by
    intro c hc
    obtain ⟨b, hb, rfl⟩ := List.mem_map.mp hc
    obtain ⟨hlow, hhigh, hdash⟩ := hplain b hb
    refine (Pem.plain_char b.toNat hhigh hlow fun he => hdash ?_).2.2
    rw [← UInt8.ofNat_toNat (x := b), he]
    rfl
  rw [unblanked, String.toList_ofList, List.filter_eq_self.mpr fun c hc => by rw [hvisible c hc]; rfl,
    Text.utf8_chars fun b hb => (hplain b hb).2.1]

theorem readReply_inBlocks {reply : Http.Reply} {issued : IssuedSet} (h : readReply reply = .ok issued) :
    issued.InBlocks := by
  obtain ⟨status, body⟩ := reply
  cases hw : isWaiting status with
  | true =>
    obtain ⟨e, he, -⟩ : ∃ e, readReply ⟨status, body⟩ = .error e ∧ _ := readReply_waiting hw
    cases he.symm.trans h
  | false =>
    by_cases hs : status = 200
    · subst hs
      cases body with
      | lost timedOut => cases h
      | whole octets =>
        obtain ⟨data, -, hholds⟩ := readReply_ok.mp h
        exact hholds.inBlocks
    · cases (readReply_refused hw hs body).symm.trans h

theorem retrieve_inBlocks {t : Tpp} {handle : PickupHandle} {send : Http.Request → Http.Outcome} {issued : IssuedSet}
    (h : (t.retrieve handle).resolve send = .ok issued) : issued.InBlocks := by
  rw [retrieve] at h
  split at h
  · cases h
  · rename_i url hurl
    rw [Http.Exchange.resolve] at h
    cases ho : send (t.post url (retrieval handle)) with
    | reply reply =>
      rw [ho] at h
      exact readReply_inBlocks h
    | invalid => rw [ho] at h; cases h
    | unreachable => rw [ho] at h; cases h
    | timedOut => rw [ho] at h; cases h

end Tpp

theorem IssuedSet.materialize_again {issued : IssuedSet} {kept : MaterializedCertificate} {text : String}
    (hm : issued.materialize = .ok kept) (ht : Text.trim text = text)
    (hr : ∀ {block}, Pem.read kept.certificate = .ok block → Pem.read text = .ok block) :
    ∃ again, IssuedSet.materialize ⟨text, []⟩ = .ok again ∧
      again.serialNumber = kept.serialNumber ∧ again.notAfter = kept.notAfter := by
  obtain ⟨contents, leaf, hcontents, hleaf, rfl⟩ := materialize_eq_ok.mp hm
  refine ⟨_, materialize_eq_ok.mpr ⟨contents, leaf, ?_, hleaf, rfl⟩, rfl, rfl⟩
  rw [ht, leafContents_eq_ok]
  exact hr (leafContents_eq_ok.mp hcontents)

/-- What a platform hands out comes in blocks. The chain of a set in blocks falls apart into the leaf and its issuers,
and the chain and the leaf are each materialized with the serial number and the expiry of the leaf. -/
theorem chain_comes_apart :
    (∀ (t : Tpp) (handle : PickupHandle) (send : Http.Request → Http.Outcome) (issued : IssuedSet),
      (t.retrieve handle).resolve send = .ok issued → issued.InBlocks) ∧
    ∀ (issued : IssuedSet) (kept : MaterializedCertificate), issued.InBlocks → issued.materialize = .ok kept →
      kept.certificate = Text.trim issued.certificate ∧
      Pem.splitBundle kept.certificateChain = kept.certificate :: issued.chain.map Text.trim ∧
      ∀ text ∈ [kept.certificateChain, kept.certificate], ∃ again, IssuedSet.materialize ⟨text, []⟩ = .ok again ∧
        again.serialNumber = kept.serialNumber ∧ again.notAfter = kept.notAfter := by
  refine ⟨fun t handle send issued => Tpp.retrieve_inBlocks, ?_⟩
  intro issued kept hblocks hm
  have hentries : ∀ block ∈ Text.trim issued.certificate :: issued.chain.map Text.trim,
      Pem.splitBundle block = [block] := by
    rw [← List.map_cons, List.forall_mem_map]
    exact hblocks
  obtain ⟨contents, leaf, -, -, hkept⟩ := IssuedSet.materialize_eq_ok.mp hm
  have hleaf : kept.certificate = Text.trim issued.certificate := by rw [hkept]
  have hchain : kept.certificateChain =
      Pem.joinBundle (Text.trim issued.certificate :: issued.chain.map Text.trim) := by rw [hkept]
  refine ⟨hleaf, ?_, List.forall_mem_cons.mpr ⟨?_, List.forall_mem_singleton.mpr ?_⟩⟩
  · rw [hchain, hleaf, Pem.splitBundle_joinBundle hentries]
  · -- The chain has nothing to trim, and its first block is that of the leaf.
    apply IssuedSet.materialize_again hm
    · rw [hchain, (Pem.trimmed_joinBundle hentries).trim_eq]
    · intro block hread
      rw [hchain]
      exact Pem.read_joinBundle (hleaf ▸ hread) _
  · apply IssuedSet.materialize_again hm
    · rw [hleaf, Text.trim_trim]
    · exact id

namespace Enrollment

open LocalCa (trialBlock)

def fetchedBundle : String :=
  Pem.joinBundle [Text.trim trialBlock.write, trialCertificate]

def fetchedData : String :=
  String.ofList (Octets.chars (Text.Base64.encode (Text.Utf8.encode fetchedBundle)))

def fetched : Http.Reply :=
  ⟨200, .whole (Json.object [("CertificateData", .string fetchedData)]).octets⟩

def fetchedSet : IssuedSet := ⟨Text.trim trialBlock.write, [trialCertificate]⟩

theorem resolve_fetched : (trialPlatform.retrieve ⟨trialDn⟩).resolve (fun _ => .reply fetched) = .ok fetchedSet := by
  have hbundle : Pem.splitBundle fetchedBundle = [Text.trim trialBlock.write, trialCertificate] := by
    apply Pem.splitBundle_joinBundle
    rw [List.forall_mem_cons, List.forall_mem_singleton]
    exact ⟨Pem.splitBundle_eq_singleton.mpr (Pem.isBlock_write rfl), by decide +kernel⟩
  have hholds : Tpp.Holds fetchedData (Text.trim trialBlock.write) [trialCertificate] := .of_splitBundle hbundle
  have hbody := Tpp.readBody_member "RetrieveResponse" "CertificateData" fetchedData
  rw [Tpp.retrieve_resolve target_trial rfl, Tpp.readRetrieved, fetched, Tpp.readReply_ok]
  exact ⟨fetchedData, hbody, hholds⟩

theorem materialize_fetched : ∃ kept, fetchedSet.materialize = .ok kept ∧
    kept.serialNumber = "07:07:07:07:07:07:07:07:07:07:07:07:07:07:07:07" ∧ kept.notAfter = ⟨7776000, 0⟩ := by
  have hleaf : (Der.readCertificate trialBlock.contents).map (fun leaf => (leaf.serial, leaf.notAfter)) =
      some (List.replicate 16 7, 7776000) := by decide +kernel
  obtain ⟨leaf, hread, hfields⟩ := Option.map_eq_some_iff.mp hleaf
  obtain ⟨hserial, hexpiry⟩ := Prod.mk.inj hfields
  have hshown : Serial.format (List.replicate 16 7) = "07:07:07:07:07:07:07:07:07:07:07:07:07:07:07:07" := by
    decide
  have hwritten : Text.trim fetchedSet.certificate =
      Text.trim (Pem.Block.mk Pem.certificateLabel trialBlock.contents).write := Text.trim_trim _
  obtain ⟨kept, hm, -, hnumber, hafter⟩ := IssuedSet.materialize_written hwritten hread
  exact ⟨kept, hm, by rw [hnumber, hserial, hshown], by rw [hafter, hexpiry]⟩

theorem chain_comes_apart_fetched :
    ∃ issued kept again,
      (trialPlatform.retrieve ⟨trialDn⟩).resolve (fun _ => .reply fetched) = .ok issued ∧
      issued.materialize = .ok kept ∧ Pem.splitBundle kept.certificateChain = [kept.certificate, trialCertificate] ∧
      IssuedSet.materialize ⟨kept.certificateChain, []⟩ = .ok again ∧
      again.serialNumber = "07:07:07:07:07:07:07:07:07:07:07:07:07:07:07:07" ∧ again.notAfter = ⟨7776000, 0⟩ := by
  obtain ⟨kept, hm, hserial, hexpiry⟩ := materialize_fetched
  obtain ⟨-, hsplit, hagain⟩ := chain_comes_apart.2 _ _ (chain_comes_apart.1 _ _ _ _ resolve_fetched) hm
  obtain ⟨again, hfrom, hnumber, hafter⟩ := hagain kept.certificateChain List.mem_cons_self
  have htrim : fetchedSet.chain.map Text.trim = [trialCertificate] := by decide
  rw [htrim] at hsplit
  exact ⟨_, kept, again, resolve_fetched, hm, hsplit, hfrom, hnumber.trans hserial, hafter.trans hexpiry⟩

end Enrollment

end CertEnroll
