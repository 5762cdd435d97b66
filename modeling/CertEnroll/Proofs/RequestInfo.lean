import CertEnroll.Proofs.RequestForm

/-!
What a request asks for, read strictly: every part must be there in its distinguished form, and nothing else may be.
-/

namespace CertEnroll.SigningRequest

open Der (Tree Identifier lengthLimit)
open Crypto (PublicKey PrivateKey)

structure RequestInfo where
  version : Nat
  subject : List (List (Identifier × String))
  publicKey : Tree
  attributes : List (Identifier × List Tree)

structure RequestedExtension where
  identifier : Identifier
  critical : Bool
  value : Octets
deriving DecidableEq

namespace RequestInfo

def readSet : Tree → Option (List Tree)
  | .node 0x31 items => if items.Pairwise (fun s t => s.encode < t.encode) then some items else none
  | _ => none

def readNamePart : Tree → Option (Identifier × String)
  | .node 0x30 [i, .leaf 0x0c octets] => do return (← Identifier.ofTree? i, ← Text.Utf8.decode octets)
  | _ => none

def readSubject : Tree → Option (List (List (Identifier × String)))
  | .node 0x30 sets => sets.mapM fun set => do (← readSet set).mapM readNamePart
  | _ => none

def readAttribute : Tree → Option (Identifier × List Tree)
  | .node 0x30 [i, values] => do return (← Identifier.ofTree? i, ← readSet values)
  | _ => none

def ofOctets? (octets : Octets) : Option RequestInfo :=
  match Tree.decode octets with
  | some (.node 0x30 [version, subject, publicKey, .node 0xa0 attributes]) => do
    let version ← version.nat?
    let subject ← readSubject subject
    let attributes ← (← readSet (.node 0x31 attributes)).mapM readAttribute
    return { version, subject, publicKey, attributes }
  | _ => none

def readExtension : Tree → Option RequestedExtension
  | .node 0x30 [i, .leaf 0x04 value] => do return ⟨← Identifier.ofTree? i, false, value⟩
  | .node 0x30 [i, .leaf 0x01 [0xff], .leaf 0x04 value] => do return ⟨← Identifier.ofTree? i, true, value⟩
  | _ => none

def readExtensions : Tree → Option (List RequestedExtension)
  | .node 0x30 extensions => extensions.mapM readExtension
  | _ => none

def readDnsName : Tree → Option String
  | .leaf 0x82 octets => if octets.all (·.toNat < 128) then Text.Utf8.decode octets else none
  | _ => none

def readDnsNames (value : Octets) : Option (List String) :=
  match Tree.decode value with
  | some (.node 0x30 names) => names.mapM readDnsName
  | _ => none

structure AsksFor (info : RequestInfo) (names : SubjectNames) : Prop where
  version : info.version = 0
  subject : info.subject = [[(Identifier.commonName, names.commonName)]]
  attributes : ∃ extensions value, info.attributes = [(Identifier.extensionRequest, [extensions])] ∧
    readExtensions extensions = some [⟨Identifier.alternativeNames, false, value⟩] ∧
    readDnsNames value = some names.altNames

end RequestInfo

open RequestInfo (readSet readNamePart readSubject readAttribute readExtension readExtensions readDnsName readDnsNames)

def IsAscii (name : String) : Prop :=
  ∀ c ∈ name.toList, c.toNat < 128

theorem isNetworkName_iff {name : String} : isNetworkName name = true ↔ IsAscii name := by
  simp only [isNetworkName, IsAscii, List.all_eq_true, decide_eq_true_eq]

theorem mapM_map_eq_some {α β : Type} {f : α → β} {g : β → Option α} {xs : List α} (h : ∀ x ∈ xs, g (f x) = some x) :
    (xs.map f).mapM g = some xs := by
  induction xs with
  | nil => rfl
  | cons x xs ih =>
    rw [List.forall_mem_cons] at h
    rw [List.map_cons, List.mapM_cons, h.1, ih h.2]
    rfl

theorem readSet_singleton (t : Tree) : readSet (.node 0x31 [t]) = some [t] := by
  rw [readSet, if_pos (List.pairwise_singleton _ t)]

theorem readNamePart_commonName (commonName : String) :
    readNamePart (.sequence [Identifier.commonName.tree, .leaf 0x0c (Text.Utf8.encode commonName)]) =
      some (Identifier.commonName, commonName) := by
  have hi : Identifier.ofTree? Identifier.commonName.tree = some Identifier.commonName := by decide
  simp only [Tree.sequence, readNamePart, hi, Text.Utf8.decode_encode]
  rfl

theorem readSubject_subject (commonName : String) :
    readSubject (subject commonName) = some [[(Identifier.commonName, commonName)]] := by
  have hpart := readNamePart_commonName commonName
  simp only [subject, Tree.sequence, Tree.set, readSubject, List.mapM_cons, List.mapM_nil, readSet_singleton,
    Option.bind_eq_bind, Option.bind_some] at hpart ⊢
  rw [hpart]
  rfl

theorem readAttribute_extensionRequest (t : Tree) :
    readAttribute (.sequence [Identifier.extensionRequest.tree, .set [t]]) =
      some (Identifier.extensionRequest, [t]) := by
  simp only [Tree.sequence, Tree.set, readAttribute, Identifier.ofTree?_extensionRequest, readSet_singleton]
  rfl

theorem readExtension_alternativeNames (value : Octets) :
    readExtension (.sequence [Identifier.alternativeNames.tree, .octetString value]) =
      some ⟨Identifier.alternativeNames, false, value⟩ := by
  simp only [Tree.sequence, Tree.octetString, readExtension, Identifier.ofTree?_alternativeNames]
  rfl

theorem readDnsName_encode {name : String} (hn : IsAscii name) :
    readDnsName (.leaf 0x82 (Text.Utf8.encode name)) = some name := by
  have hascii : (Text.Utf8.encode name).all (·.toNat < 128) = true := by
    rw [← Text.Utf8.octetsOf_toList, List.all_eq_true]
    intro b hb
    obtain ⟨c, hc, hm⟩ := List.mem_flatMap.mp hb
    have hlt := hn c hc
    rw [Text.Utf8.utf8EncodeChar_of_lt hlt, List.mem_singleton] at hm
    rw [hm, UInt8.toNat_ofNat', decide_eq_true_eq]
    omega
  simp only [readDnsName]
  rw [if_pos hascii, Text.Utf8.decode_encode]

theorem readDnsNames_alternatives {altNames : List String} (hn : ∀ name ∈ altNames, IsAscii name)
    (hl : (alternatives altNames).encode.length < lengthLimit) :
    readDnsNames (alternatives altNames).encode = some altNames := by
  rw [readDnsNames, Tree.decode_encode (proper_alternatives altNames) hl]
  exact mapM_map_eq_some fun name hm => readDnsName_encode (hn name hm)

variable {names : SubjectNames} {spec : KeySpec} {key : PrivateKey} {signature seed : Octets}

def infoOf (names : SubjectNames) (key : PublicKey) : RequestInfo where
  version := 0
  subject := [[(Identifier.commonName, names.commonName)]]
  publicKey := key.tree
  attributes := [(Identifier.extensionRequest,
    [.sequence [.sequence [Identifier.alternativeNames.tree, .octetString (alternatives names.altNames).encode]]])]

theorem ofOctets?_info (key : PublicKey) (hl : (info names key).encode.length < lengthLimit) :
    RequestInfo.ofOctets? (info names key).encode = some (infoOf names key) := by
  have hversion : (Tree.nat 0).nat? = some 0 := rfl
  have hattribute := readAttribute_extensionRequest
    (.sequence [.sequence [Identifier.alternativeNames.tree, .octetString (alternatives names.altNames).encode]])
  rw [RequestInfo.ofOctets?, Tree.decode_encode (proper_info names key) hl]
  simp only [info, attributes, Tree.sequence, Tree.tagged, UInt8.add_zero, hversion, readSubject_subject,
    readSet_singleton, List.mapM_cons, List.mapM_nil, Option.bind_eq_bind, Option.bind_some] at hattribute ⊢
  rw [hattribute]
  rfl

theorem asksFor_infoOf (hn : ∀ name ∈ names.altNames, IsAscii name) (key : PublicKey)
    (hl : (alternatives names.altNames).encode.length < lengthLimit) : (infoOf names key).AsksFor names where
  version := rfl
  subject := rfl
  attributes := by
    have hextensions : readExtensions (.sequence
        [.sequence [Identifier.alternativeNames.tree, .octetString (alternatives names.altNames).encode]]) =
          some [⟨Identifier.alternativeNames, false, (alternatives names.altNames).encode⟩] := by
      have hextension := readExtension_alternativeNames (alternatives names.altNames).encode
      simp only [Tree.sequence, readExtensions, List.mapM_cons, List.mapM_nil] at hextension ⊢
      rw [hextension]
      rfl
    exact ⟨_, _, rfl, hextensions, readDnsNames_alternatives hn hl⟩

theorem checkNames_eq_ok : checkNames names = .ok () ↔ ∀ name ∈ names.altNames, IsAscii name := by
  unfold checkNames
  cases hfind : names.altNames.find? fun name => !isNetworkName name with
  | some name =>
    obtain ⟨hname, -⟩ := List.find?_eq_some_iff_append.mp hfind
    have hm := List.mem_of_find?_eq_some hfind
    simp only [reduceCtorEq, false_iff]
    intro hall
    rw [isNetworkName_iff.mpr (hall name hm)] at hname
    cases hname
  | none =>
    rw [List.find?_eq_none] at hfind
    simp only [true_iff]
    intro name hm
    apply isNetworkName_iff.mp
    simpa using hfind name hm

theorem checkNames_eq_error {e : Error} :
    checkNames names = .error e ↔ ∃ before name after, names.altNames = before ++ name :: after ∧
      (∀ other ∈ before, IsAscii other) ∧ ¬ IsAscii name ∧
      e = .invalidRequest s!"invalid DNS name '{name}': malformed ASN.1 DER value for IA5String" := by
  unfold checkNames
  constructor
  · intro he
    split at he
    · rename_i name hfind
      obtain ⟨hname, before, after, hsplit, hbefore⟩ := List.find?_eq_some_iff_append.mp hfind
      refine ⟨before, name, after, hsplit, ?_, ?_, (Except.error.inj he).symm⟩
      · intro other hm
        apply isNetworkName_iff.mp
        simpa using hbefore other hm
      · rw [← isNetworkName_iff]
        simpa using hname
    · cases he
  · rintro ⟨before, name, after, hsplit, hbefore, hname, rfl⟩
    have hfind : names.altNames.find? (fun name => !isNetworkName name) = some name := by
      apply List.find?_eq_some_iff_append.mpr
      refine ⟨?_, before, after, hsplit, ?_⟩
      · rw [← isNetworkName_iff] at hname
        simpa using hname
      · intro other hm
        simpa using isNetworkName_iff.mpr (hbefore other hm)
    rw [hfind]

theorem build_error_of_checkNames {rest : Crypto.Stream} {e : Error}
    (hk : PrivateKey.generate spec (.ofSeed .sha256 seed) = some (key, rest)) (hn : checkNames names = .error e) :
    build names spec seed = .error e := by
  simp only [build, hk, sign, hn]
  rfl

section

variable (names key signature)

theorem length_info_le :
    (info names key.publicKey).encode.length ≤ (signed (info names key.publicKey) key signature).encode.length :=
  Tree.length_le_node List.mem_cons_self 0x30

theorem length_subject_le :
    (subject names.commonName).encode.length ≤ (signed (info names key.publicKey) key signature).encode.length :=
  (Tree.length_le_node (by simp) 0x30).trans (length_info_le names key signature)

theorem length_attributes_le :
    (attributes names.altNames).encode.length ≤ (signed (info names key.publicKey) key signature).encode.length :=
  (Tree.length_le_node (by simp) 0x30).trans (length_info_le names key signature)

end

theorem eq_of_contentsOf {names' : SubjectNames} {key' : PrivateKey} {signature' : Octets}
    (hl : (block names key signature).contents.length < lengthLimit)
    (hl' : (block names' key' signature').contents.length < lengthLimit)
    (hsubject : (subject names.commonName).encode = (subject names'.commonName).encode)
    (hattributes : (attributes names.altNames).encode = (attributes names'.altNames).encode) : names = names' := by
  have hname : names.commonName = names'.commonName := by
    have htree := Tree.encode_inj (proper_subject names.commonName) (proper_subject names'.commonName)
      (Nat.lt_of_le_of_lt (length_subject_le names key signature) hl) hsubject
    have hread := readSubject_subject names.commonName
    rw [htree, readSubject_subject] at hread
    simpa using hread.symm
  have halt : names.altNames = names'.altNames := by
    have htree := Tree.encode_inj (proper_attributes names.altNames) (proper_attributes names'.altNames)
      (Nat.lt_of_le_of_lt (length_attributes_le names key signature) hl) hattributes
    have hsame : (contentsOf names key signature).networkNames = (contentsOf names' key' signature').networkNames := by
      simp only [Contents.networkNames, contentsOf, htree]
    rwa [networkNames_contentsOf hl, networkNames_contentsOf hl'] at hsame
  obtain ⟨commonName, altNames⟩ := names
  obtain rfl : commonName = names'.commonName := hname
  obtain rfl : altNames = names'.altNames := halt
  rfl

structure ReadsBack (request : SigningRequest) (names : SubjectNames) (contents : Contents) : Prop where
  read : Contents.ofPem? request.pem = some contents
  asks : ∃ asked, RequestInfo.ofOctets? contents.signed = some asked ∧ asked.AsksFor names
  only : ∀ octets, Tree.decode octets = Tree.decode contents.signed → octets = contents.signed

theorem readsBack_contentsOf (hn : ∀ name ∈ names.altNames, IsAscii name)
    (hl : (block names key signature).contents.length < lengthLimit) :
    ReadsBack ⟨(block names key signature).write, names, spec⟩ names (contentsOf names key signature) where
  read := ofPem?_write hl
  asks := by
    have hinfo := Nat.lt_of_le_of_lt (length_info_le names key signature) hl
    have halternatives := Nat.lt_of_le_of_lt (alternatives_length_le names key signature) hl
    exact ⟨_, ofOctets?_info key.publicKey hinfo, asksFor_infoOf hn key.publicKey halternatives⟩
  only octets hread := by
    have hinfo := Nat.lt_of_le_of_lt (length_info_le names key signature) hl
    have hdecode : Tree.decode (contentsOf names key signature).signed = some (info names key.publicKey) :=
      Tree.decode_encode (proper_info names key.publicKey) hinfo
    exact Tree.eq_of_decode (hread.trans hdecode)

/-- A request is made exactly for alternative names that are ASCII; else the first that is not is blamed. What is made
asks for the names and for nothing else, so that it tells by its subject and attributes which names it was made for. -/
theorem build_asks_for_names {rest : Crypto.Stream}
    (hk : PrivateKey.generate spec (.ofSeed .sha256 seed) = some (key, rest))
    (hs : key.sign (info names key.publicKey).encode ≠ none) :
    ((∃ made, build names spec seed = .ok made) ↔ ∀ name ∈ names.altNames, IsAscii name) ∧
    (∀ e, build names spec seed = .error e ↔ ∃ before name after, names.altNames = before ++ name :: after ∧
      (∀ other ∈ before, IsAscii other) ∧ ¬ IsAscii name ∧
      e = .invalidRequest s!"invalid DNS name '{name}': malformed ASN.1 DER value for IA5String") ∧
    ∀ {request material}, build names spec seed = .ok (request, material) → request.pem.length < lengthLimit →
      ∃ contents, ReadsBack request names contents ∧
        ∀ {names' spec' seed' request' material' contents'},
          build names' spec' seed' = .ok (request', material') → request'.pem.length < lengthLimit →
          Contents.ofPem? request'.pem = some contents' →
          contents.subject.encode = contents'.subject.encode →
          contents.attributes.encode = contents'.attributes.encode → names = names' := by
  obtain ⟨signature, hsign⟩ := Option.ne_none_iff_exists'.mp hs
  have hbuild (hn : checkNames names = .ok ()) := build_of_sign hk hn hsign
  refine ⟨?_, ?_, ?_⟩
  · rw [← checkNames_eq_ok]
    constructor
    · rintro ⟨⟨request, material⟩, hb⟩
      obtain ⟨_, _, _, -, hn, -⟩ := build_eq_ok hb
      exact hn
    · exact fun hn => ⟨_, hbuild hn⟩
  · intro e
    rw [← checkNames_eq_error]
    constructor
    · intro hb
      cases hn : checkNames names with
      | ok =>
        rw [hbuild hn] at hb
        cases hb
      | error e' =>
        rw [build_error_of_checkNames hk hn] at hb
        rw [Except.error.inj hb]
    · exact build_error_of_checkNames hk
  · intro request material hb hl
    obtain ⟨key, rest, signature, -, hn, -, rfl, -⟩ := build_eq_ok hb
    have hshort := Nat.lt_of_le_of_lt (Pem.length_le_write (block names key signature)) hl
    refine ⟨_, readsBack_contentsOf (checkNames_eq_ok.mp hn) hshort, ?_⟩
    intro names' spec' seed' request' material' contents' hb' hl' hread hsubject hattributes
    obtain ⟨key', rest', signature', -, -, -, rfl, -⟩ := build_eq_ok hb'
    have hshort' := Nat.lt_of_le_of_lt (Pem.length_le_write (block names' key' signature')) hl'
    obtain rfl := Option.some.inj ((ofPem?_write hshort').symm.trans hread)
    exact eq_of_contentsOf hshort hshort' hsubject hattributes

theorem build_asks_for_names_trial :
    (∃ made, build trialNames (.ec .p256) [1] = .ok made) ∧ ∃ contents, ReadsBack trialRequest trialNames contents := by
  obtain ⟨key, rest, signature, hkey, -, hsign, -⟩ := build_eq_ok build_trial
  obtain ⟨hok, -, hread⟩ := build_asks_for_names hkey (by rw [hsign]; exact Option.some_ne_none signature)
  have hascii : ∀ name ∈ trialNames.altNames, IsAscii name := by
    intro name hm
    rw [← isNetworkName_iff, List.mem_singleton.mp hm]
    decide
  have hlength : trialRequest.pem.length < lengthLimit := by
    rw [← String.length_toList, trialRequest, Pem.write_toList]
    decide +kernel
  obtain ⟨contents, hcontents, -⟩ := hread build_trial hlength
  exact ⟨hok.mpr hascii, contents, hcontents⟩

end CertEnroll.SigningRequest
