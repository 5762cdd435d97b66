import CertEnroll.Proofs.Armour
import CertEnroll.Proofs.Trees
import CertEnroll.SigningRequest.Reader

namespace CertEnroll.Der

namespace Tree

theorem proper_sequence {items : List Tree} : (sequence items).Proper ↔ ∀ t ∈ items, t.Proper := by
  constructor
  · intro h
    cases h
    assumption
  · exact .node rfl (by decide)

theorem proper_set {items : List Tree} : (set items).Proper ↔ ∀ t ∈ items, t.Proper := by
  constructor
  · intro h
    cases h
    assumption
  · exact .node rfl (by decide)

theorem proper_octetString (content : Octets) : (octetString content).Proper :=
  .leaf rfl (by decide)

theorem proper_bitString (content : Octets) : (bitString content).Proper :=
  .leaf rfl (by decide)

theorem proper_nat (n : Nat) : (nat n).Proper :=
  .leaf rfl (by decide)

theorem proper_null : null.Proper :=
  .leaf rfl (by decide)

@[simp] theorem bitString?_bitString (content : Octets) : (bitString content).bitString? = some content := rfl

end Tree

theorem Identifier.proper_tree (i : Identifier) : i.tree.Proper :=
  .leaf rfl (by decide)

namespace Identifier

@[simp] theorem ofTree?_extensionRequest : ofTree? extensionRequest.tree = some extensionRequest := by decide

@[simp] theorem ofTree?_alternativeNames : ofTree? alternativeNames.tree = some alternativeNames := by decide

@[simp] theorem ofTree?_rsaWithSha256 : ofTree? rsaWithSha256.tree = some rsaWithSha256 := by decide

@[simp] theorem ofTree?_curveSignature (c : Curve) :
    ofTree? (curveSignature c).tree = some (curveSignature c) := by
  cases c <;> decide

end Identifier

end CertEnroll.Der

namespace CertEnroll.Crypto

open Der (Tree Identifier)

theorem PublicKey.proper_tree (k : PublicKey) : k.tree.Proper := by
  have halgorithm : k.algorithm.Proper := by
    cases k with
    | rsa modulus exponent =>
      simp [algorithm, Tree.proper_sequence, Identifier.proper_tree, Tree.proper_null]
    | ec curve x y => simp [algorithm, Tree.proper_sequence, Identifier.proper_tree]
  simp [tree, Tree.proper_sequence, halgorithm, Tree.proper_bitString]

theorem PrivateKey.proper_algorithm (k : PrivateKey) : k.algorithm.tree.Proper := by
  cases k with
  | rsa key =>
    simp [algorithm, SignatureAlgorithm.tree, Tree.proper_sequence, Identifier.proper_tree, Tree.proper_null]
  | ec curve key x y => simp [algorithm, SignatureAlgorithm.tree, Tree.proper_sequence, Identifier.proper_tree]

end CertEnroll.Crypto

namespace CertEnroll.SigningRequest

open Der (Tree Identifier lengthLimit)
open Crypto (PublicKey PrivateKey)

variable {names : SubjectNames} {spec : KeySpec} {key : PrivateKey} {signature : Octets}

theorem proper_subject (commonName : String) : (subject commonName).Proper := by
  have hname : (Tree.leaf 0x0c (Text.Utf8.encode commonName)).Proper := .leaf rfl (by decide)
  simp [subject, Tree.proper_sequence, Tree.proper_set, Identifier.proper_tree, hname]

theorem proper_alternatives (altNames : List String) : (alternatives altNames).Proper := by
  rw [alternatives, Tree.proper_sequence]
  intro t ht
  obtain ⟨name, -, rfl⟩ := List.mem_map.mp ht
  exact .leaf rfl (by decide)

theorem proper_attributes (altNames : List String) : (attributes altNames).Proper := by
  refine .node rfl (by decide) ?_
  simp [Tree.proper_sequence, Tree.proper_set, Identifier.proper_tree, Tree.proper_octetString]

theorem proper_info (names : SubjectNames) (key : PublicKey) : (info names key).Proper := by
  simp [info, Tree.proper_sequence, Tree.proper_nat, proper_subject, PublicKey.proper_tree, proper_attributes]

theorem proper_signed (names : SubjectNames) (key : PrivateKey) (signature : Octets) :
    (signed (info names key.publicKey) key signature).Proper := by
  simp [signed, Tree.proper_sequence, proper_info, PrivateKey.proper_algorithm, Tree.proper_bitString]

theorem alternatives_length_le (names : SubjectNames) (key : PrivateKey) (signature : Octets) :
    (alternatives names.altNames).encode.length ≤
      (signed (info names key.publicKey) key signature).encode.length := by
  simp only [signed, info, attributes, Tree.sequence, Tree.set, Tree.tagged, Tree.octetString, Tree.encode,
    Tree.encodeAll, Der.element, List.length_append, List.length_cons]
  omega

def block (names : SubjectNames) (key : PrivateKey) (signature : Octets) : Pem.Block :=
  ⟨pemLabel, (signed (info names key.publicKey) key signature).encode⟩

def contentsOf (names : SubjectNames) (key : PrivateKey) (signature : Octets) : Contents where
  version := 0
  subject := subject names.commonName
  publicKey := key.publicKey.tree
  attributes := attributes names.altNames
  algorithm := key.algorithm.identifier
  parameters := key.algorithm.parameters
  signature
  signed := (info names key.publicKey).encode

theorem readAlgorithm_tree (key : PrivateKey) :
    Contents.readAlgorithm key.algorithm.tree = some (key.algorithm.identifier, key.algorithm.parameters) := by
  cases key with
  | rsa key =>
    simp [PrivateKey.algorithm, Crypto.SignatureAlgorithm.tree, Tree.sequence, Contents.readAlgorithm]
  | ec curve key x y =>
    simp [PrivateKey.algorithm, Crypto.SignatureAlgorithm.tree, Tree.sequence, Contents.readAlgorithm]

theorem readInfo_info (names : SubjectNames) (key : PublicKey) :
    Contents.readInfo (info names key) =
      some (0, subject names.commonName, key.tree, attributes names.altNames) :=
  rfl

theorem ofPem?_write (hl : (block names key signature).contents.length < lengthLimit) :
    Contents.ofPem? (block names key signature).write = some (contentsOf names key signature) := by
  have hread : Pem.read (block names key signature).write = .ok (block names key signature) := by
    apply Pem.read_write <;> simp [block, pemLabel]
  have hdecode : Tree.decode (block names key signature).contents =
      some (signed (info names key.publicKey) key signature) :=
    Tree.decode_encode (proper_signed names key signature) hl
  have hlabel : (block names key signature).label = pemLabel := rfl
  simp only [Contents.ofPem?, hread]
  rw [if_pos hlabel, Contents.ofOctets?, hdecode]
  simp only [signed, Tree.sequence, readInfo_info, readAlgorithm_tree, Tree.bitString?_bitString]
  rfl

theorem networkNames_contentsOf (hl : (block names key signature).contents.length < lengthLimit) :
    (contentsOf names key signature).networkNames = names.altNames := by
  have hdecode : Tree.decode (alternatives names.altNames).encode = some (alternatives names.altNames) :=
    Tree.decode_encode (proper_alternatives _)
      (Nat.lt_of_le_of_lt (alternatives_length_le names key signature) hl)
  have hnames : Contents.namesIn (alternatives names.altNames).encode = names.altNames := by
    rw [Contents.namesIn, hdecode]
    simp [alternatives, Tree.sequence, List.filterMap_map, Function.comp_def, Contents.networkName?,
      Text.Utf8.decode_encode]
  have hextension : Contents.extensionNames
      (.sequence [Identifier.alternativeNames.tree, .octetString (alternatives names.altNames).encode]) =
        names.altNames := by
    simp [Tree.sequence, Tree.octetString, Contents.extensionNames, hnames]
  simp only [contentsOf, Contents.networkNames, attributes, Tree.tagged, List.flatMap_cons, List.flatMap_nil,
    List.append_nil]
  simp [Tree.sequence, Tree.set, Contents.attributeNames] at hextension ⊢
  exact hextension

theorem build_eq_ok {seed : Octets} {request : SigningRequest} {material : KeyMaterial}
    (hb : build names spec seed = .ok (request, material)) :
    ∃ key rest signature, PrivateKey.generate spec (.ofSeed .sha256 seed) = some (key, rest) ∧
      checkNames names = .ok () ∧ key.sign (info names key.publicKey).encode = some signature ∧
      request = ⟨(block names key signature).write, names, spec⟩ ∧ material = ⟨spec, key.pem⟩ := by
  unfold build at hb
  split at hb
  · cases hb
  · rename_i key rest hkey
    unfold sign at hb
    cases hnames : checkNames names with
    | error e =>
      rw [hnames] at hb
      cases hb
    | ok u =>
      rw [hnames] at hb
      dsimp only [bind, Except.bind] at hb
      split at hb
      · cases hb
      · rename_i signature hsign
        simp only [pure, Except.pure, Except.ok.injEq, Prod.mk.injEq] at hb
        exact ⟨key, rest, signature, hkey, rfl, hsign, hb.1.symm, hb.2.symm⟩

theorem ofPem?_of_build {seed : Octets} {request : SigningRequest} {material : KeyMaterial}
    (hb : build names spec seed = .ok (request, material)) (hl : request.pem.length < lengthLimit) :
    ∃ contents, Contents.ofPem? request.pem = some contents ∧ contents.networkNames = names.altNames := by
  obtain ⟨key, rest, signature, -, -, -, rfl, -⟩ := build_eq_ok hb
  have hshort := Nat.lt_of_le_of_lt (Pem.length_le_write (block names key signature)) hl
  exact ⟨_, ofPem?_write hshort, networkNames_contentsOf hshort⟩

theorem build_of_sign {seed : Octets} {rest : Crypto.Stream}
    (hk : PrivateKey.generate spec (.ofSeed .sha256 seed) = some (key, rest)) (hn : checkNames names = .ok ())
    (hs : key.sign (info names key.publicKey).encode = some signature) :
    build names spec seed = .ok (⟨(block names key signature).write, names, spec⟩, ⟨spec, key.pem⟩) := by
  simp only [build, hk, sign, hn, hs, bind, Except.bind]
  rfl

def trialKey : PrivateKey :=
  .ec .p256 9158637645372845612951022322675551851947649235096997471851997241307726135528
    89082508414975578746544383646182642273211000954229286157864971759391933879914
    111326988631322422286590070975139405591140112495495747081221197116331904501676

def trialNames : SubjectNames := ⟨"example.com", ["example.com"]⟩

def trialSignature : Octets :=
  [48, 70, 2, 33, 0, 154, 213, 94, 91, 114, 139, 12, 209, 58, 14, 137, 69, 110, 93, 82, 232, 212, 12, 179, 76, 39,
    41, 187, 199, 111, 189, 212, 53, 245, 138, 21, 139, 2, 33, 0, 162, 104, 173, 34, 74, 0, 18, 149, 107, 65, 225,
    96, 20, 88, 111, 50, 122, 242, 44, 119, 61, 108, 164, 155, 89, 17, 146, 19, 216, 108, 9, 102]

def trialRequest : SigningRequest := ⟨(block trialNames trialKey trialSignature).write, trialNames, .ec .p256⟩

theorem generate_trial :
    ∃ rest, PrivateKey.generate (.ec .p256) (.ofSeed .sha256 [1]) = some (trialKey, rest) := by
  have hkey : (PrivateKey.generate (.ec .p256) (.ofSeed .sha256 [1])).map Prod.fst = some trialKey := by
    decide +kernel
  obtain ⟨⟨key, rest⟩, hgenerate, rfl⟩ := Option.map_eq_some_iff.mp hkey
  exact ⟨rest, hgenerate⟩

theorem build_trial : build trialNames (.ec .p256) [1] = .ok (trialRequest, ⟨.ec .p256, trialKey.pem⟩) := by
  obtain ⟨rest, hkey⟩ := generate_trial
  apply build_of_sign hkey
  · decide
  · decide +kernel

theorem ofPem?_trial : Contents.ofPem? trialRequest.pem = some (contentsOf trialNames trialKey trialSignature) := by
  apply ofPem?_write
  decide +kernel

end CertEnroll.SigningRequest
