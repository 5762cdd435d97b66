import CertEnroll.Crypto.Key
import CertEnroll.SubjectNames

namespace CertEnroll

open Der (Tree Identifier)
open Crypto (PublicKey PrivateKey Stream)

structure SigningRequest where
  pem : String
  names : SubjectNames
  keySpec : KeySpec
deriving DecidableEq, Repr

structure KeyMaterial where
  spec : KeySpec
  privateKeyPem : Secret
deriving DecidableEq, Repr

namespace KeySpec

def debug : KeySpec → String
  | .rsa bits => s!"Rsa \x7b bits: {bits} \x7d"
  | .ec curve => s!"Ec({curve.name})"

end KeySpec

def KeyMaterial.debug (k : KeyMaterial) : String :=
  s!"KeyMaterial \x7b spec: {k.spec.debug}, private_key_pem: {k.privateKeyPem.debug} \x7d"

namespace SigningRequest

def pemLabel : String := "CERTIFICATE REQUEST"

def debug (r : SigningRequest) : String :=
  let altNames := ", ".intercalate (r.names.altNames.map Text.quoted)
  s!"SigningRequest \x7b common_name: {Text.quoted r.names.commonName}, " ++
    s!"alt_names: [{altNames}], key_spec: {r.keySpec.debug} \x7d"

def isNetworkName (name : String) : Bool :=
  name.toList.all fun c => c.toNat < 128

def subject (commonName : String) : Tree :=
  .sequence
    [.set [.sequence [Identifier.commonName.tree, .leaf 0x0c (Text.Utf8.encode commonName)]]]

def alternatives (names : List String) : Tree :=
  .sequence (names.map fun name => .leaf 0x82 (Text.Utf8.encode name))

def attributes (names : List String) : Tree :=
  let extension := Tree.sequence
    [Identifier.alternativeNames.tree, .octetString (alternatives names).encode]
  .tagged 0 [.sequence [Identifier.extensionRequest.tree, .set [.sequence [extension]]]]

def info (names : SubjectNames) (key : PublicKey) : Tree :=
  .sequence [.nat 0, subject names.commonName, key.tree, attributes names.altNames]

def signed (info : Tree) (key : PrivateKey) (signature : Octets) : Tree :=
  .sequence [info, key.algorithm.tree, .bitString signature]

def checkNames (names : SubjectNames) : Except Error Unit :=
  match names.altNames.find? fun name => !isNetworkName name with
  | some name =>
    .error (.invalidRequest s!"invalid DNS name '{name}': malformed ASN.1 DER value for IA5String")
  | none => .ok ()

def sign (names : SubjectNames) (spec : KeySpec) (key : PrivateKey) :
    Except Error (SigningRequest × KeyMaterial) := do
  checkNames names
  let info := info names key.publicKey
  match key.sign info.encode with
  | none => throw (.csrEncoding "signing failed: signature error")
  | some signature =>
    let pem := (Pem.Block.mk pemLabel (signed info key signature).encode).write
    return (⟨pem, names, spec⟩, ⟨spec, key.pem⟩)

def build (names : SubjectNames) (spec : KeySpec) (seed : Octets) :
    Except Error (SigningRequest × KeyMaterial) :=
  match PrivateKey.generate spec (Stream.ofSeed .sha256 seed) with
  | none => .error (.keyGeneration "no key found")
  | some (key, _) => sign names spec key

end SigningRequest

end CertEnroll
