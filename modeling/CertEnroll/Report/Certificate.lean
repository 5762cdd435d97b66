import CertEnroll.Certificate.Summary
import CertEnroll.Report.Error

namespace CertEnroll

open Crypto (PublicKey)

def MaterializedCertificate.toJson (c : MaterializedCertificate) : Json :=
  .object
    [("certificate", .string c.certificate), ("certificate_chain", .string c.certificateChain),
      ("serial_number", .string c.serialNumber), ("storage_serial", .string c.storageSerial),
      ("not_after", .string (c.notAfter.text "+00:00")), ("not_after_unix", .integer c.notAfter.second)]

namespace CertificateSummary

def toJson (s : CertificateSummary) (signedByIssuer : Option Bool) (leaf : Bool) : Json :=
  .object
    ([("subject_common_names", .strings s.commonNames),
      ("issuer", .string (", ".intercalate (s.issuer.map ("CN=" ++ ·)))),
      ("dns_names", .strings s.networkNames), ("is_ca", .bool s.isAuthority),
      ("validity_seconds", .integer s.validitySeconds),
      ("signed_by_issuer", .ofOption .bool signedByIssuer)] ++
      if leaf then [("serial_fits_16_octets", .bool (s.serial.length ≤ 16))] else [])

end CertificateSummary

namespace Report

def lineWidth (s : String) : Nat :=
  ((Text.splitChars '\n' s.toList).map List.length).foldl max 0

def endsLine (s : String) : Bool :=
  s.toList.getLast? == some '\n'

def pemLabel (pem : String) : Json :=
  match Pem.read pem with
  | .ok block => .string block.label
  | .error _ => .null

def isCommonKey : PublicKey → Bool
  | .rsa modulus _ => 2048 ≤ modulus.log2 + 1
  | .ec c _ _ => c = .p256 || c = .p384

def keySize : PublicKey → Nat
  | .rsa modulus _ => modulus.log2 + 1
  | key => key.octets.length

def keyAlgorithm : PublicKey → Der.Identifier
  | .rsa _ _ => .rsaKey
  | .ec _ _ _ => .ellipticKey

def keyCurve : PublicKey → Json
  | .rsa _ _ => .null
  | .ec c _ _ => .string (Der.Identifier.curve c).text

def parameters : Option Der.Tree → Json
  | some (.leaf 0x05 []) => .string "tag 5"
  | _ => .null

def hex (t : Der.Tree) : Json :=
  .string (Text.Hex.encode t.encode)

def contents (pem : String) (c : SigningRequest.Contents) : Json :=
  let ofKey (f : PublicKey → Json) : Json := .ofOption f c.key?
  .object
    [("label", pemLabel pem), ("trailing", .nat 0), ("line_width", .nat (lineWidth pem)),
      ("ends_with_newline", .bool (endsLine pem)), ("version", .nat c.version),
      ("subject_hex", hex c.subject), ("attributes_hex", hex c.attributes),
      ("common_names", .strings c.commonNames), ("dns_names", .strings c.networkNames),
      ("key_algorithm", ofKey fun k => .string (keyAlgorithm k).text), ("key_curve", ofKey keyCurve),
      ("key_size", ofKey fun k => .nat (keySize k)), ("signature_algorithm", .string c.algorithm.text),
      ("signature_parameters", parameters c.parameters),
      ("signature_valid", if c.key?.any isCommonKey then .bool c.isSigned else .null)]

def signingRequest (request : SigningRequest) (key : KeyMaterial) : Json :=
  let pem := key.privateKeyPem.exposed
  .object
    [("common_name", .string request.names.commonName),
      ("alt_names", .strings request.names.altNames), ("key_spec", .string request.keySpec.name),
      ("key_label", pemLabel pem), ("key_line_width", .nat (lineWidth pem)),
      ("key_ends_with_newline", .bool (endsLine pem)), ("request_debug", .string request.debug),
      ("key_debug", .string key.debug),
      ("csr", .ofOption (contents request.pem) (SigningRequest.Contents.ofPem? request.pem))]

def brief (pem : String) : Json :=
  .ofOption
    (fun c => .array [.strings c.commonNames, .strings c.networkNames,
      .ofOption (fun k => .nat (keySize k)) c.key?])
    (SigningRequest.Contents.ofPem? pem)

end Report

end CertEnroll
