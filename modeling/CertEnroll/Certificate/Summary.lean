import CertEnroll.Certificate
import CertEnroll.SigningRequest.Reader

namespace CertEnroll

open Der (Tree Identifier)
open Crypto (PublicKey)

structure CertificateSummary where
  commonNames : List String
  issuer : List String
  networkNames : List String
  isAuthority : Bool
  serial : Octets
  validitySeconds : Int
deriving DecidableEq, Repr

namespace CertificateSummary

def namesOf (content : Octets) : List String :=
  match Tree.decodeAll content with
  | some parts => SigningRequest.Contents.commonNamesIn (.node 0x30 parts)
  | none => []

def extension? (i : Identifier) (c : Der.Certificate) : Option Octets :=
  c.extensions.lookup i.octets

def isRoot (c : Der.Certificate) : Bool :=
  match (extension? .basicConstraints c).bind Tree.decode with
  | some (.node 0x30 (.leaf 0x01 [b] :: _)) => b ≠ 0
  | _ => false

def ofContents (c : Der.Certificate) : CertificateSummary where
  commonNames := namesOf c.subject
  issuer := namesOf c.issuer
  networkNames := ((extension? .alternativeNames c).map SigningRequest.Contents.namesIn).getD []
  isAuthority := isRoot c
  serial := Serial.significant c.serial
  validitySeconds := c.notAfter - c.notBefore

def contents? (certificate : String) : Option Der.Certificate :=
  match leafContents certificate with
  | .ok octets => Der.readCertificate octets
  | .error _ => none

def ofText? (certificate : String) : Option CertificateSummary :=
  (contents? certificate).map ofContents

end CertificateSummary

def isSignedBy (certificate issuer : String) : Bool :=
  match CertificateSummary.contents? certificate, CertificateSummary.contents? issuer with
  | some c, some i =>
    ((Tree.decode i.publicKey).bind PublicKey.ofTree?).any fun key => key.verify c.signed c.signature
  | _, _ => false

end CertEnroll
