import CertEnroll.SigningRequest.Basic

namespace CertEnroll.SigningRequest

open Der (Tree Identifier)
open Crypto (PublicKey)

structure Contents where
  version : Nat
  subject : Tree
  publicKey : Tree
  attributes : Tree
  algorithm : Identifier
  parameters : Option Tree
  signature : Octets
  signed : Octets

namespace Contents

def readInfo : Tree → Option (Nat × Tree × Tree × Tree)
  | .node 0x30 [version, subject, publicKey, .node 0xa0 attributes] => do
    return (← version.nat?, subject, publicKey, .node 0xa0 attributes)
  | _ => none

def readAlgorithm : Tree → Option (Identifier × Option Tree)
  | .node 0x30 [i] => do return (← Identifier.ofTree? i, none)
  | .node 0x30 [i, parameters] => do return (← Identifier.ofTree? i, some parameters)
  | _ => none

def ofOctets? (octets : Octets) : Option Contents :=
  match Tree.decode octets with
  | some (.node 0x30 [info, algorithm, signature]) => do
    let (version, subject, publicKey, attributes) ← readInfo info
    let (algorithm, parameters) ← readAlgorithm algorithm
    let signature ← signature.bitString?
    return {
      version, subject, publicKey, attributes, algorithm, parameters, signature
      signed := info.encode }
  | _ => none

def ofPem? (pem : String) : Option Contents :=
  match Pem.read pem with
  | .ok block => if block.label = pemLabel then ofOctets? block.contents else none
  | .error _ => none

def commonName? : Tree → Option String
  | .node 0x30 [i, .leaf 0x0c octets] =>
    if Identifier.ofTree? i = some Identifier.commonName then Text.Utf8.decode octets else none
  | _ => none

def commonNamesIn : Tree → List String
  | .node 0x30 parts =>
    parts.flatMap fun part =>
      match part with
      | .node 0x31 attributes => attributes.filterMap commonName?
      | _ => []
  | _ => []

def commonNames (c : Contents) : List String :=
  commonNamesIn c.subject

def networkName? : Tree → Option String
  | .leaf 0x82 octets => Text.Utf8.decode octets
  | _ => none

def namesIn (octets : Octets) : List String :=
  match Tree.decode octets with
  | some (.node 0x30 names) => names.filterMap networkName?
  | _ => []

def extensionNames : Tree → List String
  | .node 0x30 [i, .leaf 0x04 octets] =>
    if Identifier.ofTree? i = some Identifier.alternativeNames then namesIn octets else []
  | _ => []

def attributeNames : Tree → List String
  | .node 0x30 [i, .node 0x31 [.node 0x30 extensions]] =>
    if Identifier.ofTree? i = some Identifier.extensionRequest then
      extensions.flatMap extensionNames
    else []
  | _ => []

def networkNames (c : Contents) : List String :=
  match c.attributes with
  | .node _ attributes => attributes.flatMap attributeNames
  | .leaf _ _ => []

def key? (c : Contents) : Option PublicKey :=
  PublicKey.ofTree? c.publicKey

def isSigned (c : Contents) : Bool :=
  c.key?.any fun key => key.verify c.signed c.signature

end Contents

end CertEnroll.SigningRequest
