import CertEnroll.Certificate
import CertEnroll.KeyPolicy
import CertEnroll.Secret
import CertEnroll.Store.Basic

namespace CertEnroll

structure CertificateRecord where
  certificate : String
  certificateChain : String
  privateKey : Option Secret
  serialNumber : String
deriving DecidableEq, Repr

namespace CertificateRecord

open Document (Node DecodeError Decoder)

def toJson (r : CertificateRecord) : Json :=
  .object
    ([("certificate", .string r.certificate), ("certificate_chain", .string r.certificateChain)] ++
      (match r.privateKey with
        | some key => [("private_key", .string key.exposed)]
        | none => []) ++
      [("serial_number", .string r.serialNumber)])

def encode (r : CertificateRecord) : Octets :=
  r.toJson.octets

def fields : List String := ["certificate", "certificate_chain", "private_key", "serial_number"]

def required : List String := ["certificate", "certificate_chain", "serial_number"]

def set (field : String) (node : Node) (r : CertificateRecord) :
    Except DecodeError CertificateRecord :=
  match field with
  | "certificate" => do return { r with certificate := ← Document.readString node }
  | "certificate_chain" => do return { r with certificateChain := ← Document.readString node }
  | "private_key" => do
    return { r with privateKey := (← Document.readOption Document.readString node).map Secret.mk }
  | "serial_number" => do return { r with serialNumber := ← Document.readString node }
  | _ => .ok r

def read : Decoder CertificateRecord :=
  Document.readRecord .jsonText "CertificateRecord" fields required set ⟨"", "", none, ""⟩

def decode (octets : Octets) : Except Error CertificateRecord :=
  decodeOctets read octets

def keyStart : String := "certs/"

def commonNameKey (commonName : String) : String :=
  keyStart ++ commonName

def serialKey (storageSerial : String) : String :=
  keyStart ++ storageSerial

end CertificateRecord

end CertEnroll
