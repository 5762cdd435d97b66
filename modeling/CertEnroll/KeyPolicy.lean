import CertEnroll.Error
import CertEnroll.Document.Decode

namespace CertEnroll

inductive Curve
  | p224
  | p256
  | p384
  | p521
deriving DecidableEq, Repr

namespace Curve

def name : Curve → String
  | .p224 => "P224"
  | .p256 => "P256"
  | .p384 => "P384"
  | .p521 => "P521"

def ofName (s : String) : Except Error Curve :=
  match s with
  | "P224" => .ok .p224
  | "P256" => .ok .p256
  | "P384" => .ok .p384
  | "P521" => .ok .p521
  | s => .error (.unsupportedKeyCurve s)

end Curve

inductive KeySpec
  | rsa (bits : Nat)
  | ec (curve : Curve)
deriving DecidableEq, Repr

def KeySpec.name : KeySpec → String
  | .rsa bits => s!"rsa/{bits}"
  | .ec curve => s!"ec/{curve.name}"

structure RolePolicy where
  keyType : String := "rsa"
  keyBits : Nat := 0
  keyCurve : String := ""
  storeByCommonName : Bool := false
  storeBySerial : Bool := false
  storePrivateKey : Bool := false
  generateLease : Bool := false
deriving DecidableEq, Repr, Inhabited

namespace RolePolicy

open Document (Node DecodeError Dialect Decoder)

def defaultRsaBits : Nat := 2048

def leastRsaBits : Nat := 1024

def greatestRsaBits : Nat := 8192

def keySpec (p : RolePolicy) : Except Error KeySpec :=
  match p.keyType with
  | "rsa" =>
    let bits := if p.keyBits = 0 then defaultRsaBits else p.keyBits
    if leastRsaBits ≤ bits ∧ bits ≤ greatestRsaBits then .ok (.rsa bits)
    else
      .error (.keyGeneration
        s!"RSA key size {bits} is outside the supported range {leastRsaBits}..={greatestRsaBits}")
  | "ec" => (Curve.ofName p.keyCurve).map .ec
  | keyType => .error (.unsupportedKeyAlgorithm keyType)

def fields : List String :=
  ["key_type", "key_bits", "key_curve", "store_by_cn", "store_by_serial", "store_pkey",
    "generate_lease"]

def set (field : String) (node : Node) (p : RolePolicy) : Except DecodeError RolePolicy :=
  match field with
  | "key_type" => do return { p with keyType := ← Document.readString node }
  | "key_bits" => do return { p with keyBits := ← Document.readNat "usize" (Nat.pow 2 64) node }
  | "key_curve" => do return { p with keyCurve := ← Document.readString node }
  | "store_by_cn" => do return { p with storeByCommonName := ← Document.readBool node }
  | "store_by_serial" => do return { p with storeBySerial := ← Document.readBool node }
  | "store_pkey" => do return { p with storePrivateKey := ← Document.readBool node }
  | "generate_lease" => do return { p with generateLease := ← Document.readBool node }
  | _ => .ok p

def read (dialect : Dialect) : Decoder RolePolicy :=
  Document.readRecord dialect "RolePolicy" fields [] set {}

def toJson (p : RolePolicy) : Json :=
  .object
    [("key_type", .string p.keyType), ("key_bits", .integer p.keyBits),
      ("key_curve", .string p.keyCurve), ("store_by_cn", .bool p.storeByCommonName),
      ("store_by_serial", .bool p.storeBySerial), ("store_pkey", .bool p.storePrivateKey),
      ("generate_lease", .bool p.generateLease)]

end RolePolicy

end CertEnroll
