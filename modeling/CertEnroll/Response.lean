import CertEnroll.Lease
import CertEnroll.Secret
import CertEnroll.Text.Lowercase
import CertEnroll.Yaml.Printer

namespace CertEnroll

structure IssueResponse where
  commonName : String
  serialNumber : String
  certificate : String
  certificateChain : String
  privateKey : Secret
  lease : Option Lease
  warnings : List String
deriving Repr

namespace IssueResponse

def privateKeyWarning : String :=
  "Read access to this endpoint should be controlled via ACLs as it will return the connection private key as it is."

def toJson (r : IssueResponse) : Json :=
  .object
    ([("data", .object
        [("common_name", .string r.commonName), ("serial_number", .string r.serialNumber),
          ("certificate", .string r.certificate), ("certificate_chain", .string r.certificateChain),
          ("private_key", .string r.privateKey.exposed)])] ++
      (match r.lease with
        | some lease => [("lease", lease.toJson)]
        | none => []) ++
      [("warnings", .strings r.warnings)])

end IssueResponse

inductive OutputFormat
  | json
  | yaml
deriving DecidableEq, Repr

namespace OutputFormat

def name : OutputFormat → String
  | .json => "Json"
  | .yaml => "Yaml"

def parse (s : String) : Except String OutputFormat :=
  match Text.lowercase s with
  | "json" => .ok .json
  | "yaml" => .ok .yaml
  | _ => .error s!"Unsupported output format: '{s}'. Use 'json' or 'yaml'."

def render (f : OutputFormat) (value : Json) : String :=
  match f with
  | .json => value.pretty
  | .yaml => Yaml.print value

end OutputFormat

end CertEnroll
