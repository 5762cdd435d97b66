import CertEnroll.Record
import CertEnroll.Report.Error
import CertEnroll.Response
import CertEnroll.Store.Backend

namespace CertEnroll.Report

def entry (key : String) (value : Octets) : Json :=
  .object
    [("key", .string key),
      match Text.Utf8.decode value with
      | some s => ("value", .string s)
      | none => ("hex", .string (Text.Hex.encode value))]

def entryText (value : Octets) : String :=
  (Text.Utf8.decode value).getD (Text.Hex.encode value)

def entries (mask : String → String) : Store → Json
  | .memory s => .ofMembers (s.entries.map fun (key, value) =>
    (mask key, .string (mask (entryText value))))
  | .vaultKv _ => .null

def keepsKey (r : IssueResponse) : Store → Json
  | .memory s =>
    match (s.get? (CertificateRecord.commonNameKey r.commonName)).map CertificateRecord.decode with
    | some (.ok record) => .bool (record.privateKey = some r.privateKey)
    | _ => .null
  | .vaultKv _ => .null

end CertEnroll.Report
