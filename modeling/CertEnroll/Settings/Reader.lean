import CertEnroll.Decimal.Shortest
import CertEnroll.Settings.Basic
import CertEnroll.Toml.Reader

namespace CertEnroll

open Document

def readSecret : Decoder Secret := fun node =>
  (readString node).map Secret.mk

namespace AuthoritySettings

def fields : List String :=
  ["backend", "url", "zone", "access_token", "mount", "role", "timeout_seconds",
    "local_pending_polls"]

def set (dialect : Dialect) (field : String) (node : Node) (s : AuthoritySettings) :
    Except DecodeError AuthoritySettings :=
  match field with
  | "backend" => do return { s with backend := ← readVariant dialect AuthorityKind.variants node }
  | "url" => do return { s with url := ← readOption readString node }
  | "zone" => do return { s with zone := ← readOption readString node }
  | "access_token" => do return { s with accessToken := ← readOption readSecret node }
  | "mount" => do return { s with mount := ← readString node }
  | "role" => do return { s with role := ← readOption readString node }
  | "timeout_seconds" => do return { s with timeoutSeconds := ← readNat "u64" (Nat.pow 2 64) node }
  | "local_pending_polls" => do return { s with localPendingPolls := ← readNat "u32" (Nat.pow 2 32) node }
  | _ => .ok s

def read (dialect : Dialect) : Decoder AuthoritySettings :=
  readRecord dialect "CaConfig" fields [] (set dialect) {}

end AuthoritySettings

namespace StoreSettings

def fields : List String := ["backend", "mount", "address", "token"]

def set (dialect : Dialect) (field : String) (node : Node) (s : StoreSettings) :
    Except DecodeError StoreSettings :=
  match field with
  | "backend" => do return { s with backend := ← readVariant dialect StoreKind.variants node }
  | "mount" => do return { s with mount := ← readString node }
  | "address" => do return { s with address := ← readOption readString node }
  | "token" => do return { s with token := ← readOption readSecret node }
  | _ => .ok s

def read (dialect : Dialect) : Decoder StoreSettings :=
  readRecord dialect "StorageConfig" fields [] (set dialect) {}

end StoreSettings

namespace PollingSettings

def fields : List String := ["interval_seconds", "max_attempts", "deadline_seconds"]

def set (field : String) (node : Node) (s : PollingSettings) : Except DecodeError PollingSettings :=
  match field with
  | "interval_seconds" => do return { s with intervalSeconds := ← readNat "u64" (Nat.pow 2 64) node }
  | "max_attempts" => do return { s with maxAttempts := ← readOption (readNat "u32" (Nat.pow 2 32)) node }
  | "deadline_seconds" => do
    return { s with deadlineSeconds := ← readOption (readNat "u64" (Nat.pow 2 64)) node }
  | _ => .ok s

def read (dialect : Dialect) : Decoder PollingSettings :=
  readRecord dialect "PollingConfig" fields [] set {}

end PollingSettings

namespace LeaseSettings

def set (field : String) (node : Node) (s : LeaseSettings) : Except DecodeError LeaseSettings :=
  match field with
  | "mount" => do return { s with mount := ← readString node }
  | _ => .ok s

def read (dialect : Dialect) : Decoder LeaseSettings :=
  readRecord dialect "LeaseConfig" ["mount"] [] set {}

end LeaseSettings

namespace ObservabilitySettings

def fields : List String := ["log_level", "json_logging", "metrics_port", "service_name"]

def set (field : String) (node : Node) (s : ObservabilitySettings) :
    Except DecodeError ObservabilitySettings :=
  match field with
  | "log_level" => do return { s with logLevel := ← readString node }
  | "json_logging" => do return { s with jsonLogging := ← readBool node }
  | "metrics_port" => do return { s with metricsPort := ← readNat "u16" (Nat.pow 2 16) node }
  | "service_name" => do return { s with serviceName := ← readString node }
  | _ => .ok s

def read (dialect : Dialect) : Decoder ObservabilitySettings :=
  readRecord dialect "ObservabilityConfig" fields [] set {}

end ObservabilitySettings

namespace Settings

def readRoles (dialect : Dialect) : Decoder (List (String × RolePolicy))
  | .mapping members tail => do
    let roles ← members.mapM fun (name, node) =>
      match name with
      | none => .error (.fault .malformed)
      | some name => (RolePolicy.read dialect node).map (name, ·)
    passTail false tail
    return roles
  | .moment s => (RolePolicy.read dialect (.text s)).map fun _ => []
  | node => .error (node.mismatch "a map")

def fields : List String :=
  ["ca", "storage", "polling", "lease", "observability", "role_source", "roles"]

def set (dialect : Dialect) (field : String) (node : Node) (s : Settings) :
    Except DecodeError Settings :=
  match field with
  | "ca" => do return { s with ca := ← AuthoritySettings.read dialect node }
  | "storage" => do return { s with storage := ← StoreSettings.read dialect node }
  | "polling" => do return { s with polling := ← PollingSettings.read dialect node }
  | "lease" => do return { s with lease := ← LeaseSettings.read dialect node }
  | "observability" => do
    return { s with observability := ← ObservabilitySettings.read dialect node }
  | "role_source" => do return { s with roleSource := ← readVariant dialect RoleSource.variants node }
  | "roles" => do return { s with roles := ← readRoles dialect node }
  | _ => .ok s

def read (dialect : Dialect) : Decoder Settings :=
  readRecord dialect "AppConfig" fields [] (set dialect) {}

def shownDetail (e : DecodeError) : Option String :=
  let line := (Text.splitChars '\n' (e.message Decimal.plain).toList).getLastD []
  let shown := ["unknown variant ", "missing field ", "invalid type: ", "invalid value: "]
  if shown.any fun start => start.toList.isPrefixOf line then some (String.ofList line) else none

def ofToml (text : String) : Except Error Settings :=
  let broken := "Invalid config file"
  match Toml.read text with
  | none => .error (.config broken)
  | some node =>
    match read .toml node with
    | .ok s => .ok s
    | .error e =>
      .error (.config (match shownDetail e with
        | some detail => s!"{broken}: {detail}"
        | none => broken))

end Settings

end CertEnroll
