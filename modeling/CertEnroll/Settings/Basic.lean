import CertEnroll.KeyPolicy
import CertEnroll.Secret

namespace CertEnroll

inductive AuthorityKind
  | tpp
  | vaultPki
  | inProcess
  | mock
deriving DecidableEq, Repr

inductive StoreKind
  | memory
  | vaultKv
deriving DecidableEq, Repr

inductive RoleSource
  | config
  | storage
deriving DecidableEq, Repr

namespace AuthorityKind

def name : AuthorityKind → String
  | .tpp => "tpp"
  | .vaultPki => "vault_pki"
  | .inProcess => "local"
  | .mock => "mock"

def variants : List (String × AuthorityKind) :=
  [AuthorityKind.tpp, .vaultPki, .inProcess, .mock].map fun k => (k.name, k)

end AuthorityKind

namespace StoreKind

def name : StoreKind → String
  | .memory => "memory"
  | .vaultKv => "vault_kv"

def variants : List (String × StoreKind) :=
  [StoreKind.memory, .vaultKv].map fun k => (k.name, k)

end StoreKind

namespace RoleSource

def name : RoleSource → String
  | .config => "config"
  | .storage => "storage"

def variants : List (String × RoleSource) :=
  [RoleSource.config, .storage].map fun k => (k.name, k)

end RoleSource

structure AuthoritySettings where
  backend : AuthorityKind := .inProcess
  url : Option String := none
  zone : Option String := none
  accessToken : Option Secret := none
  mount : String := "pki"
  role : Option String := none
  timeoutSeconds : Nat := 60
  localPendingPolls : Nat := 0
deriving DecidableEq, Repr

structure StoreSettings where
  backend : StoreKind := .memory
  mount : String := "secret"
  address : Option String := none
  token : Option Secret := none
deriving DecidableEq, Repr

structure PollingSettings where
  intervalSeconds : Nat := 5
  maxAttempts : Option Nat := none
  deadlineSeconds : Option Nat := none
deriving DecidableEq, Repr

structure LeaseSettings where
  mount : String := "pki"
deriving DecidableEq, Repr

structure ObservabilitySettings where
  logLevel : String := "info"
  jsonLogging : Bool := false
  metricsPort : Nat := 0
  serviceName : String := "certwarden"
deriving DecidableEq, Repr

structure Settings where
  ca : AuthoritySettings := {}
  storage : StoreSettings := {}
  polling : PollingSettings := {}
  lease : LeaseSettings := {}
  observability : ObservabilitySettings := {}
  roleSource : RoleSource := .config
  roles : List (String × RolePolicy) := []
deriving DecidableEq, Repr

def ObservabilitySettings.metricsBindAddress (s : ObservabilitySettings) : Option String :=
  if s.metricsPort = 0 then none else some s!"0.0.0.0:{s.metricsPort}"

namespace Settings

def textOrNull : Option String → Json
  | some s => .string s
  | none => .null

def natOrNull : Option Nat → Json
  | some n => .integer n
  | none => .null

def redactedOrNull : Option Secret → Json
  | some _ => .string Secret.redacted
  | none => .null

def rolesJson (roles : List (String × RolePolicy)) : Json :=
  .ofMembers (roles.map fun (name, policy) => (name, policy.toJson))

def toJson (s : Settings) : Json :=
  .object
    [("ca", .object
        [("backend", .string s.ca.backend.name), ("url", textOrNull s.ca.url),
          ("zone", textOrNull s.ca.zone), ("access_token", redactedOrNull s.ca.accessToken),
          ("mount", .string s.ca.mount), ("role", textOrNull s.ca.role),
          ("timeout_seconds", .integer s.ca.timeoutSeconds),
          ("local_pending_polls", .integer s.ca.localPendingPolls)]),
      ("storage", .object
        [("backend", .string s.storage.backend.name), ("mount", .string s.storage.mount),
          ("address", textOrNull s.storage.address), ("token", redactedOrNull s.storage.token)]),
      ("polling", .object
        [("interval_seconds", .integer s.polling.intervalSeconds),
          ("max_attempts", natOrNull s.polling.maxAttempts),
          ("deadline_seconds", natOrNull s.polling.deadlineSeconds)]),
      ("lease", .object [("mount", .string s.lease.mount)]),
      ("observability", .object
        [("log_level", .string s.observability.logLevel),
          ("json_logging", .bool s.observability.jsonLogging),
          ("metrics_port", .integer s.observability.metricsPort),
          ("service_name", .string s.observability.serviceName)]),
      ("role_source", .string s.roleSource.name),
      ("roles", rolesJson s.roles)]

end Settings

end CertEnroll
