import CertEnroll.Settings.Basic

/-!
Which settings are accepted. First every value is looked at by itself, then whether the chosen backends
have what they need, then the roles in the order of their names.
-/

namespace CertEnroll.Settings

structure Violation where
  place : String
  message : String
deriving DecidableEq, Repr

def Violation.text (v : Violation) : String :=
  s!"{v.place}: {v.message}"

def require (ok : Bool) (place message : String) : List Violation :=
  if ok then [] else [⟨place, message⟩]

def violations (s : Settings) : List Violation :=
  require (s.ca.mount ≠ "") "ca.mount" "PKI mount cannot be empty" ++
  require (1 ≤ s.ca.timeoutSeconds ∧ s.ca.timeoutSeconds ≤ 600) "ca.timeout_seconds"
    "Timeout must be between 1 and 600 seconds" ++
  require (s.lease.mount ≠ "") "lease.mount" "Lease mount cannot be empty" ++
  require (s.observability.logLevel ≠ "") "observability.log_level" "Log level cannot be empty" ++
  require (s.observability.serviceName ≠ "") "observability.service_name"
    "Service name cannot be empty" ++
  require (s.polling.deadlineSeconds.all (1 ≤ ·)) "polling.deadline_seconds"
    "Deadline must be at least 1 second" ++
  require (1 ≤ s.polling.intervalSeconds ∧ s.polling.intervalSeconds ≤ 3600) "polling.interval_seconds"
    "Poll interval must be between 1 and 3600 seconds" ++
  require (s.polling.maxAttempts.all (1 ≤ ·)) "polling.max_attempts"
    "Max attempts must be at least 1" ++
  require (s.storage.mount ≠ "") "storage.mount" "Storage mount cannot be empty"

def checkValues (s : Settings) : Except Error Unit :=
  match s.violations with
  | [] => .ok ()
  | vs => .error (.config ("Validation failed: " ++ "\n".intercalate (vs.map Violation.text)))

def checkAuthority (s : AuthoritySettings) : Except Error Unit :=
  match s.backend with
  | .tpp =>
    if s.url.isNone ∨ s.zone.isNone then
      .error (.config "The tpp CA backend requires ca.url and ca.zone")
    else if s.accessToken.isNone then
      .error (.config "The tpp CA backend requires ca.access_token")
    else .ok ()
  | .vaultPki =>
    if s.url.isNone ∨ s.role.isNone then
      .error (.config "The vault_pki CA backend requires ca.url and ca.role")
    else .ok ()
  | .inProcess => .ok ()
  | .mock => .error (.config "The mock CA backend cannot be configured")

def checkStore (s : Settings) : Except Error Unit :=
  if s.storage.backend = .vaultKv ∧ s.storage.address.isNone then
    .error (.config "The vault_kv storage backend requires storage.address")
  else if s.roleSource = .storage ∧ s.storage.backend = .memory then
    .error (.config "role_source = \"storage\" requires a persistent storage backend")
  else .ok ()

def sortedRoles (roles : List (String × RolePolicy)) : List (String × RolePolicy) :=
  roles.mergeSort fun a b => a.1 ≤ b.1

def checkRole : String × RolePolicy → Except Error Unit
  | (name, policy) =>
    match policy.keySpec with
    | .ok _ => .ok ()
    | .error e => .error (.config s!"Role '{name}' has an invalid key policy: {e.message}")

def check (s : Settings) : Except Error Unit := do
  checkValues s
  checkAuthority s.ca
  checkStore s
  (sortedRoles s.roles).forM checkRole

end CertEnroll.Settings
