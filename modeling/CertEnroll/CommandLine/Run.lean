import CertEnroll.CommandLine.LogFilter
import CertEnroll.CommandLine.Output
import CertEnroll.Enrollment.World
import CertEnroll.Settings.Check
import CertEnroll.Settings.Environment
import CertEnroll.Settings.Reader
import CertEnroll.Vault.Health

namespace CertEnroll.CommandLine

structure Host where
  environment : Settings.Environment
  file : String → Except String Octets
  send : Http.Request → Http.Outcome
  logFilter : Option String
  seed : Octets
  today : Instant

def settingsVariable : String := "CERTWARDEN_CONFIG"

def namespaceVariable : String := "VAULT_NAMESPACE"

def settingsPath (config : Option String) (env : Settings.Environment) : Option String :=
  config.or (env settingsVariable)

def readSettings (path : String) (content : Except String Octets) : Except Error Settings :=
  let unreadable (reason : String) : Error :=
    .config s!"Failed to read config file {path}: {reason}"
  match content with
  | .error reason => .error (unreadable reason)
  | .ok octets =>
    match Text.Utf8.decode octets with
    | none => .error (unreadable "stream did not contain valid UTF-8")
    | some text => Settings.ofToml text

def loadSettings (host : Host) (config : Option String) : Except Error Settings := do
  let base ← match settingsPath config host.environment with
    | none => pure {}
    | some path => readSettings path (host.file path)
  let settings := base.override host.environment
  settings.check
  return settings

def checkLogLevel (host : Host) (settings : Settings) : Except Error Unit :=
  let level := settings.observability.logLevel
  match host.logFilter.filter (· ≠ "") with
  | some _ => .ok ()
  | none =>
    (LogFilter.check level).mapError fun flaw =>
      .config s!"Invalid log level '{level}': {flaw.message}"

def checkServer (host : Host) (address : Option String) (token : Option Secret) : Except Error Unit :=
  match address with
  | none => .ok ()
  | some address => do
    let client ← Vault.connect address token (host.environment namespaceVariable)
    (Vault.checkHealth client).resolve host.send

def checkServers (host : Host) (s : Settings) : Except Error Unit := do
  if s.storage.backend = .vaultKv then checkServer host s.storage.address s.storage.token
  if s.ca.backend = .vaultPki then checkServer host s.ca.url s.ca.accessToken

def world (host : Host) (s : Settings) : Except Error Enrollment.World :=
  Enrollment.World.ofSettings (host.environment namespaceVariable) host.seed host.today s

/-- Steps enough for an enrollment at the program's own CA; a poll takes four. -/
def stepsFor (s : Settings) : Nat :=
  4 * s.ca.localPendingPolls + 100

def printed (format : OutputFormat) (value : Json) : String :=
  format.render value ++ "\n"

def unfinished : Error := .internal "the enrollment was given up"

def issue (host : Host) (s : Settings) (wish : Enrollment.Wish) (format : OutputFormat) :
    Except Error Output := do
  let world ← world host s
  checkServers host s
  let next := Enrollment.IssueStage.next (.ofSettings s.polling) wish
  let answer := Enrollment.World.answer host.send
  match Enrollment.run next answer (fun _ _ => false) (stepsFor s) .finding world with
  | .underway _ _ => throw unfinished
  | .done (.error e) world => return { Output.ofFailure ⟨none, e⟩ with waited := world.clock }
  | .done (.ok response) world =>
    return { status := 0, out := printed format response.toJson, waited := world.clock }

def summary (s : Settings) : String :=
  s!"Configuration is valid: ca={s.ca.backend.name}, storage={s.storage.backend.name}, roles from {s.roleSource.name} ({s.roles.length} configured)\n"

def outputOf (result : Except Failure Output) : Output :=
  match result with
  | .ok output => output
  | .error failure => .ofFailure failure

def withSettings (host : Host) (config : Option String) (heading : String)
    (act : Settings → Except Error Output) : Output :=
  outputOf <| do
    let settings ← (loadSettings host config).mapError (⟨some heading, ·⟩)
    (act settings).mapError (⟨none, ·⟩)

def prepared (host : Host) (verbose : Bool) (s : Settings) : Except Error Settings := do
  let s := if verbose then { s with observability := { s.observability with logLevel := "debug" } } else s
  checkLogLevel host s
  return s

def invoke (host : Host) (i : Invocation) : Output :=
  match i.command with
  | .validateSettings =>
    withSettings host i.config "Configuration is invalid" fun s =>
      .ok { status := 0, out := summary s }
  | .showSettings format =>
    withSettings host i.config "Configuration is invalid" fun s =>
      .ok { status := 0, out := printed format s.toJson }
  | .issue role commonName altNames format =>
    withSettings host i.config "Failed to load configuration" fun s => do
      let s ← prepared host i.verbose s
      issue host s ⟨role, commonName, SubjectNames.parseAltNames altNames⟩ format
  | .revoke role certificate =>
    withSettings host i.config "Failed to load configuration" fun s => do
      let s ← prepared host i.verbose s
      let world ← world host s
      return { status := 0, waited := (Enrollment.revoke role certificate world).clock }

def run (host : Host) (words : List String) : Output :=
  match Invocation.ofWords words with
  | .ok invocation => invoke host invocation
  | .error e => e.output

end CertEnroll.CommandLine
