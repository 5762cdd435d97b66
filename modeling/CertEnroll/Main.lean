import CertEnroll.CommandLine.Run
import Std.Time.DateTime.Timestamp

/-!
The program. It reads the environment, the settings file, the clock and a source of chance, and prints what
the command line comes to. No transport is built in, so every server counts as unreachable.
-/

namespace CertEnroll.CommandLine

def variableNames : List String :=
  [settingsVariable, namespaceVariable, "CERTWARDEN_LOG_LEVEL", "CERTWARDEN_CA_URL", "CERTWARDEN_CA_TOKEN",
    "VAULT_ADDR", "VAULT_TOKEN"]

def readEnvironment : IO Settings.Environment := do
  let values ← variableNames.filterMapM fun name => do
    return (← IO.getEnv name).map (name, ·)
  return .ofList values

def fileTrouble : IO.Error → String
  | .noFileOrDirectory .. => "No such file or directory (os error 2)"
  | .permissionDenied .. => "Permission denied (os error 13)"
  | .inappropriateType .. => "Is a directory (os error 21)"
  | e => toString e

def readOctets (path : String) : IO (Except String Octets) := do
  try
    return .ok (← IO.FS.readBinFile path).toList
  catch e => return .error (fileTrouble e)

def readToday : IO Instant := do
  let now ← Std.Time.Timestamp.now
  return (Instant.mk 0 0).plus now.toNanosecondsSinceUnixEpoch.val

def namedFile (words : List String) (env : Settings.Environment) : Option String :=
  match Invocation.ofWords words with
  | .ok i => settingsPath i.config env
  | .error _ => none

def readHost (words : List String) : IO Host := do
  let environment ← readEnvironment
  let content ← match namedFile words environment with
    | some path => readOctets path
    | none => pure (.ok [])
  return {
    environment
    file := fun _ => content
    send := fun _ => .unreachable
    logFilter := ← IO.getEnv "RUST_LOG"
    seed := (← IO.getRandomBytes 32).toList
    today := ← readToday }

def execute (words : List String) : IO UInt32 := do
  let output := run (← readHost words) words
  IO.sleep (UInt32.ofNat (output.waited / 1000000))
  IO.print output.out
  IO.eprint output.err
  return UInt32.ofNat output.status

end CertEnroll.CommandLine

def main (words : List String) : IO UInt32 :=
  CertEnroll.CommandLine.execute words
