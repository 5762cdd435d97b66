import CertEnroll.CommandLine.Reader
import CertEnroll.Error

namespace CertEnroll.CommandLine

structure Output where
  status : Nat
  out : String := ""
  err : String := ""
  waited : Nat := 0
deriving DecidableEq, Repr

structure Failure where
  context : Option String
  error : Error
deriving DecidableEq, Repr

namespace Failure

def indented (text : String) : String :=
  "\n".intercalate ((Text.split '\n' text).map ("    " ++ ·))

def text (f : Failure) : String :=
  match f.context with
  | none => f.error.message
  | some context => context ++ "\n\nCaused by:\n" ++ indented f.error.message

end Failure

def Output.ofFailure (f : Failure) : Output :=
  { status := 1, err := "Error: " ++ f.text ++ "\n" }

def programVersion : String := "0.1.0"

namespace UsageError

def asked : List String → String
  | [] => ""
  | names => " " ++ " ".intercalate (names.map ("--" ++ ·))

def message : UsageError → String
  | .help | .nothing | .version => ""
  | .missingCommand => "a command is missing"
  | .unknownCommand word => s!"unknown command '{word}'"
  | .unknownFlag word => s!"unexpected argument '{word}'"
  | .repeated flag => s!"--{flag} was given twice"
  | .missingValue flag => s!"--{flag} needs a value"
  | .unneededValue flag => s!"--{flag} takes no value"
  | .badValue flag message => s!"--{flag}: {message}"
  | .missingFlags names => "missing:" ++ asked names

def usage : String :=
  "Usage: " ++ Verb.program.name ++ " [--config PATH] [-v] COMMAND\n\nCommands:\n" ++
    "  issue --role ROLE [--common-name NAME] [--alt-names NAMES] [-o json|yaml]\n" ++
    "  revoke --role ROLE --certificate-uid ID\n" ++
    "  config validate\n" ++
    "  config show [-o json|yaml]\n"

def output : UsageError → Output
  | .help => { status := 0, out := usage }
  | .version => { status := 0, out := Verb.program.name ++ " " ++ programVersion ++ "\n" }
  | .nothing => { status := 2, err := usage }
  | e => { status := 2, err := "error: " ++ e.message ++ "\n\n" ++ usage }

end UsageError

end CertEnroll.CommandLine
