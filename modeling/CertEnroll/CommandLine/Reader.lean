import CertEnroll.CommandLine.Grammar
import CertEnroll.SubjectNames

/-!
Command lines as they are typed. Each command reads the words up to the next command, its own options among
them; what is wrong after that command is noticed before the last option ahead of it is looked at.
-/

namespace CertEnroll.CommandLine

inductive UsageError
  | help
  | version
  | nothing
  | missingCommand
  | unknownCommand (word : String)
  | unknownFlag (word : String)
  | repeated (flag : String)
  | missingValue (flag : String)
  | unneededValue (flag : String)
  | badValue (flag message : String)
  | missingFlags (names : List String)
deriving DecidableEq, Repr

inductive Value
  | present
  | text (s : String)
  | format (f : OutputFormat)
deriving DecidableEq, Repr

abbrev Given := List (String × Value)

namespace Given

def text? (name : String) (g : Given) : Option String :=
  match g.lookup name with
  | some (.text s) => some s
  | _ => none

def text (name : String) (g : Given) : String :=
  (g.text? name).getD ""

def format (default : OutputFormat) (g : Given) : OutputFormat :=
  match g.lookup "output" with
  | some (.format f) => f
  | _ => default

def holds (name : String) (g : Given) : Bool :=
  (g.lookup name).isSome

end Given

namespace Flag

def read (raw : String) (f : Flag) : Except UsageError Value :=
  match f.kind with
  | .path => if raw = "" then .error (.missingValue f.name) else .ok (.text raw)
  | .format =>
    match OutputFormat.parse raw with
    | .ok format => .ok (.format format)
    | .error message => .error (.badValue f.name message)
  | .text => .ok (.text raw)
  | .help | .version | .switch => .ok .present

end Flag

structure Pending where
  flag : Flag
  raw : Option String
deriving DecidableEq, Repr

structure Scan where
  given : Given := []
  pending : Option Pending := none
deriving DecidableEq, Repr

namespace Scan

def awaits (s : Scan) : Option Flag :=
  match s.pending with
  | some ⟨flag, none⟩ => some flag
  | _ => none

def enter (f : Flag) (raw : String) (s : Scan) : Except UsageError Scan := do
  if s.given.holds f.name then throw (.repeated f.name)
  return ⟨s.given ++ [(f.name, ← f.read raw)], none⟩

def settle (s : Scan) : Except UsageError Scan :=
  match s.pending with
  | none => .ok s
  | some ⟨flag, none⟩ => .error (.missingValue flag.name)
  | some ⟨flag, some raw⟩ => s.enter flag raw

def take (f : Flag) (attached : Option String) (s : Scan) : Except UsageError Scan := do
  match f.kind, attached with
  | .help, none => do
    let _ ← s.settle
    throw .help
  | .version, none => do
    let _ ← s.settle
    throw .version
  | .switch, none => (← s.settle).enter f ""
  | .help, some _ | .version, some _ | .switch, some _ => throw (.unneededValue f.name)
  | _, some raw => (← s.settle).enter f raw
  | _, none => return { (← s.settle) with pending := some ⟨f, none⟩ }

def takeLong (v : Verb) (body : List Char) (s : Scan) : Except UsageError Scan :=
  let name := String.ofList (body.takeWhile (· ≠ '='))
  let attached := match body.dropWhile (· ≠ '=') with
    | [] => none
    | _ :: value => some (String.ofList value)
  match v.flags.find? (·.name == name) with
  | none => .error (.unknownFlag ("--" ++ name))
  | some flag => s.take flag attached

def attachedValue : List Char → Option String
  | [] => none
  | '=' :: value => some (String.ofList value)
  | value => some (String.ofList value)

def takeShort (v : Verb) : List Char → Scan → Except UsageError Scan
  | [], s => .ok s
  | c :: cs, s =>
    match v.flags.find? (·.short == some c) with
    | none => .error (.unknownFlag (String.ofList ['-', c]))
    | some flag =>
      if flag.kind.takesValue then s.take flag (attachedValue cs)
      else do takeShort v cs (← s.take flag none)

def close (v : Verb) (s : Scan) : Except UsageError Given := do
  let s ← s.settle
  if v.isGroup then throw (if s.given.isEmpty then .nothing else .missingCommand)
  match v.required.filter fun name => !s.given.holds name with
  | [] => return s.given
  | names => throw (.missingFlags names)

end Scan

def stray (v : Verb) (word : String) : UsageError :=
  if v.isGroup then .unknownCommand word else .unknownFlag word

def helpWord : String := "help"

def helpOn : Verb → List String → UsageError
  | _, [] => .help
  | v, word :: words =>
    match v.child? word, words with
    | some child, words => helpOn child words
    | none, [] => if v.isGroup ∧ word = helpWord then .help else .unknownCommand word
    | none, _ :: _ => .unknownCommand word

def readRest (v : Verb) (s : Scan) : List String → Except UsageError Given
  | [] => s.close v
  | word :: _ =>
    .error <|
      if (v.child? word).isSome ∨ (v.isGroup ∧ word = helpWord) then .unknownFlag word
      else stray v word

def readWords (v : Verb) (s : Scan) : List String → Except UsageError (List (Verb × Given))
  | [] => do return [(v, ← s.close v)]
  | word :: words =>
    match s.awaits, v.child? word with
    | none, some child => do
      let inner ← readWords child {} words
      return (v, (← s.settle).given) :: inner
    | awaiting, _ =>
      if awaiting.isNone ∧ v.isGroup ∧ word = helpWord then .error (helpOn v words)
      else match word.toList, awaiting with
        | ['-', '-'], _ => do return [(v, ← readRest v s words)]
        | '-' :: '-' :: body, _ => do readWords v (← s.takeLong v body) words
        | '-' :: c :: cs, _ => do readWords v (← s.takeShort v (c :: cs)) words
        | _, some flag => readWords v { s with pending := some ⟨flag, some word⟩ } words
        | _, none => .error (stray v word)

inductive Command
  | issue (role commonName altNames : String) (format : OutputFormat)
  | revoke (role certificate : String)
  | validateSettings
  | showSettings (format : OutputFormat)
deriving DecidableEq, Repr

structure Invocation where
  command : Command
  config : Option String
  verbose : Bool
deriving DecidableEq, Repr

namespace Command

def ofGiven (g : Given) : Verb → Option Command
  | .issue =>
    some (.issue (g.text "role") (g.text "common-name") (g.text "alt-names") (g.format .json))
  | .revoke => some (.revoke (g.text "role") (g.text "certificate-uid"))
  | .configValidate => some .validateSettings
  | .configShow => some (.showSettings (g.format .yaml))
  | .program | .config => none

end Command

namespace Invocation

def ofLevels (levels : List (Verb × Given)) : Except UsageError Invocation := do
  let some command := levels.getLast?.bind fun (v, g) => Command.ofGiven g v
    | throw .missingCommand
  return {
    command
    config := levels.reverse.findSome? fun (_, g) => g.text? "config"
    verbose := levels.any fun (_, g) => g.holds "verbose" }

def ofWords (words : List String) : Except UsageError Invocation := do
  ofLevels (← readWords .program {} words)

end Invocation

end CertEnroll.CommandLine
