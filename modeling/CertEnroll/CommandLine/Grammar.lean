import CertEnroll.Response

namespace CertEnroll.CommandLine

inductive OptionKind
  | help
  | version
  | switch
  | text
  | path
  | format
deriving DecidableEq, Repr

namespace OptionKind

def takesValue : OptionKind → Bool
  | .help | .version | .switch => false
  | .text | .path | .format => true

end OptionKind

structure Flag where
  name : String
  short : Option Char := none
  kind : OptionKind
deriving DecidableEq, Repr

inductive Verb
  | program
  | issue
  | revoke
  | config
  | configValidate
  | configShow
deriving DecidableEq, Repr

namespace Verb

def name : Verb → String
  | .program => "certwarden"
  | .issue => "issue"
  | .revoke => "revoke"
  | .config => "config"
  | .configValidate => "validate"
  | .configShow => "show"

def children : Verb → List Verb
  | .program => [.issue, .revoke, .config]
  | .config => [.configValidate, .configShow]
  | _ => []

def child? (word : String) (v : Verb) : Option Verb :=
  v.children.find? (·.name == word)

def isGroup (v : Verb) : Bool :=
  !v.children.isEmpty

def everywhere : List Flag :=
  [⟨"config", none, .path⟩, ⟨"verbose", some 'v', .switch⟩, ⟨"help", some 'h', .help⟩]

def own : Verb → List Flag
  | .program => [⟨"version", some 'V', .version⟩]
  | .issue =>
    [⟨"role", some 'r', .text⟩, ⟨"common-name", none, .text⟩, ⟨"alt-names", none, .text⟩,
      ⟨"output", some 'o', .format⟩]
  | .revoke => [⟨"role", some 'r', .text⟩, ⟨"certificate-uid", none, .text⟩]
  | .config => []
  | .configValidate => []
  | .configShow => [⟨"output", some 'o', .format⟩]

def flags (v : Verb) : List Flag :=
  v.own ++ everywhere

def required : Verb → List String
  | .issue => ["role"]
  | .revoke => ["role", "certificate-uid"]
  | _ => []

end Verb

end CertEnroll.CommandLine
