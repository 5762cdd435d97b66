import CertEnroll.Authority.LocalCa
import CertEnroll.Authority.Scripted
import CertEnroll.Authority.Tpp
import CertEnroll.Authority.VaultPki

namespace CertEnroll

open Http (Exchange)

inductive Authority
  | tpp (t : Tpp)
  | vaultPki (ca : VaultPki)
  | inProcess (ca : LocalCa)
  | scripted (ca : ScriptedCa)

namespace Authority

def required (value : Option String) (what : String) : Except Error String :=
  match value with
  | some s => .ok s
  | none => .error (.config what)

def tppOf (s : AuthoritySettings) : Except Error Tpp := do
  let url ← required s.url "ca.url is required for tpp"
  let zone ← required s.zone "ca.zone is required for tpp"
  match s.accessToken with
  | none => throw (.config "ca.access_token is required for tpp")
  | some token => return Tpp.create url zone token s.timeoutSeconds

def vaultPkiOf (vaultNamespace : Option String) (s : AuthoritySettings) : Except Error VaultPki := do
  let url ← required s.url "ca.url is required for vault_pki"
  let role ← required s.role "ca.role is required for vault_pki"
  let client ← Vault.connect url s.accessToken vaultNamespace
  return { client, mount := s.mount, role }

def ofSettings (vaultNamespace : Option String) (seed : Octets) (s : AuthoritySettings) :
    Except Error Authority :=
  match s.backend with
  | .tpp => (tppOf s).map .tpp
  | .vaultPki => (vaultPkiOf vaultNamespace s).map .vaultPki
  | .inProcess => (LocalCa.create s.localPendingPolls seed).map .inProcess
  | .mock => .error (.config "the mock CA backend is only available from tests")

def kind : Authority → AuthorityKind
  | .tpp _ => .tpp
  | .vaultPki _ => .vaultPki
  | .inProcess _ => .inProcess
  | .scripted _ => .mock

def submit (now : Instant) (chance : Octets) (request : SigningRequest) :
    Authority → Exchange (Except AuthorityError PickupHandle × Authority)
  | .tpp t => (t.submit request).map fun result => (result, .tpp t)
  | .vaultPki ca => (ca.submit chance request).map fun (result, ca) => (result, .vaultPki ca)
  | .inProcess ca =>
    let (result, ca) := ca.submit now chance request
    .ready (result, .inProcess ca)
  | .scripted ca =>
    let (result, ca) := ca.submit request
    .ready (result, .scripted ca)

def retrieve (handle : PickupHandle) :
    Authority → Exchange (Except RetrieveError IssuedSet × Authority)
  | .tpp t => (t.retrieve handle).map fun result => (result, .tpp t)
  | .vaultPki ca =>
    let (result, ca) := ca.retrieve handle
    .ready (result, .vaultPki ca)
  | .inProcess ca =>
    let (result, ca) := ca.retrieve handle
    .ready (result, .inProcess ca)
  | .scripted ca =>
    let (result, ca) := ca.retrieve
    .ready (result, .scripted ca)

end Authority

end CertEnroll
