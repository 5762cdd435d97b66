import CertEnroll.Settings.Basic
import CertEnroll.Store.VaultKv

namespace CertEnroll

open Http (Exchange)

inductive Store
  | memory (s : MemoryStore)
  | vaultKv (kv : VaultKv)
deriving Repr

namespace Store

def ofSettings (vaultNamespace : Option String) (s : StoreSettings) : Except Error Store :=
  match s.backend with
  | .memory => .ok (.memory {})
  | .vaultKv =>
    match s.address with
    | none => .error (.config "storage.address is required for vault_kv")
    | some address =>
      (Vault.connect address s.token vaultNamespace).map fun client => .vaultKv ⟨client, s.mount⟩

def kind : Store → StoreKind
  | .memory _ => .memory
  | .vaultKv _ => .vaultKv

def debug : Store → String
  | .memory s =>
    let entry (e : String × Octets) : String :=
      Text.quoted e.1 ++ ": [" ++ ", ".intercalate (e.2.map fun b => toString b.toNat) ++ "]"
    "MemoryStorage \x7b entries: \x7b" ++ ", ".intercalate (s.entries.map entry) ++ "\x7d \x7d"
  | .vaultKv kv => kv.debug

def put (key : String) (value : Octets) : Store → Exchange (Except StoreError Unit × Store)
  | .memory s => .ready (.ok (), .memory (s.put key value))
  | .vaultKv kv => (kv.put key value).map fun result => (result, .vaultKv kv)

def get? (key : String) : Store → Exchange (Except StoreError (Option Octets))
  | .memory s => .ready (.ok (s.get? key))
  | .vaultKv kv => kv.get? key

def erase (key : String) : Store → Exchange (Except StoreError Unit × Store)
  | .memory s => .ready (.ok (), .memory (s.erase key))
  | .vaultKv kv => (kv.erase key).map fun result => (result, .vaultKv kv)

def list (start : String) : Store → Exchange (Except StoreError (List String))
  | .memory s => .ready (.ok (s.list start))
  | .vaultKv kv => kv.list start

end Store

end CertEnroll
