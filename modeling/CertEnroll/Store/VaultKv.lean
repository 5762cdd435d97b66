import CertEnroll.Store.Basic
import CertEnroll.Vault.Client
import CertEnroll.Vault.Reply

/-!
A store in a Vault server's key-value engine. Each entry is one secret that holds the octets as a text
under the name `value`; what the server does not know is absent.
-/

namespace CertEnroll

structure VaultKv where
  client : Vault.Client
  mount : String
deriving DecidableEq, Repr

namespace VaultKv

inductive Operation
  | write (key value : String)
  | read (key : String)
  | remove (key : String)
  | list (start : String)
deriving DecidableEq, Repr

def request (kv : VaultKv) : Operation → Http.Request
  | .write key value =>
    kv.client.request .post s!"{kv.mount}/data/{key}"
      (some (.object [("data", .object [("value", .string value)])]))
  | .read key => kv.client.request .get s!"{kv.mount}/data/{key}" none
  | .remove key => kv.client.request .delete s!"{kv.mount}/metadata/{key}" none
  | .list start => kv.client.request .list s!"{kv.mount}/metadata/{start}" none

def refusal (verb key : String) (reply : Vault.Reply) : StoreError :=
  .backend s!"Failed to {verb} '{key}': {reply.message}"

def writing (key : String) (value : Octets) : Except StoreError Operation :=
  match Text.Utf8.decode value with
  | some s => .ok (.write key s)
  | none => .error (.invalidValue key)

def readWritten (key : String) : Vault.Reply → Except StoreError Unit
  | .data _ => .ok ()
  | reply => .error (refusal "store" key reply)

def secretTexts? (value : Json) : Option (List (String × String)) :=
  match value.member? "data" with
  | some (.object members) => members.mapM fun (name, member) => member.string?.map (name, ·)
  | _ => none

def readValue (key : String) (reply : Vault.Reply) : Except StoreError (Option Octets) :=
  if reply.isMissing then .ok none
  else match reply with
    | .data value =>
      match secretTexts? value with
      | none => .error (refusal "read" key reply)
      | some texts =>
        match texts.lookup "value" with
        | some text => .ok (some (Text.Utf8.encode text))
        | none => .error (.backend s!"Entry '{key}' has no 'value' field")
    | _ => .error (refusal "read" key reply)

def readRemoved (key : String) (reply : Vault.Reply) : Except StoreError Unit :=
  if reply.isMissing then .ok ()
  else match reply with
    | .data _ | .empty => .ok ()
    | _ => .error (refusal "delete" key reply)

def readNames (start : String) (reply : Vault.Reply) : Except StoreError (List String) :=
  if reply.isMissing then .ok []
  else match reply with
    | .data value =>
      match value.member? "keys" with
      | some (.array names) =>
        match names.mapM Json.string? with
        | some names => .ok names
        | none => .error (refusal "list" start .failed)
      | _ => .error (refusal "list" start .failed)
    | _ => .error (refusal "list" start reply)

def ask {α : Type} (kv : VaultKv) (operation : Operation) (read : Vault.Reply → α) :
    Http.Exchange α :=
  .ask (kv.request operation) fun outcome => read (.ofOutcome outcome)

def put (key : String) (value : Octets) (kv : VaultKv) : Http.Exchange (Except StoreError Unit) :=
  match writing key value with
  | .ok operation => kv.ask operation (readWritten key)
  | .error e => .ready (.error e)

def get? (key : String) (kv : VaultKv) : Http.Exchange (Except StoreError (Option Octets)) :=
  kv.ask (.read key) (readValue key)

def erase (key : String) (kv : VaultKv) : Http.Exchange (Except StoreError Unit) :=
  kv.ask (.remove key) (readRemoved key)

def list (start : String) (kv : VaultKv) : Http.Exchange (Except StoreError (List String)) :=
  kv.ask (.list start) (readNames start)

def debug (kv : VaultKv) : String :=
  "VaultKvStorage \x7b mount_path: " ++ Text.quoted kv.mount ++ ", client: \"[VaultClient]\" \x7d"

end VaultKv

end CertEnroll
