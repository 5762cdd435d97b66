import CertEnroll.Error
import CertEnroll.Json.Reader
import CertEnroll.Octets

/-!
Stores keep octets under keys. The memory store is a list of entries with distinct keys.
-/

namespace CertEnroll

inductive StoreError
  | backend (message : String)
  | invalidValue (key : String)
deriving DecidableEq, Repr

namespace StoreError

def message : StoreError → String
  | .backend m => s!"storage backend error: {m}"
  | .invalidValue key => s!"value under '{key}' is not valid UTF-8"

def kind : StoreError → String
  | .backend _ => "backend"
  | .invalidValue _ => "invalid_value"

def toError (e : StoreError) : Error :=
  .storage e.message

end StoreError

structure MemoryStore where
  entries : List (String × Octets) := []
deriving DecidableEq, Repr

namespace MemoryStore

def get? (key : String) (s : MemoryStore) : Option Octets :=
  s.entries.lookup key

def erase (key : String) (s : MemoryStore) : MemoryStore :=
  ⟨s.entries.filter fun entry => entry.1 ≠ key⟩

def put (key : String) (value : Octets) (s : MemoryStore) : MemoryStore :=
  ⟨(key, value) :: (s.erase key).entries⟩

def size (s : MemoryStore) : Nat :=
  s.entries.length

def child? (start key : List Char) : Option (List Char) :=
  if start.isPrefixOf key then
    let rest := key.drop start.length
    match rest.dropWhile (· ≠ '/') with
    | [] => some rest
    | slash :: _ => some (rest.takeWhile (· ≠ '/') ++ [slash])
  else none

def insertName (name : String) : List String → List String
  | [] => [name]
  | other :: rest =>
    if name = other then other :: rest
    else if name < other then name :: other :: rest
    else other :: insertName name rest

def list (start : String) (s : MemoryStore) : List String :=
  s.entries.foldr
    (fun entry names =>
      match child? start.toList entry.1.toList with
      | some name => insertName (String.ofList name) names
      | none => names) []

end MemoryStore

def Json.octets (value : Json) : Octets :=
  Text.Utf8.encode value.compact

def decodeOctets {α : Type} (read : Document.Decoder α) (octets : Octets) : Except Error α :=
  match Json.decodeText read octets with
  | .ok a => .ok a
  | .error e => .error (.serialization e)

end CertEnroll
