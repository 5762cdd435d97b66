import CertEnroll.Document.Node

namespace CertEnroll.Document

inductive Dialect
  | jsonText
  | jsonValue
  | toml
deriving DecidableEq, Repr

abbrev Decoder (α : Type) := Node → Except DecodeError α

def readString : Decoder String
  | .text s => .ok s
  | node => .error (node.mismatch "a string")

def readBool : Decoder Bool
  | .bool b => .ok b
  | node => .error (node.mismatch "a boolean")

def readNat (kind : String) (bound : Nat) : Decoder Nat
  | .integer n =>
    if 0 ≤ n ∧ n < bound then .ok n.toNat else .error (.invalidValue (.integer n) kind)
  | node => .error (node.mismatch kind)

def readOption {α : Type} (read : Decoder α) : Decoder (Option α)
  | .null => .ok none
  | node => (read node).map some

def readUnit : Decoder Unit
  | .null => .ok ()
  | node => .error (node.mismatch "unit")

def pickVariant {α : Type} (variants : List (String × α)) (name : String) : Except DecodeError α :=
  match variants.lookup name with
  | some a => .ok a
  | none => .error (.unknownVariant name (variants.map (·.1)))

def readVariant {α : Type} (dialect : Dialect) (variants : List (String × α)) : Decoder α
  | .text name => pickVariant variants name
  | .mapping [(some name, value)] tail => do
    let a ← pickVariant variants name
    match dialect, value with
    | .toml, .sequence [] _ | .toml, .mapping [] _ => return a
    | .toml, _ => throw .noVariant
    | _, value =>
      readUnit value
      passTail false tail
      return a
  | .mapping _ _ =>
    .error (if dialect = .toml then .noVariant else .invalidValue .mapping "map with a single key")
  | node => .error (if dialect = .toml then .noVariant else node.mismatch "string or map")

def readMembers {σ : Type} (fields : List String) (set : String → Node → σ → Except DecodeError σ) :
    List String → σ → List (Option String × Node) → Except DecodeError (List String × σ)
  | seen, record, [] => .ok (seen, record)
  | _, _, (none, _) :: _ => .error (.fault .malformed)
  | seen, record, (some name, value) :: members =>
    if name ∈ fields then
      if name ∈ seen then .error (.duplicateField name)
      else do
        let record ← set name value record
        readMembers fields set (name :: seen) record members
    else do
      value.skip
      readMembers fields set seen record members

def extraItems (dialect : Dialect) (total : Nat) : Except DecodeError Unit :=
  match dialect with
  | .jsonText => .error (.fault .malformed)
  | .jsonValue => .error (.invalidLength total "fewer elements in array")
  | .toml => .ok ()

def readItems {σ : Type} (set : String → Node → σ → Except DecodeError σ) :
    List String → σ → List Node → Except DecodeError (σ × List String × List Node)
  | field :: fields, record, item :: items => do
    let record ← set field item record
    readItems set fields record items
  | fields, record, items => .ok (record, fields, items)

def readRecord {σ : Type} (dialect : Dialect) (name : String) (fields required : List String)
    (set : String → Node → σ → Except DecodeError σ) (start : σ) : Decoder σ
  | .mapping members tail => do
    let (seen, record) ← readMembers fields set [] start members
    passTail false tail
    match required.find? fun field => !seen.contains field with
    | some field => throw (.missingField field)
    | none => return record
  | .sequence items tail => do
    let (record, unset, extra) ← readItems set fields start items
    if !extra.isEmpty then extraItems dialect items.length
    passTail false tail
    match unset.find? fun field => required.contains field with
    | some field =>
      throw (.invalidLength (fields.idxOf field) s!"struct {name} with {fields.length} elements")
    | none => return record
  | .moment _ => return start
  | node => throw (node.mismatch s!"struct {name}")

end CertEnroll.Document
