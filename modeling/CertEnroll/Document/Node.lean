import CertEnroll.Json.Basic
import CertEnroll.Text.Quoted

/-!
Documents as they are read, before their shape is known. A document with a flaw keeps everything in front
of it, so that a reader of typed values meets shape errors and flaws in the order of the text.
-/

namespace CertEnroll.Document

open Decimal (Binary64)

inductive Fault
  | malformed
  | truncated
deriving DecidableEq, Repr

structure Break where
  visited : Fault
  skipped : Fault
deriving DecidableEq, Repr

/-- An `unreadable` is a value that can be passed over but not taken, `moment` a date or time. -/
inductive Node
  | null
  | bool (b : Bool)
  | integer (n : Int)
  | float (x : Binary64)
  | text (s : String)
  | moment (s : String)
  | unreadable
  | broken (flaw : Break)
  | sequence (items : List Node) (tail : Option Break)
  | mapping (members : List (Option String × Node)) (tail : Option Break)
deriving Inhabited, Repr

inductive Found
  | null
  | bool (b : Bool)
  | integer (n : Int)
  | float (x : Binary64)
  | text (s : String)
  | sequence
  | mapping
deriving DecidableEq, Repr

def Found.message (floatText : Binary64 → String) : Found → String
  | .null => "null"
  | .bool b => s!"boolean `{b}`"
  | .integer n => s!"integer `{n}`"
  | .float x => "floating point `" ++ floatText x ++ "`"
  | .text s => "string " ++ Text.quoted s
  | .sequence => "sequence"
  | .mapping => "map"

inductive DecodeError
  | fault (f : Fault)
  | invalidType (found : Found) (expected : String)
  | invalidValue (found : Found) (expected : String)
  | invalidLength (n : Nat) (expected : String)
  | missingField (name : String)
  | duplicateField (name : String)
  | unknownVariant (name : String) (variants : List String)
  | noVariant
deriving DecidableEq, Repr

def ticked (name : String) : String :=
  "`" ++ name ++ "`"

def oneOf : List String → String
  | [] => "there are no variants"
  | [name] => "expected " ++ ticked name
  | [a, b] => "expected " ++ ticked a ++ " or " ++ ticked b
  | names => "expected one of " ++ ", ".intercalate (names.map ticked)

def DecodeError.message (floatText : Binary64 → String) : DecodeError → String
  | .fault .malformed => "syntax"
  | .fault .truncated => "eof"
  | .invalidType found expected => s!"invalid type: {found.message floatText}, expected {expected}"
  | .invalidValue found expected => s!"invalid value: {found.message floatText}, expected {expected}"
  | .invalidLength n expected => s!"invalid length {n}, expected {expected}"
  | .missingField name => "missing field " ++ ticked name
  | .duplicateField name => "duplicate field " ++ ticked name
  | .unknownVariant name variants => "unknown variant " ++ ticked name ++ ", " ++ oneOf variants
  | .noVariant => "wanted string or table"

def Node.mismatch (expected : String) : Node → DecodeError
  | .null => .invalidType .null expected
  | .bool b => .invalidType (.bool b) expected
  | .integer n => .invalidType (.integer n) expected
  | .float x => .invalidType (.float x) expected
  | .text s => .invalidType (.text s) expected
  | .unreadable => .fault .malformed
  | .broken flaw => .fault flaw.visited
  | .sequence _ _ => .invalidType .sequence expected
  | .moment _ | .mapping _ _ => .invalidType .mapping expected

def passTail (skipping : Bool) : Option Break → Except DecodeError Unit
  | none => .ok ()
  | some flaw => .error (.fault (if skipping then flaw.skipped else flaw.visited))

mutual

def Node.skip : Node → Except DecodeError Unit
  | .broken flaw => .error (.fault flaw.skipped)
  | .sequence items tail => do
    skipItems items
    passTail true tail
  | .mapping members tail => do
    skipMembers members
    passTail true tail
  | _ => .ok ()

def skipItems : List Node → Except DecodeError Unit
  | [] => .ok ()
  | item :: items => do
    item.skip
    skipItems items

def skipMembers : List (Option String × Node) → Except DecodeError Unit
  | [] => .ok ()
  | (_, value) :: members => do
    value.skip
    skipMembers members

end

mutual

def Node.value (depth : Nat) : Node → Except DecodeError Json
  | .null => .ok .null
  | .bool b => .ok (.bool b)
  | .integer n => .ok (.integer n)
  | .float x => .ok (.float x)
  | .text s => .ok (.string s)
  | .moment s => .ok (.string s)
  | .unreadable => .error (.fault .malformed)
  | .broken flaw => .error (.fault flaw.visited)
  | .sequence items tail =>
    if depth = 0 then .error (.fault .malformed)
    else do
      let items ← valueItems (depth - 1) items
      passTail false tail
      return .array items
  | .mapping members tail =>
    if depth = 0 then .error (.fault .malformed)
    else do
      let members ← valueMembers (depth - 1) members
      passTail false tail
      return .ofMembers members

def valueItems (depth : Nat) : List Node → Except DecodeError (List Json)
  | [] => .ok []
  | item :: items => do
    let first ← item.value depth
    let rest ← valueItems depth items
    return first :: rest

def valueMembers (depth : Nat) :
    List (Option String × Node) → Except DecodeError (List (String × Json))
  | [] => .ok []
  | (none, _) :: _ => .error (.fault .malformed)
  | (some name, value) :: members => do
    let first ← value.value depth
    let rest ← valueMembers depth members
    return (name, first) :: rest

end

mutual

def Node.ofJson : Json → Node
  | .null => .null
  | .bool b => .bool b
  | .integer n => .integer n
  | .float x => .float x
  | .string s => .text s
  | .array items => .sequence (ofJsonItems items) none
  | .object members => .mapping (ofJsonMembers members) none

def ofJsonItems : List Json → List Node
  | [] => []
  | item :: items => Node.ofJson item :: ofJsonItems items

def ofJsonMembers : List (String × Json) → List (Option String × Node)
  | [] => []
  | (name, value) :: members => (some name, Node.ofJson value) :: ofJsonMembers members

end

end CertEnroll.Document
