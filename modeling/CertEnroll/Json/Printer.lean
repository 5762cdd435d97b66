import CertEnroll.Json.Basic
import CertEnroll.Decimal.Shortest
import CertEnroll.Text.Hex

namespace CertEnroll.Json

open Decimal (Binary64 Layout)

def floatLayout : Layout := ⟨-5, 15, true, 2⟩

def escaped (c : Char) : List Char :=
  if c = '"' then ['\\', '"']
  else if c = '\\' then ['\\', '\\']
  else if c = '\x08' then ['\\', 'b']
  else if c = '\x0c' then ['\\', 'f']
  else if c = '\n' then ['\\', 'n']
  else if c = '\r' then ['\\', 'r']
  else if c = '\t' then ['\\', 't']
  else if c.toNat < 32 then
    ['\\', 'u', '0', '0', Text.Hex.lowerDigit (c.toNat / 16), Text.Hex.lowerDigit (c.toNat % 16)]
  else [c]

def quote (s : String) : List Char :=
  '"' :: s.toList.flatMap escaped ++ ['"']

def number (x : Binary64) : List Char :=
  match x with
  | .finite .. => (floatLayout.format x).toList
  | _ => "null".toList

def scalar : Json → List Char
  | .null => "null".toList
  | .bool true => "true".toList
  | .bool false => "false".toList
  | .integer n => (toString n).toList
  | .float x => number x
  | .string s => quote s
  | .array _ | .object _ => []

def joined (separator : List Char) : List (List Char) → List Char
  | [] => []
  | [piece] => piece
  | piece :: pieces => piece ++ separator ++ joined separator pieces

mutual

def compactChars : Json → List Char
  | .array items => '[' :: joined [','] (compactItems items) ++ [']']
  | .object members => '\x7b' :: joined [','] (compactMembers members) ++ ['\x7d']
  | value => scalar value

def compactItems : List Json → List (List Char)
  | [] => []
  | item :: items => compactChars item :: compactItems items

def compactMembers : List (String × Json) → List (List Char)
  | [] => []
  | (name, value) :: members => (quote name ++ ':' :: compactChars value) :: compactMembers members

end

def compact (value : Json) : String :=
  String.ofList (compactChars value)

def indent (depth : Nat) : List Char :=
  '\n' :: List.replicate (2 * depth) ' '

mutual

def prettyChars (depth : Nat) : Json → List Char
  | .array [] => ['[', ']']
  | .array (item :: items) =>
    '[' :: indent (depth + 1) ++
      joined (',' :: indent (depth + 1)) (prettyItems (depth + 1) (item :: items)) ++
      indent depth ++ [']']
  | .object [] => ['\x7b', '\x7d']
  | .object (member :: members) =>
    '\x7b' :: indent (depth + 1) ++
      joined (',' :: indent (depth + 1)) (prettyMembers (depth + 1) (member :: members)) ++
      indent depth ++ ['\x7d']
  | value => scalar value

def prettyItems (depth : Nat) : List Json → List (List Char)
  | [] => []
  | item :: items => prettyChars depth item :: prettyItems depth items

def prettyMembers (depth : Nat) : List (String × Json) → List (List Char)
  | [] => []
  | (name, value) :: members =>
    (quote name ++ ':' :: ' ' :: prettyChars depth value) :: prettyMembers depth members

end

def pretty (value : Json) : String :=
  String.ofList (prettyChars 0 value)

end CertEnroll.Json
