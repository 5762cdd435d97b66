import CertEnroll.Json.Literal
import CertEnroll.Document.Decode

namespace CertEnroll.Json

open Document (Fault Break Node DecodeError Decoder)

def isSpace (b : UInt8) : Bool :=
  b == 0x20 || b == 0x0a || b == 0x0d || b == 0x09

def skipSpace (text : List UInt8) : List UInt8 :=
  text.dropWhile isSpace

def readWord : List UInt8 → List UInt8 → Except Break (List UInt8)
  | [], text => .ok text
  | _ :: _, [] => .error cut
  | w :: word, b :: text => if w = b then readWord word text else .error bad

def afterWord (node : Node) (word text : List UInt8) : Node × Option (List UInt8) :=
  match readWord word text with
  | .ok rest => (node, some rest)
  | .error flaw => (.broken flaw, none)

def afterNumber (text : List UInt8) : Node × Option (List UInt8) :=
  match readNumber text with
  | .ok (node, rest) => (node, some rest)
  | .error flaw => (.broken flaw, none)

def afterLiteral (text : List UInt8) : Node × Option (List UInt8) :=
  match readLiteral text with
  | .ok (s, rest) => (literalNode s, some rest)
  | .error flaw => (.broken flaw, none)

mutual

def readValue : Nat → List UInt8 → Node × Option (List UInt8)
  | 0, _ => (.broken bad, none)
  | fuel + 1, text =>
    match skipSpace text with
    | [] => (.broken cut, none)
    | b :: rest =>
      if b = 0x22 then afterLiteral rest
      else if b = 0x5b then
        match skipSpace rest with
        | [] => (.sequence [] (some cut), none)
        | c :: after =>
          if c = 0x5d then (.sequence [] none, some after)
          else
            let (items, tail, rest) := readItems fuel (c :: after)
            (.sequence items tail, rest)
      else if b = 0x7b then
        match skipSpace rest with
        | [] => (.mapping [] (some cut), none)
        | c :: after =>
          if c = 0x7d then (.mapping [] none, some after)
          else
            let (members, tail, rest) := readMembers fuel (c :: after)
            (.mapping members tail, rest)
      else if b = 0x74 then afterWord (.bool true) [0x72, 0x75, 0x65] rest
      else if b = 0x66 then afterWord (.bool false) [0x61, 0x6c, 0x73, 0x65] rest
      else if b = 0x6e then afterWord .null [0x75, 0x6c, 0x6c] rest
      else if b = 0x2d ∨ isDigit b then afterNumber (b :: rest)
      else (.broken bad, none)

def readItems : Nat → List UInt8 → List Node × Option Break × Option (List UInt8)
  | 0, _ => ([], some bad, none)
  | fuel + 1, text =>
    match readValue fuel text with
    | (node, none) => ([node], none, none)
    | (node, some rest) =>
      match skipSpace rest with
      | [] => ([node], some cut, none)
      | b :: after =>
        if b = 0x5d then ([node], none, some after)
        else if b = 0x2c then
          match skipSpace after with
          | [] => ([node, .broken cut], none, none)
          | c :: after =>
            if c = 0x5d then ([node, .broken bad], none, none)
            else
              let (items, tail, rest) := readItems fuel (c :: after)
              (node :: items, tail, rest)
        else ([node], some bad, none)

def readMembers : Nat → List UInt8 →
    List (Option String × Node) × Option Break × Option (List UInt8)
  | 0, _ => ([], some bad, none)
  | fuel + 1, text =>
    match text with
    | [] => ([], some cut, none)
    | q :: text =>
      if q ≠ 0x22 then ([], some bad, none)
      else
        match readLiteral text with
        | .error flaw => ([], some flaw, none)
        | .ok (name, rest) =>
          match skipSpace rest with
          | [] => ([(name, .broken cut)], none, none)
          | colon :: rest =>
            if colon ≠ 0x3a then ([(name, .broken bad)], none, none)
            else
              match readValue fuel rest with
              | (node, none) => ([(name, node)], none, none)
              | (node, some rest) =>
                match skipSpace rest with
                | [] => ([(name, node)], some cut, none)
                | b :: after =>
                  if b = 0x7d then ([(name, node)], none, some after)
                  else if b = 0x2c then
                    match skipSpace after with
                    | [] => ([(name, node)], some cut, none)
                    | c :: after =>
                      let (members, tail, rest) := readMembers fuel (c :: after)
                      ((name, node) :: members, tail, rest)
                  else ([(name, node)], some bad, none)

end

def readDocument (text : List UInt8) : Node × Bool :=
  match readValue (2 * text.length + 2) text with
  | (node, none) => (node, false)
  | (node, some rest) => (node, !(skipSpace rest).isEmpty)

def decodeText {α : Type} (read : Decoder α) (text : List UInt8) : Except DecodeError α := do
  let (node, trailing) := readDocument text
  let a ← read node
  if trailing then throw (.fault .malformed)
  return a

def depthLimit : Nat := 127

def parse (text : List UInt8) : Except DecodeError Json :=
  decodeText (Node.value depthLimit) text

def decodeValue {α : Type} (read : Decoder α) (value : Json) : Except DecodeError α :=
  read (.ofJson value)

end CertEnroll.Json
