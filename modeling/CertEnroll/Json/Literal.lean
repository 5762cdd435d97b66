import CertEnroll.Json.Number
import CertEnroll.Text.Utf8

namespace CertEnroll.Json

open Document (Fault Break Node)

def hexValue? (b : UInt8) : Option Nat :=
  Text.Hex.digitValue? (Char.ofNat b.toNat)

def hexUnit? (a b c d : UInt8) : Option Nat := do
  let a ← hexValue? a
  let b ← hexValue? b
  let c ← hexValue? c
  let d ← hexValue? d
  return ((a * 16 + b) * 16 + c) * 16 + d

def charOctets (n : Nat) : List UInt8 :=
  String.utf8EncodeChar (Char.ofNat n)

def simpleEscape? (b : UInt8) : Option UInt8 :=
  if b = 0x22 ∨ b = 0x5c ∨ b = 0x2f then some b
  else if b = 0x62 then some 0x08
  else if b = 0x66 then some 0x0c
  else if b = 0x6e then some 0x0a
  else if b = 0x72 then some 0x0d
  else if b = 0x74 then some 0x09
  else none

def cutLiteral (sound : Bool) : Break :=
  ⟨if sound then .truncated else .malformed, .truncated⟩

/-- The octets of the literal and what follows its closing quote. Octets are collected in `done`, the last
first; a literal that is not `sound` can be passed over, and has no value. -/
def scanLiteral (done : List UInt8) (sound : Bool) :
    List UInt8 → Except Break (Option (List UInt8) × List UInt8)
  | [] => .error (cutLiteral sound)
  | b :: text =>
    if b = 0x22 then .ok (if sound then some done.reverse else none, text)
    else if b = 0x5c then
      match text with
      | [] => .error (cutLiteral sound)
      | c :: text =>
        if c = 0x75 then
          match text with
          | h :: i :: j :: k :: text =>
            match hexUnit? h i j k with
            | none => .error bad
            | some n =>
              if 0xdc00 ≤ n ∧ n ≤ 0xdfff then scanLiteral done false text
              else if 0xd800 ≤ n ∧ n ≤ 0xdbff then
                match text with
                | s :: u :: p :: q :: r :: t :: after =>
                  if s = 0x5c ∧ u = 0x75 then
                    match hexUnit? p q r t with
                    | some low =>
                      if 0xdc00 ≤ low ∧ low ≤ 0xdfff then
                        scanLiteral
                          ((charOctets (0x10000 + (n - 0xd800) * 0x400 + (low - 0xdc00))).reverse ++ done)
                          sound after
                      else scanLiteral done false (s :: u :: p :: q :: r :: t :: after)
                    | none => .error bad
                  else scanLiteral done false (s :: u :: p :: q :: r :: t :: after)
                | [] => .error (cutLiteral sound)
                | s :: rest =>
                  -- an escape that the text cuts off is an early end even here
                  let cutEscape := s = 0x5c ∧ (rest.head?.getD 0x75) = 0x75
                  scanLiteral done (sound && cutEscape) (s :: rest)
              else scanLiteral ((charOctets n).reverse ++ done) sound text
          | _ => .error (cutLiteral sound)
        else
          match simpleEscape? c with
          | some e => scanLiteral (e :: done) sound text
          | none => .error bad
    else if b < 0x20 then .error bad
    else scanLiteral (b :: done) sound text

def readLiteral (text : List UInt8) : Except Break (Option String × List UInt8) := do
  let (octets, rest) ← scanLiteral [] true text
  return (octets.bind Text.Utf8.decode, rest)

def literalNode : Option String → Node
  | some s => .text s
  | none => .unreadable

end CertEnroll.Json
