import CertEnroll.Text.Utf8

/-!
Standard base64. `decode` reads one padded text and says what is wrong with any other; `decodeBlocks`
also takes padding inside the text, at the end of any group of four.
-/

namespace CertEnroll.Text.Base64

inductive Flaw
  | symbol (octet : UInt8) (offset : Nat)
  | length (n : Nat)
  | lastSymbol (octet : UInt8) (offset : Nat)
  | padding
deriving DecidableEq, Repr

def Flaw.message : Flaw → String
  | .symbol octet offset => s!"Invalid symbol {octet.toNat}, offset {offset}."
  | .length n => s!"Invalid input length: {n}"
  | .lastSymbol octet offset => s!"Invalid last symbol {octet.toNat}, offset {offset}."
  | .padding => "Invalid padding"

def value? (b : UInt8) : Option Nat :=
  let n := b.toNat
  if 65 ≤ n ∧ n ≤ 90 then some (n - 65)
  else if 97 ≤ n ∧ n ≤ 122 then some (n - 71)
  else if 48 ≤ n ∧ n ≤ 57 then some (n + 4)
  else if n = 43 then some 62
  else if n = 47 then some 63
  else none

def symbol (n : Nat) : UInt8 :=
  UInt8.ofNat <|
    if n < 26 then n + 65 else if n < 52 then n + 71 else if n < 62 then n - 4
    else if n = 62 then 43 else 47

def padOctet : UInt8 := 61

def encode : List UInt8 → List UInt8
  | [] => []
  | [a] =>
    [symbol (a.toNat / 4), symbol (a.toNat % 4 * 16), padOctet, padOctet]
  | [a, b] =>
    [symbol (a.toNat / 4), symbol (a.toNat % 4 * 16 + b.toNat / 16), symbol (b.toNat % 16 * 4),
      padOctet]
  | a :: b :: c :: rest =>
    symbol (a.toNat / 4) :: symbol (a.toNat % 4 * 16 + b.toNat / 16) ::
      symbol (b.toNat % 16 * 4 + c.toNat / 64) :: symbol (c.toNat % 64) :: encode rest

def octets (w x y z : Nat) : List UInt8 :=
  [UInt8.ofNat (w * 4 + x / 16), UInt8.ofNat (x % 16 * 16 + y / 4), UInt8.ofNat (y % 4 * 64 + z)]

/-- The symbol values of the last group, whose first octet stands at `offset`; padding may follow two or
three of them. The second part counts the padding. -/
def lastValues (offset : Nat) : List UInt8 → List Nat → Nat → Except Flaw (List Nat × Nat)
  | [], found, pads => .ok (found.reverse, pads)
  | b :: bs, found, pads =>
    if b = padOctet then
      if found.length + pads < 2 then .error (.symbol b (offset + found.length + pads))
      else lastValues offset bs found (pads + 1)
    else if 0 < pads then .error (.symbol padOctet (offset + found.length))
    else match value? b with
      | none => .error (.symbol b (offset + found.length))
      | some v => lastValues offset bs (v :: found) pads

def decodeLast (offset : Nat) (group : List UInt8) : Except Flaw (List UInt8) := do
  let (values, pads) ← lastValues offset group [] 0
  let flawed := Flaw.lastSymbol ((group.getD (values.length - 1) 0)) (offset + values.length - 1)
  if (values.length + pads) % 4 != 0 ∧ 2 ≤ values.length then throw .padding
  match values with
  | [] => return []
  | [_] => throw (.length (offset + 1))
  | [w, x] => if x % 16 = 0 then return (octets w x 0 0).take 1 else throw flawed
  | [w, x, y] => if y % 4 = 0 then return (octets w x y 0).take 2 else throw flawed
  | w :: x :: y :: z :: _ => return octets w x y z

def decodeGroups (offset : Nat) : List UInt8 → Except Flaw (List UInt8)
  | a :: b :: c :: d :: e :: rest => do
    let read (b : UInt8) (i : Nat) : Except Flaw Nat :=
      match value? b with
      | some v => .ok v
      | none => .error (.symbol b i)
    let w ← read a offset
    let x ← read b (offset + 1)
    let y ← read c (offset + 2)
    let z ← read d (offset + 3)
    let more ← decodeGroups (offset + 4) (e :: rest)
    return octets w x y z ++ more
  | group => decodeLast offset group

/-- A single octet too many that is no symbol is reported before anything else. -/
def decode (text : List UInt8) : Except Flaw (List UInt8) :=
  match text.getLast? with
  | some b =>
    if text.length % 4 = 1 ∧ b ≠ padOctet ∧ value? b = none then .error (.symbol b (text.length - 1))
    else decodeGroups 0 text
  | none => .ok []

def decodeBlocks : List UInt8 → Option (List UInt8)
  | [] => some []
  | a :: b :: c :: d :: rest => do
    let group ←
      match value? a, value? b, value? c, value? d with
      | some w, some x, some y, some z => some (octets w x y z)
      | some w, some x, some y, none =>
        if d = padOctet ∧ y % 4 = 0 then some ((octets w x y 0).take 2) else none
      | some w, some x, none, none =>
        if c = padOctet ∧ d = padOctet ∧ x % 16 = 0 then some ((octets w x 0 0).take 1) else none
      | _, _, _, _ => none
    let more ← decodeBlocks rest
    return group ++ more
  | _ => none

end CertEnroll.Text.Base64
