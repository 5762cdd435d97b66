namespace CertEnroll.Text.Hex

def lowerDigits : List Char :=
  ['0', '1', '2', '3', '4', '5', '6', '7', '8', '9', 'a', 'b', 'c', 'd', 'e', 'f']

def upperDigits : List Char :=
  ['0', '1', '2', '3', '4', '5', '6', '7', '8', '9', 'A', 'B', 'C', 'D', 'E', 'F']

def lowerDigit (n : Nat) : Char :=
  lowerDigits.getD n '0'

def upperDigit (n : Nat) : Char :=
  upperDigits.getD n '0'

def digitValue? (c : Char) : Option Nat :=
  let n := c.toNat
  if 48 ≤ n ∧ n ≤ 57 then some (n - 48)
  else if 97 ≤ n ∧ n ≤ 102 then some (n - 87)
  else if 65 ≤ n ∧ n ≤ 70 then some (n - 55)
  else none

def lowerOctet (b : UInt8) : List Char :=
  [lowerDigit (b.toNat / 16), lowerDigit (b.toNat % 16)]

def upperOctet (b : UInt8) : List Char :=
  [upperDigit (b.toNat / 16), upperDigit (b.toNat % 16)]

def encode (bytes : List UInt8) : String :=
  String.ofList (bytes.flatMap lowerOctet)

def decodeChars : List Char → Option (List UInt8)
  | [] => some []
  | [_] => none
  | a :: b :: cs => do
    let hi ← digitValue? a
    let lo ← digitValue? b
    let rest ← decodeChars cs
    return UInt8.ofNat (16 * hi + lo) :: rest

def decode (s : String) : Option (List UInt8) :=
  decodeChars s.toList

def ofNat (n : Nat) : List Char :=
  Nat.toDigits 16 n

end CertEnroll.Text.Hex
