import CertEnroll.Calendar
import CertEnroll.Der.Element

namespace CertEnroll.Der

open Calendar

def isDigit (b : UInt8) : Bool :=
  48 ≤ b.toNat && b.toNat ≤ 57

def readTwo (most : Nat) : List UInt8 → Option (Nat × List UInt8)
  | a :: b :: bytes =>
    let n := (a.toNat - 48) * 10 + (b.toNat - 48)
    if isDigit a ∧ isDigit b ∧ n ≤ most then some (n, bytes) else none
  | _ => none

def unixTime (y : Int) (m d hour minute second : Nat) : Option Int :=
  if isDate y m d then
    some (dayNumber y m d * 86400 + ((hour * 60 + minute : Nat) : Int) * 60 + second)
  else none

/-- Seconds east of Greenwich. Only the hours carry the sign. -/
def zoneOffset (sign : UInt8) (bytes : List UInt8) : Option Int := do
  let (h, bytes) ← readTwo 99 bytes
  let (m, bytes) ← readTwo 59 bytes
  guard (bytes = [] ∧ h ≤ 25)
  if sign = 0x2b ∨ h = 0 then return (h * 60 + m : Nat) * 60
  else if sign = 0x2d then return -((h * 60 + m : Nat) * 60 : Int)
  else none

def readZone : List UInt8 → Option Int
  | [] => none
  | [z] => if z = 0x5a then some 0 else none
  | sign :: bytes => if sign = 0x2b ∨ sign = 0x2d then zoneOffset sign bytes else none

/-- Seconds are optional: two octets that are not both digits are dropped. -/
def readOptionalSeconds : List UInt8 → Option (Nat × List UInt8)
  | a :: b :: bytes => if isDigit a ∧ isDigit b then readTwo 59 (a :: b :: bytes) else some (0, bytes)
  | bytes => some (0, bytes)

def utcYear (y : Nat) : Int :=
  if y < 50 then 2000 + y else 1900 + y

def readUtcTime (bytes : List UInt8) : Option Int := do
  guard (bytes.all fun b => 0x20 ≤ b.toNat ∧ b.toNat ≤ 0x7f)
  let (y, bytes) ← readTwo 99 bytes
  let (m, bytes) ← readTwo 12 bytes
  let (d, bytes) ← readTwo 31 bytes
  let (hour, bytes) ← readTwo 23 bytes
  let (minute, bytes) ← readTwo 59 bytes
  guard (bytes ≠ [])
  let (second, bytes) ← if bytes.length = 1 then some (0, bytes) else readOptionalSeconds bytes
  let offset ← readZone bytes
  return (← unixTime (utcYear y) m d hour minute second) - offset

def passFraction : List UInt8 → Option (List UInt8)
  | b :: bytes =>
    if b = 0x2e ∨ b = 0x2c then
      let digits := (bytes.takeWhile isDigit).length
      if 1 ≤ digits ∧ digits ≤ 3 then some (bytes.drop digits) else none
    else some (b :: bytes)
  | [] => some []

def readGeneralTime (bytes : List UInt8) : Option Int := do
  guard (bytes.all fun b => 0x20 ≤ b.toNat ∧ b.toNat ≤ 0x7f)
  let (century, bytes) ← readTwo 99 bytes
  let (y, bytes) ← readTwo 99 bytes
  let (m, bytes) ← readTwo 12 bytes
  let (d, bytes) ← readTwo 31 bytes
  let (hour, bytes) ← readTwo 23 bytes
  let (minute, bytes) ← readTwo 59 bytes
  let (second, bytes) ← if bytes.length < 2 then some (0, bytes) else readTwo 59 bytes
  let bytes ← passFraction bytes
  let offset ← if bytes = [] then some 0 else readZone bytes
  return (← unixTime (100 * century + y) m d hour minute second) - offset

def readTime (bytes : List UInt8) : Option (Int × List UInt8) := do
  let (header, content, rest) ← readElement bytes
  guard (!header.constructed)
  if header.tag = utcTimeTag then return (← readUtcTime content, rest)
  else if header.tag = generalTimeTag then return (← readGeneralTime content, rest)
  else none

end CertEnroll.Der
