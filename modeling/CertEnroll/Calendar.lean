namespace CertEnroll.Calendar

def isLeapYear (y : Int) : Bool :=
  y % 4 == 0 && (y % 100 != 0 || y % 400 == 0)

def daysInMonth (y : Int) (m : Nat) : Nat :=
  if m = 2 then (if isLeapYear y then 29 else 28)
  else if m ∈ [4, 6, 9, 11] then 30
  else 31

def isDate (y : Int) (m d : Nat) : Bool :=
  1 ≤ m && m ≤ 12 && 1 ≤ d && d ≤ daysInMonth y m

/-- Days from 1970-01-01. Years are counted from March here, so that a leap day is the last of its year. -/
def dayNumber (y : Int) (m d : Nat) : Int :=
  let y := if m ≤ 2 then y - 1 else y
  let era := y / 400
  let yearOfEra := y % 400
  let month : Int := (m + 9) % 12
  let dayOfYear := (153 * month + 2) / 5 + d - 1
  era * 146097 + (yearOfEra * 365 + yearOfEra / 4 - yearOfEra / 100 + dayOfYear) - 719468

def dateOf (day : Int) : Int × Nat × Nat :=
  let z := day + 719468
  let era := z / 146097
  let dayOfEra := z % 146097
  let yearOfEra := (dayOfEra - dayOfEra / 1460 + dayOfEra / 36524 - dayOfEra / 146096) / 365
  let dayOfYear := dayOfEra - (365 * yearOfEra + yearOfEra / 4 - yearOfEra / 100)
  let month := (5 * dayOfYear + 2) / 153
  let d := dayOfYear - (153 * month + 2) / 5 + 1
  let m := if month < 10 then month + 3 else month - 9
  let y := yearOfEra + era * 400 + (if m ≤ 2 then 1 else 0)
  (y, m.toNat, d.toNat)

def padded (width n : Nat) : String :=
  let ds := Nat.toDigits 10 n
  String.ofList (List.replicate (width - ds.length) '0' ++ ds)

def yearText (y : Int) : String :=
  if 0 ≤ y ∧ y ≤ 9999 then padded 4 y.toNat
  else (if y < 0 then "-" else "+") ++ padded 4 y.natAbs

end CertEnroll.Calendar

namespace CertEnroll

open Calendar

def nanosPerSecond : Nat := 1000000000

/-- Seconds from 1970-01-01T00:00:00Z and nanoseconds; a second of the latter or more stands for a leap
second, which comes after `second`. -/
structure Instant where
  second : Int
  nano : Nat := 0
deriving DecidableEq, Repr, Inhabited

abbrev Span := Int

namespace Instant

def total (t : Instant) : Int :=
  t.second * nanosPerSecond + t.nano

def ofTotal (n : Int) : Instant :=
  ⟨n / nanosPerSecond, (n % nanosPerSecond).toNat⟩

/-- Adding time inside a leap second stays in it as long as it can; leaving it at the end loses its
second. -/
def plus (t : Instant) (d : Span) : Instant :=
  if t.nano < nanosPerSecond then ofTotal (t.total + d)
  else if nanosPerSecond ≤ d ∨ (0 < d ∧ 2 * nanosPerSecond ≤ t.nano + d) then
    ofTotal (t.total - nanosPerSecond + d)
  else if d ≤ -nanosPerSecond then ofTotal (t.total + d)
  else ⟨t.second, (t.nano + d).toNat⟩

def since (t u : Instant) : Span :=
  t.total - u.total

def before (t u : Instant) : Bool :=
  t.second < u.second || (t.second == u.second && t.nano < u.nano)

def fractionText (nano : Nat) : String :=
  if nano = 0 then ""
  else if nano % 1000000 = 0 then "." ++ padded 3 (nano / 1000000)
  else if nano % 1000 = 0 then "." ++ padded 6 (nano / 1000)
  else "." ++ padded 9 nano

def text (zone : String) (t : Instant) : String :=
  let (y, m, d) := dateOf (t.second / 86400)
  let s := (t.second % 86400).toNat
  let leap := nanosPerSecond ≤ t.nano
  let second := s % 60 + (if leap then 1 else 0)
  let nano := if leap then t.nano - nanosPerSecond else t.nano
  yearText y ++ "-" ++ padded 2 m ++ "-" ++ padded 2 d ++ "T" ++ padded 2 (s / 3600) ++ ":" ++
    padded 2 (s / 60 % 60) ++ ":" ++ padded 2 second ++ fractionText nano ++ zone

def readDigits (width : Nat) (cs : List Char) : Option (Nat × List Char) :=
  let ds := cs.take width
  if ds.length = width ∧ ds.all Char.isDigit then
    some (ds.foldl (fun n c => 10 * n + (c.toNat - 48)) 0, cs.drop width)
  else none

def readChar (allowed : List Char) : List Char → Option (List Char)
  | c :: cs => if c ∈ allowed then some cs else none
  | [] => none

def readFraction : List Char → Option (Nat × List Char)
  | '.' :: cs =>
    let ds := cs.takeWhile Char.isDigit
    let used := ds.take 9
    if ds = [] then none
    else
      some (used.foldl (fun n c => 10 * n + (c.toNat - 48)) 0 * Nat.pow 10 (9 - used.length),
        cs.dropWhile Char.isDigit)
  | cs => some (0, cs)

def readZone : List Char → Option Int
  | ['Z'] | ['z'] => some 0
  | sign :: cs => do
    guard (sign ∈ ['+', '-', '\u2212'])
    let (h, cs) ← readDigits 2 cs
    let cs ← readChar [':'] cs
    let (m, cs) ← readDigits 2 cs
    guard (cs = [] ∧ h < 24 ∧ m < 60)
    let offset : Int := (h * 60 + m) * 60
    return if sign = '+' then offset else -offset
  | [] => none

def parse? (s : String) : Option Instant := do
  let (y, cs) ← readDigits 4 s.toList
  let cs ← readChar ['-'] cs
  let (m, cs) ← readDigits 2 cs
  let cs ← readChar ['-'] cs
  let (d, cs) ← readDigits 2 cs
  let cs ← readChar ['T', 't', ' '] cs
  let (hour, cs) ← readDigits 2 cs
  let cs ← readChar [':'] cs
  let (minute, cs) ← readDigits 2 cs
  let cs ← readChar [':'] cs
  let (second, cs) ← readDigits 2 cs
  let (nano, cs) ← readFraction cs
  let zone ← readZone cs
  guard (isDate y m d ∧ hour < 24 ∧ minute < 60 ∧ second ≤ 60)
  let leap := second = 60
  let second := if leap then 59 else second
  return ⟨dayNumber y m d * 86400 + (hour * 60 + minute : Nat) * 60 + second - zone,
    nano + (if leap then nanosPerSecond else 0)⟩

end Instant

end CertEnroll
