import CertEnroll.Document.Node

/-!
Numbers in JSON text. A whole number that fits 64 bits, signed or not, is an integer; any other, and `-0`,
is a binary number. A binary number is read in two roundings: that of its leading digits, at most 2^64 - 1,
and that of the power of ten.
-/

namespace CertEnroll.Json

open Decimal (Binary64)
open Document (Fault Break Node)

def isDigit (b : UInt8) : Bool :=
  48 ≤ b.toNat && b.toNat ≤ 57

def digitOf (b : UInt8) : Nat :=
  b.toNat - 48

def largest : Nat := Nat.pow 2 64 - 1

def takeDigits : Nat → Nat → List UInt8 → Nat × Nat
  | n, count, [] => (n, count)
  | n, count, b :: bs =>
    if largest < 10 * n + digitOf b then (n, count) else takeDigits (10 * n + digitOf b) (count + 1) bs

def scaled : Nat → Binary64 → Int → Option Binary64
  | 0, x, _ => some x
  | fuel + 1, x, e =>
    let power : Nat × Nat :=
      match Binary64.ofNat (Nat.pow 10 (min e.natAbs 308)) with
      | .finite _ m q => Binary64.fraction m q
      | _ => (1, 1)
    if e.natAbs ≤ 308 then
      if 0 ≤ e then
        match x.scale power.1 power.2 with
        | .infinite _ => none
        | y => some y
      else some (x.scale power.2 power.1)
    else if x.isZero then some x
    else if 0 ≤ e then none
    else scaled fuel (x.scale power.2 power.1) (e + 308)

structure NumberText where
  negative : Bool
  whole : List UInt8
  fraction : List UInt8
  exponent : Option (Bool × List UInt8)

def digitsValue (ds : List UInt8) : Nat :=
  ds.foldl (fun n b => 10 * n + digitOf b) 0

def NumberText.binary (t : NumberText) : Option Binary64 :=
  let (n, taken) := takeDigits 0 0 t.whole
  let unread := t.whole.length - taken
  let (n, places) := takeDigits n 0 t.fraction
  let sign (x : Binary64) : Binary64 := if t.negative then x.negate else x
  let base : Int := unread - places
  match t.exponent with
  | none => (scaled 4 (.ofNat n) base).map sign
  | some (down, ds) =>
    let e := digitsValue ds
    if Nat.pow 2 31 - 1 < e then
      if n ≠ 0 ∧ !down then none else some (sign (.ofNat 0))
    else (scaled 4 (.ofNat n) (if down then base - e else base + e)).map sign

def NumberText.node (t : NumberText) : Node :=
  let n := digitsValue t.whole
  if t.fraction = [] ∧ t.exponent = none ∧ n ≤ largest then
    if !t.negative then .integer n
    else if n = 0 ∨ Nat.pow 2 63 < n then .float (Binary64.ofNat n).negate
    else .integer (-n)
  else
    match t.binary with
    | some x => .float x
    | none => .unreadable

def bad : Break := ⟨.malformed, .malformed⟩

def cut : Break := ⟨.truncated, .truncated⟩

def missingDigits : List UInt8 → Break
  | [] => ⟨.truncated, .malformed⟩
  | _ => bad

def readExponent (text : List UInt8) : Except Break ((Bool × List UInt8) × List UInt8) :=
  let (down, text) :=
    match text with
    | b :: rest => if b = 0x2b then (false, rest) else if b = 0x2d then (true, rest) else (false, text)
    | [] => (false, [])
  let digits := text.takeWhile isDigit
  let rest := text.dropWhile isDigit
  if digits = [] then .error (missingDigits rest) else .ok ((down, digits), rest)

def isExponentLetter (b : UInt8) : Bool :=
  b == 0x65 || b == 0x45

def readFraction (negative : Bool) (whole text : List UInt8) : Except Break (Node × List UInt8) := do
  let (fraction, text) ←
    match text with
    | b :: rest =>
      if b = 0x2e then
        let digits := rest.takeWhile isDigit
        if digits = [] then .error (missingDigits rest) else .ok (digits, rest.dropWhile isDigit)
      else .ok ([], text)
    | [] => .ok ([], [])
  match text with
  | b :: rest =>
    if isExponentLetter b then
      let (exponent, rest) ← readExponent rest
      return (NumberText.node ⟨negative, whole, fraction, some exponent⟩, rest)
    else return (NumberText.node ⟨negative, whole, fraction, none⟩, text)
  | [] => return (NumberText.node ⟨negative, whole, fraction, none⟩, [])

def readNumber (text : List UInt8) : Except Break (Node × List UInt8) :=
  let (negative, text) :=
    match text with
    | b :: rest => if b = 0x2d then (true, rest) else (false, text)
    | [] => (false, [])
  let whole := text.takeWhile isDigit
  let rest := text.dropWhile isDigit
  match whole with
  | [] => .error (missingDigits rest)
  | b :: more => if b = 0x30 ∧ more ≠ [] then .error bad else readFraction negative whole rest

end CertEnroll.Json
