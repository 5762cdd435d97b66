import CertEnroll.Decimal.Binary64

namespace CertEnroll.Decimal

structure Numeral where
  digits : Nat
  exponent : Int
deriving DecidableEq, Repr

def below (strict : Bool) (a b c : Nat) (k : Int) : Bool :=
  let left := if 0 ≤ k then a else a * Nat.pow 10 (-k).toNat
  let right := if 0 ≤ k then c * Nat.pow 10 k.toNat * b else c * b
  if strict then left < right else left ≤ right

def above (strict : Bool) (a b c : Nat) (k : Int) : Bool :=
  let left := if 0 ≤ k then c * Nat.pow 10 k.toNat * b else c * b
  let right := if 0 ≤ k then a else a * Nat.pow 10 (-k).toNat
  if strict then left < right else left ≤ right

def magnitude (num den : Nat) : Int :=
  if den ≤ num then (Nat.toDigits 10 (num / den)).length
  else
    let q := (den + num - 1) / num
    let p : Int := -((Nat.toDigits 10 q).length : Int) + 1
    if above false num den 1 p then p + 1 else p

/-- On the grid of `n` digits, the neighbour of the value that lies in the interval of numbers rounding to
it; of two such the nearer. -/
def onGrid (m : Nat) (e : Int) (n : Nat) : Option Numeral :=
  let (num, den) := Binary64.fraction m e
  let (lowNum, lowDen) :=
    if m = Nat.pow 2 52 ∧ -1074 < e then Binary64.fraction (4 * m - 1) (e - 2)
    else Binary64.fraction (2 * m - 1) (e - 1)
  let (highNum, highDen) := Binary64.fraction (2 * m + 1) (e - 1)
  let strict := m % 2 == 1
  let k := magnitude num den - n
  let floor := if 0 ≤ k then num / (den * Nat.pow 10 k.toNat) else num * Nat.pow 10 (-k).toNat / den
  let inside (c : Nat) : Bool := below strict lowNum lowDen c k && above strict highNum highDen c k
  let down := inside floor
  let up := inside (floor + 1)
  if down && up then
    -- twice the value against the sum of the neighbours
    let nearerDown := below false (2 * num) den (2 * floor + 1) k
    some ⟨if nearerDown then floor else floor + 1, k⟩
  else if down then some ⟨floor, k⟩
  else if up then some ⟨floor + 1, k⟩
  else none

def stripZeros : Nat → Numeral → Numeral
  | 0, d => d
  | fuel + 1, d =>
    if d.digits % 10 = 0 ∧ d.digits ≠ 0 then stripZeros fuel ⟨d.digits / 10, d.exponent + 1⟩ else d

def shortest (m : Nat) (e : Int) : Numeral :=
  if m = 0 then ⟨0, 0⟩
  else
    let found := (List.range 17).findSome? fun i => onGrid m e (i + 1)
    stripZeros 20 (found.getD ⟨m, e⟩)

structure Layout where
  least : Int
  greatest : Int
  signed : Bool
  width : Nat

def zeros (n : Nat) : List Char :=
  List.replicate n '0'

def positional (ds : List Char) (exponent : Int) (whole : Bool) : List Char :=
  if 0 ≤ exponent then ds ++ zeros exponent.toNat ++ (if whole then ['.', '0'] else [])
  else
    let places := (-exponent).toNat
    if places < ds.length then
      ds.take (ds.length - places) ++ '.' :: ds.drop (ds.length - places)
    else '0' :: '.' :: zeros (places - ds.length) ++ ds

def Layout.write (l : Layout) (d : Numeral) : List Char :=
  let ds := Nat.toDigits 10 d.digits
  let scientific : Int := ds.length - 1 + d.exponent
  if l.least ≤ scientific ∧ scientific ≤ l.greatest then positional ds d.exponent true
  else
    let fraction := if ds.length = 1 then [] else '.' :: ds.drop 1
    let exponent := Nat.toDigits 10 scientific.natAbs
    ds.take 1 ++ fraction ++ 'e' ::
      ((if scientific < 0 then ['-'] else if l.signed then ['+'] else []) ++
        zeros (l.width - exponent.length) ++ exponent)

def Layout.format (l : Layout) (x : Binary64) : String :=
  match x with
  | .finite negative m e => String.ofList ((if negative then ['-'] else []) ++ l.write (shortest m e))
  | .infinite negative => if negative then "-inf" else "inf"
  | .nan => "NaN"

def plain (x : Binary64) : String :=
  match x with
  | .finite negative m e =>
    let d := shortest m e
    String.ofList ((if negative then ['-'] else []) ++ positional (Nat.toDigits 10 d.digits) d.exponent true)
  | .infinite negative => if negative then "-inf.0" else "inf.0"
  | .nan => "NaN.0"

end CertEnroll.Decimal
