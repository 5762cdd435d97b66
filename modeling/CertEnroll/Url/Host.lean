import CertEnroll.Text.Blank
import CertEnroll.Text.Hex
import CertEnroll.Text.Lowercase
import CertEnroll.Text.Utf8

namespace CertEnroll.Url

inductive Flaw
  | emptyHost
  | domain
  | domainCharacter
  | port
  | ipv4
  | ipv6
  | noScheme
deriving DecidableEq, Repr

def Flaw.message : Flaw → String
  | .emptyHost => "empty host"
  | .domain => "invalid international domain name"
  | .domainCharacter => "invalid domain character"
  | .port => "invalid port number"
  | .ipv4 => "invalid IPv4 address"
  | .ipv6 => "invalid IPv6 address"
  | .noScheme => "relative URL without a base"

def percentDecode : List UInt8 → List UInt8
  | 0x25 :: a :: b :: rest =>
    match Text.Hex.digitValue? (Char.ofNat a.toNat), Text.Hex.digitValue? (Char.ofNat b.toNat) with
    | some hi, some lo => UInt8.ofNat (16 * hi + lo) :: percentDecode rest
    | _, _ => 0x25 :: percentDecode (a :: b :: rest)
  | b :: rest => b :: percentDecode rest
  | [] => []

def isForbidden (c : Char) : Bool :=
  c.toNat ≤ 32 || c.toNat == 127 || c ∈ ['#', '/', ':', '<', '>', '?', '@', '[', '\\', ']', '^', '|', '%']

def adapt (first : Bool) (delta points : Nat) : Nat :=
  let delta := if first then delta / 700 else delta / 2
  let delta := delta + delta / points
  let rec shrink : Nat → Nat → Nat → Nat
    | 0, _, k => k
    | fuel + 1, delta, k =>
      if 455 < delta then shrink fuel (delta / 35) (k + 36) else k + 36 * delta / (delta + 38)
  shrink delta delta 0

def digit36 (n : Nat) : Char :=
  Char.ofNat (if n < 26 then 97 + n else 22 + n)

def writeDelta (bias : Nat) : Nat → Nat → Nat → List Char
  | 0, _, _ => []
  | fuel + 1, k, q =>
    let t := if k ≤ bias then 1 else if bias + 26 ≤ k then 26 else k - bias
    if q < t then [digit36 q]
    else digit36 (t + (q - t) % (36 - t)) :: writeDelta bias fuel (k + 36) ((q - t) / (36 - t))

structure PunycodeState where
  delta : Nat
  bias : Nat
  handled : Nat
  written : List Char

def writePlaces (basic n : Nat) (s : PunycodeState) (c : Char) : PunycodeState :=
  if c.toNat < n then { s with delta := s.delta + 1 }
  else if c.toNat = n then
    { delta := 0
      bias := adapt (s.handled == basic) s.delta (s.handled + 1)
      handled := s.handled + 1
      written := s.written ++ writeDelta s.bias (s.delta + 1) 36 s.delta }
  else s

def punycode (label : List Char) : List Char :=
  let basic := label.filter (·.toNat < 128)
  let others := ((label.filter (128 ≤ ·.toNat)).map Char.toNat).mergeSort.eraseDups
  let start : PunycodeState := ⟨0, 72, basic.length, basic ++ if basic = [] then [] else ['-']⟩
  let (_, s) := others.foldl
    (fun (next, s) n =>
      let s := { s with delta := s.delta + (n - next) * (s.handled + 1) }
      let s := label.foldl (writePlaces basic.length n) s
      (n + 1, { s with delta := s.delta + 1 }))
    (128, start)
  ['x', 'n', '-', '-'] ++ s.written

def isDot (c : Char) : Bool :=
  c ∈ ['.', '\u3002', '\uff0e', '\uff61']

def nameChar (c : Char) : List Char :=
  let n := c.toNat
  if isDot c then ['.']
  else if n = 0xad ∨ n = 0x200b ∨ n = 0x2060 ∨ n = 0xfeff then []
  else if 0xff01 ≤ n ∧ n ≤ 0xff5e then Text.lowercaseChar (Char.ofNat (n - 0xfee0))
  else if c = 'ß' ∨ c = 'ς' then [c]
  else Text.lowercaseChar c

def label (cs : List Char) : List Char :=
  if cs.all (·.toNat < 128) then cs else punycode cs

def dropDots (cs : List Char) : List (List Char) :=
  Text.splitChars '.' cs

def domain (octets : List UInt8) : Except Flaw (List Char) := do
  match Text.Utf8.decode octets with
  | none => throw .domain
  | some s =>
    let cs := s.toList.flatMap nameChar
    if cs = [] ∨ cs.any isForbidden ∨ cs.any (fun c => 128 ≤ c.toNat ∧ Text.isEscaped c) then
      throw .domain
    return ['.'].intercalate ((dropDots cs).map label)

def digitsIn (base : Nat) (cs : List Char) : Option Nat :=
  cs.foldlM
    (fun n c => do
      let d ← Text.Hex.digitValue? c
      guard (d < base)
      return base * n + d) 0

def ipv4Part (cs : List Char) : Option Nat :=
  match cs with
  | [] => none
  | '0' :: 'x' :: rest | '0' :: 'X' :: rest => digitsIn 16 rest
  | '0' :: d :: rest => digitsIn 8 (d :: rest)
  | cs => digitsIn 10 cs

def partsWithoutEnd (parts : List (List Char)) : List (List Char) :=
  if 1 < parts.length ∧ parts.getLast? = some [] then parts.dropLast else parts

def endsInNumber (name : List Char) : Bool :=
  match (partsWithoutEnd (dropDots name)).getLast? with
  | none | some [] => false
  | some part => part.all Char.isDigit || (ipv4Part part).isSome && part.take 1 = ['0']

def ipv4Text (n : Nat) : List Char :=
  let octets := [3, 2, 1, 0].map fun i => toString (n / Nat.pow 256 i % 256)
  (".".intercalate octets).toList

def ipv4 (name : List Char) : Except Flaw (List Char) :=
  let parts := partsWithoutEnd (dropDots name)
  match parts.mapM ipv4Part with
  | none => .error .ipv4
  | some numbers =>
    let last := numbers.getLastD 0
    let front := numbers.dropLast
    if 4 < numbers.length ∨ front.any (255 < ·) ∨ Nat.pow 256 (4 - front.length) ≤ last then .error .ipv4
    else
      let high := front.foldl (fun n x => 256 * n + x) 0
      .ok (ipv4Text (high * Nat.pow 256 (4 - front.length) + last))

def ipv6Groups (parts : List (List Char)) : Option (List Nat) :=
  match parts with
  | [] => some []
  | [part] =>
    if '.' ∈ part then do
      let numbers ← (dropDots part).mapM fun p =>
        if p ≠ [] ∧ p.all Char.isDigit ∧ (p.length = 1 ∨ p.head? ≠ some '0') then digitsIn 10 p else none
      match numbers with
      | [a, b, c, d] => if numbers.all (· < 256) then some [a * 256 + b, c * 256 + d] else none
      | _ => none
    else if 1 ≤ part.length ∧ part.length ≤ 4 then (digitsIn 16 part).map ([·]) else none
  | part :: parts => do
    guard (1 ≤ part.length ∧ part.length ≤ 4)
    return (← digitsIn 16 part) :: (← ipv6Groups parts)

def ipv6 (cs : List Char) : Option (List Nat) := do
  let rec halves (before : List Char) : List Char → Option (List Char × List Char)
    | ':' :: ':' :: rest => some (before.reverse, rest)
    | c :: rest => halves (c :: before) rest
    | [] => none
  let groups (cs : List Char) : Option (List Nat) :=
    if cs = [] then some [] else ipv6Groups (Text.splitChars ':' cs)
  match halves [] cs with
  | none =>
    let all ← groups cs
    guard (all.length = 8)
    return all
  | some (front, back) =>
    let front ← groups front
    let back ← groups back
    guard (front.length + back.length < 8)
    return front ++ List.replicate (8 - front.length - back.length) 0 ++ back

def longestZeros (groups : List Nat) : Nat × Nat :=
  let runs := (List.range groups.length).map fun i => (i, ((groups.drop i).takeWhile (· == 0)).length)
  runs.foldl (fun best run => if best.2 < run.2 ∧ 2 ≤ run.2 then run else best) (0, 0)

def ipv6Text (groups : List Nat) : List Char :=
  let texts (gs : List Nat) : List Char := [':'].intercalate (gs.map (Nat.toDigits 16))
  let (start, length) := longestZeros groups
  if length = 0 then texts groups
  else texts (groups.take start) ++ [':', ':'] ++ texts (groups.drop (start + length))

def specialHost (cs : List Char) : Except Flaw (List Char) :=
  match cs with
  | [] => .error .emptyHost
  | '[' :: rest =>
    if rest.getLast? ≠ some ']' then .error .ipv6
    else match ipv6 rest.dropLast with
      | some groups => .ok ('[' :: ipv6Text groups ++ [']'])
      | none => .error .ipv6
  | cs => do
    let name ← domain (percentDecode (Text.Utf8.encode (String.ofList cs)))
    if endsInNumber name then ipv4 name else return name

def opaqueHost (cs : List Char) : Except Flaw (List Char) :=
  match cs with
  | '[' :: _ => specialHost cs
  | cs =>
    if cs.any fun c => isForbidden c ∧ c ≠ '%' then .error .domainCharacter
    else .ok cs

end CertEnroll.Url
