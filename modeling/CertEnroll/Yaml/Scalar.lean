import CertEnroll.Decimal.Shortest
import CertEnroll.Json.Basic
import CertEnroll.Text.Hex
import CertEnroll.Text.Utf8

/-!
How a text is written in YAML so that it reads back as that text: plain where it can be taken for nothing
else, quoted otherwise, and as a block of lines if it has line breaks.
-/

namespace CertEnroll.Yaml

open Decimal (Binary64 Layout)

inductive Style
  | plain
  | singleQuoted
  | doubleQuoted
  | literal
deriving DecidableEq, Repr

def isNull (s : String) : Bool :=
  s ∈ ["", "~", "null", "Null", "NULL"]

def isBool (s : String) : Bool :=
  s ∈ ["true", "True", "TRUE", "false", "False", "FALSE"]

def isSign (c : Char) : Bool :=
  c == '+' || c == '-'

def dropSign : List Char → List Char
  | c :: cs => if isSign c then cs else c :: cs
  | [] => []

def isPaddedDigits (cs : List Char) : Bool :=
  match dropSign cs with
  | '0' :: d :: ds => (d :: ds).all Char.isDigit
  | _ => false

def digitsBelow (base bound : Nat) (cs : List Char) : Bool :=
  let value := cs.foldlM
    (fun n c => do
      let d ← Text.Hex.digitValue? c
      guard (d < base)
      return base * n + d) 0
  cs ≠ [] && value.any (· < bound)

def dropPlus : List Char → List Char
  | '+' :: cs => cs
  | cs => cs

def isUnsigned (cs : List Char) : Bool :=
  let bound := Nat.pow 2 128
  match dropPlus cs with
  | '0' :: 'x' :: ds => digitsBelow 16 bound ds
  | '0' :: 'o' :: ds => digitsBelow 8 bound ds
  | '0' :: 'b' :: ds => digitsBelow 2 bound ds
  | ds => !isPaddedDigits cs && digitsBelow 10 bound ds

def isNegative (cs : List Char) : Bool :=
  let bound := Nat.pow 2 127 + 1
  match cs with
  | '-' :: '0' :: 'x' :: ds => digitsBelow 16 bound ds
  | '-' :: '0' :: 'o' :: ds => digitsBelow 8 bound ds
  | '-' :: '0' :: 'b' :: ds => digitsBelow 2 bound ds
  | '-' :: ds => !isPaddedDigits cs && digitsBelow 10 bound ds
  | _ => false

def exponentBound : Nat := 100000

def decimalValue? (cs : List Char) : Option Binary64 := do
  let whole := cs.takeWhile Char.isDigit
  let rest := cs.dropWhile Char.isDigit
  let (places, rest) := match rest with
    | '.' :: more => (more.takeWhile Char.isDigit, more.dropWhile Char.isDigit)
    | rest => ([], rest)
  guard (whole ≠ [] ∨ places ≠ [])
  let valueOf (ds : List Char) : Nat := ds.foldl (fun n c => 10 * n + (c.toNat - 48)) 0
  let exponent : Int ← match rest with
    | [] => some 0
    | e :: more =>
      let down := more.head? == some '-'
      let ds := dropSign more
      if (e = 'e' ∨ e = 'E') ∧ ds ≠ [] ∧ ds.all Char.isDigit then
        let n := min (valueOf ds) exponentBound
        some (if down then -n else n)
      else none
  let n := valueOf (whole ++ places)
  let e := exponent - places.length
  return if 0 ≤ e then .ofRatio false (n * Nat.pow 10 e.toNat) 1 else .ofRatio false n (Nat.pow 10 (-e).toNat)

def isFloat (cs : List Char) : Bool :=
  let unsigned := dropPlus cs
  String.ofList unsigned ∈ [".inf", ".Inf", ".INF"] ||
    String.ofList cs ∈ ["-.inf", "-.Inf", "-.INF", ".nan", ".NaN", ".NAN"] ||
    (!(cs.head? == some '+' && unsigned.head?.any isSign) &&
      match decimalValue? (dropSign unsigned) with
      | some (.finite ..) => true
      | _ => false)

def readsAsOther (s : String) : Bool :=
  let cs := s.toList
  isNull s || isBool s || isUnsigned cs || isNegative cs || isPaddedDigits cs || isFloat cs

def isBreak (c : Char) : Bool :=
  c ∈ ['\n', '\r', '\u0085', '\u2028', '\u2029']

def isPrintable (c : Char) : Bool :=
  let n := c.toNat
  n == 10 || (0x20 ≤ n && n ≤ 0x7e) || (0xa0 ≤ n && n ≤ 0xfffd && n ≠ 0xfeff) || 0x10000 ≤ n

def isGap : Option Char → Bool
  | none => true
  | some c => c == ' ' || c == '\t' || c == '\x00' || isBreak c

def startsSpecially : List Char → Bool
  | '-' :: '-' :: '-' :: _ | '.' :: '.' :: '.' :: _ => true
  | c :: cs =>
    c ∈ ['#', ',', '[', ']', '\x7b', '\x7d', '&', '*', '!', '|', '>', '\'', '"', '%', '@', '\x60'] ||
      (c ∈ ['?', ':', '-'] && isGap cs.head?)
  | [] => false

def hasMarkInside : List Char → Bool
  | a :: b :: cs =>
    (b == ':' && isGap cs.head?) || (b == '#' && isGap (some a)) || hasMarkInside (b :: cs)
  | _ => false

def hasPair (p q : Char → Bool) : List Char → Bool
  | a :: b :: cs => (p a && q b) || hasPair p q (b :: cs)
  | _ => false

def isSpace (c : Char) : Bool :=
  c == ' '

structure Traits where
  multiline : Bool
  plain : Bool
  single : Bool
  block : Bool

def traits (cs : List Char) : Traits :=
  let lineBreaks := cs.any isBreak
  let special := cs.any (!isPrintable ·)
  let edge (c : Option Char) : Bool := c.any fun c => isSpace c || isBreak c
  let breakSpace := hasPair isBreak isSpace cs
  let spaceBreak := hasPair isSpace isBreak cs
  { multiline := lineBreaks
    plain := !(edge cs.head? || edge cs.getLast? || spaceBreak || special || lineBreaks ||
      startsSpecially cs || hasMarkInside cs)
    single := !(breakSpace || spaceBreak || special)
    block := cs ≠ [] && !(cs.getLast?.any isSpace || spaceBreak || special) }

def wantedStyle (s : String) : Style :=
  if s.toList.any (· == '\n') then .literal
  else if readsAsOther s then .singleQuoted
  else .plain

def style (wanted : Style) (asKey : Bool) (cs : List Char) : Style :=
  let t := traits cs
  let wanted := if asKey && t.multiline then .doubleQuoted else wanted
  let wanted := if wanted = .plain ∧ (!t.plain ∨ (cs = [] ∧ asKey)) then .singleQuoted else wanted
  let wanted := if wanted = .singleQuoted ∧ !t.single then .doubleQuoted else wanted
  if wanted = .literal ∧ (!t.block ∨ asKey) then .doubleQuoted else wanted

def hexDigits (width n : Nat) : List Char :=
  (List.range width).reverse.map fun i => Text.Hex.upperDigit (n / Nat.pow 16 i % 16)

def escape (c : Char) : List Char :=
  match c with
  | '\x00' => ['0']
  | '\x07' => ['a']
  | '\x08' => ['b']
  | '\t' => ['t']
  | '\n' => ['n']
  | '\x0b' => ['v']
  | '\x0c' => ['f']
  | '\r' => ['r']
  | '\x1b' => ['e']
  | '"' => ['"']
  | '\\' => ['\\']
  | '\u0085' => ['N']
  | '\u2028' => ['L']
  | '\u2029' => ['P']
  | c =>
    let n := c.toNat
    if n ≤ 0xff then 'x' :: hexDigits 2 n
    else if n ≤ 0xffff then 'u' :: hexDigits 4 n
    else 'U' :: hexDigits 8 n

def doubleQuoted (cs : List Char) : List Char :=
  '"' :: cs.flatMap (fun c =>
    if !isPrintable c || isBreak c || c == '"' || c == '\\' then '\\' :: escape c else [c]) ++ ['"']

def floatLayout : Layout := ⟨-5, 15, false, 1⟩

def float : Binary64 → String
  | .infinite negative => if negative then "-.inf" else ".inf"
  | .nan => ".nan"
  | x => floatLayout.format x

end CertEnroll.Yaml
