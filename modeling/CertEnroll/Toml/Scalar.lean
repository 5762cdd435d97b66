import CertEnroll.Calendar
import CertEnroll.Document.Node
import CertEnroll.Text.Blank

namespace CertEnroll.Toml

open Decimal (Binary64)
open Document (Node)

abbrev Reader (α : Type) := List Char → Option (α × List Char)

def isSpace (c : Char) : Bool :=
  c == ' ' || c == '\t'

def skipSpace (cs : List Char) : List Char :=
  cs.dropWhile isSpace

def readNewline : List Char → Option (List Char)
  | '\n' :: cs | '\r' :: '\n' :: cs => some cs
  | _ => none

def isCommentChar (c : Char) : Bool :=
  c == '\t' || (0x20 ≤ c.toNat && c.toNat ≠ 0x7f)

def isLiteralChar (c : Char) : Bool :=
  isCommentChar c && c ≠ '\''

def isBasicChar (c : Char) : Bool :=
  isCommentChar c && c ≠ '"' && c ≠ '\\'

def charOf? (n : Nat) : Option Char :=
  if h : n.isValidChar then some (Char.ofNatAux n h) else none

def hexValue (ds : List Char) : Option Nat :=
  ds.foldlM (fun n c => (Text.Hex.digitValue? c).map (16 * n + ·)) 0

def simpleEscape? : Char → Option Char
  | 'b' => some '\x08'
  | 't' => some '\t'
  | 'n' => some '\n'
  | 'f' => some '\x0c'
  | 'r' => some '\r'
  | '"' => some '"'
  | '\\' => some '\\'
  | _ => none

def readEscape : Reader Char
  | 'u' :: cs => do
    guard (4 ≤ cs.length)
    return (← (hexValue (cs.take 4)).bind charOf?, cs.drop 4)
  | 'U' :: cs => do
    guard (8 ≤ cs.length)
    return (← (hexValue (cs.take 8)).bind charOf?, cs.drop 8)
  | c :: cs => (simpleEscape? c).map (·, cs)
  | [] => none

def readBasic : Nat → List Char → Reader (List Char)
  | 0, _, _ | _, _, [] => none
  | fuel + 1, done, c :: cs =>
    if c = '"' then some (done.reverse, cs)
    else if c = '\\' then do
      let (e, cs) ← readEscape cs
      readBasic fuel (e :: done) cs
    else if isBasicChar c then readBasic fuel (c :: done) cs
    else none

def readLiteral : Reader (List Char) := fun cs =>
  match cs.dropWhile isLiteralChar with
  | '\'' :: rest => some (cs.takeWhile isLiteralChar, rest)
  | _ => none

def closingQuotes (quote : Char) (cs : List Char) : Option (List Char × List Char) :=
  let n := (cs.takeWhile (· == quote)).length
  if 3 ≤ n ∧ n ≤ 5 then some (List.replicate (n - 3) quote, cs.drop n) else none

def skipLineEnd (cs : List Char) : Option (List Char) := do
  let cs ← readNewline (skipSpace cs)
  return cs.dropWhile fun c => isSpace c || c == '\n' || c == '\r'

def readLinesBasic : Nat → List Char → Reader (List Char)
  | 0, _, _ | _, _, [] => none
  | fuel + 1, done, c :: cs =>
    if c = '"' then
      match closingQuotes '"' (c :: cs) with
      | some (quotes, rest) => some (done.reverse ++ quotes, rest)
      | none =>
        if (c :: cs).take 3 = ['"', '"', '"'] then none else readLinesBasic fuel (c :: done) cs
    else if c = '\\' then
      match skipLineEnd cs with
      | some rest => readLinesBasic fuel done rest
      | none => do
        let (e, cs) ← readEscape cs
        readLinesBasic fuel (e :: done) cs
    else
      match readNewline (c :: cs) with
      | some rest => readLinesBasic fuel ('\n' :: done) rest
      | none => if isBasicChar c then readLinesBasic fuel (c :: done) cs else none

def readLinesLiteral : Nat → List Char → Reader (List Char)
  | 0, _, _ | _, _, [] => none
  | fuel + 1, done, c :: cs =>
    if c = '\'' then
      match closingQuotes '\'' (c :: cs) with
      | some (quotes, rest) => some (done.reverse ++ quotes, rest)
      | none =>
        if (c :: cs).take 3 = ['\'', '\'', '\''] then none else readLinesLiteral fuel (c :: done) cs
    else
      match readNewline (c :: cs) with
      | some rest => readLinesLiteral fuel ('\n' :: done) rest
      | none => if isLiteralChar c then readLinesLiteral fuel (c :: done) cs else none

def dropFirstNewline (cs : List Char) : List Char :=
  (readNewline cs).getD cs

def readString : Reader String
  | '"' :: '"' :: '"' :: cs =>
    (readLinesBasic (cs.length + 1) [] (dropFirstNewline cs)).map fun (s, rest) => (String.ofList s, rest)
  | '"' :: cs => (readBasic (cs.length + 1) [] cs).map fun (s, rest) => (String.ofList s, rest)
  | '\'' :: '\'' :: '\'' :: cs =>
    (readLinesLiteral (cs.length + 1) [] (dropFirstNewline cs)).map fun (s, rest) =>
      (String.ofList s, rest)
  | '\'' :: cs => (readLiteral cs).map fun (s, rest) => (String.ofList s, rest)
  | _ => none

def isBareChar (c : Char) : Bool :=
  c.isAlphanum || c == '_' || c == '-'

def readKeyPart : Reader String := fun cs =>
  match cs with
  | '"' :: rest => (readBasic (rest.length + 1) [] rest).map fun (s, rest) => (String.ofList s, rest)
  | '\'' :: rest => (readLiteral rest).map fun (s, rest) => (String.ofList s, rest)
  | _ =>
    let part := cs.takeWhile isBareChar
    if part = [] then none else some (String.ofList part, cs.dropWhile isBareChar)

def nestingLimit : Nat := 80

def readKey : Nat → Reader (List String)
  | 0, _ => none
  | fuel + 1, cs => do
    let (part, cs) ← readKeyPart (skipSpace cs)
    match skipSpace cs with
    | '.' :: cs =>
      let (parts, cs) ← readKey fuel cs
      return (part :: parts, cs)
    | cs => return ([part], cs)

def readPath (cs : List Char) : Option (List String × List Char) :=
  readKey (nestingLimit - 1) cs

def readDigits (isDigit : Char → Bool) : List Char → List Char × List Char
  | c :: '_' :: d :: cs =>
    if isDigit c && isDigit d then
      let (ds, rest) := readDigits isDigit (d :: cs)
      (c :: ds, rest)
    else if isDigit c then ([c], '_' :: d :: cs)
    else ([], c :: '_' :: d :: cs)
  | c :: cs =>
    if isDigit c then
      let (ds, rest) := readDigits isDigit cs
      (c :: ds, rest)
    else ([], c :: cs)
  | [] => ([], [])

def readSign : List Char → Bool × List Char
  | '-' :: cs => (true, cs)
  | '+' :: cs => (false, cs)
  | cs => (false, cs)

def decimalValue (ds : List Char) : Nat :=
  ds.foldl (fun n c => 10 * n + (c.toNat - 48)) 0

def readDecimal (cs : List Char) : Option ((Bool × List Char) × List Char) :=
  let (negative, cs) := readSign cs
  match cs with
  | '0' :: rest => some ((negative, ['0']), rest)
  | cs =>
    match readDigits Char.isDigit cs with
    | ([], _) => none
    | (ds, rest) => some ((negative, ds), rest)

def readFractionDigits : List Char → Option (List Char × List Char)
  | '.' :: cs =>
    match readDigits Char.isDigit cs with
    | ([], _) => none
    | result => some result
  | _ => none

def readExponent : List Char → Option (Int × List Char)
  | e :: cs => do
    guard (e = 'e' ∨ e = 'E')
    let (down, cs) := readSign cs
    match readDigits Char.isDigit cs with
    | ([], _) => none
    | (ds, rest) => some (if down then -decimalValue ds else decimalValue ds, rest)
  | [] => none

def exponentBound : Int := 100000

def binaryOf (negative : Bool) (digits : Nat) (exponent : Int) : Binary64 :=
  if 0 ≤ exponent then .ofRatio negative (digits * Nat.pow 10 (min exponent exponentBound).toNat) 1
  else .ofRatio negative digits (Nat.pow 10 (min (-exponent) exponentBound).toNat)

def readSpecialFloat (cs : List Char) : Option (Binary64 × List Char) :=
  let (negative, cs) := readSign cs
  match cs with
  | 'i' :: 'n' :: 'f' :: rest => some (.infinite negative, rest)
  | 'n' :: 'a' :: 'n' :: rest => some (.nan, rest)
  | _ => none

def readFloat (cs : List Char) : Option (Binary64 × List Char) :=
  match readDecimal cs with
  | none => readSpecialFloat cs
  | some ((negative, whole), cs) => do
    let fraction := readFractionDigits cs
    let (places, cs) := fraction.getD ([], cs)
    let exponent := readExponent cs
    guard (fraction.isSome ∨ exponent.isSome)
    let (e, cs) := exponent.getD (0, cs)
    let x := binaryOf negative (decimalValue (whole ++ places)) (e - places.length)
    guard (x ≠ .infinite false)
    return (x, cs)

def readRadix (base : Nat) (isDigit : Char → Bool) (cs : List Char) : Option (Int × List Char) :=
  match readDigits isDigit cs with
  | ([], _) => none
  | (ds, rest) =>
    let n := ds.foldl (fun n c => base * n + (Text.Hex.digitValue? c).getD 0) 0
    if n < Nat.pow 2 63 then some (n, rest) else none

def isHexDigit (c : Char) : Bool :=
  (Text.Hex.digitValue? c).isSome

def readInteger : List Char → Option (Int × List Char)
  | '0' :: 'x' :: cs => readRadix 16 isHexDigit cs
  | '0' :: 'o' :: cs => readRadix 8 (fun c => '0' ≤ c && c ≤ '7') cs
  | '0' :: 'b' :: cs => readRadix 2 (fun c => c == '0' || c == '1') cs
  | cs => do
    let ((negative, ds), rest) ← readDecimal cs
    let n : Int := if negative then -decimalValue ds else decimalValue ds
    guard (-Nat.pow 2 63 ≤ n ∧ n < Nat.pow 2 63)
    return (n, rest)

def readTwo (least most : Nat) (cs : List Char) : Option (Nat × List Char) := do
  let (n, cs) ← Instant.readDigits 2 cs
  guard (least ≤ n ∧ n ≤ most)
  return (n, cs)

def fractionText (digits : List Char) : List Char :=
  match Text.dropEndWhile (· == '0') (digits.take 9) with
  | [] => []
  | shown => '.' :: shown

def readTime (cs : List Char) : Option (List Char × List Char) := do
  let (_, rest) ← readTwo 0 23 cs
  let rest ← Instant.readChar [':'] rest
  let (_, rest) ← readTwo 0 59 rest
  let rest ← Instant.readChar [':'] rest
  let (_, rest) ← readTwo 0 60 rest
  match rest with
  | '.' :: d :: more =>
    if d.isDigit then
      return (cs.take 8 ++ fractionText ((d :: more).takeWhile Char.isDigit), more.dropWhile Char.isDigit)
    else return (cs.take 8, rest)
  | _ => return (cs.take 8, rest)

def readDate (cs : List Char) : Option (List Char × List Char) := do
  let (y, rest) ← Instant.readDigits 4 cs
  let rest ← Instant.readChar ['-'] rest
  let (m, rest) ← readTwo 1 12 rest
  let rest ← Instant.readChar ['-'] rest
  let (d, rest) ← readTwo 1 31 rest
  guard (Calendar.isDate y m d)
  return (cs.take 10, rest)

def readOffset (cs : List Char) : Option (List Char × List Char) :=
  match cs with
  | 'Z' :: rest | 'z' :: rest => some (['Z'], rest)
  | sign :: digits => do
    guard (sign = '+' ∨ sign = '-')
    let (h, rest) ← readTwo 0 23 digits
    let rest ← Instant.readChar [':'] rest
    let (m, rest) ← readTwo 0 59 rest
    return ((if h = 0 ∧ m = 0 then '+' else sign) :: digits.take 5, rest)
  | [] => none

def readMoment (cs : List Char) : Option (List Char × List Char) :=
  match readDate cs with
  | none => readTime cs
  | some (date, rest) =>
    match (Instant.readChar ['T', 't', ' '] rest).bind readTime with
    | none => some (date, rest)
    | some (time, rest) =>
      let (offset, rest) := (readOffset rest).getD ([], rest)
      some (date ++ 'T' :: time ++ offset, rest)

def readNumber (cs : List Char) : Option (Node × List Char) :=
  match readMoment cs with
  | some (text, rest) => some (.moment (String.ofList text), rest)
  | none =>
    match readFloat cs with
    | some (x, rest) => some (.float x, rest)
    | none => (readInteger cs).map fun (n, rest) => (.integer n, rest)

def readWord (word : String) (node : Node) (cs : List Char) : Option (Node × List Char) :=
  if word.toList.isPrefixOf cs then some (node, cs.drop word.length) else none

end CertEnroll.Toml
