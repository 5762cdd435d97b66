import CertEnroll.Text.Blank

/-!
Filters for log messages: directives with commas between them, each a level or a place with a level, as in
`info`, `store=debug` or `[enrollment]=trace`. A place may name a span of time in brackets and the span's
fields in braces.
-/

namespace CertEnroll.LogFilter

inductive Flaw
  | directive
  | level
deriving DecidableEq, Repr

def Flaw.message : Flaw → String
  | .directive => "invalid filter directive"
  | .level =>
    "error parsing level filter: expected one of \"off\", \"error\", \"warn\", \"info\", \"debug\", \"trace\", or a number 0-5"

def levelNames : List String :=
  ["off", "error", "warn", "info", "debug", "trace"]

def isLevel (cs : List Char) : Bool :=
  let digits := if cs.head? = some '+' then cs.tail else cs
  if !digits.isEmpty && digits.all Char.isDigit then
    Nat.ofDigitChars 10 digits 0 < levelNames.length
  else String.ofList (cs.map Char.toLower) ∈ levelNames

def afterSpan : List Char → Except Flaw (Option (List Char))
  | [] => .ok none
  | '=' :: level => .ok (some level)
  | _ => .error .directive

def afterFields : List Char → Except Flaw (Option (List Char))
  | ']' :: rest => afterSpan rest
  | _ => .error .directive

def inFields (cs : List Char) : Except Flaw (Option (List Char)) :=
  match cs.span (· ≠ '\x7d') with
  | (_ :: _, '\x7d' :: rest) => afterFields rest
  | _ => .error .directive

def inSpan (cs : List Char) : Except Flaw (Option (List Char)) :=
  match cs.dropWhile fun c => c ≠ ']' && c ≠ '\x7b' with
  | ']' :: rest => afterSpan rest
  | '\x7b' :: rest => inFields rest
  | _ => .error .directive

def inPlace (cs : List Char) : Except Flaw (Option (List Char)) :=
  match cs.dropWhile fun c => c ≠ '=' && c ≠ '[' with
  | '=' :: level => .ok (some level)
  | '[' :: rest => inSpan rest
  | _ => .ok none

def startsPlace (c : Char) : Bool :=
  c.isAlphanum || c ∈ ['-', ':', '_'] || 128 ≤ c.toNat

def levelPart : List Char → Except Flaw (Option (List Char))
  | '[' :: rest => inSpan rest
  | c :: cs => if startsPlace c then inPlace (c :: cs) else .error .directive
  | [] => .error .directive

/-- Blanks around a directive do not count, but its level is cut from the whole text, at the same distance
from the start. -/
def checkDirective (cs : List Char) : Except Flaw Unit := do
  let trimmed := Text.trimChars cs
  match ← levelPart trimmed with
  | none => return
  | some level =>
    let level := cs.drop (trimmed.length - level.length)
    if level.isEmpty || isLevel level then return else throw .level

def check (filter : String) : Except Flaw Unit :=
  ((Text.splitChars ',' filter.toList).filter (!·.isEmpty)).forM checkDirective

end CertEnroll.LogFilter
