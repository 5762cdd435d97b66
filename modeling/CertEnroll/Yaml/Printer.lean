import CertEnroll.Yaml.Scalar

/-!
YAML text of a value. Mappings and sequences go over as many lines as they have items, each level two
columns further in; a sequence in a mapping stays at the mapping's column.
-/

namespace CertEnroll.Yaml

/-- A text being written, the last character first. `gap` says that a blank or line start precedes,
`fresh` that the line holds nothing but indentation and marks so far. -/
structure Pen where
  written : List Char := []
  column : Nat := 0
  gap : Bool := true
  fresh : Bool := true

namespace Pen

def put (c : Char) (p : Pen) : Pen :=
  { p with written := c :: p.written, column := p.column + 1 }

def puts (cs : List Char) (p : Pen) : Pen :=
  cs.foldl (fun p c => p.put c) p

def breakLine (c : Char) (p : Pen) : Pen :=
  { p with written := c :: p.written, column := 0 }

def indent (column : Nat) (p : Pen) : Pen :=
  let p :=
    if !p.fresh || column < p.column || (p.column == column && !p.gap) then p.breakLine '\n' else p
  { p.puts (List.replicate (column - p.column) ' ') with gap := true, fresh := true }

def mark (cs : List Char) (spaced keepsFresh : Bool) (p : Pen) : Pen :=
  let p := if spaced && !p.gap then p.put ' ' else p
  { p.puts cs with gap := false, fresh := p.fresh && keepsFresh }

def finish (p : Pen) : Pen :=
  { p with gap := false, fresh := false }

def singleQuoted (column : Nat) (cs : List Char) (p : Pen) : Pen :=
  let step (state : Pen × Bool) (c : Char) : Pen × Bool :=
    let (p, afterBreak) := state
    if isBreak c then ({ p.breakLine c with fresh := true }, true)
    else
      let p := if afterBreak && c ≠ ' ' then p.indent column else p
      let p := (if c = '\'' then p.put '\'' else p).put c
      ({ p with fresh := if c = ' ' then p.fresh else false }, afterBreak && c == ' ')
  let (p, afterBreak) := cs.foldl step (p.mark ['\''] true false, false)
  ((if afterBreak then p.indent column else p).mark ['\''] false false).finish

def blockHints (cs : List Char) : List Char :=
  let edge := cs.head?.any fun c => isSpace c || isBreak c
  let last := match cs.reverse with
    | [] => ['-']
    | c :: rest =>
      if !isBreak c then ['-']
      else match rest with
        | [] => ['+']
        | d :: _ => if isBreak d then ['+'] else []
  (if edge then ['2'] else []) ++ last

def literal (column : Nat) (cs : List Char) (p : Pen) : Pen :=
  let p := (p.mark ['|'] true false).puts (blockHints cs) |>.breakLine '\n'
  let step (state : Pen × Bool) (c : Char) : Pen × Bool :=
    let (p, afterBreak) := state
    if isBreak c then ({ p.breakLine c with fresh := true }, true)
    else
      let p := if afterBreak then p.indent column else p
      ({ p.put c with fresh := false }, false)
  (cs.foldl step ({ p with fresh := true, gap := true }, true)).1

def scalar (style : Style) (column : Nat) (cs : List Char) (p : Pen) : Pen :=
  match style with
  | .plain => ((if p.gap || cs.isEmpty then p else p.put ' ').puts cs).finish
  | .singleQuoted => p.singleQuoted column cs
  | .doubleQuoted => (p.mark (doubleQuoted cs) true false).finish
  | .literal => p.literal column cs

end Pen

def inner : Option Nat → Nat
  | none => 0
  | some column => column + 2

def scalarColumn : Option Nat → Nat
  | none => 2
  | some column => column + 2

def writeText (column : Option Nat) (asKey : Bool) (s : String) (p : Pen) : Pen :=
  p.scalar (style (wantedStyle s) asKey s.toList) (scalarColumn column) s.toList

def atom : Json → String
  | .null => "null"
  | .bool b => if b then "true" else "false"
  | .integer n => toString n
  | .float x => float x
  | _ => ""

def isSimpleKey (name : String) : Bool :=
  !name.toList.any isBreak && Text.Utf8.size name ≤ 128

mutual

/-- The `column` is that of the enclosing collection; `inMapping` says that it is a mapping. -/
def write (column : Option Nat) (inMapping : Bool) : Json → Pen → Pen
  | .string s, p => writeText column false s p
  | .array [], p => p.mark ['[', ']'] true false
  | .array (item :: items), p =>
    writeItems (if inMapping && !p.fresh then column.getD 0 else inner column) (item :: items) p
  | .object [], p => p.mark ['\x7b', '\x7d'] true false
  | .object (member :: members), p => writeMembers (inner column) (member :: members) p
  | value, p => p.scalar .plain (scalarColumn column) (atom value).toList

def writeItems (column : Nat) : List Json → Pen → Pen
  | [], p => p
  | item :: items, p =>
    writeItems column items (write (some column) false item ((p.indent column).mark ['-'] true true))

def writeMembers (column : Nat) : List (String × Json) → Pen → Pen
  | [], p => p
  | (name, value) :: members, p =>
    let p := p.indent column
    let p :=
      if isSimpleKey name then (writeText (some column) true name p).mark [':'] false false
      else
        (writeText (some column) false name (p.mark ['?'] true true)).indent column
          |>.mark [':'] true true
    writeMembers column members (write (some column) true value p)

end

def print (value : Json) : String :=
  String.ofList ((write none false value {}).indent 0).written.reverse

end CertEnroll.Yaml
