import CertEnroll.Toml.Table

namespace CertEnroll.Toml

open Document (Node)

def skipComment : List Char → Option (List Char)
  | '#' :: cs => some (cs.dropWhile isCommentChar)
  | cs => some cs

def skipLines : Nat → List Char → Option (List Char)
  | 0, cs => some cs
  | fuel + 1, cs =>
    match skipSpace cs with
    | '#' :: rest => do
      let rest ← readNewline (rest.dropWhile isCommentChar)
      skipLines fuel rest
    | cs =>
      match readNewline cs with
      | some rest => skipLines fuel rest
      | none => some cs

def skipAllLines (cs : List Char) : Option (List Char) :=
  skipLines (cs.length + 1) cs

mutual

def readItem : Nat → Nat → List Char → Option (Item × List Char)
  | 0, _, _ | _, _, [] => none
  | fuel + 1, depth, c :: cs =>
    if c = '"' ∨ c = '\'' then (readString (c :: cs)).map fun (s, rest) => (.scalar (.text s), rest)
    else if c = '[' then
      if depth = 0 then none
      else do
        let (items, rest) ← readArray fuel (depth - 1) cs
        return (.array items, rest)
    else if c = '\x7b' then
      if depth = 0 then none
      else do
        let (entries, rest) ←
          match skipSpace cs with
          | '\x7d' :: rest => some ([], rest)
          | cs => readInline fuel (depth - 1) [] cs
        return (.inline false false entries, rest)
    else do
      let (node, rest) ←
        if c = 't' then readWord "true" (.bool true) (c :: cs)
        else if c = 'f' then readWord "false" (.bool false) (c :: cs)
        else if c = 'i' then readWord "inf" (.float (.infinite false)) (c :: cs)
        else if c = 'n' then readWord "nan" (.float .nan) (c :: cs)
        else readNumber (c :: cs)
      return (.scalar node, rest)

def readArray : Nat → Nat → List Char → Option (List Item × List Char)
  | 0, _, _ => none
  | fuel + 1, depth, cs => do
    match ← skipAllLines cs with
    | ']' :: rest => return ([], rest)
    | cs =>
      let (item, cs) ← readItem fuel depth cs
      match ← skipAllLines cs with
      | ',' :: cs =>
        let (items, rest) ← readArray fuel depth cs
        return (item :: items, rest)
      | ']' :: rest => return ([item], rest)
      | _ => none

def readInline : Nat → Nat → Entries → List Char → Option (Entries × List Char)
  | 0, _, _, _ => none
  | fuel + 1, depth, entries, cs => do
    let (path, cs) ← readPath cs
    match cs with
    | '=' :: cs =>
      let (item, cs) ← readItem fuel depth (skipSpace cs)
      let entries ← putInline path item entries
      match skipSpace cs with
      | ',' :: cs => readInline fuel depth entries cs
      | '\x7d' :: rest => return (entries, rest)
      | _ => none
    | _ => none

end

def readLineEnd (cs : List Char) : Option (List Char) := do
  match ← skipComment (skipSpace cs) with
  | [] => return []
  | cs => readNewline cs

def readHeader (g : Growing) (cs : List Char) : Option (Growing × List Char) :=
  match cs with
  | '[' :: cs => do
    let (path, cs) ← readPath cs
    match cs with
    | ']' :: ']' :: rest => return (← g.openElement path, rest)
    | _ => none
  | cs => do
    let (path, cs) ← readPath cs
    match cs with
    | ']' :: rest => return (← g.openTable path, rest)
    | _ => none

def readLines : Nat → Growing → List Char → Option Growing
  | 0, _, _ => none
  | fuel + 1, g, cs =>
    match skipSpace cs with
    | [] => some g
    | '[' :: cs => do
      let (g, cs) ← readHeader g cs
      readLines fuel g (← readLineEnd cs)
    | c :: cs =>
      if c = '#' ∨ c = '\n' ∨ c = '\r' then do readLines fuel g (← readLineEnd (c :: cs))
      else do
        let (path, cs) ← readPath (c :: cs)
        match cs with
        | '=' :: cs =>
          let (item, cs) ← readItem (2 * cs.length + 2) (nestingLimit - 1) (skipSpace cs)
          readLines fuel (← g.put path item) (← readLineEnd cs)
        | _ => none

def read (text : String) : Option Node := do
  let cs :=
    match text.toList with
    | '\ufeff' :: cs => cs
    | cs => cs
  let g ← readLines (cs.length + 1) {} cs
  return .mapping (entryNodes (← g.close)) none

end CertEnroll.Toml
