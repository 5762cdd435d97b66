import CertEnroll.Toml.Scalar

/-!
Tables as they grow while a document is read. A table comes into being by its header, by a header or key
that leads through it, or between braces, and may be defined only once. Entries keep the order in which
they were put.
-/

namespace CertEnroll.Toml

open Document (Node)

/-- Tables that are `implicit` are only led through so far, `dotted` ones are made by a key rather than a header. -/
inductive Item
  | scalar (node : Node)
  | array (items : List Item)
  | inline (implicit dotted : Bool) (entries : List (String × Item))
  | table (implicit dotted : Bool) (entries : List (String × Item))
  | tables (elements : List (List (String × Item)))
deriving Inhabited

abbrev Entries := List (String × Item)

def replace (key : String) (item : Item) : Entries → Entries
  | [] => []
  | (k, held) :: rest => if k = key then (k, item) :: rest else (k, held) :: replace key item rest

def remove (key : String) (entries : Entries) : Entries :=
  entries.filter fun entry => entry.1 ≠ key

/-- Changes the table at the end of a path, which is led through tables and the last element of arrays of
tables. `change` is told whether the table is dotted. -/
def descend {α : Type} (byKey : Bool) (change : Bool → Entries → Option (Entries × α)) :
    List String → Bool → Entries → Option (Entries × α)
  | [], dotted, entries => change dotted entries
  | key :: path, _, entries =>
    match entries.lookup key with
    | none => do
      let (inner, a) ← descend byKey change path byKey []
      return (entries ++ [(key, .table true byKey inner)], a)
    | some (.table implicit dotted inner) =>
      if byKey && !implicit then none
      else do
        let (inner, a) ← descend byKey change path dotted inner
        return (replace key (.table implicit dotted inner) entries, a)
    | some (.tables elements) =>
      match elements.reverse with
      | [] => none
      | last :: before => do
        let (last, a) ← descend byKey change path false last
        return (replace key (.tables (before.reverse ++ [last])) entries, a)
    | some _ => none

def descendInline (change : Bool → Entries → Option Entries) :
    List String → Bool → Entries → Option Entries
  | [], dotted, entries => change dotted entries
  | key :: path, _, entries =>
    match entries.lookup key with
    | none => do
      let inner ← descendInline change path true []
      return entries ++ [(key, .inline true true inner)]
    | some (.inline implicit dotted inner) =>
      if !implicit then none
      else do
        let inner ← descendInline change path dotted inner
        return replace key (.inline implicit dotted inner) entries
    | some _ => none

def putEntry (byKey : Bool) (key : String) (item : Item) (dotted : Bool) (entries : Entries) :
    Option Entries :=
  if dotted ≠ byKey ∨ (entries.lookup key).isSome then none else some (entries ++ [(key, item)])

def splitPath (path : List String) : Option (List String × String) :=
  path.getLast?.map fun key => (path.dropLast, key)

def putInline (path : List String) (item : Item) (entries : Entries) : Option Entries := do
  let (parents, key) ← splitPath path
  descendInline (putEntry (!parents.isEmpty) key item) parents false entries

/-- What has been read so far: everything but the current table, the header of the current table, and its
entries. -/
structure Growing where
  root : Entries := []
  path : List String := []
  element : Bool := false
  current : Entries := []

namespace Growing

def put (path : List String) (item : Item) (g : Growing) : Option Growing := do
  let (parents, key) ← splitPath path
  let change (dotted : Bool) (entries : Entries) : Option (Entries × Unit) :=
    (putEntry (!parents.isEmpty) key item dotted entries).map (·, ())
  let (current, _) ← descend true change parents false g.current
  return { g with current }

def close (g : Growing) : Option Entries :=
  match splitPath g.path with
  | none => some g.current
  | some (parents, key) =>
    let change (_ : Bool) (entries : Entries) : Option (Entries × Unit) :=
      match g.element, entries.lookup key with
      | true, some (.tables elements) => some (replace key (.tables (elements ++ [g.current])) entries, ())
      | false, none => some (entries ++ [(key, .table false false g.current)], ())
      | _, _ => none
    (descend false change parents false g.root).map (·.1)

def openTable (path : List String) (g : Growing) : Option Growing := do
  let root ← g.close
  let (parents, key) ← splitPath path
  let change (_ : Bool) (entries : Entries) : Option (Entries × Entries) :=
    match entries.lookup key with
    | none => some (entries, [])
    | some (.table true false inner) => some (remove key entries, inner)
    | some _ => none
  let (root, current) ← descend false change parents false root
  return { root, path, element := false, current }

def openElement (path : List String) (g : Growing) : Option Growing := do
  let root ← g.close
  let (parents, key) ← splitPath path
  let change (_ : Bool) (entries : Entries) : Option (Entries × Unit) :=
    match entries.lookup key with
    | none => some (entries ++ [(key, .tables [])], ())
    | some (.tables _) => some (entries, ())
    | some _ => none
  let (root, _) ← descend false change parents false root
  return { root, path, element := true, current := [] }

end Growing

mutual

def Item.node : Item → Node
  | .scalar node => node
  | .array items => .sequence (itemNodes items) none
  | .inline _ _ entries | .table _ _ entries => .mapping (entryNodes entries) none
  | .tables elements => .sequence (elementNodes elements) none

def itemNodes : List Item → List Node
  | [] => []
  | item :: items => item.node :: itemNodes items

def entryNodes : List (String × Item) → List (Option String × Node)
  | [] => []
  | (key, item) :: entries => (some key, item.node) :: entryNodes entries

def elementNodes : List (List (String × Item)) → List Node
  | [] => []
  | entries :: elements => .mapping (entryNodes entries) none :: elementNodes elements

end

end CertEnroll.Toml
