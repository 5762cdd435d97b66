import CertEnroll.Url.Host

namespace CertEnroll

structure Url where
  scheme : String
  user : String
  host : Option String
  port : Option Nat
  path : String
  query : Option String
  fragment : Option String
deriving DecidableEq, Repr

namespace Url

def defaultPort? : String → Option Nat
  | "http" | "ws" => some 80
  | "https" | "wss" => some 443
  | "ftp" => some 21
  | _ => none

def isSpecial (scheme : String) : Bool :=
  (defaultPort? scheme).isSome || scheme == "file"

def percentOctet (b : UInt8) : List Char :=
  ['%', Text.Hex.upperDigit (b.toNat / 16), Text.Hex.upperDigit (b.toNat % 16)]

def percentEncode (escape : Char → Bool) (cs : List Char) : List Char :=
  cs.flatMap fun c =>
    if c.toNat < 32 ∨ 126 < c.toNat ∨ escape c then
      (Text.Utf8.encode (String.singleton c)).flatMap percentOctet
    else [c]

def escapesInFragment (c : Char) : Bool :=
  c ∈ [' ', '"', '<', '>', '\x60']

def escapesInPath (c : Char) : Bool :=
  escapesInFragment c || c ∈ ['#', '?', '\x7b', '\x7d']

def escapesInUser (c : Char) : Bool :=
  escapesInPath c || c ∈ ['/', ':', ';', '=', '@', '[', '\\', ']', '^', '|']

def escapesInQuery (special : Bool) (c : Char) : Bool :=
  c ∈ [' ', '"', '#', '<', '>'] || (special && c == '\'')

def isSlash (special : Bool) (c : Char) : Bool :=
  c == '/' || (special && c == '\\')

def isSingleDot (segment : List Char) : Bool :=
  segment.map Char.toLower ∈ [['.'], ['%', '2', 'e']]

def isDoubleDot (segment : List Char) : Bool :=
  segment.map Char.toLower ∈
    [['.', '.'], ['.', '%', '2', 'e'], ['%', '2', 'e', '.'], ['%', '2', 'e', '%', '2', 'e']]

def splitPath (special : Bool) (cs : List Char) : List (List Char) :=
  Text.splitChars '/' (cs.map fun c => if isSlash special c then '/' else c)

def resolve : List (List Char) → List (List Char) → List (List Char)
  | done, [] => done
  | done, [segment] =>
    if isDoubleDot segment then [] :: done.drop 1
    else if isSingleDot segment then [] :: done
    else segment :: done
  | done, segment :: segments =>
    if isDoubleDot segment then resolve (done.drop 1) segments
    else if isSingleDot segment then resolve done segments
    else resolve (segment :: done) segments

def normalPath (special : Bool) (cs : List Char) : List Char :=
  let segments := match cs with
    | [] => [[]]
    | c :: rest => splitPath special (if isSlash special c then rest else c :: rest)
  (resolve [] segments).reverse.flatMap fun segment => '/' :: percentEncode escapesInPath segment

def cutBefore (p : Char → Bool) (cs : List Char) : List Char × List Char :=
  (cs.takeWhile (!p ·), cs.dropWhile (!p ·))

def splitTail (cs : List Char) : List Char × Option (List Char) × Option (List Char) :=
  let (cs, fragment) := cutBefore (· == '#') cs
  let (path, query) := cutBefore (· == '?') cs
  (path, query.tail?, fragment.tail?)

def splitPort : Bool → List Char → List Char × Option (List Char)
  | _, [] => ([], none)
  | inside, c :: cs =>
    if c = ':' ∧ !inside then ([], some cs)
    else
      let (host, port) := splitPort (if c = '[' then true else if c = ']' then false else inside) cs
      (c :: host, port)

def readPort (scheme : String) : Option (List Char) → Except Flaw (Option Nat)
  | none | some [] => .ok none
  | some ds =>
    if !ds.all Char.isDigit then .error .port
    else
      let n := ds.foldl (fun n c => 10 * n + (c.toNat - 48)) 0
      if 65535 < n then .error .port
      else .ok (if defaultPort? scheme = some n then none else some n)

def splitUser (authority : List Char) : List Char × List Char :=
  match Text.splitChars '@' authority with
  | [] => ([], authority)
  | pieces => (['@'].intercalate pieces.dropLast, pieces.getLastD [])

def userText (user : List Char) : String :=
  let (name, password) := cutBefore (· == ':') user
  let encode := percentEncode escapesInUser
  String.ofList (encode name ++ match password with
    | _ :: c :: cs => ':' :: encode (c :: cs)
    | _ => [])

def text? : Option (List Char) → Option String :=
  Option.map String.ofList

def readAuthority (scheme : String) (cs : List Char) : Except Flaw Url := do
  let special := isSpecial scheme
  let (authority, rest) := cutBefore (fun c => isSlash special c || c == '?' || c == '#') cs
  let (user, hostPort) := splitUser authority
  let (host, port) := splitPort false hostPort
  let host ←
    if special then specialHost host
    else if host = [] then
      if user = [] ∧ port = none then .ok [] else .error .emptyHost
    else opaqueHost host
  let port ← readPort scheme port
  let (path, query, fragment) := splitTail rest
  return {
    scheme
    user := userText user
    host := some (String.ofList host)
    port
    path := String.ofList (if path = [] ∧ !special then [] else normalPath special path)
    query := text? (query.map (percentEncode (escapesInQuery special)))
    fragment := text? (fragment.map (percentEncode escapesInFragment)) }

def readHostless (scheme : String) (cs : List Char) : Url :=
  let (path, query, fragment) := splitTail cs
  let path := match path with
    | '/' :: _ => normalPath false path
    | path => percentEncode (fun _ => false) path
  ⟨scheme, "", none, none, String.ofList path,
    text? (query.map (percentEncode (escapesInQuery false))),
    text? (fragment.map (percentEncode escapesInFragment))⟩

def readFileUrl (cs : List Char) : Except Flaw Url := do
  let cs := cs.map fun c => if c = '\\' then '/' else c
  match cs with
  | '/' :: '/' :: rest =>
    let (host, rest) := cutBefore (fun c => c == '/' || c == '?' || c == '#') rest
    let host ← if host = [] then .ok [] else specialHost host
    let (path, query, fragment) := splitTail rest
    return ⟨"file", "", some (String.ofList host), none, String.ofList (normalPath true path),
      text? (query.map (percentEncode (escapesInQuery true))),
      text? (fragment.map (percentEncode escapesInFragment))⟩
  | cs =>
    let (path, query, fragment) := splitTail cs
    return ⟨"file", "", some "", none, String.ofList (normalPath true path),
      text? (query.map (percentEncode (escapesInQuery true))),
      text? (fragment.map (percentEncode escapesInFragment))⟩

def isSchemeChar (c : Char) : Bool :=
  c.isAlphanum || c ∈ ['+', '-', '.']

def strip (cs : List Char) : List Char :=
  (Text.dropEndWhile (·.toNat ≤ 32) (cs.dropWhile (·.toNat ≤ 32))).filter fun c => c ∉ ['\t', '\n', '\r']

def parse (s : String) : Except Flaw Url :=
  let cs := strip s.toList
  let scheme := cs.takeWhile isSchemeChar
  match scheme, cs.drop scheme.length with
  | c :: _, ':' :: rest =>
    if !c.isAlpha then .error .noScheme
    else
      let scheme := String.ofList (scheme.map Char.toLower)
      if scheme = "file" then readFileUrl rest
      else if isSpecial scheme then readAuthority scheme (rest.dropWhile (isSlash true))
      else match rest with
        | '/' :: '/' :: rest => readAuthority scheme rest
        | rest => .ok (readHostless scheme rest)
  | _, _ => .error .noScheme

def text (u : Url) : String :=
  let host := match u.host with
    | none => ""
    | some host =>
      "//" ++ (if u.user = "" then "" else u.user ++ "@") ++ host ++
        (match u.port with
          | none => ""
          | some n => s!":{n}")
  let after (mark : String) : Option String → String
    | none => ""
    | some s => mark ++ s
  u.scheme ++ ":" ++ host ++ u.path ++ after "?" u.query ++ after "#" u.fragment

def append (segments : List String) (u : Url) : Url :=
  let escapes (c : Char) : Bool := escapesInPath c || c ∈ ['/', '%', '\\']
  let start := match u.path.toList.reverse with
    | '/' :: rest => rest.reverse
    | cs => cs.reverse
  { u with
    path := String.ofList (start ++
      segments.flatMap fun segment => '/' :: percentEncode escapes segment.toList) }

end Url

end CertEnroll
