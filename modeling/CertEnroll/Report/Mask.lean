import CertEnroll.Json.Basic
import CertEnroll.Pem
import CertEnroll.Serial

namespace CertEnroll.Mask

theorem cutAt_shorter {mark text before after : List Char} (h : Pem.cutAt mark text = some (before, after))
    (hm : 0 < mark.length) : after.length < text.length := by
  have := Pem.cutAt_length h
  omega

def blockChars (hides : String → Bool) (text : List Char) : List Char :=
  match _h : Pem.cutAt Pem.beginMark text with
  | none => text
  | some (before, rest) =>
    match _h' : Pem.cutAt Pem.dashes rest with
    | none => text
    | some (label, body) =>
      match _h'' : Pem.cutAt (Pem.endMark ++ label ++ Pem.dashes) body with
      | some (_, after) =>
        if hides (String.ofList label) then
          before ++ '<' :: label ++ '>' :: blockChars hides after
        else before ++ Pem.beginMark ++ blockChars hides rest
      | none => before ++ Pem.beginMark ++ blockChars hides rest
termination_by text.length
decreasing_by
  all_goals
    have h1 := cutAt_shorter _h (by decide)
    have h2 := cutAt_shorter _h' (by decide)
    try have h3 := Pem.cutAt_length _h''
    omega

def blocks (hides : String → Bool) (text : String) : String :=
  String.ofList (blockChars hides text.toList)

def isKeyLabel (label : String) : Bool :=
  "PRIVATE KEY".toList.isSuffixOf label.toList

def keys : String → String := blocks isKeyLabel

def keysAndCertificates : String → String :=
  blocks fun label => isKeyLabel label || label == Pem.certificateLabel

def isUuid (cs : List Char) : Bool :=
  cs.length == 36 && cs.zipIdx.all fun (c, i) =>
    if i ∈ [8, 13, 18, 23] then c == '-' else c ∈ Text.Hex.lowerDigits

def uuidChars : Nat → List Char → List Char
  | _, [] => []
  | skip + 1, _ :: cs => uuidChars skip cs
  | 0, c :: cs =>
    if isUuid ((c :: cs).take 36) then "<uuid>".toList ++ uuidChars 35 cs else c :: uuidChars 0 cs

def uuids (text : String) : String :=
  String.ofList (uuidChars 0 text.toList)

def serials (known : List String) (text : String) : String :=
  known.zipIdx.foldl
    (fun text (serial, i) =>
      (text.replace serial s!"<SERIAL {i}>").replace (Serial.storageForm serial) s!"<serial {i}>") text

mutual

def json (f : String → String) : Json → Json
  | .string s => .string (f s)
  | .array items => .array (jsonItems f items)
  | .object members => .object (jsonMembers f members)
  | value => value

def jsonItems (f : String → String) : List Json → List Json
  | [] => []
  | item :: items => json f item :: jsonItems f items

def jsonMembers (f : String → String) : List (String × Json) → List (String × Json)
  | [] => []
  | (name, value) :: members => (name, json f value) :: jsonMembers f members

end

def leaseMember (duration : Int → String) : String × Json → String × Json
  | ("lease_id", .string id) => ("lease_id", .string (uuids id))
  | ("lease_duration", .integer n) => ("lease_duration", .string (duration n))
  | ("issued_at", _) => ("issued_at", .string "now")
  | member => member

def response (mask : String → String) (duration : Int → String) (extra : List (String × Json)) :
    Json → Json
  | .object members => .object <| members.map fun
    | ("lease", .object lease) => ("lease", .object (lease.map (leaseMember duration) ++ extra))
    | (name, value) => (name, json mask value)
  | value => json mask value

end CertEnroll.Mask
