import CertEnroll.Octets
import CertEnroll.Text.Base64
import CertEnroll.Text.Blank

namespace CertEnroll.Pem

inductive Flaw
  | missingHeader
  | invalidHeader
  | incomplete
  | base64
deriving DecidableEq, Repr

def Flaw.name : Flaw → String
  | .missingHeader => "MissingHeader"
  | .invalidHeader => "InvalidHeader"
  | .incomplete => "IncompletePEM"
  | .base64 => "Base64DecodeError"

structure Block where
  label : String
  contents : Octets
deriving DecidableEq, Repr

def dashes : List Char := ['-', '-', '-', '-', '-']

def beginMark : List Char := dashes ++ ['B', 'E', 'G', 'I', 'N', ' ']

def endMark : List Char := dashes ++ ['E', 'N', 'D', ' ']

def cutAt (mark : List Char) : List Char → Option (List Char × List Char)
  | [] => if mark = [] then some ([], []) else none
  | c :: cs =>
    if mark.isPrefixOf (c :: cs) then some ([], (c :: cs).drop mark.length)
    else (cutAt mark cs).map fun (before, after) => (c :: before, after)

def labelOf (line : List Char) : Except Flaw (List Char) :=
  match cutAt dashes (line.drop dashes.length) with
  | none => .error .invalidHeader
  | some (title, _) => .ok ((title.drop 6).takeWhile (· ≠ '-'))

def bodyOf : List (List Char) → Except Flaw (List Char)
  | [] => .error .incomplete
  | line :: lines =>
    if endMark.isPrefixOf line then .ok []
    else do return Text.dropEndWhile Text.isBlank line ++ (← bodyOf lines)

def readLines : List (List Char) → Except Flaw Block
  | [] => .error .missingHeader
  | line :: lines =>
    if beginMark.isPrefixOf line then do
      let label ← labelOf line
      let body ← bodyOf lines
      match Text.Base64.decodeBlocks (Text.Utf8.encode (String.ofList body)) with
      | some contents => return ⟨String.ofList label, contents⟩
      | none => throw .base64
    else readLines lines

def linesOf (cs : List Char) : List (List Char) :=
  match (Text.splitChars '\n' cs).reverse with
  | [] :: rest => rest.reverse
  | lines => lines.reverse

def read (text : String) : Except Flaw Block :=
  readLines (linesOf text.toList)

def Block.write (b : Block) : String :=
  let body := Text.Base64.encode b.contents
  let lines := (Octets.chunks 64 body.length body).map fun line => Octets.chars line ++ ['\n']
  String.ofList (beginMark ++ b.label.toList ++ dashes ++ ['\n'] ++ lines.flatten ++
    endMark ++ b.label.toList ++ dashes ++ ['\n'])

def certificateLabel : String := "CERTIFICATE"

def certificateBegin : List Char := beginMark ++ certificateLabel.toList ++ dashes

def certificateEnd : List Char := endMark ++ certificateLabel.toList ++ dashes

theorem cutAt_length {mark text before after : List Char} (h : cutAt mark text = some (before, after)) :
    after.length + mark.length ≤ text.length := by
  induction text generalizing before with
  | nil =>
    unfold cutAt at h
    split at h <;> simp_all
  | cons c cs ih =>
    unfold cutAt at h
    split at h
    · rename_i hp
      have := (List.isPrefixOf_iff_prefix.mp hp).length_le
      simp only [Option.some.injEq, Prod.mk.injEq] at h
      rw [← h.2, List.length_drop]
      simp only [List.length_cons] at this ⊢
      omega
    · cases hc : cutAt mark cs with
      | none => simp [hc] at h
      | some p =>
        simp only [hc, Option.map_some, Option.some.injEq, Prod.mk.injEq] at h
        have : after.length + mark.length ≤ cs.length := @ih p.1 (by rw [hc, ← h.2])
        simp only [List.length_cons]
        omega

def blocks (text : List Char) : List (List Char) :=
  match _h : cutAt certificateBegin text with
  | none => []
  | some (_, tail) =>
    match _h' : cutAt certificateEnd (certificateBegin ++ tail) with
    | none => []
    | some (body, rest) => (body ++ certificateEnd) :: blocks rest
termination_by text.length
decreasing_by
  have h1 := cutAt_length _h
  have h2 := cutAt_length _h'
  have : 0 < certificateEnd.length := by decide
  simp only [List.length_append] at h2
  omega

def splitBundle (bundle : String) : List String :=
  (blocks bundle.toList).map String.ofList

def joinBundle (certificates : List String) : String :=
  "\n".intercalate certificates

end CertEnroll.Pem
