import CertEnroll.Text.CasingTable
import CertEnroll.Text.Quoted

namespace CertEnroll.Text

def lowercaseRun? (c : Char) : Option Char :=
  (lowercaseRuns.find? fun (first, last, stride, _) =>
    first ≤ c.toNat && c.toNat ≤ last && (c.toNat - first) % stride == 0).map
    fun (first, _, _, target) => Char.ofNat (target + (c.toNat - first))

def lowercaseChar (c : Char) : List Char :=
  if c.toNat < 128 then [c.toLower]
  else if c = 'İ' then ['i', '\u0307']
  else [(lowercaseRun? c).getD c]

def isCased (c : Char) : Bool :=
  inRuns casedRuns c

def isCaseIgnorable (c : Char) : Bool :=
  inRuns caseIgnorableRuns c

def meetsCased (cs : List Char) : Bool :=
  ((cs.dropWhile isCaseIgnorable).head?.map isCased).getD false

def lowercaseFrom (before : List Char) : List Char → List Char
  | [] => []
  | c :: cs =>
    (if c = 'Σ' then
      if meetsCased before && !meetsCased cs then ['ς'] else ['σ']
    else lowercaseChar c) ++ lowercaseFrom (c :: before) cs

def lowercase (s : String) : String :=
  String.ofList (lowercaseFrom [] s.toList)

end CertEnroll.Text
