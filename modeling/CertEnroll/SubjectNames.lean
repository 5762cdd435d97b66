import CertEnroll.Error
import CertEnroll.Text.Blank

namespace CertEnroll

structure SubjectNames where
  commonName : String
  altNames : List String
deriving DecidableEq, Repr

namespace SubjectNames

def distinct : List String → List String
  | [] => []
  | name :: names => name :: (distinct names).filter (· ≠ name)

def tidy (names : List String) : List String :=
  distinct ((names.map Text.trim).filter (· ≠ ""))

/-- A blank common name is replaced by the first alternative name, and a common name that is missing from
the alternative names is put at their end. -/
def normalize (commonName : String) (altNames : List String) : Except Error SubjectNames :=
  let names := tidy altNames
  let build (commonName : String) : SubjectNames :=
    ⟨commonName, if commonName ∈ names then names else names ++ [commonName]⟩
  match Text.trim commonName, names with
  | "", [] => .error (.invalidRequest "no domains specified on certificate")
  | "", first :: _ => .ok (build first)
  | commonName, _ => .ok (build commonName)

def parseAltNames (text : String) : List String :=
  ((Text.split ',' text).map Text.trim).filter (· ≠ "")

end SubjectNames

end CertEnroll
