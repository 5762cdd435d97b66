namespace CertEnroll

structure Secret where
  exposed : String
deriving DecidableEq

namespace Secret

def redacted : String := "[REDACTED]"

def debug (_ : Secret) : String :=
  s!"SecretString({redacted})"

instance : Repr Secret := ⟨fun s _ => s.debug⟩

instance : ToString Secret := ⟨fun _ => redacted⟩

end Secret

end CertEnroll
