import CertEnroll.Error
import CertEnroll.Http
import CertEnroll.Secret
import CertEnroll.Url.Basic

namespace CertEnroll.Vault

structure Client where
  address : Url
  token : Secret
  namespaceName : Option String
deriving DecidableEq, Repr

def connect (address : String) (token : Option Secret) (namespaceName : Option String) :
    Except Error Client :=
  match Url.parse address with
  | .error flaw => .error (.config s!"Invalid Vault address '{address}': {flaw.message}")
  | .ok url =>
    if url.scheme = "http" ∨ url.scheme = "https" then
      .ok ⟨url, token.getD ⟨""⟩, namespaceName⟩
    else .error (.config s!"Invalid Vault configuration: Invalid scheme for HTTP URL: {url.scheme}")

namespace Client

def request (method : Http.Method) (path : String) (body : Option Json) (c : Client) : Http.Request where
  method
  url := (c.address.append ("v1" :: Text.split '/' path)).text
  headers :=
    [("x-vault-token", c.token.exposed), ("x-vault-request", "true")] ++
      c.namespaceName.toList.map fun name => ("x-vault-namespace", name)
  body

end Client

end CertEnroll.Vault
