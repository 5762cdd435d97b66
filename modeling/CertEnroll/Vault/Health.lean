import CertEnroll.Vault.Client
import CertEnroll.Vault.Reply

namespace CertEnroll.Vault

def readHealth : Http.Outcome → Except Error Unit
  | .reply ⟨status, .whole octets⟩ =>
    if Http.isSuccess status then .ok ()
    else
      let reply := match Reply.reasons? octets with
        | some reasons => Reply.refused status reasons
        | none => .failed
      .error (.config s!"Vault health check failed: {reply.message}")
  | _ => .error (.config s!"Vault health check failed: {Reply.failed.message}")

def checkHealth (c : Client) : Http.Exchange (Except Error Unit) :=
  .ask (c.request .get "sys/health" none) readHealth

end CertEnroll.Vault
