import CertEnroll.Settings.Basic

namespace CertEnroll.Settings

abbrev Environment := String → Option String

def Environment.ofList (values : List (String × String)) : Environment :=
  fun name => values.lookup name

def Environment.value? (env : Environment) (name : String) : Option String :=
  (env name).filter (· ≠ "")

def override (env : Environment) (s : Settings) : Settings :=
  { s with
    observability := { s.observability with
      logLevel := (env.value? "CERTWARDEN_LOG_LEVEL").getD s.observability.logLevel }
    ca := { s.ca with
      url := (env.value? "CERTWARDEN_CA_URL").or s.ca.url
      accessToken := ((env.value? "CERTWARDEN_CA_TOKEN").map Secret.mk).or s.ca.accessToken }
    storage := { s.storage with
      address := (env.value? "VAULT_ADDR").or s.storage.address
      token := ((env.value? "VAULT_TOKEN").map Secret.mk).or s.storage.token } }

end CertEnroll.Settings
