import CertEnroll.Report.Error
import CertEnroll.Settings.Check

namespace CertEnroll.Settings

def checkJson (s : Settings) : Json :=
  match s.violations with
  | [] => .ofExcept Error.toJson (fun _ => .string "ok") s.check
  | vs =>
    .object
      [("error", .string "config"), ("message", .string "Configuration error: Validation failed"),
        ("violations", .strings (vs.map Violation.text))]

def report (s : Settings) : Json :=
  let exposed (t : Option Secret) : Json := .ofOption (fun t => .string t.exposed) t
  .object
    [("config", s.toJson), ("ca_access_token", exposed s.ca.accessToken),
      ("storage_token", exposed s.storage.token), ("ca_timeout_seconds", .nat s.ca.timeoutSeconds),
      ("poll_interval_seconds", .nat s.polling.intervalSeconds),
      ("poll_deadline_seconds", natOrNull s.polling.deadlineSeconds),
      ("poll_max_attempts", natOrNull s.polling.maxAttempts),
      ("poll_bounded", .bool (s.polling.maxAttempts.isSome || s.polling.deadlineSeconds.isSome)),
      ("metrics_bind_address", textOrNull s.observability.metricsBindAddress),
      ("role_specs", .object (s.roles.map fun (name, p) => (name, p.specJson))),
      ("validate", s.checkJson)]

end CertEnroll.Settings
