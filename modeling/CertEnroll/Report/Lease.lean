import CertEnroll.Lease

namespace CertEnroll.Lease

def nanosPerMilli : Int := 1000000

def report (l : Lease) : Json :=
  .object
    [("lease_id", .string l.id), ("secret_type", .string l.secretType),
      ("ttl_ms", .integer (l.ttl / nanosPerMilli)), ("renewable", .bool l.renewable),
      ("issued_at", .string (l.issuedAt.text "+00:00")),
      ("expires_at", .string (l.expiresAt.text "+00:00")), ("internal_data", l.internalData),
      ("serialized", l.toJson)]

end CertEnroll.Lease
