import CertEnroll.Calendar
import CertEnroll.Json.Printer
import CertEnroll.Text.Blank

/-!
Leases: an issued secret with an identifier and a time to live. A table holds the leases that were
recorded, each under its own identifier; recording one drops those that have expired.
-/

namespace CertEnroll

/-- The time to live may be negative: the secret had expired before the lease was made. -/
structure Lease where
  id : String
  secretType : String
  ttl : Span
  renewable : Bool
  issuedAt : Instant
  internalData : Json
deriving Repr, Inhabited

namespace Lease

def expiresAt (l : Lease) : Instant :=
  l.issuedAt.plus l.ttl

def seconds (ttl : Span) : Int :=
  Int.tdiv ttl nanosPerSecond

def toJson (l : Lease) : Json :=
  .object
    [("lease_id", .string l.id), ("secret_type", .string l.secretType),
      ("lease_duration", .integer (seconds l.ttl)), ("renewable", .bool l.renewable),
      ("issued_at", .string (l.issuedAt.text "Z"))]

def idFor (mount role uuid : String) : String :=
  Text.trimMatches '/' mount ++ "/issue/" ++ role ++ "/" ++ uuid

end Lease

structure LeaseTable where
  leases : List Lease := []
deriving Repr, Inhabited

namespace LeaseTable

def lookup (id : String) (t : LeaseTable) : Option Lease :=
  t.leases.find? fun l => l.id == id

def erase (id : String) (t : LeaseTable) : LeaseTable :=
  ⟨t.leases.filter fun l => l.id ≠ id⟩

def size (t : LeaseTable) : Nat :=
  t.leases.length

def prune (now : Instant) (t : LeaseTable) : LeaseTable :=
  ⟨t.leases.filter fun l => !l.expiresAt.before now⟩

def pruned (now : Instant) (t : LeaseTable) : Nat :=
  t.size - (t.prune now).size

def commit (now : Instant) (l : Lease) (t : LeaseTable) : LeaseTable :=
  ⟨l :: ((t.prune now).erase l.id).leases⟩

end LeaseTable

end CertEnroll
