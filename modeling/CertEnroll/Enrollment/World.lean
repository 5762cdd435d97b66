import CertEnroll.Authority.Backend
import CertEnroll.Enrollment.Issue

/-!
The surroundings of enrollments: roles, a CA, a store, leases, clocks and a source of chance. Pauses take no
more than the time asked for, and nothing else takes time.
-/

namespace CertEnroll.Enrollment

open Crypto (Stream)

structure World where
  roles : RoleBook
  authority : Authority
  store : Store
  leases : LeaseTable
  leaseMount : String
  chance : Stream
  clock : Nat
  today : Instant
  metrics : Metrics

namespace World

def ofSettings (vaultNamespace : Option String) (seed : Octets) (today : Instant) (s : Settings) :
    Except Error World := do
  let (rootSeed, chance) := (Stream.ofSeed .sha256 seed).draw 32
  let authority ← Authority.ofSettings vaultNamespace rootSeed s.ca
  let store ← Store.ofSettings vaultNamespace s.storage
  return {
    roles := .ofSettings s, authority, store, leases := {}, leaseMount := s.lease.mount, chance
    clock := 0, today, metrics := {} }

def draw (w : World) : Octets × World :=
  let (octets, chance) := w.chance.draw 32
  (octets, { w with chance })

def newLease (role secretType : String) (data : Json) (w : World) : Lease × World :=
  let (octets, w) := w.draw
  ({ id := Lease.idFor w.leaseMount role (Uuid.text (octets.take 16)), secretType, ttl := 0,
     renewable := false, issuedAt := w.today, internalData := data }, w)

def answer (send : Http.Request → Http.Outcome) : Surroundings World
  | .findRole name, w => ((w.roles.find? name w.store).resolve send, w)
  | .chance, w => w.draw
  | .submit request, w =>
    let (chance, w) := w.draw
    let (result, authority) := (w.authority.submit w.today chance request).resolve send
    (result, { w with authority })
  | .retrieve handle, w =>
    let (result, authority) := (w.authority.retrieve handle).resolve send
    (result, { w with authority })
  | .clock, w => (w.clock, w)
  | .sleep nanos, w =>
    ((), { w with clock := w.clock + nanos, today := w.today.plus nanos })
  | .put key value, w =>
    let (result, store) := (w.store.put key value).resolve send
    (result, { w with store })
  | .createLease role secretType data, w =>
    let (lease, w) := w.newLease role secretType data
    (.ok lease, w)
  | .today, w => (w.today, w)
  | .commitLease lease, w => (.ok (), { w with leases := w.leases.commit w.today lease })
  | .count sample, w => ((), { w with metrics := w.metrics.record sample })

end World

def revoke (_role _certificate : String) (w : World) : World := w

end CertEnroll.Enrollment
