import CertEnroll.Authority.Error
import CertEnroll.Certificate

/-!
Signed certificates that wait to be picked up. Picking one up takes two steps, between which others may
come: the first counts down the polls still to be turned away, the second hands the certificate out.
-/

namespace CertEnroll

structure Pickup where
  remaining : Nat
  issued : IssuedSet
deriving DecidableEq, Repr

structure PickupTable where
  entries : List (String × Pickup) := []
deriving DecidableEq, Repr

namespace PickupTable

def size (t : PickupTable) : Nat :=
  t.entries.length

def lookup (id : String) (t : PickupTable) : Option Pickup :=
  t.entries.lookup id

def erase (id : String) (t : PickupTable) : PickupTable :=
  ⟨t.entries.filter fun entry => entry.1 ≠ id⟩

def insert (id : String) (p : Pickup) (t : PickupTable) : PickupTable :=
  ⟨(id, p) :: (t.erase id).entries⟩

def unknown (id : String) : RetrieveError :=
  .failed (.unknownPickup id)

def check (id : String) (t : PickupTable) : Except RetrieveError Unit × PickupTable :=
  match t.lookup id with
  | none => (.error (unknown id), t)
  | some p =>
    if p.remaining = 0 then (.ok (), t)
    else (.error .pending, t.insert id { p with remaining := p.remaining - 1 })

def take (id : String) (t : PickupTable) : Except RetrieveError IssuedSet × PickupTable :=
  match t.lookup id with
  | none => (.error (unknown id), t)
  | some p => (.ok p.issued, t.erase id)

end PickupTable

end CertEnroll
