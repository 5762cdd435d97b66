import CertEnroll.Enrollment.World

namespace CertEnroll.Enrollment

inductive LeaseTrouble
  | none
  | create
  | commit
deriving DecidableEq, Repr

structure Trouble where
  unwritable : Option String := none
  unreadable : Option String := none
  lease : LeaseTrouble := .none
deriving DecidableEq, Repr

namespace Trouble

def covers (start : Option String) (key : String) : Bool :=
  start.any fun start => start.toList.isPrefixOf key.toList

def put (send : Http.Request → Http.Outcome) (key : String) (value : Octets) (s : Store) (t : Trouble) :
    Except StoreError Unit × Store :=
  if covers t.unwritable key then (.error (.backend "disk full"), s)
  else (s.put key value).resolve send

def get (send : Http.Request → Http.Outcome) (key : String) (s : Store) (t : Trouble) :
    Except StoreError (Option Octets) :=
  if covers t.unreadable key then .error (.backend "sealed") else (s.get? key).resolve send

def putRole (send : Http.Request → Http.Outcome) (name : String) (policy : RolePolicy) (s : Store)
    (t : Trouble) : Except Error Unit × Store :=
  let (result, s) := t.put send (RolePolicy.key name) policy.encode s
  (result.mapError StoreError.toError, s)

def findRole (send : Http.Request → Http.Outcome) (name : String) (s : Store) (t : Trouble) :
    RoleBook → Except Error (Option RolePolicy)
  | .stored => Store.readRole (t.get send (RolePolicy.key name) s)
  | book => (book.find? name s).resolve send

def leaseMessage : String := "lease backend unavailable"

def answer (send : Http.Request → Http.Outcome) (t : Trouble) : Surroundings World
  | .findRole name, w => (t.findRole send name w.store w.roles, w)
  | .put key value, w =>
    let (result, store) := t.put send key value w.store
    (result, { w with store })
  | .createLease role secretType data, w =>
    if t.lease = .create then (.error (.internal leaseMessage), w)
    else World.answer send (.createLease role secretType data) w
  | .commitLease lease, w =>
    if t.lease = .commit then (.error (.storage leaseMessage), w)
    else World.answer send (.commitLease lease) w
  | call, w => World.answer send call w

end Trouble

end CertEnroll.Enrollment
