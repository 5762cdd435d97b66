import CertEnroll.KeyPolicy
import CertEnroll.Store.Backend

namespace CertEnroll

open Http (Exchange)

namespace RolePolicy

def keyStart : String := "role/"

def key (name : String) : String :=
  keyStart ++ name

def encode (p : RolePolicy) : Octets :=
  p.toJson.octets

def decode (octets : Octets) : Except Error RolePolicy :=
  decodeOctets (read .jsonText) octets

end RolePolicy

namespace Store

def putRole (name : String) (policy : RolePolicy) (s : Store) : Exchange (Except Error Unit × Store) :=
  (s.put (RolePolicy.key name) policy.encode).map fun (result, s) =>
    (result.mapError StoreError.toError, s)

def listRoles (s : Store) : Exchange (Except Error (List String)) :=
  (s.list RolePolicy.keyStart).map (·.mapError StoreError.toError)

def readRole : Except StoreError (Option Octets) → Except Error (Option RolePolicy)
  | .error e => .error e.toError
  | .ok none => .ok none
  | .ok (some octets) => (RolePolicy.decode octets).map some

def role? (name : String) (s : Store) : Exchange (Except Error (Option RolePolicy)) :=
  (s.get? (RolePolicy.key name)).map readRole

end Store

inductive RoleBook
  | listed (roles : List (String × RolePolicy))
  | stored
deriving Repr

namespace RoleBook

def ofSettings (s : Settings) : RoleBook :=
  match s.roleSource with
  | .config => .listed s.roles
  | .storage => .stored

def find? (name : String) (s : Store) : RoleBook → Exchange (Except Error (Option RolePolicy))
  | .listed roles => .ready (.ok (roles.lookup name))
  | .stored => s.role? name

def require (name : String) : Except Error (Option RolePolicy) → Except Error RolePolicy
  | .error e => .error e
  | .ok none => .error (.roleNotFound name)
  | .ok (some policy) => .ok policy

end RoleBook

end CertEnroll
