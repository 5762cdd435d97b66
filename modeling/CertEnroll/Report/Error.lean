import CertEnroll.Authority.Error
import CertEnroll.Store.Basic

namespace CertEnroll

def Error.toJson (e : Error) : Json :=
  .object
    ([("error", .string e.kind), ("message", .string e.message)] ++
      if e.isIssued then
        [("issued", .bool true), ("unrecorded", .bool e.isIssuedButUnrecorded)]
      else [])

def AuthorityError.toJson (e : AuthorityError) : Json :=
  .object [("error", .string e.kind), ("message", .string e.message)]

def RetrieveError.toJson (e : RetrieveError) : Json :=
  .object
    [("error", .string e.kind), ("message", .string e.message), ("retryable", .bool e.isRetryable),
      ("outcome", .string e.outcome)]

def StoreError.toJson (e : StoreError) : Json :=
  .object
    [("error", .string e.kind), ("message", .string e.message),
      ("as_error", .string e.toError.message)]

def Json.ofExcept {ε α : Type} (ofError : ε → Json) (ofValue : α → Json) : Except ε α → Json
  | .ok a => ofValue a
  | .error e => ofError e

def Json.ofOption {α : Type} (ofValue : α → Json) : Option α → Json
  | some a => ofValue a
  | none => .null

def Json.nat (n : Nat) : Json := .integer n

def RolePolicy.specJson (p : RolePolicy) : Json :=
  .ofExcept Error.toJson (fun spec => .string spec.name) p.keySpec

end CertEnroll
