import CertEnroll.Json.Printer
import CertEnroll.Text.Utf8

namespace CertEnroll.Http

inductive Method
  | get
  | post
  | delete
  | list
deriving DecidableEq, Repr

def Method.name : Method → String
  | .get => "GET"
  | .post => "POST"
  | .delete => "DELETE"
  | .list => "LIST"

structure Request where
  method : Method
  url : String
  headers : List (String × String)
  body : Option Json
deriving Repr

inductive Body
  | whole (octets : List UInt8)
  | lost (timedOut : Bool)
deriving DecidableEq, Repr

structure Reply where
  status : Nat
  body : Body
deriving DecidableEq, Repr

inductive Outcome
  | reply (r : Reply)
  | invalid
  | unreachable
  | timedOut
deriving DecidableEq, Repr

inductive Exchange (α : Type)
  | ready (a : α)
  | ask (request : Request) (finish : Outcome → α)

namespace Exchange

def map {α β : Type} (f : α → β) : Exchange α → Exchange β
  | .ready a => .ready (f a)
  | .ask request finish => .ask request fun outcome => f (finish outcome)

def resolve {α : Type} (send : Request → Outcome) : Exchange α → α
  | .ready a => a
  | .ask request finish => finish (send request)

def attempt {ε α : Type} (request : Except ε Request) (finish : Outcome → Except ε α) :
    Exchange (Except ε α) :=
  match request with
  | .ok request => .ask request finish
  | .error e => .ready (.error e)

end Exchange

def isHeaderText (s : String) : Bool :=
  s.toList.all fun c => c == '\t' || (32 ≤ c.toNat && c.toNat ≠ 127)

def isSuccess (status : Nat) : Bool :=
  200 ≤ status && status < 300

end CertEnroll.Http
