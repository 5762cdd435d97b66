import CertEnroll.Authority.Error
import CertEnroll.Certificate
import CertEnroll.Lease
import CertEnroll.Metrics
import CertEnroll.SigningRequest.Basic
import CertEnroll.Store.Basic

/-!
What an enrollment asks of its surroundings. An enrollment goes through stages; in each it is done or asks
one thing and goes on with the reply, so that anything may happen between two of its steps.
-/

namespace CertEnroll.Enrollment

inductive Call
  | findRole (name : String)
  | chance
  | submit (request : SigningRequest)
  | retrieve (handle : PickupHandle)
  | clock
  | sleep (nanos : Nat)
  | put (key : String) (value : Octets)
  | createLease (role secretType : String) (data : Json)
  | today
  | commitLease (lease : Lease)
  | count (sample : Sample)

abbrev Call.Reply : Call → Type
  | .findRole _ => Except Error (Option RolePolicy)
  | .chance => Octets
  | .submit _ => Except AuthorityError PickupHandle
  | .retrieve _ => Except RetrieveError IssuedSet
  | .clock => Nat
  | .sleep _ => Unit
  | .put _ _ => Except StoreError Unit
  | .createLease _ _ _ => Except Error Lease
  | .today => Instant
  | .commitLease _ => Except Error Unit
  | .count _ => Unit

inductive Next (σ ρ : Type)
  | done (result : ρ)
  | ask (call : Call) (resume : call.Reply → σ)

def Next.within {σ τ ρ κ : Type} (next : Next σ ρ) (part : σ → τ) (finish : ρ → Next τ κ) : Next τ κ :=
  match next with
  | .done result => finish result
  | .ask call resume => .ask call fun reply => part (resume reply)

abbrev Surroundings (ω : Type) := (call : Call) → ω → call.Reply × ω

inductive Progress (σ ρ ω : Type)
  | done (result : ρ) (world : ω)
  | underway (stage : σ) (world : ω)

/-- Takes steps until the result is there, `fuel` is used up, or a call is met that is not to be made. -/
def run {σ ρ ω : Type} (next : σ → Next σ ρ) (answer : Surroundings ω) (refuses : Call → ω → Bool) :
    Nat → σ → ω → Progress σ ρ ω
  | 0, stage, world => .underway stage world
  | fuel + 1, stage, world =>
    match next stage with
    | .done result => .done result world
    | .ask call resume =>
      if refuses call world then .underway stage world
      else
        let (reply, world) := answer call world
        run next answer refuses fuel (resume reply) world

end CertEnroll.Enrollment
