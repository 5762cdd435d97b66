import CertEnroll.Enrollment.Call

/-!
Obtaining a certificate: the request is submitted once, and the CA asked for the certificate until it hands
it out, refuses it, or a bound is met. The number of polls and the time they take may be bounded.
-/

namespace CertEnroll

structure PollPolicy where
  interval : Nat
  maxAttempts : Option UInt32
  deadline : Option Nat
deriving DecidableEq, Repr

namespace PollPolicy

def ofSettings (s : PollingSettings) : PollPolicy where
  interval := s.intervalSeconds * nanosPerSecond
  maxAttempts := s.maxAttempts.map UInt32.ofNat
  deadline := s.deadlineSeconds.map (· * nanosPerSecond)

def isBounded (p : PollPolicy) : Bool :=
  p.maxAttempts.isSome || p.deadline.isSome

end PollPolicy

namespace Enrollment

def outcomeLabel : Except RetrieveError IssuedSet → String
  | .ok _ => "issued"
  | .error e => e.outcome

inductive PollStage
  | starting
  | retrieving (started : Nat) (attempts : UInt32)
  | counting (started : Nat) (attempts : UInt32) (outcome : Except RetrieveError IssuedSet)
  | timing (started : Nat) (attempts : UInt32) (deadline : Nat)
  | sleeping (started : Nat) (attempts : UInt32)
  | finished (result : Except Error IssuedSet)

namespace PollStage

def exhausted (handle : PickupHandle) (attempts : UInt32) : PollStage :=
  .finished (.error (.pollingExhausted handle.id attempts.toNat))

def undecided (policy : PollPolicy) (handle : PickupHandle) (started : Nat) (attempts : UInt32) :
    PollStage :=
  if policy.maxAttempts.any (· ≤ attempts) then exhausted handle attempts
  else match policy.deadline with
    | none => .sleeping started attempts
    | some deadline => .timing started attempts deadline

def judged (policy : PollPolicy) (handle : PickupHandle) (started : Nat) (attempts : UInt32) :
    Except RetrieveError IssuedSet → PollStage
  | .ok issued => .finished (.ok issued)
  | .error (.failed cause) => .finished (.error (.caRetrieval handle.id cause.message))
  | .error .pending | .error .timeout => undecided policy handle started attempts

def overdue (policy : PollPolicy) (started now deadline : Nat) : Bool :=
  deadline < now - started + policy.interval

def next (policy : PollPolicy) (handle : PickupHandle) :
    PollStage → Next PollStage (Except Error IssuedSet)
  | .starting => .ask .clock fun now => .retrieving now 0
  | .retrieving started attempts =>
    .ask (.retrieve handle) fun outcome => .counting started (attempts + 1) outcome
  | .counting started attempts outcome =>
    .ask (.count (.poll (outcomeLabel outcome))) fun _ =>
      judged policy handle started attempts outcome
  | .timing started attempts deadline =>
    .ask .clock fun now =>
      if overdue policy started now deadline then exhausted handle attempts
      else .sleeping started attempts
  | .sleeping started attempts =>
    .ask (.sleep policy.interval) fun _ => .retrieving started attempts
  | .finished result => .done result

end PollStage

inductive ObtainStage
  | submitting
  | polling (handle : PickupHandle) (stage : PollStage)
  | refused (error : Error)

inductive State
  | built
  | submitted
  | polling
  | issued
  | failed
deriving DecidableEq, Repr

def State.name : State → String
  | .built => "built"
  | .submitted => "submitted"
  | .polling => "polling"
  | .issued => "issued"
  | .failed => "failed"

namespace ObtainStage

def state : ObtainStage → State
  | .submitting => .built
  | .polling _ .starting => .submitted
  | .polling _ (.finished (.ok _)) => .issued
  | .polling _ (.finished (.error _)) => .failed
  | .polling _ _ => .polling
  | .refused _ => .failed

def next (policy : PollPolicy) (request : SigningRequest) :
    ObtainStage → Next ObtainStage (Except Error IssuedSet)
  | .submitting =>
    .ask (.submit request) fun
      | .ok handle => .polling handle .starting
      | .error e => .refused (.caSubmission e.message)
  | .polling handle stage => (stage.next policy handle).within (.polling handle) .done
  | .refused error => .done (.error error)

end ObtainStage

end Enrollment

end CertEnroll
