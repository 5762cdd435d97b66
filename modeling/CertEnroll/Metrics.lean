namespace CertEnroll

structure Series where
  name : String
  labels : List (String × String)
deriving DecidableEq, Repr

namespace Series

def text (s : Series) : String :=
  s.name ++ "\x7b" ++ ",".intercalate (s.labels.map fun (name, value) => name ++ "=" ++ value) ++ "\x7d"

end Series

inductive Sample
  | enrollment (role outcome : String)
  | poll (outcome : String)
deriving DecidableEq, Repr

namespace Sample

def enrollmentsName : String := "certwarden_enrollments_total"

def pollsName : String := "certwarden_ca_polls_total"

def durationName : String := "certwarden_enrollment_duration_seconds"

def series : Sample → List Series
  | .enrollment role outcome =>
    [⟨enrollmentsName, [("role", role), ("outcome", outcome)]⟩, ⟨durationName, [("role", role)]⟩]
  | .poll outcome => [⟨pollsName, [("outcome", outcome)]⟩]

end Sample

structure Metrics where
  counts : List (Series × Nat) := []
deriving Repr

namespace Metrics

def count (s : Series) (m : Metrics) : Nat :=
  (m.counts.lookup s).getD 0

def increased (s : Series) : List (Series × Nat) → List (Series × Nat)
  | [] => [(s, 1)]
  | (other, n) :: counts =>
    if other = s then (other, n + 1) :: counts else (other, n) :: increased s counts

def record (sample : Sample) (m : Metrics) : Metrics :=
  ⟨sample.series.foldl (fun counts s => increased s counts) m.counts⟩

def descriptions : List (String × String × String) :=
  [(Sample.enrollmentsName, "Count", "Enrollment requests grouped by role and outcome"),
    (Sample.pollsName, "Count", "CA retrieval polls grouped by outcome"),
    (Sample.durationName, "Seconds", "Time from request to response, including CA polling")]

end Metrics

end CertEnroll
