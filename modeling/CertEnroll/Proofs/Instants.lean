import CertEnroll.Calendar

/-!
Instants as numbers of nanoseconds from 1970 on. Outside leap seconds each instant has a number of its own, and adding
a length of time, taking a difference and comparing are those of the numbers.
-/

namespace CertEnroll

namespace Instant

open Calendar (dayNumber)

structure Within (first last : Int) (t : Instant) : Prop where
  begun : dayNumber first 1 1 * 86400 ≤ t.second
  unended : t.second < dayNumber (last + 1) 1 1 * 86400
  plain : t.nano < nanosPerSecond

def Representable (t : Instant) : Prop :=
  t.Within (-262143) 262142

variable {t u v : Instant} {first last : Int}

theorem total_ofTotal (n : Int) : (ofTotal n).total = n := by
  simp only [ofTotal, total, nanosPerSecond]
  omega

theorem plain_ofTotal (n : Int) : (ofTotal n).nano < nanosPerSecond := by
  simp only [ofTotal, nanosPerSecond]
  omega

theorem plus_eq (plain : t.nano < nanosPerSecond) (d : Span) : t.plus d = ofTotal (t.total + d) := by
  rw [plus, if_pos plain]

theorem before_iff (ht : t.nano < nanosPerSecond) (hu : u.nano < nanosPerSecond) :
    t.before u = true ↔ t.total < u.total := by
  simp only [before, total, nanosPerSecond, Bool.or_eq_true, Bool.and_eq_true, decide_eq_true_eq, beq_iff_eq] at *
  omega

theorem before_of_not_before (hu : t.before u = false) (hv : t.before v = true) : u.before v = true := by
  simp only [before, Bool.or_eq_true, Bool.and_eq_true, decide_eq_true_eq, beq_iff_eq, Bool.or_eq_false_iff,
    Bool.and_eq_false_iff, decide_eq_false_iff_not, beq_eq_false_iff_ne] at *
  omega

theorem within_ofTotal {n : Int} (begun : dayNumber first 1 1 * 86400 * nanosPerSecond ≤ n)
    (unended : n < dayNumber (last + 1) 1 1 * 86400 * nanosPerSecond) : (ofTotal n).Within first last := by
  refine ⟨?_, ?_, plain_ofTotal n⟩
  all_goals
    simp only [ofTotal, nanosPerSecond] at *
    omega

theorem Within.total_ge (h : t.Within first last) : dayNumber first 1 1 * 86400 * nanosPerSecond ≤ t.total := by
  have hbegun := h.begun
  simp only [total, nanosPerSecond]
  omega

theorem Within.total_lt (h : t.Within first last) : t.total < dayNumber (last + 1) 1 1 * 86400 * nanosPerSecond := by
  have hunended := h.unended
  have hplain := h.plain
  simp only [total, nanosPerSecond] at *
  omega

theorem Within.natAbs_total_lt (h : t.Within first 9999) (hf : -719528 ≤ dayNumber first 1 1) :
    t.total.natAbs < 300000000000000000000 := by
  have hlast : dayNumber (9999 + 1) 1 1 = 2932897 := by decide
  have hbegun := h.total_ge
  have hunended := h.total_lt
  rw [hlast] at hunended
  simp only [nanosPerSecond] at *
  omega

theorem representable_ofTotal {n : Int} (hn : n.natAbs < 1000000000000000000000) : (ofTotal n).Representable := by
  have hfirst : dayNumber (-262143) 1 1 = -96465292 := by decide
  have hlast : dayNumber (262142 + 1) 1 1 = 95026237 := by decide
  apply within_ofTotal
  · rw [hfirst, nanosPerSecond]
    omega
  · rw [hlast, nanosPerSecond]
    omega

end Instant

def Span.Representable (d : Span) : Prop :=
  d.natAbs ≤ (Nat.pow 2 63 - 1) * 1000000

theorem Span.representable_of_lt {d : Span} (hd : d.natAbs < 1000000000000000000000) : d.Representable :=
  Nat.le_trans (Nat.le_of_lt hd) (by decide)

end CertEnroll
