import CertEnroll.Octets
import Mathlib.Data.List.Induction
import Mathlib.Tactic.Ring

namespace CertEnroll.Octets

theorem toNat_append (xs ys : Octets) : toNat (xs ++ ys) = toNat xs * 256 ^ ys.length + toNat ys := by
  induction ys using List.reverseRecOn with
  | nil => simp [toNat]
  | append_singleton ys b ih =>
    have hlast (zs : Octets) : toNat (zs ++ [b]) = 256 * toNat zs + b.toNat := by simp [toNat]
    rw [← List.append_assoc, hlast, hlast, ih, List.length_append, List.length_singleton]
    ring

@[simp] theorem toNat_singleton (b : UInt8) : toNat [b] = b.toNat := by
  simp [toNat]

theorem toNat_cons (b : UInt8) (bs : Octets) : toNat (b :: bs) = b.toNat * 256 ^ bs.length + toNat bs := by
  rw [← List.singleton_append, toNat_append, toNat_singleton]

theorem toNat_lt (octets : Octets) : toNat octets < 256 ^ octets.length := by
  induction octets with
  | nil => decide
  | cons b bs ih =>
    have hb : (b.toNat + 1) * 256 ^ bs.length ≤ 256 * 256 ^ bs.length := Nat.mul_le_mul_right _ b.toNat_lt
    rw [toNat_cons, List.length_cons, Nat.pow_succ']
    rw [Nat.succ_mul] at hb
    omega

theorem toNat_dropWhile (octets : Octets) : toNat (octets.dropWhile (· == 0)) = toNat octets := by
  induction octets with
  | nil => rfl
  | cons b bs ih =>
    rw [List.dropWhile_cons]
    split
    · rename_i hb
      rw [ih, toNat_cons, eq_of_beq hb, UInt8.toNat_zero, Nat.zero_mul, Nat.zero_add]
    · rfl

@[simp] theorem ofNat_length (size n : Nat) : (ofNat size n).length = size := by
  induction size generalizing n with
  | zero => rfl
  | succ size ih => simp [ofNat, ih]

theorem toNat_ofNat {size n : Nat} (h : n < 256 ^ size) : toNat (ofNat size n) = n := by
  induction size generalizing n with
  | zero =>
    have : n = 0 := by simpa using h
    simp [ofNat, toNat, this]
  | succ size ih =>
    have hdiv : n / 256 < 256 ^ size := by
      apply Nat.div_lt_of_lt_mul
      rwa [← Nat.pow_succ']
    have hmod : (UInt8.ofNat (n % 256)).toNat = n % 256 := by simp
    rw [ofNat, toNat_append, ih hdiv, toNat_singleton, hmod, List.length_singleton]
    omega

theorem ofNat_toNat (octets : Octets) : ofNat octets.length (toNat octets) = octets := by
  induction octets using List.reverseRecOn with
  | nil => rfl
  | append_singleton octets b ih =>
    have hdiv : (toNat octets * 256 + b.toNat) / 256 = toNat octets := by
      have := b.toNat_lt
      omega
    have hmod : (toNat octets * 256 + b.toNat) % 256 = b.toNat := by
      have := b.toNat_lt
      omega
    rw [List.length_append, List.length_singleton, ofNat, toNat_append, toNat_singleton, List.length_singleton,
      Nat.pow_one, hdiv, hmod, ih, UInt8.ofNat_toNat]

theorem width_eq (n : Nat) : width n = if n = 0 then 0 else n.log2 / 8 + 1 := by
  unfold width
  by_cases hn : n = 0
  · simp [hn]
  · rw [if_neg hn, if_neg hn]
    split <;> omega

theorem lt_width (n : Nat) : n < 256 ^ width n := by
  rw [width_eq]
  split
  · omega
  · rename_i hn
    have h256 : (256 : Nat) = 2 ^ 8 := rfl
    rw [h256, ← pow_mul]
    apply (Nat.log2_lt hn).mp
    omega

theorem width_le {size n : Nat} (h : n < 256 ^ size) : width n ≤ size := by
  rw [width_eq]
  split
  · omega
  · rename_i hn
    have h256 : (256 : Nat) = 2 ^ 8 := rfl
    rw [h256, ← pow_mul] at h
    have := (Nat.log2_lt hn).mpr h
    omega

theorem width_toNat {b : UInt8} (hb : b ≠ 0) (bs : Octets) : width (toNat (b :: bs)) = bs.length + 1 := by
  have hpos : 1 ≤ b.toNat := Nat.pos_of_ne_zero fun h => hb (UInt8.toNat_inj.mp h)
  have hlow : 256 ^ bs.length ≤ toNat (b :: bs) := by
    rw [toNat_cons]
    exact Nat.le_add_right_of_le (Nat.le_mul_of_pos_left _ hpos)
  apply Nat.le_antisymm (width_le (toNat_lt (b :: bs)))
  by_contra hw
  have hw' : width (toNat (b :: bs)) ≤ bs.length := Nat.lt_succ_iff.mp (Nat.not_le.mp hw)
  have hle : 256 ^ width (toNat (b :: bs)) ≤ 256 ^ bs.length := Nat.pow_le_pow_right (by decide) hw'
  exact absurd (lt_width (toNat (b :: bs))) (Nat.not_lt.mpr (hle.trans hlow))

theorem toNat_ofNat_width (n : Nat) : toNat (ofNat (width n) n) = n :=
  toNat_ofNat (lt_width n)

theorem chunks_flatten {size fuel : Nat} {octets : Octets} (hs : 0 < size) (hf : octets.length ≤ fuel) :
    (chunks size fuel octets).flatten = octets := by
  induction fuel generalizing octets with
  | zero =>
    rw [List.length_eq_zero_iff.mp (Nat.le_zero.mp hf)]
    rfl
  | succ fuel ih =>
    cases octets with
    | nil => rfl
    | cons b octets =>
      rw [chunks, List.flatten_cons, ih]
      · exact List.take_append_drop size (b :: octets)
      · simp only [List.length_drop, List.length_cons] at hf ⊢
        omega

theorem mem_chunks {size fuel : Nat} {octets piece : Octets} (hs : 0 < size)
    (hp : piece ∈ chunks size fuel octets) : piece ≠ [] ∧ ∀ b ∈ piece, b ∈ octets := by
  induction fuel generalizing octets with
  | zero => simp [chunks] at hp
  | succ fuel ih =>
    cases octets with
    | nil => simp [chunks] at hp
    | cons b octets =>
      rw [chunks, List.mem_cons] at hp
      rcases hp with rfl | hp
      · constructor
        · simp only [ne_eq, List.take_eq_nil_iff, reduceCtorEq, or_false]
          omega
        · exact fun c hc => List.mem_of_mem_take hc
      · obtain ⟨hne, hmem⟩ := ih hp
        exact ⟨hne, fun c hc => List.mem_of_mem_drop (hmem c hc)⟩

end CertEnroll.Octets
