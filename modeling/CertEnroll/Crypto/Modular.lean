namespace CertEnroll.Crypto

def powMod (modulus base exponent : Nat) : Nat :=
  if exponent = 0 then 1 % modulus
  else
    let half := powMod modulus base (exponent / 2)
    let square := half * half % modulus
    if exponent % 2 = 1 then square * base % modulus else square
termination_by exponent
decreasing_by omega

def bezout (a b : Nat) : Int × Int :=
  if b = 0 then (1, 0)
  else
    let (x, y) := bezout b (a % b)
    (y, x - (a / b : Nat) * y)
termination_by b
decreasing_by exact Nat.mod_lt _ (by omega)

def inverse (modulus a : Nat) : Nat :=
  ((bezout (a % modulus) modulus).1 % modulus).toNat

end CertEnroll.Crypto
