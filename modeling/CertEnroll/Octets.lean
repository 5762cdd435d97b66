namespace CertEnroll

abbrev Octets := List UInt8

namespace Octets

def toNat (octets : Octets) : Nat :=
  octets.foldl (fun n b => 256 * n + b.toNat) 0

def ofNat : Nat → Nat → Octets
  | 0, _ => []
  | width + 1, n => ofNat width (n / 256) ++ [UInt8.ofNat (n % 256)]

def width (n : Nat) : Nat :=
  (n.log2 + 1) / 8 + if n = 0 then 0 else if (n.log2 + 1) % 8 = 0 then 0 else 1

def chunks (size : Nat) : Nat → Octets → List Octets
  | 0, _ | _ + 1, [] => []
  | fuel + 1, b :: octets => (b :: octets).take size :: chunks size fuel ((b :: octets).drop size)

def chars (octets : Octets) : List Char :=
  octets.map fun b => Char.ofNat b.toNat

end Octets

end CertEnroll
