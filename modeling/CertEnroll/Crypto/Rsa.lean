import CertEnroll.Crypto.Hmac
import CertEnroll.Crypto.Modular

namespace CertEnroll.Crypto

def splitTwos : Nat → Nat → Nat × Nat
  | 0, n => (n, 0)
  | fuel + 1, n =>
    if n % 2 = 0 ∧ n ≠ 0 then
      let (odd, power) := splitTwos fuel (n / 2)
      (odd, power + 1)
    else (n, 0)

def meetsMinusOne (n : Nat) : Nat → Nat → Bool
  | 0, _ => false
  | fuel + 1, x => x == n - 1 || meetsMinusOne n fuel (x * x % n)

def passesBase (n base : Nat) : Bool :=
  let (odd, power) := splitTwos (n.log2 + 1) (n - 1)
  let x := powMod n base odd
  x == 1 || meetsMinusOne n power x

def isProbablePrime (n : Nat) : Bool :=
  smallPrimes.all (fun p => n % p ≠ 0 || n == p) && (smallPrimes.take 20).all (passesBase n ·)

namespace Rsa

structure PrivateKey where
  modulus : Nat
  publicExponent : Nat
  privateExponent : Nat
  prime1 : Nat
  prime2 : Nat
deriving DecidableEq, Repr

def publicExponent : Nat := 65537

def nextPrime : Nat → Nat → Option Nat
  | 0, _ => none
  | tries + 1, n =>
    if n % publicExponent ≠ 1 ∧ isProbablePrime n then some n else nextPrime tries (n + 2)

def drawPrime (bits : Nat) (s : Stream) : Option (Nat × Stream) := do
  let (octets, s) := s.draw (bits / 8 + 1)
  let low := Octets.toNat octets % Nat.pow 2 (bits - 2)
  let p ← nextPrime (64 * bits) (3 * Nat.pow 2 (bits - 2) + low / 2 * 2 + 1)
  return (p, s)

def generate (bits : Nat) (s : Stream) : Option (PrivateKey × Stream) := do
  guard (8 ≤ bits)
  let (p, s) ← drawPrime (bits - bits / 2) s
  let (q, s) ← drawPrime (bits / 2) s
  guard (p ≠ q ∧ (p * q).log2 + 1 = bits)
  return (⟨p * q, publicExponent, inverse ((p - 1) * (q - 1)) publicExponent, p, q⟩, s)

def hashHeader : Octets :=
  [0x30, 0x31, 0x30, 0x0d, 0x06, 0x09, 0x60, 0x86, 0x48, 0x01, 0x65, 0x03, 0x04, 0x02, 0x01, 0x05, 0x00,
    0x04, 0x20]

def encoded (size : Nat) (message : Octets) : Option Octets :=
  let info := hashHeader ++ Digest.sha256.hash message
  if size < info.length + 11 then none
  else some ([0, 1] ++ List.replicate (size - info.length - 3) 0xff ++ 0 :: info)

def sign (key : PrivateKey) (message : Octets) : Option Octets := do
  let size := Octets.width key.modulus
  let text ← encoded size message
  return Octets.ofNat size (powMod key.modulus (Octets.toNat text) key.privateExponent)

def verify (modulus exponent : Nat) (message signature : Octets) : Bool :=
  let size := Octets.width modulus
  signature.length == size && Octets.toNat signature < modulus &&
    some (Octets.ofNat size (powMod modulus (Octets.toNat signature) exponent)) ==
      encoded size message

end Rsa

end CertEnroll.Crypto
