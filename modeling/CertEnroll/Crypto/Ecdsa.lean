import CertEnroll.Crypto.EllipticCurve
import CertEnroll.Crypto.Hmac

/-!
Signatures on elliptic curves. The secret number of a signature is drawn from the key and the message, so
a message has one signature under a key.
-/

namespace CertEnroll.Crypto.Ecdsa

structure Signature where
  r : Nat
  s : Nat
deriving DecidableEq, Repr

def digestOf : Curve → Digest
  | .p224 => .sha224
  | .p256 => .sha256
  | .p384 => .sha384
  | .p521 => .sha512

def leading (order : Nat) (octets : Octets) : Nat :=
  Octets.toNat octets / Nat.pow 2 (8 * octets.length - (order.log2 + 1))

def drawBelow (order : Nat) : Nat → Stream → Option (Nat × Stream)
  | 0, _ => none
  | tries + 1, s =>
    let (octets, s) := s.draw (Octets.width order)
    let n := leading order octets
    if 0 < n ∧ n < order then some (n, s) else drawBelow order tries s

def drawLimit : Nat := 256

def signWith (g : Group) (key message : Nat) : Nat → Stream → Option Signature
  | 0, _ => none
  | tries + 1, stream => do
    let (k, stream) ← drawBelow g.order drawLimit stream
    let (x, _) ← g.coordinates (g.times k g.generator)
    let r := x % g.order
    let s := inverse g.order k * ((message + r * key) % g.order) % g.order
    if r = 0 ∨ s = 0 then signWith g key message tries stream else some ⟨r, s⟩

def sign (c : Curve) (key : Nat) (message : Octets) : Option Signature :=
  let g := groupOf c
  let hash := (digestOf c).hash message
  let size := Octets.width g.order
  let seed := Octets.ofNat size key ++ Octets.ofNat size (leading g.order hash % g.order)
  signWith g key (leading g.order hash) drawLimit (Stream.ofSeed (digestOf c) seed)

def verify (c : Curve) (x y : Nat) (message : Octets) (signature : Signature) : Bool :=
  let g := groupOf c
  let n := g.order
  let z := leading n ((digestOf c).hash message)
  let inRange (k : Nat) : Bool := 0 < k && k < n
  g.contains x y && inRange signature.r && inRange signature.s &&
    let w := inverse n signature.s
    let sum := g.add (g.times (z * w % n) g.generator) (g.times (signature.r * w % n) ⟨x, y, 1⟩)
    match g.coordinates sum with
    | some (x, _) => x % n == signature.r
    | none => false

end CertEnroll.Crypto.Ecdsa
