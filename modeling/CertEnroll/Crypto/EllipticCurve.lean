import CertEnroll.Crypto.Modular
import CertEnroll.KeyPolicy
import CertEnroll.Octets

namespace CertEnroll.Crypto

structure Group where
  field : Nat
  b : Nat
  order : Nat
  x : Nat
  y : Nat
deriving DecidableEq, Repr

def group224 : Group where
  field := Nat.pow 2 224 - Nat.pow 2 96 + 1
  b := 0xb4050a850c04b3abf54132565044b0b7d7bfd8ba270b39432355ffb4
  order := Nat.pow 2 224 - 0xe95d1f470fc1ec22d6baa3a3d5c3
  x := 0xb70e0cbd6bb4bf7f321390b94a03c1d356c21122343280d6115c1d21
  y := 0xbd376388b5f723fb4c22dfe6cd4375a05a07476444d5819985007e34

def group256 : Group where
  field := Nat.pow 2 256 - Nat.pow 2 224 + Nat.pow 2 192 + Nat.pow 2 96 - 1
  b := 0x5ac635d8aa3a93e7b3ebbd55769886bc651d06b0cc53b0f63bce3c3e27d2604b
  order := Nat.pow 2 256 - Nat.pow 2 224 + Nat.pow 2 192 - 0x4319055258e8617b0c46353d039cdaaf
  x := 0x6b17d1f2e12c4247f8bce6e563a440f277037d812deb33a0f4a13945d898c296
  y := 0x4fe342e2fe1a7f9b8ee7eb4a7c0f9e162bce33576b315ececbb6406837bf51f5

def group384 : Group where
  field := Nat.pow 2 384 - Nat.pow 2 128 - Nat.pow 2 96 + Nat.pow 2 32 - 1
  b := 0xb3312fa7e23ee7e4988e056be3f82d19181d9c6efe8141120314088f5013875ac656398d8a2ed19d2a85c8edd3ec2aef
  order := Nat.pow 2 384 - 0x389cb27e0bc8d220a7e5f24db74f58851313e695333ad68d
  x := 0xaa87ca22be8b05378eb1c71ef320ad746e1d3b628ba79b9859f741e082542a385502f25dbf55296c3a545e3872760ab7
  y := 0x3617de4a96262c6f5d9e98bf9292dc29f8f41dbd289a147ce9da3113b5f0b8c00a60b1ce1d7e819d7a431d7c90ea0e5f

def group521 : Group where
  field := Nat.pow 2 521 - 1
  b := 0x51953eb9618e1c9a1f929a21a0b68540eea2da725b99b315f3b8b489918ef109e156193951ec7e937b1652c0bd3bb1bf073573df883d2c34f1ef451fd46b503f00
  order := Nat.pow 2 521 - 0x5ae79787c40d069948033feb708f65a2fc44a36477663b851449048e16ec79bf7
  x := 0xc6858e06b70404e9cd9e3ecb662395b4429c648139053fb521f828af606b4d3dbaa14b5e77efe75928fe1dc127a2ffa8de3348b3c1856a429bf97e7e31c2e5bd66
  y := 0x11839296a789a3bc0045c8a5fb42c7d1bd998f54449579b446817afbd17273e662c97ee72995ef42640c550b9013fad0761353c7086a272c24088be94769fd16650

def groupOf : Curve → Group
  | .p224 => group224
  | .p256 => group256
  | .p384 => group384
  | .p521 => group521

/-- The point `(x / z², y / z³)`; with `z = 0` the neutral element. -/
structure Point where
  x : Nat
  y : Nat
  z : Nat
deriving DecidableEq, Repr

namespace Group

def neutral : Point := ⟨1, 1, 0⟩

def generator (g : Group) : Point := ⟨g.x, g.y, 1⟩

def mul (g : Group) (a b : Nat) : Nat :=
  a * b % g.field

def sub (g : Group) (a b : Nat) : Nat :=
  (a + g.field - b) % g.field

def double (g : Group) (p : Point) : Point :=
  if p.z = 0 ∨ p.y = 0 then neutral
  else
    let delta := g.mul p.z p.z
    let gamma := g.mul p.y p.y
    let beta := g.mul p.x gamma
    let alpha := g.mul 3 (g.mul (g.sub p.x delta) (p.x + delta))
    let x := g.sub (g.mul alpha alpha) (g.mul 8 beta)
    let z := g.mul 2 (g.mul p.y p.z)
    let y := g.sub (g.mul alpha (g.sub (g.mul 4 beta) x)) (g.mul 8 (g.mul gamma gamma))
    ⟨x, y, z⟩

def add (g : Group) (p q : Point) : Point :=
  if p.z = 0 then q
  else if q.z = 0 then p
  else
    let pz := g.mul p.z p.z
    let qz := g.mul q.z q.z
    let u := g.mul p.x qz
    let s := g.mul p.y (g.mul qz q.z)
    let h := g.sub (g.mul q.x pz) u
    let r := g.sub (g.mul q.y (g.mul pz p.z)) s
    if h = 0 then
      if r = 0 then g.double p else neutral
    else
      let hh := g.mul h h
      let hhh := g.mul h hh
      let v := g.mul u hh
      let x := g.sub (g.sub (g.mul r r) hhh) (g.mul 2 v)
      ⟨x, g.sub (g.mul r (g.sub v x)) (g.mul s hhh), g.mul h (g.mul p.z q.z)⟩

def times (g : Group) (n : Nat) (p : Point) : Point :=
  if n = 0 then neutral
  else
    let twice := g.double (g.times (n / 2) p)
    if n % 2 = 1 then g.add twice p else twice
termination_by n
decreasing_by omega

def coordinates (g : Group) (p : Point) : Option (Nat × Nat) :=
  if p.z = 0 then none
  else
    let i := inverse g.field p.z
    let ii := g.mul i i
    some (g.mul p.x ii, g.mul p.y (g.mul ii i))

def contains (g : Group) (x y : Nat) : Bool :=
  x < g.field && y < g.field && g.mul y y == (x * x * x + (g.field - 3) * x + g.b) % g.field

def fieldOctets (g : Group) : Nat := Octets.width g.field

end Group

end CertEnroll.Crypto
