import CertEnroll.Crypto.Ecdsa
import CertEnroll.Crypto.Rsa
import CertEnroll.Der.Identifier
import CertEnroll.Pem
import CertEnroll.Secret

namespace CertEnroll.Crypto

open Der (Tree Identifier)

inductive PublicKey
  | rsa (modulus exponent : Nat)
  | ec (curve : Curve) (x y : Nat)
deriving DecidableEq, Repr

inductive PrivateKey
  | rsa (key : Rsa.PrivateKey)
  | ec (curve : Curve) (key x y : Nat)
deriving DecidableEq, Repr

structure SignatureAlgorithm where
  identifier : Identifier
  parameters : Option Tree

def SignatureAlgorithm.tree (a : SignatureAlgorithm) : Tree :=
  .sequence (a.identifier.tree :: a.parameters.toList)

def pointOctets (c : Curve) (x y : Nat) : Octets :=
  let size := (groupOf c).fieldOctets
  4 :: Octets.ofNat size x ++ Octets.ofNat size y

namespace PublicKey

def octets : PublicKey → Octets
  | .rsa modulus exponent => (Tree.sequence [.nat modulus, .nat exponent]).encode
  | .ec curve x y => pointOctets curve x y

def algorithm : PublicKey → Tree
  | .rsa _ _ => .sequence [Identifier.rsaKey.tree, .null]
  | .ec curve _ _ => .sequence [Identifier.ellipticKey.tree, (Identifier.curve curve).tree]

def tree (k : PublicKey) : Tree :=
  .sequence [k.algorithm, .bitString k.octets]

def curves : List Curve := [.p224, .p256, .p384, .p521]

def readPoint (c : Curve) : Octets → Option PublicKey
  | 4 :: octets =>
    let size := (groupOf c).fieldOctets
    if octets.length = 2 * size then
      some (.ec c (Octets.toNat (octets.take size)) (Octets.toNat (octets.drop size)))
    else none
  | _ => none

def ofTree? : Tree → Option PublicKey
  | .node 0x30 [.node 0x30 [algorithm, parameters], key] => do
    let algorithm ← Identifier.ofTree? algorithm
    let octets ← key.bitString?
    if algorithm = Identifier.rsaKey then
      match Tree.decode octets with
      | some (.node 0x30 [modulus, exponent]) => return .rsa (← modulus.nat?) (← exponent.nat?)
      | _ => none
    else
      guard (algorithm = Identifier.ellipticKey)
      let named ← Identifier.ofTree? parameters
      let c ← curves.find? fun c => Identifier.curve c = named
      readPoint c octets
  | _ => none

def verify (message signature : Octets) : PublicKey → Bool
  | .rsa modulus exponent => Rsa.verify modulus exponent message signature
  | .ec curve x y =>
    match Tree.decode signature with
    | some (.node 0x30 [r, s]) =>
      match r.nat?, s.nat? with
      | some r, some s => Ecdsa.verify curve x y message ⟨r, s⟩
      | _, _ => false
    | _ => false

end PublicKey

namespace PrivateKey

def generateOn (c : Curve) (s : Stream) : Option (PrivateKey × Stream) := do
  let g := groupOf c
  let (key, s) ← Ecdsa.drawBelow g.order Ecdsa.drawLimit s
  let (x, y) ← g.coordinates (g.times key g.generator)
  return (.ec c key x y, s)

def generate : KeySpec → Stream → Option (PrivateKey × Stream)
  | .rsa bits, s => (Rsa.generate bits s).map fun (key, s) => (.rsa key, s)
  | .ec curve, s => generateOn curve s

def publicKey : PrivateKey → PublicKey
  | .rsa key => .rsa key.modulus key.publicExponent
  | .ec curve _ x y => .ec curve x y

def algorithm : PrivateKey → SignatureAlgorithm
  | .rsa _ => ⟨Identifier.rsaWithSha256, some .null⟩
  | .ec curve _ _ _ => ⟨Identifier.curveSignature curve, none⟩

def sign (message : Octets) : PrivateKey → Option Octets
  | .rsa key => Rsa.sign key message
  | .ec curve key _ _ =>
    (Ecdsa.sign curve key message).map fun s => (Tree.sequence [.nat s.r, .nat s.s]).encode

def rsaTree (k : Rsa.PrivateKey) : Tree :=
  .sequence
    [.nat 0, .nat k.modulus, .nat k.publicExponent, .nat k.privateExponent, .nat k.prime1,
      .nat k.prime2, .nat (k.privateExponent % (k.prime1 - 1)),
      .nat (k.privateExponent % (k.prime2 - 1)), .nat (inverse k.prime1 k.prime2)]

def tree : PrivateKey → Tree
  | .rsa key => rsaTree key
  | .ec curve key x y =>
    .sequence
      [.nat 1, .octetString (Octets.ofNat (Octets.width (groupOf curve).order) key),
        .tagged 1 [.bitString (pointOctets curve x y)]]

def label : PrivateKey → String
  | .rsa _ => "RSA PRIVATE KEY"
  | .ec _ _ _ _ => "EC PRIVATE KEY"

def pem (k : PrivateKey) : Secret :=
  ⟨(Pem.Block.mk k.label k.tree.encode).write⟩

end PrivateKey

end CertEnroll.Crypto
