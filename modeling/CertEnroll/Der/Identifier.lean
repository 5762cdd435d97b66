import CertEnroll.Der.Tree
import CertEnroll.KeyPolicy

namespace CertEnroll.Der

structure Identifier where
  arcs : List Nat
deriving DecidableEq, Repr

namespace Identifier

def text (i : Identifier) : String :=
  ".".intercalate (i.arcs.map toString)

def groups : Nat → Nat → List Nat
  | 0, _ => []
  | fuel + 1, n => if n < 128 then [n] else groups fuel (n / 128) ++ [n % 128]

def arcOctets (n : Nat) : Octets :=
  let gs := groups (n + 1) n
  gs.dropLast.map (fun g => UInt8.ofNat (128 + g)) ++ gs.getLast?.toList.map UInt8.ofNat

def octets (i : Identifier) : Octets :=
  match i.arcs with
  | a :: b :: arcs => ((40 * a + b) :: arcs).flatMap arcOctets
  | _ => []

def tree (i : Identifier) : Tree :=
  .leaf 0x06 i.octets

def readArcs : Nat → Octets → List Nat
  | _, [] => []
  | n, b :: octets =>
    let n := 128 * n + b.toNat % 128
    if b.toNat < 128 then n :: readArcs 0 octets else readArcs n octets

def ofOctets (octets : Octets) : Identifier :=
  match readArcs 0 octets with
  | [] => ⟨[]⟩
  | n :: arcs => ⟨(if n < 80 then [n / 40, n % 40] else [2, n - 80]) ++ arcs⟩

def ofTree? : Tree → Option Identifier
  | .leaf 0x06 content =>
    let i := ofOctets content
    if i.octets = content then some i else none
  | _ => none

def commonName : Identifier := ⟨[2, 5, 4, 3]⟩

def subjectKey : Identifier := ⟨[2, 5, 29, 14]⟩

def keyUsage : Identifier := ⟨[2, 5, 29, 15]⟩

def alternativeNames : Identifier := ⟨[2, 5, 29, 17]⟩

def basicConstraints : Identifier := ⟨[2, 5, 29, 19]⟩

def extensionRequest : Identifier := ⟨[1, 2, 840, 113549, 1, 9, 14]⟩

def rsaKey : Identifier := ⟨[1, 2, 840, 113549, 1, 1, 1]⟩

def rsaWithSha256 : Identifier := ⟨[1, 2, 840, 113549, 1, 1, 11]⟩

def ellipticKey : Identifier := ⟨[1, 2, 840, 10045, 2, 1]⟩

def curve : Curve → Identifier
  | .p224 => ⟨[1, 3, 132, 0, 33]⟩
  | .p256 => ⟨[1, 2, 840, 10045, 3, 1, 7]⟩
  | .p384 => ⟨[1, 3, 132, 0, 34]⟩
  | .p521 => ⟨[1, 3, 132, 0, 35]⟩

def curveSignature : Curve → Identifier
  | .p224 => ⟨[1, 2, 840, 10045, 4, 3, 1]⟩
  | .p256 => ⟨[1, 2, 840, 10045, 4, 3, 2]⟩
  | .p384 => ⟨[1, 2, 840, 10045, 4, 3, 3]⟩
  | .p521 => ⟨[1, 2, 840, 10045, 4, 3, 4]⟩

end Identifier

end CertEnroll.Der
