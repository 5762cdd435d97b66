import CertEnroll.Octets

namespace CertEnroll.Der

inductive Tree
  | leaf (tag : UInt8) (content : Octets)
  | node (tag : UInt8) (items : List Tree)
deriving Inhabited, Repr

def lengthOctets (n : Nat) : Octets :=
  if n < 128 then [UInt8.ofNat n]
  else UInt8.ofNat (128 + Octets.width n) :: Octets.ofNat (Octets.width n) n

def element (tag : UInt8) (content : Octets) : Octets :=
  tag :: lengthOctets content.length ++ content

namespace Tree

mutual

def encode : Tree → Octets
  | leaf tag content => element tag content
  | node tag items => element tag (encodeAll items)

def encodeAll : List Tree → Octets
  | [] => []
  | t :: ts => encode t ++ encodeAll ts

end

def isNodeTag (tag : UInt8) : Bool :=
  tag.toNat / 32 % 2 == 1

def decodeLength : Octets → Option (Nat × Octets)
  | [] => none
  | b :: octets =>
    if b.toNat < 128 then some (b.toNat, octets)
    else
      let size := b.toNat - 128
      let n := Octets.toNat (octets.take size)
      if size ≤ octets.length ∧ Octets.width n = size ∧ 128 ≤ n then some (n, octets.drop size)
      else none

def decodeElement : Octets → Option (UInt8 × Octets × Octets)
  | [] => none
  | tag :: octets => do
    let (n, octets) ← decodeLength octets
    guard (tag.toNat % 32 ≠ 31 ∧ n ≤ octets.length)
    return (tag, octets.take n, octets.drop n)

def decodeItems : Nat → Octets → Option (List Tree)
  | _, [] => some []
  | 0, _ :: _ => none
  | fuel + 1, b :: octets => do
    let (tag, content, rest) ← decodeElement (b :: octets)
    let first ←
      if isNodeTag tag then (decodeItems fuel content).map (node tag) else some (leaf tag content)
    return first :: (← decodeItems fuel rest)

def decodeAll (octets : Octets) : Option (List Tree) :=
  decodeItems octets.length octets

def decode (octets : Octets) : Option Tree :=
  match decodeAll octets with
  | some [t] => some t
  | _ => none

def sequence (items : List Tree) : Tree := node 0x30 items

def set (items : List Tree) : Tree := node 0x31 items

def tagged (n : UInt8) (items : List Tree) : Tree := node (0xa0 + n) items

def null : Tree := leaf 0x05 []

def boolean (b : Bool) : Tree := leaf 0x01 [if b then 0xff else 0]

def natOctets (n : Nat) : Octets :=
  let octets := Octets.ofNat (max 1 (Octets.width n)) n
  match octets with
  | b :: _ => if 128 ≤ b.toNat then 0 :: octets else octets
  | [] => []

def nat (n : Nat) : Tree := leaf 0x02 (natOctets n)

def octetString (content : Octets) : Tree := leaf 0x04 content

def bitString (content : Octets) : Tree := leaf 0x03 (0 :: content)

def nat? : Tree → Option Nat
  | leaf 0x02 content =>
    let n := Octets.toNat content
    if content = natOctets n then some n else none
  | _ => none

def bitString? : Tree → Option Octets
  | leaf 0x03 (0 :: content) => some content
  | _ => none

end Tree

end CertEnroll.Der
