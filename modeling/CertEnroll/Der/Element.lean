import CertEnroll.Octets

/-!
Elements of tag, length and content in octets, read with some tolerance: lengths need not be minimal. An
element of indefinite length is taken only where the caller says so.
-/

namespace CertEnroll.Der

structure Header where
  category : Nat
  constructed : Bool
  tag : Nat
  length : Option Nat
deriving DecidableEq, Repr

def readLongTag : Nat → Nat → List UInt8 → Option (Nat × List UInt8)
  | 0, _, _ | _, _, [] => none
  | fuel + 1, tag, b :: bytes =>
    let tag := (tag * 128 + b.toNat % 128) % Nat.pow 2 32
    if b.toNat < 128 then some (tag, bytes) else readLongTag fuel tag bytes

def readLength : List UInt8 → Option (Option Nat × List UInt8)
  | [] => none
  | b :: bytes =>
    let n := b.toNat
    if n < 128 then some (some n, bytes)
    else if n = 128 then some (none, bytes)
    else if n = 255 ∨ bytes.length < n - 128 then none
    else
      let length := Octets.toNat (bytes.take (n - 128))
      if length < Nat.pow 2 64 then some (some length, bytes.drop (n - 128)) else none

def readHeader : List UInt8 → Option (Header × List UInt8)
  | [] => none
  | b :: bytes => do
    let short := b.toNat % 32
    let (tag, bytes) ← if short = 31 then readLongTag 5 0 bytes else some (short, bytes)
    let (length, bytes) ← readLength bytes
    return (⟨b.toNat / 64, b.toNat / 32 % 2 == 1, tag, length⟩, bytes)

def cut (n : Nat) (bytes : List UInt8) : Option (List UInt8 × List UInt8) :=
  if n ≤ bytes.length then some (bytes.splitAt n) else none

def readElement (bytes : List UInt8) : Option (Header × List UInt8 × List UInt8) := do
  let (header, bytes) ← readHeader bytes
  let (content, rest) ← cut (← header.length) bytes
  return (header, content, rest)

/-- What follows an element's content, and whether the element marks the end of a content. Contents of
indefinite length nest at most `depth` deep. -/
def passContent : Nat → Nat → Header → List UInt8 → Option (List UInt8 × Bool)
  | 0, _, _, _ | _, 0, _, _ => none
  | fuel + 1, depth + 1, header, bytes =>
    match header.length with
    | some n =>
      if n = 0 ∧ header.tag = 0 then some (bytes, true)
      else (cut n bytes).map fun (_, rest) => (rest, false)
    | none =>
      if header.constructed then do
        let (inner, bytes) ← readHeader bytes
        let (rest, ended) ← passContent fuel depth inner bytes
        if ended then return (rest, false)
        else passContent fuel (depth + 1) header rest
      else none

def depthLimit : Nat := 50

def readLooseElement (bytes : List UInt8) : Option (Header × List UInt8 × List UInt8) := do
  let (header, bytes) ← readHeader bytes
  let (rest, _) ← passContent (bytes.length + 1) depthLimit header bytes
  let taken := bytes.length - rest.length
  let content := bytes.take (if header.length.isSome then taken else taken - 2)
  return (header, content, rest)

def integerTag : Nat := 2
def bitStringTag : Nat := 3
def octetStringTag : Nat := 4
def identifierTag : Nat := 6
def utcTimeTag : Nat := 23
def generalTimeTag : Nat := 24
def sequenceTag : Nat := 16

def readSequence (bytes : List UInt8) : Option (List UInt8 × List UInt8) := do
  let (header, content, rest) ← readElement bytes
  guard (header.tag = sequenceTag)
  return (content, rest)

def readPrimitive (tag : Nat) (bytes : List UInt8) : Option (List UInt8 × List UInt8) := do
  let (header, content, rest) ← readElement bytes
  guard (header.tag = tag ∧ !header.constructed)
  return (content, rest)

def trailingZeros (b : UInt8) : Nat :=
  ((List.range 8).takeWhile fun i => b.toNat / Nat.pow 2 i % 2 == 0).length

def isBitString : List UInt8 → Bool
  | [] => false
  | [unused] => unused == 0
  | unused :: b :: bytes => unused.toNat ≤ trailingZeros ((b :: bytes).getLastD 0)

def readBitString (bytes : List UInt8) : Option (List UInt8 × List UInt8) := do
  let (content, rest) ← readPrimitive bitStringTag bytes
  guard (isBitString content)
  return (content.drop 1, rest)

end CertEnroll.Der
