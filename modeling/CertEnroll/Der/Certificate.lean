import CertEnroll.Der.Time

namespace CertEnroll.Der

structure Certificate where
  serial : List UInt8
  issuer : List UInt8
  notBefore : Int
  notAfter : Int
  subject : List UInt8
  publicKey : List UInt8
  extensions : List (List UInt8 × List UInt8)
  signed : List UInt8
  signatureAlgorithm : List UInt8
  signature : List UInt8
deriving Repr

def isSmallNumber : List UInt8 → Bool
  | [] => false
  | [b] => b.toNat < 128
  | b :: c :: bytes =>
    b.toNat < 128 && !(b == 0 && c.toNat < 128) &&
      ((b :: c :: bytes).dropWhile (· == 0)).length ≤ 4

def passVersion (bytes : List UInt8) : Option (List UInt8) := do
  if bytes = [] then return []
  let (header, content, rest) ← readElement bytes
  if header.tag = 0 then
    let (number, _) ← readPrimitive integerTag content
    guard (isSmallNumber number)
    return rest
  else return bytes

def readSerial (bytes : List UInt8) : Option (List UInt8 × List UInt8) := do
  let (header, content, rest) ← readLooseElement bytes
  guard (header.tag = integerTag)
  return (content, rest)

def readAlgorithm (bytes : List UInt8) : Option (List UInt8 × List UInt8) := do
  let (content, rest) ← readSequence bytes
  let (identifier, parameters) ← readPrimitive identifierTag content
  guard (parameters = [] ∨ (readElement parameters).isSome)
  return (identifier, rest)

def readValidity (bytes : List UInt8) : Option (Int × Int × List UInt8) := do
  let (content, rest) ← readSequence bytes
  let (notBefore, content) ← readTime content
  let (notAfter, _) ← readTime content
  return (notBefore, notAfter, rest)

def readPublicKey (bytes : List UInt8) : Option (List UInt8 × List UInt8) := do
  let (content, rest) ← readSequence bytes
  let (_, content) ← readAlgorithm content
  let _ ← readBitString content
  return (bytes.take (bytes.length - rest.length), rest)

def passUniqueIdentifier (tag : Nat) (bytes : List UInt8) : Option (List UInt8) := do
  if bytes = [] then return []
  let (header, content, rest) ← readElement bytes
  if header.tag = tag then
    guard (header.category = 2 ∧ !header.constructed ∧ isBitString content)
    return rest
  else return bytes

def booleanTag : Nat := 1

def passFlag (bytes : List UInt8) : List UInt8 :=
  match readPrimitive booleanTag bytes with
  | some ([b], rest) => if b = 0 ∨ b = 255 then rest else bytes
  | _ => bytes

def readExtension (bytes : List UInt8) : Option ((List UInt8 × List UInt8) × List UInt8) := do
  let (content, rest) ← readSequence bytes
  let (identifier, content) ← readPrimitive identifierTag content
  let (value, _) ← readPrimitive octetStringTag (passFlag content)
  return ((identifier, value), rest)

def readExtensionList : Nat → List UInt8 → Option (List (List UInt8 × List UInt8))
  | _, [] => some []
  | 0, _ => none
  | fuel + 1, bytes => do
    let (first, bytes) ← readExtension bytes
    return first :: (← readExtensionList fuel bytes)

def readExtensions (bytes : List UInt8) : Option (List (List UInt8 × List UInt8)) := do
  if bytes = [] then return []
  let (header, bytes) ← readHeader bytes
  guard (header.tag = 3 ∧ header.length.isSome)
  let (content, rest) ← readSequence bytes
  guard (rest = [])
  readExtensionList content.length content

def readCertificate (bytes : List UInt8) : Option Certificate := do
  let (whole, _) ← readSequence bytes
  let (inner, rest) ← readSequence whole
  let signed := whole.take (whole.length - rest.length)
  let (signatureAlgorithm, rest) ← readAlgorithm rest
  let (signature, _) ← readBitString rest
  let inner ← passVersion inner
  let (serial, inner) ← readSerial inner
  let (_, inner) ← readAlgorithm inner
  let (issuer, inner) ← readSequence inner
  let (notBefore, notAfter, inner) ← readValidity inner
  let (subject, inner) ← readSequence inner
  let (publicKey, inner) ← readPublicKey inner
  let inner ← passUniqueIdentifier 1 inner
  let inner ← passUniqueIdentifier 2 inner
  let extensions ← readExtensions inner
  return {
    serial, issuer, notBefore, notAfter, subject, publicKey, extensions, signed, signatureAlgorithm,
    signature }

end CertEnroll.Der
