import CertEnroll.Calendar
import CertEnroll.Crypto.Key

namespace CertEnroll

open Der (Tree Identifier)
open Crypto (PublicKey PrivateKey)

structure CertificateForm where
  serial : Octets
  issuer : Tree
  notBefore : Instant
  notAfter : Instant
  subject : Tree
  publicKey : Tree
  extensions : List Tree

namespace CertificateForm

def timeDigits (short : Bool) (t : Instant) : String :=
  let (y, m, d) := Calendar.dateOf (t.second / 86400)
  let s := (t.second % 86400).toNat
  let two (n : Nat) : String := Calendar.padded 2 n
  (if short then two (y % 100).toNat else Calendar.padded 4 y.toNat) ++ two m ++ two d ++
    two (s / 3600) ++ two (s / 60 % 60) ++ two (s % 60) ++ "Z"

def time (t : Instant) : Tree :=
  let (y, _, _) := Calendar.dateOf (t.second / 86400)
  if 1950 ≤ y ∧ y ≤ 2049 then .leaf 0x17 (Text.Utf8.encode (timeDigits true t))
  else .leaf 0x18 (Text.Utf8.encode (timeDigits false t))

def extension (i : Identifier) (critical : Bool) (value : Tree) : Tree :=
  .sequence
    ([i.tree] ++ (if critical then [.boolean true] else []) ++ [.octetString value.encode])

def tree (f : CertificateForm) (algorithm : Tree) : Tree :=
  .sequence
    ([.tagged 0 [.nat 2], .nat (Octets.toNat f.serial), algorithm, f.issuer,
      .sequence [time f.notBefore, time f.notAfter], f.subject, f.publicKey] ++
      (if f.extensions.isEmpty then [] else [.tagged 3 [.sequence f.extensions]]))

def sign (f : CertificateForm) (key : PrivateKey) : Option String := do
  let algorithm := key.algorithm.tree
  let info := f.tree algorithm
  let signature ← key.sign info.encode
  return (Pem.Block.mk Pem.certificateLabel
    (Tree.sequence [info, algorithm, .bitString signature]).encode).write

end CertificateForm

end CertEnroll
