import CertEnroll.Crypto.Sha2

namespace CertEnroll.Crypto

def hmac (d : Digest) (key message : Octets) : Octets :=
  let key := if d.blockOctets < key.length then d.hash key else key
  let key := key ++ List.replicate (d.blockOctets - key.length) 0
  d.hash (key.map (· ^^^ 0x5c) ++ d.hash (key.map (· ^^^ 0x36) ++ message))

structure Stream where
  digest : Digest
  key : Octets
  value : Octets
deriving DecidableEq, Repr

namespace Stream

def stir (mark : UInt8) (seed : Octets) (s : Stream) : Stream :=
  let key := hmac s.digest s.key (s.value ++ mark :: seed)
  { s with key, value := hmac s.digest key s.value }

def ofSeed (d : Digest) (seed : Octets) : Stream :=
  let fresh : Stream := ⟨d, List.replicate d.size 0, List.replicate d.size 1⟩
  (fresh.stir 0 seed).stir 1 seed

def blocks : Nat → Stream → Octets × Stream
  | 0, s => ([], s)
  | n + 1, s =>
    let value := hmac s.digest s.key s.value
    let (rest, s) := blocks n { s with value }
    (value ++ rest, s)

def draw (size : Nat) (s : Stream) : Octets × Stream :=
  let (octets, s) := s.blocks ((size + s.digest.size - 1) / s.digest.size)
  (octets.take size, s.stir 0 [])

end Stream

end CertEnroll.Crypto
