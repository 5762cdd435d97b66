import CertEnroll.Octets

/-!
The SHA-2 hash functions. Two families share all but the size of their words and the distances by which
words are turned. The constants are bits of roots of the first prime numbers.
-/

namespace CertEnroll.Crypto

def rootFrom (power n : Nat) : Nat → Nat → Nat
  | 0, least => least
  | bits + 1, least =>
    let larger := least + Nat.pow 2 bits
    rootFrom power n bits (if Nat.pow larger power ≤ n then larger else least)

def rootBits (power bits n : Nat) : Nat :=
  rootFrom power (n * Nat.pow 2 (power * bits)) (bits + 5) 0 % Nat.pow 2 bits

def isPrimeBelow (primes : List Nat) (n : Nat) : Bool :=
  primes.all fun p => n % p ≠ 0

def smallPrimes : List Nat :=
  (List.range' 2 408).foldl (fun primes n => if isPrimeBelow primes n then primes ++ [n] else primes) []

structure Turns where
  first : Nat
  second : Nat
  third : Nat

structure Family where
  wordOctets : Nat
  rounds : Nat
  upper0 : Turns
  upper1 : Turns
  lower0 : Turns
  lower1 : Turns

def narrow : Family :=
  ⟨4, 64, ⟨2, 13, 22⟩, ⟨6, 11, 25⟩, ⟨7, 18, 3⟩, ⟨17, 19, 10⟩⟩

def wide : Family :=
  ⟨8, 80, ⟨28, 34, 39⟩, ⟨14, 18, 41⟩, ⟨1, 8, 7⟩, ⟨19, 61, 6⟩⟩

namespace Family

def bits (w : Family) : Nat := 8 * w.wordOctets

def blockOctets (w : Family) : Nat := 16 * w.wordOctets

abbrev Word (w : Family) := BitVec w.bits

def turned {w : Family} (t : Turns) (x : w.Word) : w.Word :=
  x.rotateRight t.first ^^^ x.rotateRight t.second ^^^ x.rotateRight t.third

def shifted {w : Family} (t : Turns) (x : w.Word) : w.Word :=
  x.rotateRight t.first ^^^ x.rotateRight t.second ^^^ x >>> t.third

structure State (w : Family) where
  a : w.Word
  b : w.Word
  c : w.Word
  d : w.Word
  e : w.Word
  f : w.Word
  g : w.Word
  h : w.Word

def constants (w : Family) : List w.Word :=
  (smallPrimes.take w.rounds).map fun p => BitVec.ofNat _ (rootBits 3 w.bits p)

def State.toList {w : Family} (s : w.State) : List w.Word :=
  [s.a, s.b, s.c, s.d, s.e, s.f, s.g, s.h]

def State.add {w : Family} (s t : w.State) : w.State :=
  ⟨s.a + t.a, s.b + t.b, s.c + t.c, s.d + t.d, s.e + t.e, s.f + t.f, s.g + t.g, s.h + t.h⟩

def State.round {w : Family} (s : w.State) (constant word : w.Word) : w.State :=
  let choice := (s.e &&& s.f) ^^^ (~~~s.e &&& s.g)
  let majority := (s.a &&& s.b) ^^^ (s.a &&& s.c) ^^^ (s.b &&& s.c)
  let t := s.h + turned w.upper1 s.e + choice + constant + word
  ⟨t + (turned w.upper0 s.a + majority), s.a, s.b, s.c, s.d + t, s.e, s.f, s.g⟩

def nextWord {w : Family} (window : List w.Word) : w.Word :=
  let word (i : Nat) : w.Word := window.getD i 0
  shifted w.lower1 (word 14) + word 9 + shifted w.lower0 (word 1) + word 0

def run {w : Family} : List w.Word → List w.Word → w.State → w.State
  | [], _, s => s
  | constant :: constants, window, s =>
    run constants (window.drop 1 ++ [nextWord window]) (s.round constant (window.getD 0 0))

def compress {w : Family} (constants : List w.Word) (s : w.State) (block : Octets) : w.State :=
  let words := (Octets.chunks w.wordOctets 16 block).map fun piece => BitVec.ofNat w.bits (Octets.toNat piece)
  s.add (run constants words s)

def padded (w : Family) (message : Octets) : Octets :=
  let used := message.length + 1 + 2 * w.wordOctets
  let zeros := (w.blockOctets - used % w.blockOctets) % w.blockOctets
  message ++ 0x80 :: List.replicate zeros 0 ++
    Octets.ofNat (2 * w.wordOctets) (8 * message.length)

def hash (w : Family) (constants : List w.Word) (start : w.State) (message : Octets) : Octets :=
  let text := w.padded message
  let last := (Octets.chunks w.blockOctets text.length text).foldl (compress constants) start
  last.toList.flatMap fun x => Octets.ofNat w.wordOctets x.toNat

def startOf (w : Family) (words : Nat → Nat) : w.State :=
  let word (i : Nat) : w.Word := BitVec.ofNat _ (words (smallPrimes.getD i 0))
  ⟨word 0, word 1, word 2, word 3, word 4, word 5, word 6, word 7⟩

end Family

def narrowConstants : List narrow.Word := narrow.constants

def wideConstants : List wide.Word := wide.constants

def laterPrime (p : Nat) : Nat :=
  smallPrimes.getD (smallPrimes.idxOf p + 8) 0

def start224 : narrow.State := narrow.startOf fun p => rootBits 2 64 (laterPrime p)

def start256 : narrow.State := narrow.startOf fun p => rootBits 2 32 p

def start384 : wide.State := wide.startOf fun p => rootBits 2 64 (laterPrime p)

def start512 : wide.State := wide.startOf fun p => rootBits 2 64 p

inductive Digest
  | sha224
  | sha256
  | sha384
  | sha512
deriving DecidableEq, Repr

namespace Digest

def blockOctets : Digest → Nat
  | .sha224 | .sha256 => narrow.blockOctets
  | .sha384 | .sha512 => wide.blockOctets

def size : Digest → Nat
  | .sha224 => 28
  | .sha256 => 32
  | .sha384 => 48
  | .sha512 => 64

def hash (d : Digest) (message : Octets) : Octets :=
  (match d with
    | .sha224 => narrow.hash narrowConstants start224 message
    | .sha256 => narrow.hash narrowConstants start256 message
    | .sha384 => wide.hash wideConstants start384 message
    | .sha512 => wide.hash wideConstants start512 message).take d.size

end Digest

end CertEnroll.Crypto
