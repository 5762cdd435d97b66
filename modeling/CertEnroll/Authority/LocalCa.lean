import CertEnroll.Authority.Form
import CertEnroll.Authority.Pickup
import CertEnroll.SigningRequest.Reader
import CertEnroll.Uuid

/-!
A CA of its own, for trying things out. Its root is made with it; requests are signed at once, and the first
polls of each are turned away.
-/

namespace CertEnroll

open Der (Tree Identifier)
open Crypto (PublicKey PrivateKey Stream Digest)

structure LocalCa where
  key : PrivateKey
  root : String
  pendingPolls : Nat
  validitySeconds : Nat
  pickups : PickupTable

namespace LocalCa

def rootName : String := "certwarden local CA"

def rootSubject : Tree := SigningRequest.subject rootName

/-- Ninety days in seconds. -/
def defaultValidity : Nat := 7776000

def rootExtensions (key : PublicKey) : List Tree :=
  [.node 0x30
      [Identifier.keyUsage.tree, .boolean true, .octetString (Tree.leaf 0x03 [1, 0x06]).encode],
    CertificateForm.extension .subjectKey false
      (.octetString ((Digest.sha256.hash key.octets).take 20)),
    CertificateForm.extension .basicConstraints true (.sequence [.boolean true])]

def midnight (y : Int) : Instant := ⟨Calendar.dayNumber y 1 1 * 86400, 0⟩

def rootForm (key : PublicKey) : CertificateForm where
  serial := (Digest.sha256.hash key.octets).take 16
  issuer := rootSubject
  notBefore := midnight 1975
  notAfter := midnight 4096
  subject := rootSubject
  publicKey := key.tree
  extensions := rootExtensions key

def ofKey (pendingPolls : Nat) : Option PrivateKey → Except Error LocalCa
  | none => .error (.internal "Failed to generate CA key: no key found")
  | some key =>
    match (rootForm key.publicKey).sign key with
    | none => .error (.internal "Failed to self-sign CA: no signature found")
    | some root => .ok ⟨key, root, pendingPolls, defaultValidity, {}⟩

def create (pendingPolls : Nat) (seed : Octets) : Except Error LocalCa :=
  ofKey pendingPolls ((PrivateKey.generate (.ec .p256) (Stream.ofSeed .sha256 seed)).map Prod.fst)

def accepts : PublicKey → Bool
  | .rsa modulus _ => 2048 ≤ modulus.log2 + 1 && modulus.log2 + 1 ≤ 8192
  | .ec curve _ _ => curve = .p256 || curve = .p384

def refusal (reason : String) : AuthorityError :=
  .signing s!"unsupported or invalid CSR: {reason}"

def readRequest (pem : String) : Except AuthorityError SigningRequest.Contents :=
  match SigningRequest.Contents.ofPem? pem with
  | none => .error (refusal "Could not parse certificate signing request")
  | some c =>
    if c.key?.any accepts && c.isSigned then .ok c else .error (refusal "Unspecified ring error")

def serialOf (chance : Octets) : Octets :=
  (chance.take 16).mapIdx fun i b => if i = 0 then b &&& 0x7f else b

def leafForm (ca : LocalCa) (now : Instant) (chance : Octets) (c : SigningRequest.Contents) :
    CertificateForm where
  serial := serialOf chance
  issuer := rootSubject
  notBefore := now
  notAfter := now.plus (ca.validitySeconds * nanosPerSecond)
  subject := c.subject
  publicKey := c.publicKey
  extensions :=
    if c.networkNames.isEmpty then []
    else [CertificateForm.extension .alternativeNames false (SigningRequest.alternatives c.networkNames)]

def sign (ca : LocalCa) (now : Instant) (chance : Octets) (pem : String) :
    Except AuthorityError IssuedSet := do
  let c ← readRequest pem
  match (leafForm ca now chance c).sign ca.key with
  | none => throw (.signing "no signature found")
  | some certificate => return ⟨certificate, [ca.root]⟩

def park (id : String) (issued : IssuedSet) (ca : LocalCa) : LocalCa :=
  { ca with pickups := ca.pickups.insert id ⟨ca.pendingPolls, issued⟩ }

def submit (now : Instant) (chance : Octets) (request : SigningRequest) (ca : LocalCa) :
    Except AuthorityError PickupHandle × LocalCa :=
  match ca.sign now chance request.pem with
  | .error e => (.error e, ca)
  | .ok issued =>
    let id := Uuid.text (chance.drop 16)
    (.ok ⟨id⟩, ca.park id issued)

def check (handle : PickupHandle) (ca : LocalCa) : Except RetrieveError Unit × LocalCa :=
  let (reply, pickups) := ca.pickups.check handle.id
  (reply, { ca with pickups })

def take (handle : PickupHandle) (ca : LocalCa) : Except RetrieveError IssuedSet × LocalCa :=
  let (reply, pickups) := ca.pickups.take handle.id
  (reply, { ca with pickups })

def retrieve (handle : PickupHandle) (ca : LocalCa) : Except RetrieveError IssuedSet × LocalCa :=
  match ca.check handle with
  | (.ok (), ca) => ca.take handle
  | (.error e, ca) => (.error e, ca)

def durationText (seconds : Nat) : String :=
  if seconds = 0 then "0ns" else s!"{seconds}s"

def debug (ca : LocalCa) : String :=
  s!"LocalCa \x7b pending_polls: {ca.pendingPolls}, validity: {durationText ca.validitySeconds}, " ++
    s!"pickups: {ca.pickups.size} \x7d"

end LocalCa

end CertEnroll
