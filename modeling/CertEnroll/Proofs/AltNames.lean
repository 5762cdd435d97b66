import CertEnroll.Proofs.Handout

namespace CertEnroll.VaultPki

open SigningRequest (Contents trialKey generate_trial)

def sentText (name : String) (sent : Http.Request) : Option String :=
  sent.body.bind fun body => (body.member? name).bind Json.string?

def namesCarried (sent : Http.Request) : Option (List String) :=
  (sentText "csr" sent).bind fun pem => (Contents.ofPem? pem).map Contents.networkNames

def namesTold (sent : Http.Request) : Option (List String) :=
  (sentText "alt_names" sent).map SubjectNames.parseAltNames

variable {names : SubjectNames} {spec : KeySpec} {seed : Octets} {request : SigningRequest}
  {material : KeyMaterial}

theorem namesTold_httpRequest (request : SigningRequest) (ca : VaultPki) :
    namesTold (ca.httpRequest request) =
      some (SubjectNames.parseAltNames (",".intercalate request.names.altNames)) :=
  rfl

theorem namesCarried_httpRequest (hb : SigningRequest.build names spec seed = .ok (request, material))
    (hl : request.pem.length < Der.lengthLimit) (ca : VaultPki) :
    namesCarried (ca.httpRequest request) = some names.altNames := by
  obtain ⟨contents, hread, hnames⟩ := SigningRequest.ofPem?_of_build hb hl
  have hsent : sentText "csr" (ca.httpRequest request) = some request.pem := rfl
  rw [namesCarried, hsent, Option.bind_some, hread, Option.map_some, hnames]

/-- The request carries all names in their order. The server is told the same ones unless a name has a comma in
it: such a name it takes for several. -/
theorem names_told_iff {commonName : String} {altNames : List String}
    (hn : SubjectNames.normalize commonName altNames = .ok names)
    (hb : SigningRequest.build names spec seed = .ok (request, material))
    (hl : request.pem.length < Der.lengthLimit) (chance : Octets) (ca : VaultPki) :
    ∃ sent finish, ca.submit chance request = .ask sent finish ∧ namesCarried sent = some names.altNames ∧
      (namesTold sent = namesCarried sent ↔ ∀ name ∈ names.altNames, ',' ∉ name.toList) := by
  refine ⟨ca.httpRequest request, _, rfl, namesCarried_httpRequest hb hl ca, ?_⟩
  obtain ⟨hcommon, htidy⟩ := SubjectNames.mem_of_normalize hn
  obtain ⟨key, rest, signature, -, -, -, rfl, -⟩ := SigningRequest.build_eq_ok hb
  rw [namesCarried_httpRequest hb hl, namesTold_httpRequest, Option.some_inj,
    SubjectNames.parseAltNames_intercalate (List.ne_nil_of_mem hcommon) htidy]

def doubleNames : SubjectNames := ⟨"a.example.com", ["b.example.com,c.example.com", "a.example.com"]⟩

def doubleSignature : Octets :=
  [48, 70, 2, 33, 0, 243, 147, 37, 116, 172, 9, 255, 8, 223, 157, 118, 16, 10, 183, 244, 152, 91, 230, 12, 50, 205,
    64, 92, 91, 177, 141, 81, 153, 142, 214, 146, 147, 2, 33, 0, 251, 51, 251, 182, 185, 47, 91, 104, 154, 38, 114,
    20, 138, 76, 87, 113, 38, 55, 78, 160, 205, 244, 226, 71, 153, 76, 29, 58, 74, 99, 34, 166]

theorem normalize_double :
    SubjectNames.normalize "a.example.com" ["b.example.com,c.example.com"] = .ok doubleNames := by
  decide

theorem build_double :
    SigningRequest.build doubleNames (.ec .p256) [1] =
      .ok (⟨(SigningRequest.block doubleNames trialKey doubleSignature).write, doubleNames, .ec .p256⟩,
        ⟨.ec .p256, trialKey.pem⟩) := by
  obtain ⟨rest, hkey⟩ := generate_trial
  apply SigningRequest.build_of_sign hkey
  · decide
  · decide +kernel

theorem length_double :
    (SigningRequest.block doubleNames trialKey doubleSignature).write.length < Der.lengthLimit := by
  rw [← String.length_toList, Pem.write_toList]
  decide +kernel

theorem names_told_iff_double :
    ∃ request sent finish, trialVault.submit [] request = .ask sent finish ∧
      namesCarried sent = some doubleNames.altNames ∧ namesTold sent ≠ namesCarried sent := by
  obtain ⟨sent, finish, hsubmit, hcarried, hiff⟩ :=
    names_told_iff normalize_double build_double length_double [] trialVault
  refine ⟨_, sent, finish, hsubmit, hcarried, fun htold => ?_⟩
  exact absurd (hiff.mp htold _ List.mem_cons_self) (by decide)

/-- One name is asked for, and the server is told of two others. -/
theorem double_name_told_as_two :
    ∃ names request material sent finish,
      SubjectNames.normalize "a.example.com" ["b.example.com,c.example.com"] = .ok names ∧
      SigningRequest.build names (.ec .p256) [1] = .ok (request, material) ∧
      trialVault.submit [] request = .ask sent finish ∧
      namesCarried sent = some ["b.example.com,c.example.com", "a.example.com"] ∧
      namesTold sent = some ["b.example.com", "c.example.com", "a.example.com"] := by
  refine ⟨doubleNames, _, _, _, _, normalize_double, build_double, rfl, ?_, ?_⟩
  · exact namesCarried_httpRequest build_double length_double trialVault
  · rw [namesTold_httpRequest]
    decide

end CertEnroll.VaultPki
