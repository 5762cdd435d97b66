import CertEnroll.Proofs.Issued
import CertEnroll.Proofs.PollingEnds
import CertEnroll.Proofs.RoleCheck

/-!
What accepted settings promise to those who use them: every role has a kind of key, polling has a pause and ends if it
has a bound, and the backends have what they need, so that only the address of a Vault server can still be wrong.
-/

namespace CertEnroll

open Enrollment

variable {s : Settings} {e : Error} {vaultNamespace : Option String} {seed : Octets}

def KeySpec.IsSupported : KeySpec → Prop
  | .rsa bits => 1024 ≤ bits ∧ bits ≤ 8192
  | .ec _ => True

theorem RolePolicy.isSupported_of_keySpec {p : RolePolicy} {spec : KeySpec} (h : p.keySpec = .ok spec) :
    spec.IsSupported := by
  unfold keySpec at h
  split at h
  · dsimp only at h
    generalize (if p.keyBits = 0 then defaultRsaBits else p.keyBits) = bits at h
    split at h
    · rename_i hbits
      cases h
      exact hbits
    · cases h
  · cases hc : Curve.ofName p.keyCurve with
    | error =>
      rw [hc] at h
      cases h
    | ok curve =>
      rw [hc] at h
      cases h
      trivial
  · cases h

theorem map_eq_error {α β : Type} {x : Except Error α} {f : α → β} : x.map f = .error e ↔ x = .error e := by
  cases x with
  | ok => exact ⟨nofun, nofun⟩
  | error e' => rw [Except.map, Except.error.injEq, Except.error.injEq]

namespace Error

def unsetMessages : List String :=
  ["ca.url is required for tpp", "ca.zone is required for tpp", "ca.access_token is required for tpp",
    "ca.url is required for vault_pki", "ca.role is required for vault_pki",
    "the mock CA backend is only available from tests", "storage.address is required for vault_kv"]

def unset : List Error :=
  unsetMessages.map .config

theorem internal_not_unset (message : String) : .internal message ∉ unset := by
  rw [unset, List.mem_map]
  rintro ⟨_, -, he⟩
  cases he

theorem not_unset_of_invalid {message : String} (hm : message.toList.head? = some 'I') : .config message ∉ unset := by
  have hfirst : ∀ message ∈ unsetMessages, message.toList.head? ≠ some 'I' := by decide
  rw [unset, List.mem_map]
  rintro ⟨_, hunset, he⟩
  cases he
  exact hfirst message hunset hm

end Error

theorem Vault.not_unset_of_connect {address : String} {token : Option Secret}
    (h : connect address token vaultNamespace = .error e) : e ∉ Error.unset := by
  unfold connect at h
  split at h
  · cases h
    apply Error.not_unset_of_invalid
    simp only [String.toList_append]
    rfl
  · split at h
    · cases h
    · cases h
      apply Error.not_unset_of_invalid
      simp only [String.toList_append]
      rfl

namespace LocalCa

theorem internal_of_ofKey {polls : Nat} {key : Option Crypto.PrivateKey} (h : ofKey polls key = .error e) :
    ∃ message, e = .internal message := by
  unfold ofKey at h
  split at h
  · cases h
    exact ⟨_, rfl⟩
  · split at h
    · cases h
      exact ⟨_, rfl⟩
    · cases h

theorem not_unset_of_create {polls : Nat} (h : create polls seed = .error e) : e ∉ Error.unset := by
  rw [create] at h
  obtain ⟨message, rfl⟩ := internal_of_ofKey h
  exact Error.internal_not_unset message

end LocalCa

namespace Authority

variable {ca : AuthoritySettings}

section Accepted

variable (vaultNamespace seed) (hc : Settings.checkAuthority ca = .ok ())

include hc

theorem ofSettings_tpp (hb : ca.backend = .tpp) : ∃ t, ofSettings vaultNamespace seed ca = .ok (.tpp t) := by
  rw [Settings.checkAuthority, hb] at hc
  rw [ofSettings, hb, tppOf]
  cases hu : ca.url with
  | none => simp [hu] at hc
  | some url =>
    cases hz : ca.zone with
    | none => simp [hz] at hc
    | some zone =>
      cases ht : ca.accessToken with
      | none => simp [hu, hz, ht] at hc
      | some token => exact ⟨_, rfl⟩

theorem ofSettings_vaultPki (hb : ca.backend = .vaultPki) :
    ∃ address role, ca.url = some address ∧ ofSettings vaultNamespace seed ca =
      (Vault.connect address ca.accessToken vaultNamespace).map fun client =>
        .vaultPki ⟨client, ca.mount, role, {}⟩ := by
  rw [Settings.checkAuthority, hb] at hc
  rw [ofSettings, hb, vaultPkiOf]
  cases hu : ca.url with
  | none => simp [hu] at hc
  | some address =>
    cases hr : ca.role with
    | none => simp [hr] at hc
    | some role =>
      refine ⟨address, role, rfl, ?_⟩
      simp only [required, bind, Except.bind]
      cases Vault.connect address ca.accessToken vaultNamespace <;> rfl

theorem ofSettings_eq_error : ofSettings vaultNamespace seed ca = .error e ↔
    (ca.backend = .vaultPki ∧
        ∃ address ∈ ca.url, Vault.connect address ca.accessToken vaultNamespace = .error e) ∨
      ca.backend = .inProcess ∧ LocalCa.create ca.localPendingPolls seed = .error e := by
  cases hb : ca.backend with
  | tpp =>
    obtain ⟨t, ht⟩ := ofSettings_tpp vaultNamespace seed hc hb
    rw [ht]
    constructor
    · nofun
    · rintro (⟨h, -⟩ | ⟨h, -⟩) <;> cases h
  | vaultPki =>
    obtain ⟨address, role, hu, ho⟩ := ofSettings_vaultPki vaultNamespace seed hc hb
    rw [ho, map_eq_error, hu]
    simp
  | inProcess =>
    rw [ofSettings, hb]
    simp [map_eq_error]
  | mock =>
    rw [Settings.checkAuthority, hb] at hc
    cases hc

theorem not_unset (h : ofSettings vaultNamespace seed ca = .error e) : e ∉ Error.unset := by
  rcases (ofSettings_eq_error vaultNamespace seed hc).mp h with ⟨-, address, -, hfails⟩ | ⟨-, hfails⟩
  · exact Vault.not_unset_of_connect hfails
  · exact LocalCa.not_unset_of_create hfails

end Accepted

end Authority

theorem Store.ofSettings_eq_error (hc : Settings.checkStore s = .ok ()) :
    ofSettings vaultNamespace s.storage = .error e ↔ s.storage.backend = .vaultKv ∧
      ∃ address ∈ s.storage.address, Vault.connect address s.storage.token vaultNamespace = .error e := by
  rw [ofSettings]
  cases hb : s.storage.backend with
  | memory => exact ⟨nofun, fun h => absurd h.1 nofun⟩
  | vaultKv =>
    rw [Settings.checkStore, hb] at hc
    cases ha : s.storage.address with
    | none => simp [ha] at hc
    | some address =>
      dsimp only
      rw [map_eq_error]
      simp only [Option.mem_some_iff, exists_eq_left', true_and]

namespace Enrollment

theorem Wish.keyPolicy_unfailing {roles : List (String × RolePolicy)}
    (supported : ∀ {name p}, (name, p) ∈ roles → ∃ spec, p.keySpec = .ok spec) {polling : PollPolicy} {w : Wish}
    {h : History} (listed : ∀ found, ⟨.findRole w.role, found⟩ ∈ h → (RoleBook.listed roles).Replies w.role found)
    (e : Error) : ¬ w.Fails polling h .keyPolicy e := by
  intro hf
  cases hf with
  | @keyPolicy policy _ asked wrong =>
    generalize hfound : (.ok (some policy) : Except Error (Option RolePolicy)) = found at asked
    cases listed found asked
    obtain ⟨before, after, rfl, -⟩ := List.lookup_eq_some_iff.mp (Except.ok.inj hfound).symm
    obtain ⟨spec, hspec⟩ := supported (List.mem_append_right before List.mem_cons_self)
    cases hspec.symm.trans wrong

theorem failed_run_supported {roles : List (String × RolePolicy)}
    (supported : ∀ {name p}, (name, p) ∈ roles → ∃ spec, p.keySpec = .ok spec) (send : Http.Request → Http.Outcome)
    {w : Wish} {polling : PollPolicy} {refuses : Call → World → Bool} {fuel : Nat} {world world' : World} {e : Error}
    (listed : world.roles = .listed roles)
    (hr : run (IssueStage.next polling w) (World.answer send) refuses fuel .finding world =
      .done (.error e) world') :
    ∃ h, Ends (IssueStage.next polling w) .finding h (.error e) ∧ Answered (World.answer send) world h world' ∧
      w.FailsFirst polling h e ∧ ∀ e', ¬ w.Fails polling h .keyPolicy e' := by
  obtain ⟨h, hf⟩ := run_follows (IssueStage.next polling w) (World.answer send) refuses fuel .finding world
  rw [hr] at hf
  obtain ⟨failed, answered⟩ := hf
  refine ⟨h, failed, answered, failsFirst_of_ends failed, Wish.keyPolicy_unfailing supported fun found hm => ?_⟩
  rw [← listed]
  exact replies_of_answered (World.answer_roles send) (World.findRole_replies send) answered hm

end Enrollment

def PollingSettings.Fits (s : PollingSettings) : Prop :=
  ∀ n ∈ s.maxAttempts, n < UInt32.size

namespace Settings

theorem bind_eq_ok {α : Type} {x : Except Error Unit} {f : Unit → Except Error α} {a : α} :
    (x >>= f) = .ok a ↔ x = .ok () ∧ f () = .ok a := by
  cases x with
  | ok => exact ⟨fun h => ⟨rfl, h⟩, And.right⟩
  | error => exact ⟨nofun, fun h => absurd h.1 nofun⟩

theorem check_eq_ok : check s = .ok () ↔
    s.violations = [] ∧ checkAuthority s.ca = .ok () ∧ checkStore s = .ok () ∧
      ∀ role ∈ s.roles, checkRole role = .ok () := by
  have hvalues : checkValues s = .ok () ↔ s.violations = [] := by
    unfold checkValues
    cases s.violations with
    | nil => exact ⟨fun _ => rfl, fun _ => rfl⟩
    | cons => exact ⟨nofun, nofun⟩
  have hroles : (∀ role ∈ sortedRoles s.roles, checkRole role = .ok ()) ↔
      ∀ role ∈ s.roles, checkRole role = .ok () := by
    simp only [mem_sortedRoles]
  rw [check, bind_eq_ok, bind_eq_ok, bind_eq_ok, forM_eq_ok, hvalues, hroles]

theorem require_eq_nil {ok : Bool} {place message : String} : require ok place message = [] ↔ ok = true := by
  cases ok <;> simp [require]

theorem polling_of_violations (h : s.violations = []) :
    (1 ≤ s.polling.intervalSeconds ∧ s.polling.intervalSeconds ≤ 3600) ∧
      (∀ n ∈ s.polling.deadlineSeconds, 1 ≤ n) ∧ ∀ n ∈ s.polling.maxAttempts, 1 ≤ n := by
  simp only [violations, List.append_eq_nil_iff, require_eq_nil, decide_eq_true_eq, Option.all_eq_true] at h
  obtain ⟨⟨⟨-, hdeadline⟩, hinterval⟩, hmost⟩ := h.1
  exact ⟨hinterval, hdeadline, hmost⟩

structure Serves (s : Settings) : Prop where
  supported : ∀ {name p}, (name, p) ∈ s.roles → ∃ spec, p.keySpec = .ok spec ∧ spec.IsSupported
  planned : s.roleSource = .config → ∀ (send : Http.Request → Http.Outcome) {w : Wish} {polling : PollPolicy}
    {refuses : Call → World → Bool} {fuel : Nat} {world world' : World} {e : Error},
      world.roles = .ofSettings s →
        run (IssueStage.next polling w) (World.answer send) refuses fuel .finding world = .done (.error e) world' →
          ∃ h, Ends (IssueStage.next polling w) .finding h (.error e) ∧ Answered (World.answer send) world h world' ∧
            w.FailsFirst polling h e ∧ ∀ e', ¬ w.Fails polling h .keyPolicy e'
  interval : 1 * nanosPerSecond ≤ (PollPolicy.ofSettings s.polling).interval ∧
    (PollPolicy.ofSettings s.polling).interval ≤ 3600 * nanosPerSecond
  most : ∀ n ∈ (PollPolicy.ofSettings s.polling).maxAttempts, 1 ≤ n.toNat
  deadline : ∀ nanos ∈ (PollPolicy.ofSettings s.polling).deadline, 1 * nanosPerSecond ≤ nanos
  halts : (PollPolicy.ofSettings s.polling).isBounded = true → ∀ {ω : Type} {answer : Surroundings ω}
    {clock : ω → Nat}, (s.polling.maxAttempts = none → Ticking answer clock) → ∀ handle w,
      PollStage.Halts (PollPolicy.ofSettings s.polling) handle answer .starting w
  authority : ∀ vaultNamespace seed e, Authority.ofSettings vaultNamespace seed s.ca = .error e ↔
    (s.ca.backend = .vaultPki ∧
        ∃ address ∈ s.ca.url, Vault.connect address s.ca.accessToken vaultNamespace = .error e) ∨
      s.ca.backend = .inProcess ∧ LocalCa.create s.ca.localPendingPolls seed = .error e
  store : ∀ vaultNamespace e,
    Store.ofSettings vaultNamespace s.storage = .error e ↔ s.storage.backend = .vaultKv ∧
      ∃ address ∈ s.storage.address, Vault.connect address s.storage.token vaultNamespace = .error e
  complete : ∀ vaultNamespace seed e, e ∈ Error.unset →
    Authority.ofSettings vaultNamespace seed s.ca ≠ .error e ∧ Store.ofSettings vaultNamespace s.storage ≠ .error e

theorem most_of_fits (fits : s.polling.Fits) (hmost : ∀ n ∈ s.polling.maxAttempts, 1 ≤ n) :
    ∀ n ∈ (PollPolicy.ofSettings s.polling).maxAttempts, 1 ≤ n.toNat := by
  intro n hn
  obtain ⟨most, hm, rfl⟩ := Option.mem_map.mp hn
  rw [UInt32.toNat_ofNat', Nat.mod_eq_of_lt (fits most hm)]
  exact hmost most hm

theorem serves_of_check (fits : s.polling.Fits) (accepted : s.check = .ok ()) : s.Serves := by
  obtain ⟨hvalues, hca, hstore, hroles⟩ := check_eq_ok.mp accepted
  obtain ⟨hinterval, hdeadline, hmost⟩ := polling_of_violations hvalues
  have hspec {name : String} {p : RolePolicy} (hm : (name, p) ∈ s.roles) : ∃ spec, p.keySpec = .ok spec :=
    checkRole_eq_ok.mp (hroles _ hm)
  constructor
  case supported =>
    intro name p hm
    obtain ⟨spec, hs⟩ := hspec hm
    exact ⟨spec, hs, RolePolicy.isSupported_of_keySpec hs⟩
  case planned =>
    intro hsource send w polling refuses fuel world world' e hbook hr
    rw [RoleBook.ofSettings, hsource] at hbook
    exact failed_run_supported hspec send hbook hr
  case interval =>
    exact ⟨Nat.mul_le_mul_right _ hinterval.1, Nat.mul_le_mul_right _ hinterval.2⟩
  case most => exact most_of_fits fits hmost
  case deadline =>
    intro nanos hn
    obtain ⟨seconds, hs, rfl⟩ := Option.mem_map.mp hn
    exact Nat.mul_le_mul_right _ (hdeadline seconds hs)
  case halts =>
    -- The pause is what brings a deadline closer.
    intro hb ω answer clock ticking handle w
    have hpause : 0 < (PollPolicy.ofSettings s.polling).interval := Nat.mul_pos hinterval.1 (by decide)
    refine PollStage.halts_starting hb hpause (fun hm => ticking ?_) w
    exact Option.map_eq_none_iff.mp hm
  case authority => exact fun vaultNamespace seed _ => Authority.ofSettings_eq_error vaultNamespace seed hca
  case store => exact fun _ _ => Store.ofSettings_eq_error hstore
  case complete =>
    intro vaultNamespace seed e hunset
    constructor
    · intro h
      exact Authority.not_unset vaultNamespace seed hca h hunset
    · intro h
      obtain ⟨-, address, -, hfails⟩ := (Store.ofSettings_eq_error hstore).mp h
      exact Vault.not_unset_of_connect hfails hunset

theorem check_perm {order : List (String × RolePolicy)} (distinct : (s.roles.map Prod.fst).Nodup)
    (permuted : order.Perm s.roles) : check { s with roles := order } = s.check := by
  rw [check, check, sortedRoles_perm distinct permuted]
  rfl

theorem check_eq_error_of_roles (distinct : (s.roles.map Prod.fst).Nodup) (hvalues : checkValues s = .ok ())
    (hca : checkAuthority s.ca = .ok ()) (hstore : checkStore s = .ok ()) :
    s.check = .error e ↔ NamesFirst s.roles e := by
  have hrest : s.check = (sortedRoles s.roles).forM checkRole := by
    rw [check, hvalues, hca, hstore]
    rfl
  rw [hrest, forM_eq_error distinct]

/-- Accepted settings serve, and settings with which a backend lacks something are not accepted. When it is for the
roles that they are not, the error names the first one by the octets of its name, in whatever order the roles stand. -/
theorem accepted_settings_serve (fits : s.polling.Fits) (distinct : (s.roles.map Prod.fst).Nodup) :
    (s.check = .ok () → s.Serves) ∧
    (∀ vaultNamespace seed e, e ∈ Error.unset →
      Authority.ofSettings vaultNamespace seed s.ca = .error e ∨ Store.ofSettings vaultNamespace s.storage = .error e →
        ∃ e', s.check = .error e') ∧
    (checkValues s = .ok () → checkAuthority s.ca = .ok () → checkStore s = .ok () →
      ∀ e, s.check = .error e ↔ NamesFirst s.roles e) ∧
    ∀ {order : List (String × RolePolicy)}, order.Perm s.roles → check { s with roles := order } = s.check := by
  refine ⟨serves_of_check fits, ?_, fun hv hc hs _ => check_eq_error_of_roles distinct hv hc hs, check_perm distinct⟩
  intro vaultNamespace seed e hunset h
  cases hcheck : s.check with
  | error e' => exact ⟨e', rfl⟩
  | ok =>
    obtain ⟨hca, hstore⟩ := (serves_of_check fits hcheck).complete vaultNamespace seed e hunset
    rcases h with h | h
    · exact absurd h hca
    · exact absurd h hstore

def astray : Settings where
  storage := { backend := .vaultKv, address := some "nowhere" }
  polling := { maxAttempts := some 3 }
  roles := [("web", {}), ("api", { keyType := "ec", keyCurve := "P256" })]

def keyless : Settings where
  roles := [("web", { keyType := "dsa" }), ("api", { keyBits := 512 })]

def unconfigurable : Settings where
  ca := { backend := .mock }

theorem accepted_settings_serve_astray :
    (astray.check = .ok () ∧ astray.Serves) ∧
      keyless.check = .error (.config ("Role 'api' has an invalid key policy: " ++
        "Key generation failed: RSA key size 512 is outside the supported range 1024..=8192")) ∧
      ∃ e, unconfigurable.check = .error e := by
  have haccepted : astray.check = .ok () := by
    rw [check_eq_ok]
    refine ⟨by decide, rfl, rfl, ?_⟩
    intro role hm
    rcases List.mem_pair.mp hm with rfl | rfl <;> rfl
  have hfits : astray.polling.Fits := by
    intro n hn
    cases hn
    decide
  have hserves := (accepted_settings_serve hfits (by decide)).1 haccepted
  have hnamed := (accepted_settings_serve (s := keyless) nofun (by decide)).2.2.1 rfl rfl rfl
  have hlacking := (accepted_settings_serve (s := unconfigurable) nofun (by decide)).2.1 none []
  refine ⟨⟨haccepted, hserves⟩, (hnamed _).mpr ?_, hlacking _ ?_ (.inl rfl)⟩
  · refine ⟨"api", { keyBits := 512 }, _, List.mem_cons_of_mem _ List.mem_cons_self, rfl, rfl, ?_⟩
    intro other q cause hq _
    rcases List.mem_pair.mp hq with hq | hq <;> cases hq <;> decide
  · decide

end Settings

end CertEnroll
