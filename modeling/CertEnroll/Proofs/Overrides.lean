import CertEnroll.Proofs.Accepted
import CertEnroll.Settings.Environment

/-!
Settings overridden by the environment. Only five places in them change, each to the value of a variable that is set
and not empty. The check asks of these places no more than that something stands there, so that accepted settings stay
accepted whatever the environment is, and settings that lack something can become accepted.
-/

namespace CertEnroll.Settings

inductive Variable
  | logLevel
  | authorityUrl
  | authorityToken
  | storeAddress
  | storeToken

variable {env : Environment} {s t : Settings} {v : Variable} {value : String}

namespace Variable

def name : Variable → String
  | logLevel => "CERTWARDEN_LOG_LEVEL"
  | authorityUrl => "CERTWARDEN_CA_URL"
  | authorityToken => "CERTWARDEN_CA_TOKEN"
  | storeAddress => "VAULT_ADDR"
  | storeToken => "VAULT_TOKEN"

def held (s : Settings) : Variable → Option String
  | logLevel => some s.observability.logLevel
  | authorityUrl => s.ca.url
  | authorityToken => s.ca.accessToken.map Secret.exposed
  | storeAddress => s.storage.address
  | storeToken => s.storage.token.map Secret.exposed

def Gives (env : Environment) (v : Variable) (value : String) : Prop :=
  env v.name = some value ∧ value ≠ ""

theorem gives_iff : v.Gives env value ↔ env.value? v.name = some value := by
  rw [Gives, Environment.value?, Option.filter_eq_some_iff, decide_eq_true_eq]

theorem value?_eq_none : env.value? v.name = none ↔ ∀ value, ¬ v.Gives env value := by
  simp only [gives_iff, Option.eq_none_iff_forall_ne_some]

theorem held_override (env : Environment) (s : Settings) (v : Variable) :
    v.held (s.override env) = (env.value? v.name).or (v.held s) := by
  have hexposed (given : Option String) (token : Option Secret) :
      ((given.map Secret.mk).or token).map Secret.exposed = given.or (token.map Secret.exposed) := by
    cases given <;> rfl
  cases v with
  | logLevel => exact Option.or_some.symm
  | authorityUrl => rfl
  | authorityToken => exact hexposed _ _
  | storeAddress => rfl
  | storeToken => exact hexposed _ _

end Variable

def fill (texts : Variable → Option String) (s : Settings) : Settings :=
  { s with
    observability := { s.observability with logLevel := (texts .logLevel).getD "" }
    ca := { s.ca with url := texts .authorityUrl, accessToken := (texts .authorityToken).map Secret.mk }
    storage := { s.storage with address := texts .storeAddress, token := (texts .storeToken).map Secret.mk } }

def outline (s : Settings) : Settings :=
  s.fill fun _ => some "given"

theorem fill_held (s : Settings) : (s.outline.fill fun v => v.held s) = s := by
  have hmade (token : Option Secret) : (token.map Secret.exposed).map Secret.mk = token := by
    cases token <;> rfl
  simp only [outline, fill, Variable.held, hmade, Option.getD_some]

theorem outline_override (env : Environment) (s : Settings) : (s.override env).outline = s.outline := rfl

theorem eq_of_outline (houtline : s.outline = t.outline) (hheld : ∀ v : Variable, v.held s = v.held t) : s = t := by
  calc
    s = s.outline.fill fun v => v.held s := (fill_held s).symm
    _ = t.outline.fill fun v => v.held t := by rw [houtline, funext hheld]
    _ = t := fill_held t

theorem override_override (env : Environment) (s : Settings) : (s.override env).override env = s.override env := by
  refine eq_of_outline (outline_override env _) fun v => ?_
  rw [Variable.held_override, Variable.held_override, ← Option.or_assoc, Option.or_self]

theorem ite_error_eq_ok {c : Prop} [Decidable c] {e : Error} {x : Except Error Unit} :
    (if c then .error e else x) = .ok () ↔ ¬ c ∧ x = .ok () := by
  split <;> simp_all

theorem checkAuthority_eq_ok {ca : AuthoritySettings} : checkAuthority ca = .ok () ↔
    (ca.backend = .tpp ∧ ca.url.isSome = true ∧ ca.zone.isSome = true ∧ ca.accessToken.isSome = true) ∨
      (ca.backend = .vaultPki ∧ ca.url.isSome = true ∧ ca.role.isSome = true) ∨ ca.backend = .inProcess := by
  rw [checkAuthority]
  cases ca.backend with
  | tpp => simp [ite_error_eq_ok, Option.isSome_iff_ne_none, and_assoc]
  | vaultPki => simp [Option.isSome_iff_ne_none]
  | inProcess => simp
  | mock => simp

theorem checkStore_eq_ok : checkStore s = .ok () ↔
    (s.storage.backend = .vaultKv → s.storage.address.isSome = true) ∧
      ¬ (s.roleSource = .storage ∧ s.storage.backend = .memory) := by
  rw [checkStore, ite_error_eq_ok, ite_error_eq_ok]
  simp [Option.isSome_iff_ne_none]

def Needs (s : Settings) : Variable → Prop
  | .logLevel => True
  | .authorityUrl => s.ca.backend = .tpp ∨ s.ca.backend = .vaultPki
  | .authorityToken => s.ca.backend = .tpp
  | .storeAddress => s.storage.backend = .vaultKv
  | .storeToken => False

def Has (s : Settings) : Variable → Prop
  | .logLevel => s.observability.logLevel ≠ ""
  | v => (v.held s).isSome = true

theorem needs_override : (s.override env).Needs v ↔ s.Needs v := by
  cases v <;> rfl

theorem has_override : (s.override env).Has v ↔ s.Has v ∨ ∃ value, v.Gives env value := by
  have hisSome (v : Variable) : (v.held (s.override env)).isSome = true ↔
      (v.held s).isSome = true ∨ ∃ value, v.Gives env value := by
    simp only [Variable.held_override, Variable.gives_iff, Option.isSome_or, Bool.or_eq_true, Option.isSome_iff_exists,
      or_comm]
  cases v with
  | logLevel =>
    have hlevel : (s.override env).observability.logLevel =
        (env.value? Variable.logLevel.name).getD s.observability.logLevel := rfl
    simp only [Has, hlevel, Variable.gives_iff]
    cases hv : env.value? Variable.logLevel.name with
    | none => simp
    | some value => simp [(Variable.gives_iff.mpr hv).2]
  | _ => exact hisSome _

theorem violations_outline : s.violations = [] ↔ s.outline.violations = [] ∧ s.Has .logLevel := by
  have hgiven : decide (s.outline.observability.logLevel ≠ "") = true := rfl
  simp only [violations, List.append_eq_nil_iff, require_eq_nil, hgiven, Has, decide_eq_true_eq]
  tauto

theorem checkAuthority_outline : checkAuthority s.ca = .ok () ↔ checkAuthority s.outline.ca = .ok () ∧
    (s.Needs .authorityUrl → s.Has .authorityUrl) ∧ (s.Needs .authorityToken → s.Has .authorityToken) := by
  simp only [checkAuthority_eq_ok, outline, fill, Needs, Has, Variable.held, Option.isSome_map, Option.isSome_some]
  cases s.ca.backend with
  | tpp => simp [and_left_comm]
  | vaultPki => simp [and_comm]
  | inProcess => simp
  | mock => simp

theorem checkStore_outline : checkStore s = .ok () ↔ checkStore s.outline = .ok () ∧
    (s.Needs .storeAddress → s.Has .storeAddress) := by
  simp only [checkStore_eq_ok, outline, fill, Needs, Has, Variable.held, Option.isSome_some]
  tauto

theorem needed_iff : (∀ v, s.Needs v → s.Has v) ↔ s.Has .logLevel ∧ (s.Needs .authorityUrl → s.Has .authorityUrl) ∧
    (s.Needs .authorityToken → s.Has .authorityToken) ∧ (s.Needs .storeAddress → s.Has .storeAddress) := by
  constructor
  · intro h
    exact ⟨h _ trivial, h _, h _, h _⟩
  · rintro ⟨hlevel, hurl, htoken, haddress⟩ v hv
    cases v with
    | logLevel => exact hlevel
    | authorityUrl => exact hurl hv
    | authorityToken => exact htoken hv
    | storeAddress => exact haddress hv
    | storeToken => exact hv.elim

theorem check_outline : s.check = .ok () ↔ s.outline.check = .ok () ∧ ∀ v, s.Needs v → s.Has v := by
  have hroles : s.outline.roles = s.roles := rfl
  rw [check_eq_ok, check_eq_ok, violations_outline, checkAuthority_outline, checkStore_outline, needed_iff, hroles]
  constructor
  · rintro ⟨⟨hvalues, hlevel⟩, ⟨hca, hurl, htoken⟩, ⟨hstore, haddress⟩, hkeys⟩
    exact ⟨⟨hvalues, hca, hstore, hkeys⟩, hlevel, hurl, htoken, haddress⟩
  · rintro ⟨⟨hvalues, hca, hstore, hkeys⟩, hlevel, hurl, htoken, haddress⟩
    exact ⟨⟨hvalues, hlevel⟩, ⟨hca, hurl, htoken⟩, ⟨hstore, haddress⟩, hkeys⟩

theorem check_override_eq_ok : (s.override env).check = .ok () ↔
    s.outline.check = .ok () ∧ ∀ v, s.Needs v → s.Has v ∨ ∃ value, v.Gives env value := by
  rw [check_outline, outline_override]
  simp only [needs_override, has_override]

/-- Overriding sets the places whose variables give something and leaves all else, twice as once. Accepted settings
stay accepted; others become so just if everything else is in order and the environment gives what is missing. -/
theorem overrides_keep_accepted (env : Environment) (s : Settings) :
    (s.override env).outline = s.outline ∧
    (∀ (v : Variable) value, v.Gives env value → v.held (s.override env) = some value) ∧
    (∀ v : Variable, (∀ value, ¬ v.Gives env value) → v.held (s.override env) = v.held s) ∧
    (s.override env).override env = s.override env ∧
    (s.check = .ok () → (s.override env).check = .ok ()) ∧
    ((s.override env).check = .ok () ↔
      s.outline.check = .ok () ∧ ∀ v, s.Needs v → s.Has v ∨ ∃ value, v.Gives env value) := by
  refine ⟨outline_override env s, ?set, ?left, override_override env s, ?accepted, check_override_eq_ok⟩
  case set =>
    intro v value hgives
    rw [Variable.held_override, Variable.gives_iff.mp hgives, Option.some_or]
  case left =>
    intro v hnone
    rw [Variable.held_override, Variable.value?_eq_none.mpr hnone, Option.none_or]
  case accepted =>
    -- The two checks differ in what is there only, and no override takes anything away.
    intro accepted
    obtain ⟨hrest, hhas⟩ := check_outline.mp accepted
    exact check_override_eq_ok.mpr ⟨hrest, fun v hv => .inl (hhas v hv)⟩

def deployed : Settings where
  ca :=
    { backend := .tpp, url := some "https://tpp.example.com", zone := some "Certificates\\Web",
      accessToken := some ⟨"tpp-token"⟩, timeoutSeconds := 30 }
  storage := { backend := .vaultKv, mount := "certs-kv", address := some "http://127.0.0.1:8200" }
  polling := { intervalSeconds := 10, maxAttempts := some 60 }
  roles := [("web", { keyType := "ec", keyCurve := "P256" }), ("legacy", { keyBits := 4096 })]

def unaddressed : Settings where
  ca := { backend := .tpp, zone := some "Certificates\\Web" }

def staging : Environment :=
  .ofList
    [("CERTWARDEN_LOG_LEVEL", "debug"), ("CERTWARDEN_CA_URL", "https://override.example.com"),
      ("CERTWARDEN_CA_TOKEN", "override-token"), ("VAULT_ADDR", "http://vault:8200"), ("VAULT_TOKEN", "")]

theorem overrides_keep_accepted_staging :
    (deployed.check = .ok () ∧ (deployed.override staging).check = .ok ()) ∧
      (unaddressed.check = .error (.config "The tpp CA backend requires ca.url and ca.zone") ∧
        (unaddressed.override staging).check = .ok ()) ∧
      Variable.authorityUrl.held (deployed.override staging) = some "https://override.example.com" ∧
      Variable.storeToken.held (deployed.override staging) = none := by
  have hurl : Variable.authorityUrl.Gives staging "https://override.example.com" := ⟨by decide, by decide⟩
  have htoken : ∀ value, ¬ Variable.storeToken.Gives staging value := by
    rintro value ⟨hvalue, hne⟩
    cases hvalue
    exact hne rfl
  have haccepted : deployed.check = .ok () := by
    rw [check_eq_ok]
    refine ⟨by decide, rfl, rfl, ?_⟩
    intro role hm
    rcases List.mem_pair.mp hm with rfl | rfl <;> rfl
  have hrest : unaddressed.outline.check = .ok () :=
    check_eq_ok.mpr ⟨by decide, rfl, rfl, List.forall_mem_nil _⟩
  have hgiven (v : Variable) (hv : unaddressed.Needs v) : unaddressed.Has v ∨ ∃ value, v.Gives staging value := by
    cases v with
    | logLevel => exact .inl (show "info" ≠ "" by decide)
    | authorityUrl => exact .inr ⟨_, hurl⟩
    | authorityToken => exact .inr ⟨"override-token", by decide, by decide⟩
    | storeAddress => cases hv
    | storeToken => cases hv
  obtain ⟨-, hset, hleft, -, hkeeps, -⟩ := overrides_keep_accepted staging deployed
  obtain ⟨-, -, -, -, -, hmends⟩ := overrides_keep_accepted staging unaddressed
  exact ⟨⟨haccepted, hkeeps haccepted⟩, ⟨rfl, hmends.mpr ⟨hrest, hgiven⟩⟩, hset _ _ hurl, hleft _ htoken⟩

end CertEnroll.Settings
