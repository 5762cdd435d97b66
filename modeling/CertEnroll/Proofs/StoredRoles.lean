import CertEnroll.Enrollment.World
import CertEnroll.Proofs.Entries
import CertEnroll.Proofs.JsonText
import CertEnroll.Proofs.Rebinding
import CertEnroll.Proofs.Served

namespace CertEnroll

theorem Document.readMembers_set {σ : Type} {fields seen : List String} {name : String} {value : Node}
    {set : String → Node → σ → Except DecodeError σ} {record record' : σ} (hf : name ∈ fields) (hs : name ∉ seen)
    (hset : set name value record = .ok record') (members : List (Option String × Node)) :
    readMembers fields set seen record ((some name, value) :: members) =
      readMembers fields set (name :: seen) record' members := by
  rw [readMembers, if_pos hf, if_neg hs, hset]
  rfl

namespace RolePolicy

open Document (Node readNat readMembers_set)

def Fits (p : RolePolicy) : Prop :=
  p.keyBits < Nat.pow 2 64

variable {p : RolePolicy}

theorem isExact_toJson (hp : p.Fits) : p.toJson.isExact = true := by
  have hbits : (p.keyBits : Int) ≤ (Json.largest : Int) := Int.ofNat_le.mpr (Nat.le_sub_one_of_lt hp)
  simp only [toJson, Json.isExact, Json.membersExact, Bool.and_true, Bool.true_and, Bool.and_eq_true,
    decide_eq_true_eq]
  exact ⟨Int.natCast_nonneg _, hbits⟩

theorem readNat_keyBits (hp : p.Fits) : readNat "usize" (Nat.pow 2 64) (.integer p.keyBits) = .ok p.keyBits := by
  have hrange : (0 : Int) ≤ p.keyBits ∧ (p.keyBits : Int) < (Nat.pow 2 64 : Nat) :=
    ⟨Int.natCast_nonneg _, Int.ofNat_lt.mpr hp⟩
  rw [readNat, if_pos hrange, Int.toNat_natCast]

theorem set_keyBits (hp : p.Fits) (start : RolePolicy) :
    set "key_bits" (.integer p.keyBits) start = .ok { start with keyBits := p.keyBits } := by
  have hread := readNat_keyBits hp
  simp only [set, hread]
  rfl

theorem decode_encode (hp : p.Fits) : decode p.encode = .ok p := by
  rw [decode, decodeOctets, encode, Json.decodeText_octets _ (isExact_toJson hp)]
  have hmembers : Document.readMembers fields set [] {} (Document.ofJsonMembers
      [("key_type", .string p.keyType), ("key_bits", .integer p.keyBits),
      ("key_curve", .string p.keyCurve), ("store_by_cn", .bool p.storeByCommonName),
      ("store_by_serial", .bool p.storeBySerial), ("store_pkey", .bool p.storePrivateKey),
      ("generate_lease", .bool p.generateLease)]) = .ok (fields.reverse, p) := by
    simp only [Document.ofJsonMembers, Node.ofJson]
    rw [readMembers_set (by decide) (by decide) rfl, readMembers_set (by decide) (by decide) (set_keyBits hp _)]
    rfl
  rw [toJson, Node.ofJson, read, Document.readRecord, hmembers]
  rfl

theorem key_inj {name other : String} : key name = key other ↔ name = other := by
  simp only [key, ← String.toList_inj, String.toList_append, List.append_right_inj]

end RolePolicy

theorem lookup_reverse_snoc (puts : List (String × RolePolicy)) (name : String) (p : RolePolicy) (other : String) :
    (puts ++ [(name, p)]).reverse.lookup other = if other = name then some p else puts.reverse.lookup other := by
  rw [List.reverse_append, List.reverse_singleton, List.singleton_append, List.lookup_cons]
  by_cases ho : other = name
  · simp [ho]
  · simp [ho, beq_false_of_ne ho]

structure MemoryStore.Holds (find : String → Option RolePolicy) (s : MemoryStore) : Prop where
  held : ∀ name, s.get? (RolePolicy.key name) = (find name).map RolePolicy.encode
  fits : ∀ {name p}, find name = some p → p.Fits

namespace Store

def putRoles (send : Http.Request → Http.Outcome) (puts : List (String × RolePolicy)) (s : Store) :
    Except Error Store :=
  puts.foldlM (fun s (name, p) =>
    match (s.putRole name p).resolve send with
    | (.ok (), s) => .ok s
    | (.error e, _) => .error e) s

variable {send : Http.Request → Http.Outcome} {find : String → Option RolePolicy} {s : MemoryStore}

theorem role?_of_holds (hs : s.Holds find) (name : String) :
    (role? name (.memory s)).resolve send = .ok (find name) := by
  have hread : (role? name (.memory s)).resolve send = readRole (.ok (s.get? (RolePolicy.key name))) := rfl
  rw [hread, hs.held]
  cases hf : find name with
  | none => rfl
  | some p =>
    rw [Option.map_some, readRole, RolePolicy.decode_encode (hs.fits hf)]
    rfl

theorem holds_put (hs : s.Holds find) {p : RolePolicy} (hp : p.Fits) (name : String) :
    (s.put (RolePolicy.key name) p.encode).Holds fun other => if other = name then some p else find other where
  held other := by
    rw [get?_put_apply]
    by_cases ho : other = name
    · simp [ho]
    · have hk : RolePolicy.key other ≠ RolePolicy.key name := fun he => ho (RolePolicy.key_inj.mp he)
      rw [if_neg hk, if_neg ho, hs.held]
  fits {other q} hq := by
    split at hq
    · cases hq
      exact hp
    · exact hs.fits hq

theorem putRoles_holds (hs : s.Holds find) (send : Http.Request → Http.Outcome) {puts : List (String × RolePolicy)}
    (hp : ∀ e ∈ puts, e.2.Fits) :
    ∃ s' : MemoryStore, putRoles send puts (.memory s) = .ok (.memory s') ∧
      s'.Holds (fun name => (puts.reverse.lookup name).or (find name)) ∧
      ∀ key, (∀ name, key ≠ RolePolicy.key name) → s'.get? key = s.get? key := by
  -- From the last put backwards: it is the one that is read.
  induction puts using List.reverseRecOn with
  | nil => exact ⟨s, rfl, hs, fun _ _ => rfl⟩
  | append_singleton puts e ih =>
    obtain ⟨name, p⟩ := e
    rw [List.forall_mem_append, List.forall_mem_singleton] at hp
    obtain ⟨s', hput, hholds, hother⟩ := ih hp.1
    refine ⟨s'.put (RolePolicy.key name) p.encode, ?_, ?_, ?_⟩
    · rw [putRoles, List.foldlM_append]
      rw [putRoles] at hput
      rw [hput]
      rfl
    · have hfind : (fun other => ((puts ++ [(name, p)]).reverse.lookup other).or (find other)) =
          fun other => if other = name then some p else (puts.reverse.lookup other).or (find other) := by
        funext other
        rw [lookup_reverse_snoc]
        split <;> rfl
      rw [hfind]
      exact holds_put hholds hp.2 name
    · intro key hkey
      rw [get?_put_apply, if_neg (hkey name), hother key hkey]

end Store

theorem MemoryStore.holds_nothing : MemoryStore.Holds (fun _ => none) {} where
  held _ := rfl
  fits hf := by cases hf

namespace Enrollment

theorem Binding.not_mem_keys (name : String) (b : Binding) : RolePolicy.key name ∉ b.keys := by
  have apart (rest : String) : RolePolicy.key name ≠ "certs/" ++ rest := by
    intro he
    have hfirst : 'r' = 'c' := by
      have hkeys := congrArg String.toList he
      rw [RolePolicy.key, RolePolicy.keyStart, String.toList_append, String.toList_append] at hkeys
      exact (List.cons.inj hkeys).1
    exact absurd hfirst (by decide)
  intro hm
  rcases mem_keys.mp hm with ⟨-, he⟩ | ⟨-, he⟩
  · exact apart _ he
  · exact apart _ he

def Progress.Alike {σ ρ ω : Type} (alike : ω → ω → Prop) : Progress σ ρ ω → Progress σ ρ ω → Prop
  | .done result w, .done result' w' => result = result' ∧ alike w w'
  | .underway stage w, .underway stage' w' => stage = stage' ∧ alike w w'
  | _, _ => False

theorem run_alike {σ ρ ω : Type} {next : σ → Next σ ρ} {start stage : σ} {answer : Surroundings ω}
    {alike : ω → ω → Prop} {made : Call → Prop}
    (hmade : ∀ {h s e t}, Reaches next start h s → (next s).Leads e t → made e.call)
    (hstep : ∀ {call w w'}, made call → alike w w' →
      (answer call w).1 = (answer call w').1 ∧ alike (answer call w).2 (answer call w').2)
    (fuel : Nat) {h : History} (hs : Reaches next start h stage) {w w' : ω} (hw : alike w w') :
    (run next answer (fun _ _ => false) fuel stage w).Alike alike
      (run next answer (fun _ _ => false) fuel stage w') := by
  induction fuel generalizing h stage w w' with
  | zero => exact ⟨rfl, hw⟩
  | succ fuel ih =>
    cases hn : next stage with
    | done result =>
      rw [run, run, hn]
      exact ⟨rfl, hw⟩
    | ask call resume =>
      have hleads : (next stage).Leads ⟨call, (answer call w).1⟩ (resume (answer call w).1) := by
        rw [hn]
        exact ⟨_, rfl, rfl⟩
      obtain ⟨hreply, hafter⟩ := hstep (hmade hs hleads) hw
      rw [run_ask hn, run_ask hn, ← hreply]
      exact ih (hs.step hleads) hafter

structure World.Moved (roles : List (String × RolePolicy)) (w w' : World) : Prop where
  listed : w.roles = .listed roles
  stored : w'.roles = .stored
  memory : ∃ s s' : MemoryStore, w.store = .memory s ∧ w'.store = .memory s' ∧
    (s'.Holds fun name => roles.lookup name) ∧ ∀ key, (∀ name, key ≠ RolePolicy.key name) → s'.get? key = s.get? key
  rest : { w' with roles := w.roles, store := w.store } = w

def Call.SparesRoles (call : Call) : Prop :=
  ∀ name value, call ≠ .put (RolePolicy.key name) value

theorem IssueStage.spares_roles {polling : PollPolicy} {wish : Wish} {h : History} {stage stage' : IssueStage}
    {e : Event} (hr : Reaches (IssueStage.next polling wish) .finding h stage)
    (hl : (stage.next polling wish).Leads e stage') : e.call.SparesRoles := by
  obtain ⟨call, reply⟩ := e
  rintro name value rfl
  obtain ⟨_, _, _, _, _, job, -, hkey, -⟩ := (course_of_reaches hr).put_leads hl
  exact job.not_mem_keys name hkey

variable {roles : List (String × RolePolicy)} {w w' : World}

theorem World.Moved.answer (hm : w.Moved roles w') (send : Http.Request → Http.Outcome) {call : Call}
    (hc : call.SparesRoles) :
    (World.answer send call w).1 = (World.answer send call w').1 ∧
      (World.answer send call w).2.Moved roles (World.answer send call w').2 := by
  obtain ⟨listed, stored, ⟨s, s', hs, hs', holds, hother⟩, rest⟩ := hm
  obtain rfl : w' = { w with roles := .stored, store := .memory s' } := by
    rw [← rest, ← stored, ← hs']
  have moved (w₁ : World) (hr : w₁.roles = .listed roles) (hw : w₁.store = .memory s) :
      w₁.Moved roles { w₁ with roles := .stored, store := .memory s' } :=
    ⟨hr, rfl, ⟨s, s', hw, rfl, holds, hother⟩, rfl⟩
  cases call with
  | findRole name =>
    have hlisted : (w.roles.find? name w.store).resolve send = .ok (roles.lookup name) := by
      rw [listed]
      rfl
    have hstored : (Store.role? name (.memory s')).resolve send = .ok (roles.lookup name) :=
      Store.role?_of_holds holds name
    exact ⟨hlisted.trans hstored.symm, moved w listed hs⟩
  | put key value =>
    have hkey : ∀ name, key ≠ RolePolicy.key name := fun name he => hc name value (he ▸ rfl)
    simp only [World.answer, hs, Store.put, Http.Exchange.resolve]
    refine ⟨trivial, listed, rfl, ⟨s.put key value, s'.put key value, rfl, rfl, ?_, ?_⟩, rfl⟩
    · refine ⟨fun name => ?_, holds.fits⟩
      rw [get?_put_apply, if_neg (hkey name).symm, holds.held]
    · intro other ho
      simp only [get?_put_apply, hother other ho]
  | _ => exact ⟨rfl, moved _ listed hs⟩

theorem World.Moved.run_alike (hm : w.Moved roles w') (send : Http.Request → Http.Outcome) (polling : PollPolicy)
    (wish : Wish) (fuel : Nat) :
    (run (IssueStage.next polling wish) (World.answer send) (fun _ _ => false) fuel .finding w).Alike
      (World.Moved roles)
      (run (IssueStage.next polling wish) (World.answer send) (fun _ _ => false) fuel .finding w') :=
  Enrollment.run_alike IssueStage.spares_roles (fun hc hm => hm.answer send hc) fuel .refl hm

end Enrollment

open Enrollment (World Wish IssueStage run)

/-- Roles with distinct names, put in any order into an empty memory, are read from there as they are listed; putting
one again replaces that one only. Enrollments with the roles moved there come to the same, one after the other. -/
theorem stored_roles_like_listed {roles order : List (String × RolePolicy)}
    (distinct : (roles.map Prod.fst).Nodup) (fits : ∀ role ∈ roles, role.2.Fits) (permuted : order.Perm roles)
    (send : Http.Request → Http.Outcome) :
    ∃ s : MemoryStore, Store.putRoles send order (.memory {}) = .ok (.memory s) ∧
      (∀ name store, (RoleBook.stored.find? name (.memory s)).resolve send =
        ((RoleBook.listed roles).find? name store).resolve send) ∧
      (∀ {name p}, (name, p) ∈ roles →
        (RoleBook.stored.find? name (.memory s)).resolve send = .ok (some p) ∧
          RoleBook.require name ((RoleBook.stored.find? name (.memory s)).resolve send) = .ok p) ∧
      (∀ {name}, name ∉ roles.map Prod.fst →
        (RoleBook.stored.find? name (.memory s)).resolve send = .ok none ∧
          RoleBook.require name ((RoleBook.stored.find? name (.memory s)).resolve send) =
            .error (.roleNotFound name)) ∧
      (∀ {name p}, p.Fits → ∃ s' : MemoryStore,
        ((Store.memory s).putRole name p).resolve send = (.ok (), .memory s') ∧
          ∀ other, (RoleBook.stored.find? other (.memory s')).resolve send =
            if other = name then .ok (some p) else (RoleBook.stored.find? other (.memory s)).resolve send) ∧
      (∀ {w : World}, w.roles = .listed roles → w.store = .memory {} →
        w.Moved roles { w with roles := .stored, store := .memory s }) ∧
      ∀ {w w' : World}, w.Moved roles w' → ∀ polling wish fuel,
        (run (IssueStage.next polling wish) (World.answer send) (fun _ _ => false) fuel .finding w).Alike
          (World.Moved roles)
          (run (IssueStage.next polling wish) (World.answer send) (fun _ _ => false) fuel .finding w') := by
  have hfits : ∀ role ∈ order, role.2.Fits := fun role hm => fits role (permuted.mem_iff.mp hm)
  obtain ⟨s, hput, hholds, hother⟩ := Store.putRoles_holds MemoryStore.holds_nothing send hfits
  have hlookup : (fun name => (order.reverse.lookup name).or none) = fun name => roles.lookup name := by
    funext name
    rw [Option.or_none, lookup_perm distinct (order.reverse_perm.trans permuted)]
  rw [hlookup] at hholds
  have hfind (name : String) : (RoleBook.stored.find? name (.memory s)).resolve send = .ok (roles.lookup name) :=
    Store.role?_of_holds hholds name
  refine ⟨s, hput, fun name _ => hfind name, ?_, ?_, ?_, ?_, fun hm => hm.run_alike send⟩
  · intro name p hp
    rw [hfind, (lookup_eq_some_iff_mem distinct).mpr hp]
    exact ⟨rfl, rfl⟩
  · intro name hname
    have hnone : roles.lookup name = none := by
      rw [Option.eq_none_iff_forall_ne_some]
      intro p hp
      exact hname (List.mem_map_of_mem ((lookup_eq_some_iff_mem distinct).mp hp))
    rw [hfind, hnone]
    exact ⟨rfl, rfl⟩
  · intro name p hp
    refine ⟨s.put (RolePolicy.key name) p.encode, rfl, fun other => ?_⟩
    have hagain : (RoleBook.stored.find? other (.memory (s.put (RolePolicy.key name) p.encode))).resolve send =
        .ok (if other = name then some p else roles.lookup other) :=
      Store.role?_of_holds (Store.holds_put hholds hp name) other
    rw [hagain, hfind]
    split <;> rfl
  · intro w listed hw
    exact ⟨listed, rfl, ⟨{}, s, hw, rfl, hholds, hother⟩, rfl⟩

theorem stored_roles_like_listed_quoted :
    ∃ s : MemoryStore, Store.putRoles (fun _ => .unreachable)
        [("", { keyBits := 4096 }), ("a\"b", { keyType := "ec", keyCurve := "P384" })] (.memory {}) = .ok (.memory s) ∧
      RoleBook.require "a\"b" ((RoleBook.stored.find? "a\"b" (.memory s)).resolve fun _ => .unreachable) =
        .ok { keyType := "ec", keyCurve := "P384" } ∧
      RoleBook.require "a" ((RoleBook.stored.find? "a" (.memory s)).resolve fun _ => .unreachable) =
        .error (.roleNotFound "a") := by
  let roles : List (String × RolePolicy) :=
    [("a\"b", { keyType := "ec", keyCurve := "P384" }), ("", { keyBits := 4096 })]
  have hdistinct : (roles.map Prod.fst).Nodup := by decide
  have hfits : ∀ role ∈ roles, role.2.Fits := by
    intro role hm
    rcases List.mem_pair.mp hm with rfl | rfl
    · exact Nat.two_pow_pos 64
    · exact Nat.lt_of_lt_of_le (by decide) (Nat.pow_le_pow_right Nat.two_pos (show 13 ≤ 64 by decide))
  obtain ⟨s, hput, -, hlisted, hmissing, -⟩ := stored_roles_like_listed hdistinct hfits
    (List.Perm.swap _ _ []) fun _ => .unreachable
  exact ⟨s, hput, (hlisted List.mem_cons_self).2, (hmissing (by decide)).2⟩

end CertEnroll
