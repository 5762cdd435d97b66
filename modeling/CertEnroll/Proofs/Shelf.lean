import CertEnroll.Proofs.JsonText
import CertEnroll.Proofs.KeyValueEngine

namespace CertEnroll

structure Shelf where
  texts : List (String × String)
  plan : List Bool

namespace Shelf

open VaultKv (Operation secretOf)

def secrets (s : Shelf) (key : String) : Option Json :=
  (s.texts.lookup key).map secretOf

def fails (_ : Operation) (s : Shelf) : Bool :=
  s.plan.headD false

def reply (status : Nat) (body : List UInt8) : Http.Outcome :=
  .reply ⟨status, .whole body⟩

def noReasons : Json :=
  .object [("errors", .array [])]

def sentText? (request : Http.Request) : Option String :=
  ((request.body.bind (Json.member? "data")).bind (Json.member? "value")).bind Json.string?

def without (key : String) (texts : List (String × String)) : List (String × String) :=
  texts.filter fun entry => entry.1 ≠ key

def carryOut (key : String) (request : Http.Request) (texts : List (String × String)) :
    Http.Outcome × List (String × String) :=
  match request.method, sentText? request, texts.lookup key with
  | .post, some text, _ => (reply 200 (Json.object [("data", .object [("version", .integer 1)])]).octets,
      (key, text) :: without key texts)
  | .get, _, some text => (reply 200 (Json.object [("data", .object [("data", secretOf text)])]).octets, texts)
  | .delete, _, some _ => (reply 204 [], without key texts)
  | _, _, _ => (reply 404 noReasons.octets, texts)

def serve (kv : VaultKv) (keys : List String) : Http.Server Shelf :=
  fun request s =>
    let addressed (key : String) : Bool :=
      request.url = (kv.request (.read key)).url || request.url = (kv.request (.remove key)).url
    match s.plan.headD false, keys.find? addressed with
    | true, _ => (reply 503 noReasons.octets, ⟨s.texts, s.plan.tail⟩)
    | false, none => (reply 404 noReasons.octets, ⟨s.texts, s.plan.tail⟩)
    | false, some key =>
      let (outcome, texts) := carryOut key request s.texts
      (outcome, ⟨texts, s.plan.tail⟩)

theorem ofOutcome_data {members : List (String × Json)} (he : Json.isExact (.object [("data", .object members)]) = true)
    (hv : (Document.Node.ofJson (.object [("data", .object members)])).value Json.depthLimit =
      .ok (.object [("data", .object members)])) :
    Vault.Reply.ofOutcome (reply 200 (Json.object [("data", .object members)]).octets) = .data (.object members) := by
  have hparse : Json.parse (Json.object [("data", .object members)]).octets =
      .ok (.object [("data", .object members)]) := by
    rw [Json.parse, Json.decodeText_octets _ he, hv]
  have hne : (Json.object [("data", .object members)]).octets.isEmpty = false := by
    rw [Json.octets_eq, Json.valueOctets_object]
    rfl
  simp only [Vault.Reply.ofOutcome, reply, Vault.Reply.ofReply, hne, hparse]
  rfl

theorem ofOutcome_refused {status : Nat} (hs : Http.isSuccess status = false) :
    Vault.Reply.ofOutcome (reply status noReasons.octets) = .refused status [] := by
  have hparse : Json.parse noReasons.octets = .ok noReasons := by
    rw [Json.parse, Json.decodeText_octets _ rfl]
    rfl
  simp only [Vault.Reply.ofOutcome, reply, Vault.Reply.ofReply, hs, Vault.Reply.reasons?, hparse]
  rfl

variable {kv : VaultKv} {keys : List String} {key : String} {texts : List (String × String)}

theorem lookup_without_text (key other : String) :
    (without key texts).lookup other = if other = key then none else texts.lookup other :=
  lookup_without key other texts

def Knows (kv : VaultKv) (keys : List String) : Prop :=
  ∀ key ∈ keys, ∀ operation : Operation, operation.key = key →
    keys.find? (fun other => (kv.request operation).url = (kv.request (.read other)).url ||
      (kv.request operation).url = (kv.request (.remove other)).url) = some key

theorem serve_failing {operation : Operation} {s : Shelf} (hf : fails operation s = true) (request : Http.Request) :
    serve kv keys request s = (reply 503 noReasons.octets, ⟨s.texts, s.plan.tail⟩) := by
  unfold fails at hf
  simp only [serve, hf]

theorem serve_unfailing {operation : Operation} {s : Shelf} (hk : Knows kv keys) (hm : operation.key ∈ keys)
    (hf : fails operation s = false) :
    serve kv keys (kv.request operation) s =
      ((carryOut operation.key (kv.request operation) s.texts).1,
        ⟨(carryOut operation.key (kv.request operation) s.texts).2, s.plan.tail⟩) := by
  unfold fails at hf
  simp only [serve, hf, hk _ hm operation rfl]

theorem carryOut_write (key text : String) :
    carryOut key (kv.request (.write key text)) texts =
      (reply 200 (Json.object [("data", .object [("version", .integer 1)])]).octets,
        (key, text) :: without key texts) := rfl

theorem carryOut_read (key : String) :
    carryOut key (kv.request (.read key)) texts =
      (match texts.lookup key with
        | some text => reply 200 (Json.object [("data", .object [("data", secretOf text)])]).octets
        | none => reply 404 noReasons.octets, texts) := by
  unfold carryOut
  cases texts.lookup key <;> rfl

theorem carryOut_remove (key : String) :
    carryOut key (kv.request (.remove key)) texts =
      match texts.lookup key with
      | some _ => (reply 204 [], without key texts)
      | none => (reply 404 noReasons.octets, texts) := by
  unfold carryOut
  cases texts.lookup key <;> rfl

theorem carryOut_list (key : String) :
    carryOut key (kv.request (.list key)) texts = (reply 404 noReasons.octets, texts) := by
  unfold carryOut
  cases texts.lookup key <;> rfl

theorem answers_of_knows (hk : Knows kv keys) {operation : Operation} {s : Shelf} (hm : operation.key ∈ keys)
    (hf : fails operation s = false) :
    operation.AnsweredBy (secrets s) (kv.told (serve kv keys) operation s) := by
  rw [VaultKv.told, serve_unfailing hk hm hf]
  cases operation with
  | write key value =>
    rw [Operation.key, carryOut_write]
    exact ⟨_, ofOutcome_data rfl rfl⟩
  | read key =>
    rw [Operation.key, carryOut_read, Operation.AnsweredBy, secrets]
    cases s.texts.lookup key with
    | none =>
      simp only [ofOutcome_refused (show Http.isSuccess 404 = false from rfl)]
      rfl
    | some text => exact ⟨_, ofOutcome_data rfl rfl, rfl⟩
  | remove key =>
    rw [Operation.key, carryOut_remove, Operation.AnsweredBy, secrets]
    cases s.texts.lookup key with
    | none =>
      simp only [ofOutcome_refused (show Http.isSuccess 404 = false from rfl)]
      rfl
    | some text => exact .inl rfl
  | list => trivial

theorem changes_of_knows (hk : Knows kv keys) {operation : Operation} {s : Shelf} (hm : operation.key ∈ keys)
    (hf : fails operation s = false) (other : String) :
    secrets (kv.after (serve kv keys) operation s) other = operation.change kv (secrets s) other := by
  rw [VaultKv.after, serve_unfailing hk hm hf]
  cases operation with
  | write key text =>
    rw [Operation.key, carryOut_write, Operation.change, Function.update_apply, secrets, List.lookup_cons,
      lookup_without_text]
    by_cases ho : other = key
    · simp only [ho, beq_self_eq_true, if_true]
      rfl
    · simp only [beq_false_of_ne ho, if_neg ho, secrets]
  | read key =>
    rw [Operation.key, carryOut_read]
    rfl
  | remove key =>
    rw [Operation.key, carryOut_remove, Operation.change, Function.update_apply]
    cases hl : s.texts.lookup key with
    | none =>
      by_cases ho : other = key
      · simp only [secrets, ho, hl, Option.map_none, if_true]
      · simp only [if_neg ho, secrets]
    | some text =>
      simp only [secrets, lookup_without_text]
      by_cases ho : other = key
      · simp only [if_pos ho, Option.map_none]
      · simp only [if_neg ho]
  | list key =>
    rw [Operation.key, carryOut_list]
    rfl

theorem engine (hk : Knows kv keys) :
    VaultKv.Engine kv {key | key ∈ keys} (serve kv keys) secrets fails where
  answers := answers_of_knows hk
  changes hm hf other _ := changes_of_knows hk hm hf other
  failing {operation s} _ hf := by
    rw [VaultKv.told, serve_failing hf, ofOutcome_refused rfl]
    cases operation <;> exact (by decide : (503 : Nat) ≠ 404)
  unchanged {operation s} _ hf other _ := by
    rw [VaultKv.after, serve_failing hf]
    rfl

def steady (kv : VaultKv) (keys : List String) : Http.Server (List (String × String)) :=
  fun request texts => ((serve kv keys request ⟨texts, []⟩).1, (serve kv keys request ⟨texts, []⟩).2.texts)

theorem engine_steady (hk : Knows kv keys) :
    VaultKv.Engine kv {key | key ∈ keys} (steady kv keys) (fun texts => secrets ⟨texts, []⟩) fun _ _ => false where
  answers {_ texts} hm _ := (engine hk).answers (w := ⟨texts, []⟩) hm rfl
  changes {_ texts} hm _ := (engine hk).changes (w := ⟨texts, []⟩) hm rfl
  failing _ hf := by cases hf
  unchanged _ hf := by cases hf

def vault : VaultKv :=
  ⟨⟨⟨"https", "", some "vault", none, "/", none, none⟩, ⟨"token"⟩, none⟩, "secret"⟩

def twoKeys : List String := ["certs/a", "certs/b"]

theorem knows_twoKeys : Knows vault twoKeys := by
  have hread : ∀ key ∈ twoKeys, twoKeys.find? (fun other =>
      (vault.request (.read key)).url = (vault.request (.read other)).url ||
        (vault.request (.read key)).url = (vault.request (.remove other)).url) = some key := by decide +kernel
  have hremove : ∀ key ∈ twoKeys, twoKeys.find? (fun other =>
      (vault.request (.remove key)).url = (vault.request (.read other)).url ||
        (vault.request (.remove key)).url = (vault.request (.remove other)).url) = some key := by decide +kernel
  intro key hk operation ho
  subst ho
  cases operation with
  | write | read => exact hread _ hk
  | remove | list => exact hremove _ hk

end Shelf

open VaultKv in
/-- A store in an engine answers calls as one in memory does that holds the same. Octets that are no text are refused
without a request, and a call that the server fails comes to an error of the store; calls of both kinds leave no trace
in the answers to the others. -/
theorem vault_answers_like_memory {ω : Type} {kv : VaultKv} {keys : Set String} {serve : Http.Server ω}
    {secrets : ω → String → Option Json} {fails : Operation → ω → Bool} (engine : Engine kv keys serve secrets fails)
    {w : ω} {s : MemoryStore} (mirrors : Mirrors keys (secrets w) s) {calls : List StoreCall}
    (known : ∀ call ∈ calls, call.key ∈ keys) :
    LikeMemory serve fails calls s (Store.log serve fails calls (.vaultKv kv) w) ∧
      ((∀ operation w, fails operation w = false) →
        ((Store.log serve fails calls (.vaultKv kv) w).filter fun e => e.call.operation?.isSome).map
            StoreEvent.answer =
          (Store.log serve fails (calls.filter fun call => call.operation?.isSome) (.memory s) w).map
            StoreEvent.answer) ∧
      ∀ key value, Text.Utf8.decode value = none → ∀ w',
        ((StoreCall.put key value).ask (.vaultKv kv)).settle serve w' =
          ((.written (.error (.invalidValue key)), .vaultKv kv), w') := by
  have hlike := engine.likeMemory mirrors known
  refine ⟨hlike, ?_, ?_⟩
  · intro hf
    exact hlike.unfailing (failed_eq_false hf _)
  · intro key value hv w'
    exact settle_refused hv kv key serve w'

def StoreCall.samples : List StoreCall :=
  [.put "certs/a" [0x31], .put "certs/a" [0xff], .put "certs/b" [0x32], .get "certs/b", .get "certs/a",
    .erase "certs/a", .erase "certs/a", .get "certs/a"]

theorem vault_answers_like_memory_sealed :
    (Store.log (Shelf.serve Shelf.vault Shelf.twoKeys) Shelf.fails StoreCall.samples (.vaultKv Shelf.vault)
        ⟨[], [false, true]⟩).map StoreEvent.answer =
      [.written (.ok ()), .written (.error (.invalidValue "certs/a")),
        .written (.error (.backend
          "Failed to store 'certs/b': The Vault server returned an error (status code 503)")),
        .read (.ok none), .read (.ok (some [0x31])), .written (.ok ()), .written (.ok ()), .read (.ok none)] ∧
      LikeMemory (Shelf.serve Shelf.vault Shelf.twoKeys) Shelf.fails StoreCall.samples {}
        (Store.log (Shelf.serve Shelf.vault Shelf.twoKeys) Shelf.fails StoreCall.samples (.vaultKv Shelf.vault)
          ⟨[], [false, true]⟩) ∧
      ((Store.log (Shelf.steady Shelf.vault Shelf.twoKeys) (fun _ _ => false) StoreCall.samples (.vaultKv Shelf.vault)
          []).filter fun e => e.call.operation?.isSome).map StoreEvent.answer =
        [.written (.ok ()), .written (.ok ()), .read (.ok (some [0x32])), .read (.ok (some [0x31])), .written (.ok ()),
          .written (.ok ()), .read (.ok none)] := by
  have hmirrors : VaultKv.Mirrors {key | key ∈ Shelf.twoKeys} (fun _ => none) {} := fun _ _ => ⟨none, rfl, rfl⟩
  have hknown : ∀ call ∈ StoreCall.samples, call.key ∈ Shelf.twoKeys := by decide
  refine ⟨by decide +kernel, ?_, ?_⟩
  · exact (vault_answers_like_memory (Shelf.engine Shelf.knows_twoKeys) (w := ⟨[], [false, true]⟩) hmirrors hknown).1
  · have hsteady := vault_answers_like_memory (Shelf.engine_steady Shelf.knows_twoKeys) (w := []) hmirrors hknown
    exact (hsteady.2.1 fun _ _ => rfl).trans (by decide)

end CertEnroll
