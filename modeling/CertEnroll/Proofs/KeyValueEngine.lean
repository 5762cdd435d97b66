import CertEnroll.Proofs.Entries
import CertEnroll.Store.Backend
import Mathlib.Control.Monad.Basic

/-!
A store in a server's key-value engine answers as a store in memory does. The octets of an entry come back out of the
text in its secret; what the server does not know is absent, and whatever else goes wrong is an error.
-/

namespace CertEnroll

open Http (Exchange)

variable {ω : Type}

abbrev Http.Server (ω : Type) := Http.Request → ω → Http.Outcome × ω

def Http.Exchange.settle {α : Type} (serve : Http.Server ω) (w : ω) : Exchange α → α × ω
  | .ready a => (a, w)
  | .ask request finish => (finish (serve request w).1, (serve request w).2)

inductive StoreCall
  | put (key : String) (value : Octets)
  | get (key : String)
  | erase (key : String)

inductive StoreAnswer
  | written (result : Except StoreError Unit)
  | read (result : Except StoreError (Option Octets))
deriving DecidableEq

namespace StoreCall

def key : StoreCall → String
  | .put key _ | .get key | .erase key => key

def ask : StoreCall → Store → Exchange (StoreAnswer × Store)
  | .put key value, s => (s.put key value).map fun (result, s) => (.written result, s)
  | .get key, s => (s.get? key).map fun result => (.read result, s)
  | .erase key, s => (s.erase key).map fun (result, s) => (.written result, s)

def failure (e : StoreError) : StoreCall → StoreAnswer
  | .get _ => .read (.error e)
  | .put _ _ | .erase _ => .written (.error e)

def operation? : StoreCall → Option VaultKv.Operation
  | .put key value => (Text.Utf8.decode value).map (.write key)
  | .get key => some (.read key)
  | .erase key => some (.remove key)

end StoreCall

structure StoreEvent where
  call : StoreCall
  answer : StoreAnswer
  failed : Bool

def StoreEvent.counts (e : StoreEvent) : Bool :=
  e.call.operation?.isSome && !e.failed

def Store.log (serve : Http.Server ω) (fails : VaultKv.Operation → ω → Bool) :
    List StoreCall → Store → ω → List StoreEvent
  | [], _, _ => []
  | call :: calls, s, w =>
    let ((answer, s), w') := (call.ask s).settle serve w
    ⟨call, answer, call.operation?.any (fails · w)⟩ :: Store.log serve fails calls s w'

namespace VaultKv

def told (kv : VaultKv) (serve : Http.Server ω) (operation : Operation) (w : ω) : Vault.Reply :=
  .ofOutcome (serve (kv.request operation) w).1

def after (kv : VaultKv) (serve : Http.Server ω) (operation : Operation) (w : ω) : ω :=
  (serve (kv.request operation) w).2

def sentData (kv : VaultKv) (operation : Operation) : Option Json :=
  (kv.request operation).body.bind (Json.member? "data")

namespace Operation

def key : Operation → String
  | .write key _ | .read key | .remove key | .list key => key

def change (kv : VaultKv) (secrets : String → Option Json) : Operation → String → Option Json
  | .write key value => Function.update secrets key (kv.sentData (.write key value))
  | .remove key => Function.update secrets key none
  | .read _ | .list _ => secrets

def AnsweredBy (secrets : String → Option Json) : Operation → Vault.Reply → Prop
  | .write _ _, reply => ∃ receipt, reply = .data receipt
  | .read key, reply =>
    match secrets key with
    | some data => ∃ value, reply = .data value ∧ value.member? "data" = some data
    | none => reply.isMissing = true
  | .remove key, reply =>
    match secrets key with
    | some _ => reply = .empty ∨ ∃ value, reply = .data value
    | none => reply.isMissing = true
  | .list _, _ => True

def FailedBy : Operation → Vault.Reply → Prop
  | _, .refused status _ => status ≠ 404
  | _, .failed => True
  | .remove _, .empty => False
  | _, .empty => True
  | .read _, .data value => secretTexts? value = none
  | _, .data _ => False

end Operation

/-- A server that has a secret of its own for each of the keys, and may fail requests without effect. -/
structure Engine (kv : VaultKv) (keys : Set String) (serve : Http.Server ω) (secrets : ω → String → Option Json)
    (fails : Operation → ω → Bool) : Prop where
  answers : ∀ {operation w}, operation.key ∈ keys → fails operation w = false →
    operation.AnsweredBy (secrets w) (kv.told serve operation w)
  changes : ∀ {operation w}, operation.key ∈ keys → fails operation w = false → ∀ other ∈ keys,
    secrets (kv.after serve operation w) other = operation.change kv (secrets w) other
  failing : ∀ {operation w}, operation.key ∈ keys → fails operation w = true →
    operation.FailedBy (kv.told serve operation w)
  unchanged : ∀ {operation w}, operation.key ∈ keys → fails operation w = true → ∀ other ∈ keys,
    secrets (kv.after serve operation w) other = secrets w other

def secretOf (text : String) : Json :=
  .object [("value", .string text)]

def Mirrors (keys : Set String) (secrets : String → Option Json) (s : MemoryStore) : Prop :=
  ∀ key ∈ keys, ∃ text : Option String, secrets key = text.map secretOf ∧ s.get? key = text.map Text.Utf8.encode

end VaultKv

namespace StoreCall

def onMemory (s : MemoryStore) : StoreCall → StoreAnswer × MemoryStore
  | .put key value => (.written (.ok ()), s.put key value)
  | .get key => (.read (.ok (s.get? key)), s)
  | .erase key => (.written (.ok ()), s.erase key)

theorem settle_memory (serve : Http.Server ω) (call : StoreCall) (s : MemoryStore) (w : ω) :
    (call.ask (.memory s)).settle serve w = (((call.onMemory s).1, .memory (call.onMemory s).2), w) := by
  cases call <;> rfl

theorem key_of_operation? {call : StoreCall} {operation : VaultKv.Operation} (ho : call.operation? = some operation) :
    operation.key = call.key := by
  cases call with
  | put key value =>
    obtain ⟨text, -, rfl⟩ := Option.map_eq_some_iff.mp ho
    rfl
  | get | erase =>
    cases ho
    rfl

end StoreCall

namespace VaultKv

variable {kv : VaultKv} {keys : Set String} {serve : Http.Server ω} {secrets : ω → String → Option Json}
  {fails : Operation → ω → Bool} {w : ω} {s : MemoryStore} {call : StoreCall} {operation : Operation}

section Replies

variable {reply : Vault.Reply} {key : String}

theorem readValue_missing (hr : reply.isMissing = true) : readValue key reply = .ok none := by
  unfold readValue
  rw [if_pos hr]

theorem readValue_secret {value : Json} {text : String} (hv : value.member? "data" = some (secretOf text)) :
    readValue key (.data value) = .ok (some (Text.Utf8.encode text)) := by
  have htexts : secretTexts? value = some [("value", text)] := by
    rw [secretTexts?, hv]
    rfl
  unfold readValue
  simp only [htexts]
  rfl

theorem readValue_answered {held : String → Option Json} (hm : Mirrors keys held s) (hk : key ∈ keys)
    (ha : (Operation.read key).AnsweredBy held reply) : readValue key reply = .ok (s.get? key) := by
  obtain ⟨text, hsecret, hheld⟩ := hm key hk
  rw [hheld]
  rw [Operation.AnsweredBy, hsecret] at ha
  cases text with
  | none => exact readValue_missing ha
  | some text =>
    obtain ⟨value, rfl, hdata⟩ := ha
    exact readValue_secret hdata

theorem readRemoved_answered {held : String → Option Json} (ha : (Operation.remove key).AnsweredBy held reply) :
    readRemoved key reply = .ok () := by
  unfold readRemoved
  rw [Operation.AnsweredBy] at ha
  split at ha
  · rcases ha with rfl | ⟨value, rfl⟩ <;> rfl
  · rw [if_pos ha]

theorem isMissing_eq_false (ho : operation.FailedBy reply) : reply.isMissing = false := by
  cases reply with
  | refused status reasons =>
    have hs : status ≠ 404 := by cases operation <;> exact ho
    unfold Vault.Reply.isMissing
    split
    · rename_i he
      cases he
      exact absurd rfl hs
    · rfl
  | data | empty | failed => rfl

theorem readWritten_failed {value : String} (ho : (Operation.write key value).FailedBy reply) :
    ∃ message, readWritten key reply = .error (.backend message) := by
  cases reply with
  | data => exact ho.elim
  | empty | refused | failed => exact ⟨_, rfl⟩

theorem readValue_failed (ho : (Operation.read key).FailedBy reply) :
    ∃ message, readValue key reply = .error (.backend message) := by
  unfold readValue
  rw [if_neg (Bool.eq_false_iff.mp (isMissing_eq_false ho))]
  cases reply with
  | data value =>
    have htexts : secretTexts? value = none := ho
    simp only [htexts]
    exact ⟨_, rfl⟩
  | empty | refused | failed => exact ⟨_, rfl⟩

theorem readRemoved_failed (ho : (Operation.remove key).FailedBy reply) :
    ∃ message, readRemoved key reply = .error (.backend message) := by
  unfold readRemoved
  rw [if_neg (Bool.eq_false_iff.mp (isMissing_eq_false ho))]
  cases reply with
  | data | empty => exact ho.elim
  | refused | failed => exact ⟨_, rfl⟩

end Replies

theorem get?_erase_apply (key other : String) (s : MemoryStore) :
    (s.erase key).get? other = if other = key then none else s.get? other :=
  lookup_without key other s.entries

theorem Mirrors.put {held : String → Option Json} (hm : Mirrors keys held s) (key text : String) :
    Mirrors keys (Function.update held key (some (secretOf text))) (s.put key (Text.Utf8.encode text)) := by
  intro other ho
  rw [Function.update_apply, get?_put_apply]
  by_cases hk : other = key
  · exact ⟨some text, by simp [hk]⟩
  · simp only [if_neg hk]
    exact hm other ho

theorem Mirrors.erase {held : String → Option Json} (hm : Mirrors keys held s) (key : String) :
    Mirrors keys (Function.update held key none) (s.erase key) := by
  intro other ho
  rw [Function.update_apply, get?_erase_apply]
  by_cases hk : other = key
  · exact ⟨none, by simp [hk]⟩
  · simp only [if_neg hk]
    exact hm other ho

theorem Mirrors.congr {held held' : String → Option Json} (hm : Mirrors keys held s)
    (hh : ∀ other ∈ keys, held' other = held other) : Mirrors keys held' s := by
  intro other ho
  rw [hh other ho]
  exact hm other ho

theorem settle_refused {value : Octets} (hv : Text.Utf8.decode value = none) (kv : VaultKv) (key : String)
    (serve : Http.Server ω) (w : ω) :
    ((StoreCall.put key value).ask (.vaultKv kv)).settle serve w =
      ((.written (.error (.invalidValue key)), .vaultKv kv), w) := by
  have hput : kv.put key value = .ready (.error (.invalidValue key)) := by
    rw [VaultKv.put, writing, hv]
  rw [StoreCall.ask, Store.put, hput]
  rfl

theorem settle_put {value : Octets} {text : String} (hv : Text.Utf8.decode value = some text) (key : String) :
    ((StoreCall.put key value).ask (.vaultKv kv)).settle serve w =
      ((.written (readWritten key (kv.told serve (.write key text) w)), .vaultKv kv),
        kv.after serve (.write key text) w) := by
  have hput : kv.put key value = kv.ask (.write key text) (readWritten key) := by
    rw [VaultKv.put, writing, hv]
  rw [StoreCall.ask, Store.put, hput]
  rfl

namespace Engine

variable (engine : Engine kv keys serve secrets fails)

include engine

theorem step (hm : Mirrors keys (secrets w) s) (ho : call.operation? = some operation) (hk : call.key ∈ keys)
    (hf : fails operation w = false) :
    (call.ask (.vaultKv kv)).settle serve w =
        (((call.onMemory s).1, .vaultKv kv), kv.after serve operation w) ∧
      Mirrors keys (secrets (kv.after serve operation w)) (call.onMemory s).2 := by
  have hkey : operation.key ∈ keys := StoreCall.key_of_operation? ho ▸ hk
  have hanswer := engine.answers hkey hf
  have hchange := engine.changes hkey hf
  cases call with
  | put key value =>
    obtain ⟨text, hv, rfl⟩ := Option.map_eq_some_iff.mp ho
    obtain ⟨receipt, hreceipt⟩ := hanswer
    rw [settle_put hv, hreceipt]
    obtain rfl := Text.Utf8.eq_encode_of_decode hv
    exact ⟨rfl, (hm.put key text).congr hchange⟩
  | get key =>
    cases ho
    refine ⟨?_, hm.congr hchange⟩
    have hread : readValue key (kv.told serve (.read key) w) = .ok (s.get? key) := readValue_answered hm hk hanswer
    rw [StoreCall.onMemory, ← hread]
    rfl
  | erase key =>
    cases ho
    refine ⟨?_, (hm.erase key).congr hchange⟩
    have hread : readRemoved key (kv.told serve (.remove key) w) = .ok () := readRemoved_answered hanswer
    rw [StoreCall.onMemory, ← hread]
    rfl

theorem step_failed (ho : call.operation? = some operation) (hk : call.key ∈ keys) (hf : fails operation w = true) :
    ∃ message, (call.ask (.vaultKv kv)).settle serve w =
      ((call.failure (.backend message), .vaultKv kv), kv.after serve operation w) := by
  have hfailed := engine.failing (StoreCall.key_of_operation? ho ▸ hk) hf
  cases call with
  | put key value =>
    obtain ⟨text, hv, rfl⟩ := Option.map_eq_some_iff.mp ho
    obtain ⟨message, hmessage⟩ := readWritten_failed hfailed
    exact ⟨message, by rw [settle_put hv, hmessage]; rfl⟩
  | get key =>
    cases ho
    obtain ⟨message, hmessage⟩ := readValue_failed hfailed
    refine ⟨message, ?_⟩
    rw [StoreCall.failure, ← hmessage]
    rfl
  | erase key =>
    cases ho
    obtain ⟨message, hmessage⟩ := readRemoved_failed hfailed
    refine ⟨message, ?_⟩
    rw [StoreCall.failure, ← hmessage]
    rfl

end Engine

end VaultKv

structure StoreEvent.Tells (e : StoreEvent) : Prop where
  unasked : e.call.operation? = none →
    ∃ key value, e.call = .put key value ∧ e.answer = .written (.error (.invalidValue key))
  failed : e.failed = true → ∃ message, e.answer = e.call.failure (.backend message)

section Logs

variable {kv : VaultKv} {keys : Set String} {serve : Http.Server ω} {secrets : ω → String → Option Json}
  {fails : VaultKv.Operation → ω → Bool} {w w' : ω} {s : MemoryStore} {call : StoreCall} {calls : List StoreCall}

theorem log_vaultKv {answer : StoreAnswer}
    (hc : (call.ask (.vaultKv kv)).settle serve w = ((answer, .vaultKv kv), w')) :
    Store.log serve fails (call :: calls) (.vaultKv kv) w =
      ⟨call, answer, call.operation?.any (fails · w)⟩ :: Store.log serve fails calls (.vaultKv kv) w' := by
  rw [Store.log, hc]

theorem answers_memory (w : ω) :
    (Store.log serve fails (call :: calls) (.memory s) w).map StoreEvent.answer =
      (call.onMemory s).1 :: (Store.log serve fails calls (.memory (call.onMemory s).2) w).map StoreEvent.answer := by
  rw [Store.log, StoreCall.settle_memory]
  rfl

theorem StoreCall.eq_put_of_operation? (hc : call.operation? = none) :
    ∃ key value, call = .put key value ∧ Text.Utf8.decode value = none := by
  cases call with
  | put key value => exact ⟨key, value, rfl, Option.map_eq_none_iff.mp hc⟩
  | get | erase => cases hc

structure LikeMemory (serve : Http.Server ω) (fails : VaultKv.Operation → ω → Bool) (calls : List StoreCall)
    (s : MemoryStore) (log : List StoreEvent) : Prop where
  complete : log.map StoreEvent.call = calls
  tells : ∀ e ∈ log, e.Tells
  alike : ∀ w, (log.filter StoreEvent.counts).map StoreEvent.answer =
    (Store.log serve fails ((log.filter StoreEvent.counts).map StoreEvent.call) (.memory s) w).map StoreEvent.answer

theorem LikeMemory.skip {log : List StoreEvent} (hl : LikeMemory serve fails calls s log) {e : StoreEvent}
    (he : e.Tells) (hc : e.counts = false) : LikeMemory serve fails (e.call :: calls) s (e :: log) where
  complete := by rw [List.map_cons, hl.complete]
  tells := List.forall_mem_cons.mpr ⟨he, hl.tells⟩
  alike w := by
    rw [List.filter_cons_of_neg (by rw [hc]; exact Bool.false_ne_true)]
    exact hl.alike w

theorem LikeMemory.count {log : List StoreEvent} {e : StoreEvent}
    (hl : LikeMemory serve fails calls (e.call.onMemory s).2 log) (he : e.Tells) (hc : e.counts = true)
    (ha : e.answer = (e.call.onMemory s).1) :
    LikeMemory serve fails (e.call :: calls) s (e :: log) where
  complete := by rw [List.map_cons, hl.complete]
  tells := List.forall_mem_cons.mpr ⟨he, hl.tells⟩
  alike w := by
    rw [List.filter_cons_of_pos hc, List.map_cons, List.map_cons, answers_memory, ha, hl.alike w]

theorem VaultKv.Engine.likeMemory (engine : Engine kv keys serve secrets fails)
    (hm : Mirrors keys (secrets w) s) (hk : ∀ call ∈ calls, call.key ∈ keys) :
    LikeMemory serve fails calls s (Store.log serve fails calls (.vaultKv kv) w) := by
  induction calls generalizing s w with
  | nil => exact ⟨rfl, List.forall_mem_nil _, fun _ => rfl⟩
  | cons call calls ih =>
    rw [List.forall_mem_cons] at hk
    cases ho : call.operation? with
    | none =>
      -- The octets are no text, so that the server is not asked and the memory is not to be told.
      obtain ⟨key, value, rfl, hv⟩ := StoreCall.eq_put_of_operation? ho
      rw [log_vaultKv (settle_refused hv kv key serve w), ho, Option.any_none]
      have htells : StoreEvent.Tells ⟨.put key value, .written (.error (.invalidValue key)), false⟩ :=
        ⟨fun _ => ⟨key, value, rfl, rfl⟩, nofun⟩
      apply (ih hm hk.2).skip htells
      rw [StoreEvent.counts, ho]
      rfl
    | some operation =>
      cases hf : fails operation w with
      | true =>
        obtain ⟨message, hsettle⟩ := engine.step_failed ho hk.1 hf
        have hunchanged := engine.unchanged (StoreCall.key_of_operation? ho ▸ hk.1) hf
        rw [log_vaultKv hsettle, ho, Option.any_some, hf]
        have htells : StoreEvent.Tells ⟨call, call.failure (.backend message), true⟩ :=
          ⟨fun hn => absurd (ho.symm.trans hn) nofun, fun _ => ⟨message, rfl⟩⟩
        apply (ih (hm.congr hunchanged) hk.2).skip htells
        rw [StoreEvent.counts, Bool.not_true, Bool.and_false]
      | false =>
        obtain ⟨hsettle, hafter⟩ := engine.step hm ho hk.1 hf
        rw [log_vaultKv hsettle, ho, Option.any_some, hf]
        have htells : StoreEvent.Tells ⟨call, (call.onMemory s).1, false⟩ :=
          ⟨fun hn => absurd (ho.symm.trans hn) nofun, nofun⟩
        refine (ih hafter hk.2).count htells ?_ rfl
        rw [StoreEvent.counts, ho]
        rfl

theorem failed_eq_false (hf : ∀ operation w, fails operation w = false) (s : Store) :
    ∀ e ∈ Store.log serve fails calls s w, e.failed = false := by
  induction calls generalizing s w with
  | nil => exact List.forall_mem_nil _
  | cons call calls ih =>
    rw [Store.log]
    refine List.forall_mem_cons.mpr ⟨?_, ih _⟩
    cases call.operation? with
    | none => rfl
    | some operation => exact hf operation w

theorem LikeMemory.unfailing {log : List StoreEvent} (hl : LikeMemory serve fails calls s log)
    (hf : ∀ e ∈ log, e.failed = false) :
    (log.filter fun e => e.call.operation?.isSome).map StoreEvent.answer =
      (Store.log serve fails (calls.filter fun call => call.operation?.isSome) (.memory s) w).map
        StoreEvent.answer := by
  have hcounts : log.filter StoreEvent.counts = log.filter fun e => e.call.operation?.isSome := by
    apply List.filter_congr
    intro e he
    rw [StoreEvent.counts, hf e he, Bool.not_false, Bool.and_true]
  have hcalls : (log.filter StoreEvent.counts).map StoreEvent.call =
      calls.filter fun call => call.operation?.isSome := by
    rw [hcounts, ← hl.complete, List.filter_map]
    rfl
  rw [← hcounts, hl.alike w, hcalls]

end Logs

end CertEnroll
