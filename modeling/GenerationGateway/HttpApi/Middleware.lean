import GenerationGateway.Library.Channels
import GenerationGateway.Library.Reachability
import GenerationGateway.Library.Text
import GenerationGateway.Store.Schema

/-!
# The middleware of the public API

Every request goes through the bulkhead, which holds a slot of up to three semaphores while the
request is served, and leaves a row for the request log. The rows go through a buffer to workers
that write them in batches. Requests and workers run beside each other in any order.
-/

namespace GenerationGateway.Middleware

open Relational Transitions Channels Text

/-! ### Requests -/

/-- What the admission of a request reads. `id` is its goroutine. -/
structure GatewayRequest where
  id : ℕ
  requestID : String
  method : String
  path : String
  contentType : String
  clientIP : String
  deriving DecidableEq

def paidCreationRequest (r : GatewayRequest) : Bool :=
  decide (r.method = "POST") && ["/v1/images/generations", "/v1/videos/generations",
    "/v1/audio/generations", "/v1/chat/completions"].contains r.path

def synchronousCreationRequest (r : GatewayRequest) : Bool :=
  decide (r.path = "/v1/chat/completions")

inductive Slot
  | generation | multipart | sync
  deriving DecidableEq

/-- The slots that `generationBulkhead` acquires, one after the other. -/
def bulkheadSlots (r : GatewayRequest) : List Slot :=
  if paidCreationRequest r then
    .generation :: ((if hasPrefix (toLower r.contentType) "multipart/form-data" then [.multipart]
      else []) ++ if synchronousCreationRequest r then [.sync] else [])
  else []

/-- The code and the message of the 503 for a semaphore that is full. -/
def Slot.refusal : Slot → String × String
  | generation => ("gateway_overloaded", "generation admission is temporarily full")
  | multipart => ("upload_capacity_exhausted", "multipart upload capacity is temporarily full")
  | sync => ("sync_capacity_exhausted", "synchronous generation capacity is temporarily full")

/-- What the handlers note about a request. -/
structure RequestMetadata where
  providerID : String
  apiKeyID : Option UUID
  apiKeyPrefix : String
  kind : String
  model : String
  parameters : JSON
  promptChars : ℤ
  estimatedTokens : Option ℤ
  taskID : Option UUID
  accountID : Option UUID
  deriving DecidableEq

def RequestMetadata.empty : RequestMetadata :=
  ⟨"leonardo", none, "", "", "", emptyObject, 0, none, none, none⟩

/-- How the chain behind the request log returns: with a status and the error code of the body, or
by a panic, which the recoverer outside handles. -/
inductive Ending
  | responded (metadata : RequestMetadata) (status : ℕ) (code : String) (durationMS : ℤ)
  | panicked
  deriving DecidableEq

/-- A request between its arrival and its log row. It acquires the slots in `pending` from the front
and holds those in `held`, the last one first, as their releases are deferred. -/
structure InFlight where
  request : GatewayRequest
  pending : List Slot
  held : List Slot
  ending : Option Ending
  order : held.reverse ++ pending <+: bulkheadSlots request
  complete : ending = none → held.reverse ++ pending = bulkheadSlots request

instance : Keyed ℕ InFlight := ⟨fun f => f.request.id⟩

namespace InFlight

def arrive (r : GatewayRequest) : InFlight :=
  ⟨r, bulkheadSlots r, [], none, List.prefix_rfl, fun _ => rfl⟩

/-- The next slot is acquired. -/
def acquire (f : InFlight) : InFlight :=
  match h : f.pending with
  | [] => f
  | slot :: rest =>
    { f with
      pending := rest
      held := slot :: f.held
      order := by
        have horder := f.order
        rw [h] at horder
        simpa using horder
      complete := fun hrunning => by
        have hcomplete := f.complete hrunning
        rw [h] at hcomplete
        simpa using hcomplete }

/-- The handler returns, and nothing more is acquired. -/
def finish (f : InFlight) (e : Ending) : InFlight :=
  { f with
    pending := []
    ending := some e
    order := by
      rw [List.append_nil]
      exact (List.prefix_append _ _).trans f.order
    complete := fun h => by cases h }

/-- The last slot is released. -/
def release (f : InFlight) (e : Ending) : InFlight :=
  { f with
    pending := []
    held := f.held.tail
    ending := some e
    order := by
      rw [List.append_nil]
      have htail : f.held.tail.reverse <+: f.held.reverse :=
        List.reverse_prefix.mpr (List.tail_suffix _)
      exact htail.trans ((List.prefix_append _ _).trans f.order)
    complete := fun h => by cases h }

/-- The handler runs, or a middleware before the bulkhead does. -/
def answering (f : InFlight) : Bool :=
  f.ending.isNone && (f.pending.isEmpty || f.held.isEmpty)

end InFlight

/-! ### The request log -/

structure APIRequestLog where
  requestID : String
  providerID : String
  apiKeyID : Option UUID
  apiKeyPrefix : String
  accountID : Option UUID
  taskID : Option UUID
  method : String
  path : String
  kind : String
  model : String
  parameters : JSON
  promptChars : ℤ
  estimatedTokens : Option ℤ
  status : ℕ
  errorCode : String
  durationMS : ℤ
  clientIP : String
  deriving DecidableEq

def apiRequestLogEntry (r : GatewayRequest) (m : RequestMetadata) (status : ℕ) (code : String)
    (durationMS : ℤ) : APIRequestLog where
  requestID := r.requestID
  providerID := m.providerID
  apiKeyID := m.apiKeyID
  apiKeyPrefix := m.apiKeyPrefix
  accountID := m.accountID
  taskID := m.taskID
  method := r.method
  path := r.path
  kind := m.kind
  model := m.model
  parameters := m.parameters
  promptChars := m.promptChars
  estimatedTokens := m.estimatedTokens
  status := if status = 0 then 200 else status
  errorCode := if (if status = 0 then 200 else status) < 400 then "" else code
  durationMS := durationMS
  clientIP := r.clientIP

/-- The columns of `api_keys` that the request log writes. -/
structure KeyUsage where
  id : UUID
  requestCount : ℤ
  lastUsedAt : Option Time
  deriving DecidableEq

instance : Keyed UUID KeyUsage := ⟨KeyUsage.id⟩

/-- The tables that the request log writes, and the keys of those its rows refer to. -/
structure LogDatabase where
  providers : List String
  accounts : List UUID
  tasks : List UUID
  apiKeys : Table KeyUsage
  rows : List APIRequestLog

/-- The foreign keys and the CHECK constraints of `api_request_logs`. -/
def LogDatabase.accepts (db : LogDatabase) (row : APIRequestLog) : Bool :=
  db.providers.contains row.providerID && row.apiKeyID.all (fun k => (db.apiKeys.get? k).isSome) &&
    row.accountID.all (db.accounts.contains ·) && row.taskID.all (db.tasks.contains ·) &&
    decide (0 ≤ row.promptChars) && row.estimatedTokens.all (fun n => decide (0 ≤ n)) &&
    decide (100 ≤ row.status ∧ row.status ≤ 599) && decide (0 ≤ row.durationMS)

def usageOf (k : UUID) (entries : List APIRequestLog) : ℕ :=
  entries.countP fun entry => decide (entry.apiKeyID = some k)

/-- The keys of the map `usage`. -/
def usedKeys (entries : List APIRequestLog) : List UUID := (entries.filterMap (·.apiKeyID)).dedup

section Write

variable (validJSON : JSON → Bool)

def logRow (entry : APIRequestLog) : APIRequestLog :=
  { entry with
    providerID := if toLower (trimSpace entry.providerID) = "" then "leonardo"
      else toLower (trimSpace entry.providerID)
    parameters := if entry.parameters = "" ∨ validJSON entry.parameters = false then emptyObject
      else entry.parameters }

def KeyUsage.add (now : Time) (n : ℕ) (u : KeyUsage) : KeyUsage :=
  { u with requestCount := u.requestCount + n, lastUsedAt := some now }

theorem KeyUsage.add_key (now : Time) (n : ℕ) (u : KeyUsage) :
    Keyed.key (u.add now n) = Keyed.key u := rfl

/-- The updates of the keys in turn, with the number of entries of each. -/
def chargeKeys (now : Time) (n : UUID → ℕ) (order : List UUID) (keys : Table KeyUsage) :
    Table KeyUsage :=
  order.foldl (fun keys k => keys.modify k (KeyUsage.add now (n k)) (KeyUsage.add_key now (n k)))
    keys

/-- `WriteAPIRequestLogs`, with the order in which the map is iterated; `none` is the rollback. -/
def writeAPIRequestLogs (now : Time) (order : List UUID) (entries : List APIRequestLog)
    (db : LogDatabase) : Option LogDatabase :=
  if entries = [] then some db
  else if (entries.map (logRow validJSON)).all db.accepts then
    some { db with
      rows := db.rows ++ entries.map (logRow validJSON)
      apiKeys := chargeKeys now (usageOf · entries) order db.apiKeys }
  else none

end Write

/-- A worker with the batch it collects. -/
structure LogWorker where
  id : ℕ
  batch : List APIRequestLog
  bounded : batch.length ≤ 100

instance : Keyed ℕ LogWorker := ⟨LogWorker.id⟩

namespace LogWorker

def collect (w : LogWorker) (entry : APIRequestLog) : LogWorker :=
  if h : w.batch.length < 100 then
    ⟨w.id, w.batch ++ [entry], by rw [List.length_append]; exact h⟩
  else w

def clear (w : LogWorker) : LogWorker := ⟨w.id, [], Nat.zero_le _⟩

def idle (id : ℕ) : LogWorker := ⟨id, [], Nat.zero_le _⟩

/-- The workers that `New` starts. -/
def fleet (n : ℕ) : Table LogWorker where
  rows := (List.range (max 1 n)).map idle
  nodup := by
    rw [List.map_map]
    exact List.nodup_range.map fun _ _ h => h

end LogWorker

/-! ### The server -/

/-- The semaphores, the buffer and the workers of one server with the requests inside, its
database, and the entries made so far: all of them, and those that were dropped, written, lost
with their batch, and written by other servers. -/
structure Gateway where
  slots : Slot → Channel Unit
  queue : Channel APIRequestLog
  inFlight : Table InFlight
  workers : Table LogWorker
  db : LogDatabase
  finished : List APIRequestLog
  dropped : List APIRequestLog
  written : List APIRequestLog
  lost : List APIRequestLog
  elsewhere : List APIRequestLog

namespace Gateway

/-- `New`, with capacities and workers of at least one and a buffer of at least a hundred. -/
def new (generation multipart sync buffer workers : ℕ) (db : LogDatabase) : Gateway where
  slots
    | .generation => .make (max 1 generation)
    | .multipart => .make (max 1 multipart)
    | .sync => .make (max 1 sync)
  queue := .make (max 100 buffer)
  inFlight := .empty
  workers := LogWorker.fleet workers
  db := db
  finished := []
  dropped := []
  written := []
  lost := []
  elsewhere := []

def setSlot (g : Gateway) (slot : Slot) (c : Channel Unit) : Slot → Channel Unit :=
  Function.update g.slots slot c

end Gateway

inductive GatewayAct
  | arrive (r : GatewayRequest)
  | acquire (id : ℕ) (metadata : RequestMetadata) (durationMS : ℤ)
  | finish (id : ℕ) (e : Ending)
  | release (id : ℕ)
  | log (id : ℕ)
  | receive (worker : ℕ)
  | flush (worker : ℕ) (now : Time) (order : List UUID) (fails : Bool)
  | elsewhere (now : Time) (order : List UUID) (entries : List APIRequestLog)

@[simp] theorem InFlight.acquire_request (f : InFlight) : f.acquire.request = f.request := by
  unfold InFlight.acquire
  split <;> rfl

@[simp] theorem LogWorker.collect_id (w : LogWorker) (entry : APIRequestLog) :
    (w.collect entry).id = w.id := by
  unfold LogWorker.collect
  split_ifs <;> rfl

section Steps

variable (validJSON : JSON → Bool)

/-- `none` where the step has to wait or does not apply. -/
def Gateway.step (g : Gateway) : GatewayAct → Option Gateway
  | .arrive r => (g.inFlight.insert? (.arrive r)).map fun table => { g with inFlight := table }
  | .acquire id metadata durationMS =>
    (g.inFlight.get? id).bind fun f =>
      match f.ending, f.pending with
      | none, slot :: _ =>
        match (g.slots slot).trySend () with
        | some c => some { g with
            slots := g.setSlot slot c
            inFlight := g.inFlight.modify id InFlight.acquire fun f => congrArg GatewayRequest.id f.acquire_request }
        | none => some { g with
            inFlight := g.inFlight.modify id
              (InFlight.finish · (.responded metadata 503 slot.refusal.1 durationMS)) fun _ => rfl }
      | _, _ => none
  | .finish id e =>
    (g.inFlight.get? id).bind fun f =>
      if f.answering then
        some { g with inFlight := g.inFlight.modify id (InFlight.finish · e) fun _ => rfl }
      else none
  | .release id =>
    (g.inFlight.get? id).bind fun f =>
      match f.ending, f.held with
      | some e, slot :: _ =>
        (g.slots slot).receive.map fun received => { g with
          slots := g.setSlot slot received.2
          inFlight := g.inFlight.modify id (InFlight.release · e) fun _ => rfl }
      | _, _ => none
  | .log id =>
    (g.inFlight.get? id).bind fun f =>
      match f.ending, f.held with
      | some (.responded metadata status code durationMS), [] =>
        let entry := apiRequestLogEntry f.request metadata status code durationMS
        let rest := g.inFlight.deleteWhere fun f => Keyed.key f = id
        match g.queue.trySend entry with
        | some queue => some { g with
            inFlight := rest, queue := queue, finished := entry :: g.finished }
        | none => some { g with
            inFlight := rest, finished := entry :: g.finished, dropped := entry :: g.dropped }
      | some .panicked, [] =>
        some { g with inFlight := g.inFlight.deleteWhere fun f => Keyed.key f = id }
      | _, _ => none
  | .receive worker =>
    (g.workers.get? worker).bind fun w =>
      if w.batch.length < 100 then
        g.queue.receive.map fun received => { g with
          queue := received.2
          workers := g.workers.modify worker (LogWorker.collect · received.1)
            fun w => w.collect_id received.1 }
      else none
  | .flush worker now order fails =>
    (g.workers.get? worker).bind fun w =>
      if w.batch = [] ∨ ¬ order.Perm (usedKeys w.batch) then none
      else
        let cleared := g.workers.modify worker LogWorker.clear fun _ => rfl
        match if fails then none else writeAPIRequestLogs validJSON now order w.batch g.db with
        | some db => some { g with
            workers := cleared, db := db, written := w.batch ++ g.written }
        | none => some { g with workers := cleared, lost := w.batch ++ g.lost }
  | .elsewhere now order entries =>
    if order.Perm (usedKeys entries) then
      (writeAPIRequestLogs validJSON now order entries g.db).map fun db =>
        { g with db := db, elsewhere := entries ++ g.elsewhere }
    else none

def gateway : LTS Gateway GatewayAct := .ofStep (Gateway.step validJSON)

end Steps

/-- The effects of the steps, with what each has found. -/
inductive Stepped (validJSON : JSON → Bool) (g : Gateway) : Gateway → Prop
  | arrive {r : GatewayRequest} {table : Table InFlight}
      (h : g.inFlight.insert? (.arrive r) = some table) :
      Stepped validJSON g { g with inFlight := table }
  | acquire {id : ℕ} {f : InFlight} {slot : Slot} {rest : List Slot} {c : Channel Unit}
      (hf : g.inFlight.get? id = some f) (hp : f.pending = slot :: rest)
      (hc : (g.slots slot).trySend () = some c) :
      Stepped validJSON g { g with
        slots := g.setSlot slot c
        inFlight := g.inFlight.modify id InFlight.acquire
          fun f => congrArg GatewayRequest.id f.acquire_request }
  | finish {id : ℕ} {f : InFlight} (e : Ending) (hf : g.inFlight.get? id = some f) :
      Stepped validJSON g { g with
        inFlight := g.inFlight.modify id (InFlight.finish · e) fun _ => rfl }
  | release {id : ℕ} {f : InFlight} {e : Ending} {slot : Slot} {rest : List Slot} {u : Unit}
      {c : Channel Unit} (hf : g.inFlight.get? id = some f) (hheld : f.held = slot :: rest)
      (hc : (g.slots slot).receive = some (u, c)) :
      Stepped validJSON g { g with
        slots := g.setSlot slot c
        inFlight := g.inFlight.modify id (InFlight.release · e) fun _ => rfl }
  | log {id : ℕ} {f : InFlight} {queue : Channel APIRequestLog} (entry : APIRequestLog)
      (hf : g.inFlight.get? id = some f) (hheld : f.held = [])
      (hqueue : g.queue.trySend entry = some queue) :
      Stepped validJSON g { g with
        inFlight := g.inFlight.deleteWhere fun f => Keyed.key f = id
        queue := queue, finished := entry :: g.finished }
  | drop {id : ℕ} {f : InFlight} (entry : APIRequestLog) (hf : g.inFlight.get? id = some f)
      (hheld : f.held = []) (hqueue : g.queue.trySend entry = none) :
      Stepped validJSON g { g with
        inFlight := g.inFlight.deleteWhere fun f => Keyed.key f = id
        finished := entry :: g.finished, dropped := entry :: g.dropped }
  | vanish {id : ℕ} {f : InFlight} (hf : g.inFlight.get? id = some f) (hheld : f.held = []) :
      Stepped validJSON g { g with
        inFlight := g.inFlight.deleteWhere fun f => Keyed.key f = id }
  | receive {worker : ℕ} {w : LogWorker} {entry : APIRequestLog} {queue : Channel APIRequestLog}
      (hw : g.workers.get? worker = some w) (hroom : w.batch.length < 100)
      (hqueue : g.queue.receive = some (entry, queue)) :
      Stepped validJSON g { g with
        queue := queue
        workers := g.workers.modify worker (LogWorker.collect · entry)
          fun w => w.collect_id entry }
  | write {worker : ℕ} {w : LogWorker} {now : Time} {order : List UUID} {db : LogDatabase}
      (hw : g.workers.get? worker = some w) (horder : order.Perm (usedKeys w.batch))
      (hdb : writeAPIRequestLogs validJSON now order w.batch g.db = some db) :
      Stepped validJSON g { g with
        workers := g.workers.modify worker LogWorker.clear fun _ => rfl
        db := db, written := w.batch ++ g.written }
  | lose {worker : ℕ} {w : LogWorker} (hw : g.workers.get? worker = some w) :
      Stepped validJSON g { g with
        workers := g.workers.modify worker LogWorker.clear fun _ => rfl
        lost := w.batch ++ g.lost }
  | elsewhere {now : Time} {order : List UUID} {entries : List APIRequestLog} {db : LogDatabase}
      (horder : order.Perm (usedKeys entries))
      (hdb : writeAPIRequestLogs validJSON now order entries g.db = some db) :
      Stepped validJSON g { g with db := db, elsewhere := entries ++ g.elsewhere }

theorem Gateway.step_cases {validJSON : JSON → Bool} {g g' : Gateway} {act : GatewayAct}
    (h : g.step validJSON act = some g') : Stepped validJSON g g' := by
  cases act with
  | arrive r =>
    obtain ⟨table, htable, rfl⟩ := Option.map_eq_some_iff.mp h
    exact .arrive htable
  | acquire id metadata durationMS =>
    obtain ⟨f, hf, h⟩ := Option.bind_eq_some_iff.mp h
    split at h
    · next slot rest hending hp =>
      split at h
      · next c hc =>
        cases h
        exact .acquire hf hp hc
      · cases h
        exact .finish _ hf
    · cases h
  | finish id e =>
    obtain ⟨f, hf, h⟩ := Option.bind_eq_some_iff.mp h
    split_ifs at h
    cases h
    exact .finish e hf
  | release id =>
    obtain ⟨f, hf, h⟩ := Option.bind_eq_some_iff.mp h
    split at h
    · next e slot rest hending hheld =>
      obtain ⟨⟨u, c⟩, hc, rfl⟩ := Option.map_eq_some_iff.mp h
      exact .release hf hheld hc
    · cases h
  | log id =>
    obtain ⟨f, hf, h⟩ := Option.bind_eq_some_iff.mp h
    split at h
    · next hending hheld =>
      dsimp only at h
      split at h
      · next queue hqueue =>
        cases h
        exact .log _ hf hheld hqueue
      · next hqueue =>
        cases h
        exact .drop _ hf hheld hqueue
    · next hending hheld =>
      cases h
      exact .vanish hf hheld
    · cases h
  | receive worker =>
    obtain ⟨w, hw, h⟩ := Option.bind_eq_some_iff.mp h
    split_ifs at h with hroom
    obtain ⟨⟨entry, queue⟩, hqueue, rfl⟩ := Option.map_eq_some_iff.mp h
    exact .receive hw hroom hqueue
  | flush worker now order fails =>
    obtain ⟨w, hw, h⟩ := Option.bind_eq_some_iff.mp h
    split_ifs at h with hready hfails
    · cases h
      exact .lose hw
    · split at h
      · next db hdb =>
        cases h
        exact .write hw (not_not.mp fun hperm => hready (.inr hperm)) hdb
      · cases h
        exact .lose hw
  | elsewhere now order entries =>
    dsimp only [Gateway.step] at h
    split_ifs at h with horder
    obtain ⟨db, hdb, rfl⟩ := Option.map_eq_some_iff.mp h
    exact .elsewhere horder hdb

/-! ### The slots -/

/-- How many of the slots the requests inside hold. -/
def Gateway.holders (g : Gateway) (slot : Slot) : ℕ :=
  g.inFlight.total fun f => f.held.count slot

/-- What is in a semaphore is what the requests inside hold of it. -/
def Gateway.Balanced (g : Gateway) : Prop :=
  ∀ slot, (g.slots slot).items.length = g.holders slot

theorem InFlight.acquire_held {f : InFlight} {slot : Slot} {rest : List Slot}
    (h : f.pending = slot :: rest) : f.acquire.held = slot :: f.held := by
  unfold InFlight.acquire
  split
  · next hnil => simp [hnil] at h
  · next hcons =>
    rw [hcons] at h
    cases h
    rfl

section Slots

variable {validJSON : JSON → Bool} {g g' : Gateway} {slot : Slot}

theorem Gateway.setSlot_length (c : Channel Unit) (other : Slot) :
    (g.setSlot slot c other).items.length =
      if other = slot then c.items.length else (g.slots other).items.length := by
  unfold Gateway.setSlot
  rw [Function.update_apply]
  split_ifs <;> rfl

theorem Stepped.balanced (h : Stepped validJSON g g') (hg : g.Balanced) : g'.Balanced := by
  intro other
  have hused := hg other
  cases h with
  | arrive h =>
    rw [hused]
    have htotal := Table.total_insert? h fun f => f.held.count other
    simpa [Gateway.holders, InFlight.arrive] using htotal.symm
  | @acquire id f slot rest c hf hp hc =>
    have htotal := Table.total_modify hf InFlight.acquire
      (fun f => congrArg GatewayRequest.id f.acquire_request) fun f => f.held.count other
    rw [InFlight.acquire_held hp, List.count_cons] at htotal
    have hlength := congrArg List.length (Channel.trySend_eq_some hc).2
    simp only [Gateway.setSlot_length, Gateway.holders] at hused htotal ⊢
    split_ifs with heq
    · subst heq
      simp at hlength htotal
      omega
    · have hne : (slot == other) = false := by simpa using fun h => heq h.symm
      simp [hne] at htotal
      omega
  | @finish id f e hf =>
    have htotal := Table.total_modify hf (InFlight.finish · e) (fun _ => rfl)
      fun f => f.held.count other
    have hsame : (f.finish e).held = f.held := rfl
    rw [hsame] at htotal
    simp only [Gateway.holders] at hused ⊢
    omega
  | @release id f e slot rest u c hf hheld hc =>
    have htotal := Table.total_modify hf (InFlight.release · e) (fun _ => rfl)
      fun f => f.held.count other
    have hlength := congrArg List.length (Channel.receive_eq_some hc).2
    have hrest : (f.release e).held = rest := by
      change f.held.tail = rest
      rw [hheld]
      rfl
    rw [hrest, hheld, List.count_cons] at htotal
    simp only [Gateway.setSlot_length, Gateway.holders] at hused htotal ⊢
    split_ifs with heq
    · subst heq
      simp at hlength htotal
      omega
    · have hne : (slot == other) = false := by simpa using fun h => heq h.symm
      simp [hne] at htotal
      omega
  | log entry hf hheld | drop entry hf hheld | vanish hf hheld =>
    have htotal := Table.total_deleteKey hf fun f => f.held.count other
    rw [hheld, List.count_nil, add_zero] at htotal
    exact hused.trans htotal.symm
  | receive | write | lose | elsewhere => exact hused

theorem Stepped.capacity (h : Stepped validJSON g g') (slot : Slot) :
    (g'.slots slot).capacity = (g.slots slot).capacity := by
  have hset {other : Slot} {c : Channel Unit} (hc : c.capacity = (g.slots other).capacity) :
      (g.setSlot other c slot).capacity = (g.slots slot).capacity := by
    unfold Gateway.setSlot
    rw [Function.update_apply]
    split_ifs with heq
    · rw [hc, heq]
    · rfl
  cases h with
  | acquire hf hp hc => exact hset (Channel.trySend_eq_some hc).1
  | release hf hheld hc => exact hset (Channel.receive_eq_some hc).1
  | _ => rfl

end Slots

/-- What the bulkhead guarantees at every moment. -/
structure Gateway.Guarded (validJSON : JSON → Bool) (g start : Gateway) : Prop where
  /-- The slots in use are those of the requests inside, and never more than there are. -/
  bounded : ∀ slot, g.holders slot = (g.slots slot).items.length ∧
    g.holders slot ≤ (start.slots slot).capacity
  /-- A request acquires in the order of its slots and is served with all of them. -/
  served : ∀ id f, g.inFlight.get? id = some f →
    f.held.reverse ++ f.pending <+: bulkheadSlots f.request ∧
    (f.ending = none → f.pending = [] → f.held.reverse = bulkheadSlots f.request)
  /-- A slot is refused when all are in use, and only then. -/
  refusals : ∀ id f slot rest metadata durationMS, g.inFlight.get? id = some f →
    f.ending = none → f.pending = slot :: rest →
    ∃ g', g.step validJSON (.acquire id metadata durationMS) = some g' ∧
      (if g.holders slot = (start.slots slot).capacity then
        (g'.inFlight.get? id).bind InFlight.ending =
          some (.responded metadata 503 slot.refusal.1 durationMS)
      else g'.holders slot = g.holders slot + 1)
  /-- Neither a release nor the log waits. -/
  leaves : ∀ id f, g.inFlight.get? id = some f → f.ending ≠ none →
    (g.step validJSON (if f.held = [] then .log id else .release id)).isSome = true
  /-- Nothing leaks. -/
  idle : g.inFlight.rows = [] → ∀ slot, (g.slots slot).items = []

section Guarded

variable {validJSON : JSON → Bool} {start g : Gateway} {slot : Slot}

theorem Gateway.count_le_holders {id : ℕ} {f : InFlight} (hf : g.inFlight.get? id = some f)
    (slot : Slot) :
    f.held.count slot ≤ g.holders slot := by
  have htotal := Table.total_deleteKey hf fun f => f.held.count slot
  unfold Gateway.holders
  omega

theorem Gateway.step_acquire {id : ℕ} {f : InFlight} {rest : List Slot}
    (metadata : RequestMetadata) (durationMS : ℤ) (hf : g.inFlight.get? id = some f)
    (hending : f.ending = none) (hp : f.pending = slot :: rest) :
    g.step validJSON (.acquire id metadata durationMS) =
      match (g.slots slot).trySend () with
      | some c => some { g with
          slots := g.setSlot slot c
          inFlight := g.inFlight.modify id InFlight.acquire
            fun f => congrArg GatewayRequest.id f.acquire_request }
      | none => some { g with
          inFlight := g.inFlight.modify id
            (InFlight.finish · (.responded metadata 503 slot.refusal.1 durationMS)) fun _ => rfl } := by
  simp only [Gateway.step, hf, Option.bind_some, hending, hp]

theorem Gateway.Balanced.receive_isSome (h : g.Balanced) {id : ℕ} {f : InFlight}
    (hf : g.inFlight.get? id = some f) (hslot : slot ∈ f.held) :
    ((g.slots slot).receive).isSome = true := by
  rw [Option.isSome_iff_ne_none]
  intro hnone
  have hempty := Channel.receive_eq_none.mp hnone
  have hused := h slot
  have hcount : 0 < f.held.count slot := List.count_pos_iff.mpr hslot
  have hle := Gateway.count_le_holders hf slot
  rw [hempty, List.length_nil] at hused
  omega

theorem Gateway.Balanced.guarded (h : g.Balanced)
    (hcapacity : ∀ slot, (g.slots slot).capacity = (start.slots slot).capacity) :
    g.Guarded validJSON start where
  bounded := by
    intro slot
    refine ⟨(h slot).symm, ?_⟩
    rw [← h slot, ← hcapacity slot]
    exact (g.slots slot).bounded
  served := by
    intro id f hf
    refine ⟨f.order, fun hending hp => ?_⟩
    have hcomplete := f.complete hending
    rwa [hp, List.append_nil] at hcomplete
  refusals := by
    intro id f slot rest metadata durationMS hf hending hp
    rw [Gateway.step_acquire metadata durationMS hf hending hp, ← h slot, ← hcapacity slot]
    cases hc : (g.slots slot).trySend () with
    | none =>
      refine ⟨_, rfl, ?_⟩
      rw [if_pos (Channel.trySend_eq_none.mp hc)]
      simp [hf, InFlight.finish]
    | some c =>
      refine ⟨_, rfl, ?_⟩
      rw [if_neg]
      · have hstep : Stepped validJSON g _ := .acquire hf hp hc
        have hbalanced := hstep.balanced h slot
        rw [Gateway.setSlot_length, if_pos rfl] at hbalanced
        rw [← hbalanced, (Channel.trySend_eq_some hc).2, List.length_append]
        rfl
      · intro hfull
        rw [Channel.trySend_eq_none.mpr hfull] at hc
        cases hc
  leaves := by
    intro id f hf hended
    obtain ⟨e, he⟩ := Option.ne_none_iff_exists'.mp hended
    cases hheld : f.held with
    | nil =>
      rw [if_pos rfl]
      cases e with
      | panicked => simp [Gateway.step, hf, he, hheld]
      | responded metadata status code durationMS =>
        simp only [Gateway.step, hf, Option.bind_some, he, hheld]
        split <;> rfl
    | cons slot rest =>
      have hreceive := h.receive_isSome hf (show slot ∈ f.held by simp [hheld])
      rw [if_neg (List.cons_ne_nil _ _)]
      simpa [Gateway.step, hf, he, hheld] using hreceive
  idle := by
    intro hidle slot
    have hused := h slot
    rw [Gateway.holders, Table.total, hidle] at hused
    exact List.length_eq_zero_iff.mp hused

/-- The bulkhead holds in every order of the requests' steps. -/
theorem bulkhead_guarded {generation multipart sync buffer workers : ℕ} {db : LogDatabase}
    (h : (gateway validJSON).Reachable (.new generation multipart sync buffer workers db) g) :
    g.Guarded validJSON (.new generation multipart sync buffer workers db) := by
  set start := Gateway.new generation multipart sync buffer workers db with hstart
  have hinvariant : g.Balanced ∧ ∀ slot, (g.slots slot).capacity = (start.slots slot).capacity := by
    refine h.invariant (I := fun g => g.Balanced ∧
      ∀ slot, (g.slots slot).capacity = (start.slots slot).capacity) ?_ ⟨?_, fun _ => rfl⟩
    · rintro g act g' hstep ⟨hbalanced, hcapacity⟩
      have hstepped := Gateway.step_cases hstep
      exact ⟨hstepped.balanced hbalanced, fun slot => (hstepped.capacity slot).trans (hcapacity slot)⟩
    · intro slot
      cases slot <;> rfl
  exact hinvariant.1.guarded hinvariant.2

end Guarded

/-! ### The entries -/

section Write

variable {validJSON : JSON → Bool} {now : Time} {order : List UUID} {entries : List APIRequestLog}
  {db db' : LogDatabase}

theorem get?_chargeKeys (horder : order.Nodup) (keys : Table KeyUsage) (n : UUID → ℕ) (k : UUID) :
    (chargeKeys now n order keys).get? k =
      if k ∈ order then (keys.get? k).map (KeyUsage.add now (n k)) else keys.get? k := by
  induction order generalizing keys with
  | nil => rfl
  | cons j rest ih =>
    obtain ⟨hnew, hrest⟩ := List.nodup_cons.mp horder
    have hcons : chargeKeys now n (j :: rest) keys = chargeKeys now n rest
        (keys.modify j (KeyUsage.add now (n j)) (KeyUsage.add_key now (n j))) := rfl
    rw [hcons, ih hrest]
    by_cases hj : k = j
    · subst hj
      rw [if_neg hnew, if_pos List.mem_cons_self, Table.get?_modify_self]
    · rw [Table.get?_modify_of_ne _ hj]
      simp [hj]

theorem usageOf_eq_zero {k : UUID} (h : k ∉ usedKeys entries) : usageOf k entries = 0 := by
  refine List.countP_eq_zero.mpr fun entry hentry hkey => h ?_
  exact List.mem_dedup.mpr (List.mem_filterMap.mpr ⟨entry, hentry, of_decide_eq_true hkey⟩)

/-- A batch is written whole, and each key is charged for its entries, in whatever order the map is
iterated. -/
theorem writeAPIRequestLogs_spec (h : writeAPIRequestLogs validJSON now order entries db = some db')
    (horder : order.Perm (usedKeys entries)) :
    db'.rows = db.rows ++ entries.map (logRow validJSON) ∧
      ∀ k, (db'.apiKeys.get? k).map KeyUsage.requestCount =
        (db.apiKeys.get? k).map fun u => u.requestCount + (usageOf k entries : ℤ) := by
  unfold writeAPIRequestLogs at h
  split_ifs at h with hempty hrows
  · cases h
    subst hempty
    simp [usageOf]
  · cases h
    refine ⟨rfl, fun k => ?_⟩
    rw [get?_chargeKeys (horder.nodup_iff.mpr (List.nodup_dedup _))]
    split_ifs with hk
    · rw [Option.map_map]
      rfl
    · rw [usageOf_eq_zero fun hused => hk (horder.mem_iff.mpr hused)]
      simp

/-- One entry that the table does not accept takes the whole batch with it. -/
theorem writeAPIRequestLogs_eq_none :
    writeAPIRequestLogs validJSON now order entries db = none ↔
      ∃ entry ∈ entries, db.accepts (logRow validJSON entry) = false := by
  unfold writeAPIRequestLogs
  split_ifs with hempty hrows
  · simp [hempty]
  · simpa using hrows
  · simpa using hrows

end Write

/-- How often the entry is in a batch. -/
def Gateway.collected (g : Gateway) (entry : APIRequestLog) : ℕ :=
  g.workers.total fun w => w.batch.count entry

/-- Every entry is in one place, and the database has the written ones. -/
structure Gateway.Logged (validJSON : JSON → Bool) (g start : Gateway) : Prop where
  entries : ∀ entry, g.finished.count entry = g.written.count entry + g.dropped.count entry +
    g.lost.count entry + g.queue.items.count entry + g.collected entry
  rows : g.db.rows.Perm
    (start.db.rows ++ (g.written ++ g.elsewhere).map (logRow validJSON))
  usage : ∀ k, (g.db.apiKeys.get? k).map KeyUsage.requestCount =
    (start.db.apiKeys.get? k).map fun u =>
      u.requestCount + (usageOf k (g.written ++ g.elsewhere) : ℤ)

section Logged

variable {validJSON : JSON → Bool} {start g g' : Gateway}

theorem LogWorker.collect_batch {w : LogWorker} {entry : APIRequestLog}
    (h : w.batch.length < 100) : (w.collect entry).batch = w.batch ++ [entry] := by
  rw [LogWorker.collect, dif_pos h]

theorem Stepped.entries (h : Stepped validJSON g g') (hg : g.Logged validJSON start)
    (entry : APIRequestLog) : g'.finished.count entry = g'.written.count entry +
      g'.dropped.count entry + g'.lost.count entry + g'.queue.items.count entry +
      g'.collected entry := by
  have hentries := hg.entries entry
  cases h with
  | arrive | acquire | finish | release | vanish | elsewhere => exact hentries
  | log e hf hheld hqueue =>
    have hitems := (Channel.trySend_eq_some hqueue).2
    simp only [hitems, List.count_append, List.count_cons, List.count_nil, Gateway.collected]
      at hentries ⊢
    omega
  | drop e =>
    simp only [List.count_cons, Gateway.collected] at hentries ⊢
    omega
  | @receive worker w e queue hw hroom hqueue =>
    have hitems := (Channel.receive_eq_some hqueue).2
    have htotal := Table.total_modify hw (LogWorker.collect · e) (fun w => w.collect_id e)
      fun w => w.batch.count entry
    simp only [LogWorker.collect_batch hroom, List.count_append, List.count_cons, List.count_nil]
      at htotal
    simp only [hitems, List.count_cons, Gateway.collected] at hentries ⊢
    omega
  | @write worker w now order db hw horder hdb =>
    have htotal := Table.total_modify hw LogWorker.clear (fun _ => rfl)
      fun w => w.batch.count entry
    have hclear : w.clear.batch.count entry = 0 := rfl
    simp only [List.count_append, Gateway.collected] at hentries ⊢
    omega
  | @lose worker w hw =>
    have htotal := Table.total_modify hw LogWorker.clear (fun _ => rfl)
      fun w => w.batch.count entry
    have hclear : w.clear.batch.count entry = 0 := rfl
    simp only [List.count_append, Gateway.collected] at hentries ⊢
    omega

/-- A batch that this server or another one writes. -/
theorem Gateway.Logged.write (h : g.Logged validJSON start) {now : Time} {order : List UUID}
    {batch mine others : List APIRequestLog} {db : LogDatabase}
    (horder : order.Perm (usedKeys batch))
    (hdb : writeAPIRequestLogs validJSON now order batch g.db = some db)
    (hall : (mine ++ others).Perm (g.written ++ g.elsewhere ++ batch)) :
    db.rows.Perm (start.db.rows ++ (mine ++ others).map (logRow validJSON)) ∧
      ∀ k, (db.apiKeys.get? k).map KeyUsage.requestCount =
        (start.db.apiKeys.get? k).map fun u =>
          u.requestCount + (usageOf k (mine ++ others) : ℤ) := by
  obtain ⟨hrows, hkeys⟩ := writeAPIRequestLogs_spec hdb horder
  constructor
  · rw [hrows]
    refine (h.rows.append_right _).trans ?_
    rw [List.append_assoc, ← List.map_append]
    exact (hall.map _).symm.append_left _
  · intro k
    have husage : usageOf k (mine ++ others) = usageOf k (g.written ++ g.elsewhere) +
        usageOf k batch := by
      rw [usageOf, hall.countP_eq, List.countP_append]
      rfl
    have hold := h.usage k
    rw [hkeys k, husage]
    cases hget : g.db.apiKeys.get? k with
    | none =>
      rw [hget] at hold
      simpa using hold
    | some u =>
      rw [hget] at hold
      obtain ⟨u₀, hu₀, hcount⟩ := Option.map_eq_some_iff.mp hold.symm
      rw [hu₀]
      simp only [Option.map_some, Option.some.injEq]
      push_cast
      rw [← hcount]
      ring

theorem Stepped.logged (h : Stepped validJSON g g') (hg : g.Logged validJSON start) :
    g'.Logged validJSON start := by
  have hentries := h.entries hg
  cases h with
  | @write worker w now order db hw horder hdb =>
    have hall : (w.batch ++ g.written ++ g.elsewhere).Perm
        (g.written ++ g.elsewhere ++ w.batch) := by
      rw [List.append_assoc]
      exact List.perm_append_comm
    obtain ⟨hrows, husage⟩ := hg.write horder hdb hall
    exact ⟨hentries, hrows, husage⟩
  | @elsewhere now order batch db horder hdb =>
    have hall : (g.written ++ (batch ++ g.elsewhere)).Perm
        (g.written ++ g.elsewhere ++ batch) := by
      rw [List.append_assoc]
      exact List.perm_append_comm.append_left _
    obtain ⟨hrows, husage⟩ := hg.write horder hdb hall
    exact ⟨hentries, hrows, husage⟩
  | _ => exact ⟨hentries, hg.rows, hg.usage⟩

theorem LogWorker.total_fleet (n : ℕ) (entry : APIRequestLog) :
    (LogWorker.fleet n).total (fun w => w.batch.count entry) = 0 := by
  rw [Table.total, LogWorker.fleet, List.map_map]
  exact List.sum_eq_zero fun m hm => by
    obtain ⟨i, -, rfl⟩ := List.mem_map.mp hm
    rfl

/-- At every moment each entry made is in exactly one place: written, dropped because the buffer
was full, lost with its batch, in the buffer, or in the batch of a worker. The table and the
counters of the keys have what was written, here and by other servers. -/
theorem requestLogs_conserved {generation multipart sync buffer workers : ℕ} {db : LogDatabase}
    (h : (gateway validJSON).Reachable (.new generation multipart sync buffer workers db) g) :
    g.finished.Perm (g.written ++ g.dropped ++ g.lost ++ g.queue.items ++
        g.workers.rows.flatMap LogWorker.batch) ∧
      g.db.rows.Perm (db.rows ++ (g.written ++ g.elsewhere).map (logRow validJSON)) ∧
      ∀ k, (g.db.apiKeys.get? k).map KeyUsage.requestCount = (db.apiKeys.get? k).map fun u =>
        u.requestCount + (usageOf k (g.written ++ g.elsewhere) : ℤ) := by
  have hlogged : g.Logged validJSON (.new generation multipart sync buffer workers db) := by
    refine h.invariant
      (I := fun g => g.Logged validJSON (.new generation multipart sync buffer workers db)) ?_ ?_
    · intro g act g' hstep hg
      exact (Gateway.step_cases hstep).logged hg
    · refine ⟨fun entry => ?_, by simp [Gateway.new], fun k => by simp [Gateway.new, usageOf]⟩
      simp [Gateway.new, Gateway.collected, LogWorker.total_fleet, Channel.make]
  refine ⟨List.perm_iff_count.mpr fun entry => ?_, hlogged.rows, hlogged.usage⟩
  rw [hlogged.entries entry]
  simp only [List.count_append, List.count_flatMap, Gateway.collected, Table.total]
  rfl

end Logged

/-! ### Two requests -/

def chatRequest (id : ℕ) : GatewayRequest :=
  ⟨id, "r", "POST", "/v1/chat/completions", "application/json", "127.0.0.1"⟩

def keyedMetadata : RequestMetadata := { RequestMetadata.empty with apiKeyID := some 7 }

/-- One slot of each kind, one worker and one key. -/
def smallGateway : Gateway :=
  .new 1 1 1 100 1 ⟨["leonardo"], [], [], ⟨[⟨7, 0, none⟩], by decide⟩, []⟩

/-- The second request comes while the first one is served. -/
def smallTraffic : List GatewayAct :=
  [.arrive (chatRequest 1), .acquire 1 keyedMetadata 0, .acquire 1 keyedMetadata 0,
    .arrive (chatRequest 2), .acquire 2 keyedMetadata 0, .log 2,
    .finish 1 (.responded keyedMetadata 200 "" 3), .receive 0, .flush 0 5 [7] false]

theorem smallTraffic_isSome : (LTS.follow (Gateway.step fun _ => true) (fun _ _ => true) smallGateway
    smallTraffic).isSome = true := by
  decide +kernel

def busyGateway : Gateway := Option.get _ smallTraffic_isSome

theorem busyGateway_reachable : (gateway fun _ => true).Reachable smallGateway busyGateway :=
  ⟨smallTraffic, (LTS.run_of_follow (Option.some_get smallTraffic_isSome).symm).of_restrict⟩

/-- The first request has both of its slots and has not released them. -/
theorem bulkhead_guarded_busy :
    busyGateway.inFlight.rows.map (fun f => (f.request.id, f.held)) = [(1, [.sync, .generation])] ∧
      busyGateway.Guarded (fun _ => true) smallGateway :=
  ⟨by decide +kernel, bulkhead_guarded busyGateway_reachable⟩

/-- The entry of the second request is written. -/
theorem requestLogs_conserved_busy :
    busyGateway.db.rows.map (fun row => (row.status, row.errorCode)) = [(503, "gateway_overloaded")] ∧
      ((busyGateway.db.apiKeys.get? 7).map KeyUsage.requestCount = some 1) ∧
      busyGateway.finished.Perm (busyGateway.written ++ busyGateway.dropped ++ busyGateway.lost ++
        busyGateway.queue.items ++ busyGateway.workers.rows.flatMap LogWorker.batch) :=
  ⟨by decide +kernel, by decide +kernel, (requestLogs_conserved busyGateway_reachable).1⟩

end GenerationGateway.Middleware
