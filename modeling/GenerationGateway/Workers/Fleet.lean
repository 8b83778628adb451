import GenerationGateway.Store.OwnedRows
import GenerationGateway.Workers.CreativeFabrica

/-!
# Workers beside the store

Any number of runs of the workers take turns with each other and with every other
operation of the store. A message of the queue may be delivered at any time and any
number of times; a run may stop for good before each of its calls; the heartbeat renews
its lease; a call under the lease may commit although its answer is lost. What the
provider and the administrators did for a task is its history, which no code reads.
Reads of the runs, and what the providers answer, are free.
-/

namespace GenerationGateway

open Relational Transitions Effects

/-- What happened for a task outside the store. -/
structure History where
  /-- The lease under which a submission was prepared. -/
  prepared : Option UUID
  /-- How many generation requests were sent. -/
  sent : ℕ
  /-- The answer to a request was a definite rejection. -/
  rejected : Bool
  /-- The job with which a request was answered. -/
  job : Option UpstreamJob
  /-- The frames that reached their signed URL. -/
  uploaded : List (String × VideoInput)
  polled : Bool
  /-- The ids of which a poll reported a failure. -/
  failed : List String
  /-- An administrator settled the uncertain task. -/
  settled : Bool

def History.initial : History := ⟨none, 0, false, none, [], false, [], false⟩

/-- A poll that tells of a failure. -/
def reportsFailure (r : Except GoError JobStatus) : Bool :=
  match r with
  | .ok status => status.status = "FAILED"
  | .error _ => false

def History.poll (generationID : GenerationID) (r : Except GoError JobStatus) (h : History) :
    History :=
  { h with
    polled := true
    failed := if reportsFailure r then generationID.1 :: h.failed else h.failed }

def History.submit (provider : ProviderID) (r : Except GoError UpstreamJob) (h : History) :
    History :=
  match r with
  | .ok job => { h with sent := h.sent + 1, job := some job }
  | .error err => { h with sent := h.sent + 1, rejected := h.rejected || !provider.uncertain err }

def History.uploadFrame (url : String) (input : VideoInput) (r : Except GoError Unit)
    (h : History) : History :=
  match r with
  | .ok () => { h with uploaded := (url, input) :: h.uploaded }
  | .error _ => h

def History.prepare (lease : Option UUID) (committed : Bool) (h : History) : History :=
  if committed then { h with prepared := lease } else h

/-- The history after a call of a run and its answer. -/
def History.after (lease : Option UUID) (committed : Bool) (h : History) :
    (op : JobCall) → op.Res → History
  | .owned (.prepare _ _ _), _ => h.prepare lease committed
  | .submit provider _, r => h.submit provider r
  | .poll generationID, r => h.poll generationID r
  | .sessionMedia generationID, r => h.poll generationID r
  | .sessionIterations generationID, r => h.poll generationID r
  | .uploadFrame url input, r => h.uploadFrame url input r
  | _, _ => h

/-- A run: its task, the lease it was given, the database time at which a call first
found the lease lost, its calls so far, and what it still has to do. -/
structure Run where
  task : UUID
  lease : Option UUID
  lost : Option Time
  calls : List JobEvent
  rest : Prog jobs (Except Returned Unit)

/-- The lease id of a claim that succeeded. -/
def claimedLease (r : Except GoError ClaimResult) : Option UUID :=
  match r with
  | .ok ⟨some _, lease, true⟩ => lease
  | _ => none

/-- The lease of a run after a call. -/
def leaseAfter (lease : Option UUID) : (op : JobCall) → op.Res → Option UUID
  | .claimTask, r => claimedLease r
  | _, _ => lease

/-- The database time of a call that found the lease lost. -/
def lostAt (env : Env) : (op : JobCall) → op.Res → Option Time
  | .owned _, .ok false => some env.now
  | _, _ => none

/-- The run after a call and its answer. -/
def Run.after (run : Run) (env : Env) (op : JobCall) (r : op.Res)
    (rest : Prog jobs (Except Returned Unit)) : Run where
  task := run.task
  lease := leaseAfter run.lease op r
  lost := run.lost.or (lostAt env op r)
  calls := run.calls ++ [⟨op, r⟩]
  rest := rest

structure Fleet where
  store : StoreState
  runs : ℕ → Option Run
  history : UUID → History

/-- No error, or an error in its place. -/
def Reports {α : Type} (r : Except GoError α) (a : α) : Prop := r = .ok a ∨ ∃ err, r = .error err

/-- A claim: it commits under a new lease id, or changes nothing and claims nothing. -/
def AnswersClaim (env : Env) (id : UUID) (r : Except GoError ClaimResult) (committed : Bool)
    (s s' : StoreState) : Prop :=
  if committed then
    ∃ policy leaseID lease result, leaseID ∉ s.leases ∧ s'.leases = leaseID :: s.leases ∧
      Session.Ends env (claimTaskOnce policy id leaseID lease) s.db (.commit result) s'.db ∧
      Reports r result
  else s' = s ∧ Reports r (.refused none)

/-- An operation under the lease: it commits, or changes nothing and reports what the
transaction returned. -/
def AnswersOwned (env : Env) (id : UUID) (lease : Option UUID) (call : OwnedCall)
    (r : Except GoError Bool) (committed : Bool) (s s' : StoreState) : Prop :=
  ∃ leaseID, lease = some leaseID ∧ s'.leases = s.leases ∧
    if committed then
      ∃ b, call.body env id leaseID s.db = .ok (.commit b, s'.db) ∧ Reports r b
    else s'.db = s.db ∧ ((∃ err, r = .error err) ∨
      ∃ b db, call.body env id leaseID s.db = .ok (.rollback b, db) ∧ r = .ok b)

/-- The answers that a run may get, with the effect of the call on the store. -/
def Answers (env : Env) (run : Run) (committed : Bool) (s s' : StoreState) :
    (op : JobCall) → op.Res → Prop
  | .claimTask, r => AnswersClaim env run.task r committed s s'
  | .owned call, r => AnswersOwned env run.task run.lease call r committed s s'
  | .getTask, r => s' = s ∧ ∀ t, r = .ok t → s.db.tasks.get? run.task = some t
  | _, _ => s' = s

inductive FleetAct
  /-- An operation of the store that no run makes. -/
  | operate (env : Env) (op : Operation)
  /-- A message of the queue starts a run; its polls are bounded by `ticks`. -/
  | deliver (i : ℕ) (id : UUID) (ticks : ℕ)
  | call (i : ℕ) (env : Env) (op : JobCall) (r : op.Res) (committed : Bool)
  | renew (i : ℕ) (env : Env) (lease : Time)
  | crash (i : ℕ)

def Operation.ofHolder : Operation → Bool
  | owned _ _ _ => true
  | _ => false

/-- The tasks that an administrator settles with the operation. -/
def Operation.settles : Operation → UUID → Bool
  | confirm id, k => id = k
  | release id _, k => id = k
  | _, _ => false

def History.operate (op : Operation) (k : UUID) (h : History) : History :=
  { h with settled := h.settled || op.settles k }

section Fleet

variable (taskTimeout : Time) (decoder : Decoder)

/-- The run that a message starts. -/
def Run.start (id : UUID) (kind : Kind) (ticks : ℕ) : Run :=
  ⟨id, none, none, [], (Worker.processTask taskTimeout ticks decoder kind).run⟩

inductive FleetStep : Fleet → FleetAct → Fleet → Prop
  | operate {s : Fleet} {store : StoreState} (env : Env) (op : Operation)
      (hop : op.ofHolder = false) (hstep : StoreStep s.store ⟨env, op⟩ store) :
      FleetStep s (.operate env op) ⟨store, s.runs, fun k => (s.history k).operate op k⟩
  | deliver {s : Fleet} {t : Task} (i : ℕ) (ticks : ℕ) (hfree : s.runs i = none)
      (htask : s.store.db.tasks.get? t.id = some t) :
      FleetStep s (.deliver i t.id ticks) ⟨s.store,
        Function.update s.runs i (some (.start taskTimeout decoder t.id t.kind ticks)), s.history⟩
  | call {s : Fleet} {store : StoreState} {run : Run} (i : ℕ) (env : Env) (op : JobCall)
      (r : op.Res) (committed : Bool) (k : op.Res → Prog jobs (Except Returned Unit))
      (hrun : s.runs i = some run) (hrest : run.rest = .call op k)
      (hanswers : Answers env run committed s.store store op r) :
      FleetStep s (.call i env op r committed) ⟨store,
        Function.update s.runs i (some (run.after env op r (k r))),
        Function.update s.history run.task
          ((s.history run.task).after run.lease committed op r)⟩
  | renew {s : Fleet} {store : StoreState} {run : Run} {leaseID : UUID} (i : ℕ) (env : Env)
      (lease : Time) (hrun : s.runs i = some run) (hlease : run.lease = some leaseID)
      (hstep : StoreStep s.store ⟨env, .owned run.task leaseID (.renew lease)⟩ store) :
      FleetStep s (.renew i env lease) ⟨store, s.runs, s.history⟩
  | crash {s : Fleet} (i : ℕ) :
      FleetStep s (.crash i) ⟨s.store, Function.update s.runs i none, s.history⟩

def fleet : LTS Fleet FleetAct := ⟨FleetStep taskTimeout decoder⟩

end Fleet

/-- A store without tasks, and no run. -/
def Fleet.initial (accounts : Table Account) (apiKeys : Table APIKey) (costRules : Table CostRule)
    (capacity : SystemCapacityConfig) : Fleet :=
  ⟨.initial accounts apiKeys costRules capacity, fun _ => none, fun _ => .initial⟩

end GenerationGateway
