import GenerationGateway.Store.System

/-!
# Interleaved transactions at READ COMMITTED

Claims and admissions run statement by statement beside each other. A statement
that locks rows takes its snapshot when it is sent and is answered when the locks
are free, so others may commit in between; every other statement is answered from
the snapshot of that moment. A transaction sees its own writes: they are redone on
the committed state, which the locks on its own rows make possible with the same
answers. All other operations commit in one step.
-/

namespace GenerationGateway

open Relational Effects Transitions

/-- A claim or an admission. -/
inductive Job
  | admission (sha256 : String → String) (policy : SchedulingPolicy) (req : AdmissionRequest)
  | claim (policy : SchedulingPolicy) (id leaseID : UUID) (lease : Time)

/-- What an attempt returns to its caller. -/
inductive Reply
  | admission (task : Task) (created : Bool)
  | claim (result : ClaimResult)

def Ending.map {α β : Type} (f : α → β) : Ending α → Ending β
  | commit a => .commit (f a)
  | rollback a => .rollback (f a)

namespace Job

def taskID : Job → UUID
  | admission _ _ req => req.id
  | claim _ id _ _ => id

def operation : Job → Operation
  | admission sha256 policy req => .admission sha256 policy req
  | claim policy id leaseID lease => .claim policy id leaseID lease

def prog : Job → Session (Ending Reply)
  | admission sha256 policy req => do
    let ending ← createReservedTaskForProviderOnce sha256 policy req
    return ending.map fun r => .admission r.1 r.2
  | claim policy id leaseID lease => do
    let ending ← claimTaskOnce policy id leaseID lease
    return ending.map .claim

end Job

/-- The statements that lock rows and may wait for them. -/
def Statement.waits : Statement → Bool
  | .advisoryLock _ | .lockTask _ | .loadClaimAccount _ true | .lockAccount _ | .chooseTarget _ _
  | .lockKeyConcurrency _ | .lockCapacity | .costRuleExists _ _ | .chooseCandidate _ _ _
  | .lockUsableKey _ => true
  | _ => false

/-- The locks that exclude each other: rows taken `FOR UPDATE` and advisory locks. -/
inductive Lock
  | account (id : UUID)
  | key (id : UUID)
  | capacity
  | advisory (name : String)
  deriving DecidableEq

def Lock.account? : Lock → Option UUID
  | account id => some id
  | _ => none

/-- The locks that a statement with this answer has taken. -/
def Statement.takes : (op : Statement) → op.Res → List Lock
  | .loadClaimAccount id true, _ => [.account id]
  | .lockAccount id, _ => [.account id]
  | .chooseTarget _ _, answer => (Option.map (α := UUID) Lock.account answer).toList
  | .chooseCandidate _ _ _, answer => (Option.map (α := UUID) Lock.account answer).toList
  | .lockKeyConcurrency id, _ => [.key id]
  | .lockUsableKey id, _ => [.key id]
  | .lockCapacity, _ => [.capacity]
  | .advisoryLock name, _ => [.advisory name]
  | _, _ => []

/-- Equal answers, for the statements about a transaction's own rows. -/
def Statement.agrees : (op : Statement) → op.Res → op.Res → Bool
  | .lockTask _, a, b => same (α := Option Task) a b
  | .claimLease _ _ _, a, b => same (α := Option Task) a b
  | .insertTask _, a, b => same (α := Task) a b
  | _, _, _ => true

theorem Statement.eq_of_agrees {op : Statement} {a b : op.Res} (hown : op.own = true)
    (h : op.agrees a b = true) : a = b := by
  cases op with
  | lockTask id => exact eq_of_same (α := Option Task) h
  | claimLease id leaseID expiresAt => exact eq_of_same (α := Option Task) h
  | insertTask row => exact eq_of_same (α := Task) h
  | raise e => exact Empty.elim a
  | _ => first | rfl | cases hown

/-- A write of the transaction, or the lock of its task, with the answer it got. -/
structure Entry where
  op : Statement
  answer : op.Res

/-- The entry once more; `none` when its answer would now be another one. -/
def Entry.redo (env : Env) (e : Entry) (db : Database) : Option Database :=
  match e.op.run env db with
  | .ok (r, db') => if e.op.agrees r e.answer then some db' else none
  | .error _ => none

def redo (env : Env) : List Entry → Database → Option Database
  | [], db => some db
  | e :: log, db => (e.redo env db).bind (redo env log)

theorem redo_append {env : Env} {log log' : List Entry} {db v : Database} :
    redo env (log ++ log') db = some v ↔
      ∃ u, redo env log db = some u ∧ redo env log' u = some v := by
  induction log generalizing db with
  | nil => simp [redo]
  | cons e log ih =>
    simp only [List.cons_append, redo, Option.bind_eq_some_iff, ih]
    constructor
    · rintro ⟨w, hw, u, hu, hv⟩
      exact ⟨u, ⟨w, hw, hu⟩, hv⟩
    · rintro ⟨u, ⟨w, hw, hu⟩, hv⟩
      exact ⟨w, hw, u, hu, hv⟩

theorem redo_single {env : Env} {e : Entry} {db v : Database} (hown : e.op.own = true) :
    redo env [e] db = some v → e.op.run env db = .ok (e.answer, v) := by
  intro h
  simp only [redo, Entry.redo, Option.bind_fun_some] at h
  split at h
  · next r db' hrun =>
    split_ifs at h with hagrees
    cases h
    rw [hrun, Statement.eq_of_agrees hown hagrees]
  · cases h

structure Thread where
  job : Job
  env : Env
  rest : Session (Ending Reply)
  log : List Entry
  locks : List Lock
  saved : List Lock
  snapshot : Option Database

namespace Thread

def start (env : Env) (job : Job) : Thread := ⟨job, env, job.prog, [], [], [], none⟩

/-- The committed rows with the transaction's own writes. -/
def view (th : Thread) (db : Database) : Option Database := redo th.env th.log db

/-- The thread after an answer. A rollback to the savepoint gives back the locks
taken since. -/
def advance (th : Thread) (op : Statement) (k : op.Res → Session (Ending Reply)) (r : op.Res) :
    Thread where
  job := th.job
  env := th.env
  rest := k r
  log := if op.own then th.log ++ [⟨op, r⟩] else th.log
  locks :=
    match op with
    | .rollbackToSavepoint => th.saved
    | op => op.takes r ++ th.locks
  saved :=
    match op with
    | .savepoint => th.locks
    | _ => th.saved
  snapshot := none

/-- The snapshot that the pending statement is answered from. -/
def reads (th : Thread) (op : Statement) (view : Database) : Option Database :=
  if op.waits then th.snapshot else some view

/-- The statement that the thread has to send or waits for. -/
def pending (th : Thread) : Option Statement :=
  match th.rest with
  | .call op _ => some op
  | .ret _ => none

/-- What the attempt returns when it ends without a commit. -/
def refusal (th : Thread) : Option (Except StoreError Reply) :=
  match th.rest with
  | .ret (.rollback r) => some (.ok r)
  | .call (.raise e) _ => some (.error e)
  | _ => none

end Thread

/-- The committed rows, the open transactions, and what the ended ones returned. -/
structure Machine where
  db : Database
  threads : List (Option Thread)
  replies : List (Job × Except StoreError Reply)

inductive Act
  | begin (env : Env) (job : Job)
  | send (i : ℕ)
  | answer (i : ℕ) (skip : List UUID)
  | commit (i : ℕ)
  | abort (i : ℕ)
  | atomic (env : Env) (op : Operation)

/-- The operations that are taken as one step: all but claim, admission and changes
of the configuration. -/
def Operation.atomic : Operation → Bool
  | admission _ _ _ | claim _ _ _ _ | administer => false
  | _ => true

namespace Machine

def thread (m : Machine) (i : ℕ) : Option Thread := m.threads[i]?.join

def set (m : Machine) (i : ℕ) (th : Option Thread) : Machine :=
  { m with threads := m.threads.set i th }

/-- The locks that the other transactions hold. -/
def others (m : Machine) (i : ℕ) : List Lock :=
  (m.threads.eraseIdx i).flatMap fun th => th.elim [] Thread.locks

/-- The accounts that a query of the transaction passes over with `SKIP LOCKED`; those
in `skip` are locked by transactions of other kinds. -/
def locked (m : Machine) (i : ℕ) (skip : List UUID) : List UUID :=
  skip ++ (m.others i).filterMap Lock.account?

/-- The answer of the pending statement: it is computed from the snapshot and the
current rows, and waits while another transaction holds a lock that it takes. -/
def answer (m : Machine) (i : ℕ) (skip : List UUID) (th : Thread) (op : Statement)
    (k : op.Res → Session (Ending Reply)) : Option Machine := do
  let view ← th.view m.db
  let snapshot ← th.reads op view
  match op.execute { th.env with lockedAccounts := m.locked i skip } snapshot view with
  | .error _ => none
  | .ok (r, _) =>
    if (op.takes r).any (m.others i).contains then none
    else some (m.set i (some (th.advance op k r)))

def step (m : Machine) : Act → Option Machine
  | .begin env job => some { m with threads := m.threads ++ [some (.start env job)] }
  | .send i => do
    let th ← m.thread i
    if th.snapshot.isSome then none
    else do
      let view ← th.view m.db
      some (m.set i (some { th with snapshot := some view }))
  | .answer i skip => do
    let th ← m.thread i
    match th.rest with
    | .call op k => m.answer i skip th op k
    | .ret _ => none
  | .commit i => do
    let th ← m.thread i
    match th.rest with
    | .ret (.commit r) => do
      let view ← th.view m.db
      some { db := view, threads := m.threads.set i none, replies := m.replies ++ [(th.job, .ok r)] }
    | _ => none
  | .abort i => do
    let th ← m.thread i
    some { m.set i none with replies := m.replies ++ th.refusal.toList.map fun r => (th.job, r) }
  | .atomic env op =>
    if op.atomic then some { m with db := op.apply env m.db } else none

def run (m : Machine) : List Act → Option Machine
  | [] => some m
  | a :: as => (m.step a).bind fun m' => m'.run as

/-- The actions one after the other, as long as each meets the condition. -/
def runWhile (cond : Machine → Act → Bool) (m : Machine) : List Act → Option Machine
  | [] => some m
  | a :: as => if cond m a then (m.step a).bind fun m' => m'.runWhile cond as else none

/-- No transaction has begun. -/
def initial (accounts : Table Account) (apiKeys : Table APIKey) (costRules : Table CostRule)
    (capacity : SystemCapacityConfig) : Machine :=
  ⟨(StoreState.initial accounts apiKeys costRules capacity).db, [], []⟩

end Machine

def readCommitted : LTS Machine Act := ⟨fun m a m' => m.step a = some m'⟩

theorem readCommitted_run {m m' : Machine} {as : List Act} (h : m.run as = some m') :
    readCommitted.Run m as m' := by
  induction as generalizing m with
  | nil =>
    cases h
    rfl
  | cons a as ih =>
    obtain ⟨m₁, hstep, hrun⟩ := Option.bind_eq_some_iff.mp h
    exact ⟨m₁, hstep, ih hrun⟩

theorem readCommitted_runWhile {cond : Machine → Act → Bool} {m m' : Machine} {as : List Act}
    (h : m.runWhile cond as = some m') :
    (readCommitted.restrict fun m a => cond m a = true).Run m as m' := by
  induction as generalizing m with
  | nil =>
    cases h
    rfl
  | cons a as ih =>
    unfold Machine.runWhile at h
    split_ifs at h with hcond
    obtain ⟨m₁, hstep, hrun⟩ := Option.bind_eq_some_iff.mp h
    exact ⟨m₁, ⟨hstep, hcond⟩, ih hrun⟩

/-! ### Small runs -/

/-- The small store before any transaction. -/
def smallMachine (accounts : Table Account) : Machine := ⟨(smallStore accounts).db, [], []⟩

/-- The next `n` statements of the transaction `i`, each answered at once. -/
def statements (i n : ℕ) : List Act := (List.replicate n [Act.send i, Act.answer i []]).flatten

def beginAdmission (t : Time) (req : AdmissionRequest) : Act :=
  .begin (atTime t) (.admission id defaultSchedulingPolicy req)

def beginClaim (t : Time) (id leaseID : UUID) : Act :=
  .begin (atTime t) (.claim defaultSchedulingPolicy id leaseID 0)

/-- An admission whose transaction is the `i`-th and runs alone. -/
def admitAlone (i : ℕ) (t : Time) (req : AdmissionRequest) : List Act :=
  beginAdmission t req :: statements i 16 ++ [.commit i]

end GenerationGateway
