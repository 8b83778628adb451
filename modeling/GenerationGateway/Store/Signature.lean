import GenerationGateway.Library.Program
import GenerationGateway.Store.Owned
import GenerationGateway.Store.Routing

/-!
# Statements of the long transactions

Admission and claim decide from rows that other transactions change meanwhile,
so they are programs over the statements they send, one constructor each. A
statement is evaluated against the snapshot taken when it starts and against the
rows as they are once its locks are granted; run alone, the two are the same.
-/

namespace GenerationGateway

open Relational Effects

/-- The columns of an account that admission reads again under its lock. -/
structure AccountLimits where
  balance : ℤ
  concurrency : ℕ
  queueCapacity : ℕ
  routingRole : RoutingRole
  protectedTokens : ℕ
  videoReservedSlots : ℕ

def Account.limits (a : Account) : AccountLimits :=
  ⟨a.balance, a.imageConcurrency, a.queueCapacity, a.routingRole, a.protectedTokens,
    a.videoReservedSlots⟩

/-- Which accounts a routing query looks for. -/
structure RoutingQuery where
  providerID : ProviderID
  kind : Kind
  estimatedTokens : ℕ
  policy : SchedulingPolicy

inductive Statement
  | raise (e : StoreError)
  | timeNow
  | advisoryLock (name : String)
  | lockTask (id : UUID)
  | readEstimatedTokens (id : UUID)
  | readPricingActive (id : UUID)
  | failUnpriced (id : UUID)
  | releaseUnpriced (id : UUID)
  | deliver (id : UUID)
  | deliverPending (id : UUID)
  | wake (accountID : UUID) (apiKeyID : Option UUID)
  | deferQueued (id : UUID) (nextAttemptAt : Time) (reason : String)
  | loadClaimAccount (id : UUID) (lock : Bool)
  | lockAccount (id : UUID)
  | chooseTarget (q : RoutingQuery) (old : UUID)
  | moveReservation (id target : UUID)
  | queueOrder (accountID : UUID) (task : Task)
  | lockKeyConcurrency (id : UUID)
  | keyActive (id : UUID)
  | lockCapacity
  | executing
  | claimLease (id leaseID : UUID) (expiresAt : Time)
  | extendClaimed (id : UUID) (expiresAt : Time)
  | findIdempotent (keyID : UUID) (idempotencyKey : String)
  | providerUncertain (provider : ProviderID)
  | costRuleExists (id : ℤ) (provider : ProviderID)
  | savepoint
  | rollbackToSavepoint
  | releaseSavepoint
  | chooseCandidate (q : RoutingQuery) (excluded : List UUID) (skipLocked : Bool)
  | reservedUsage (accountID : UUID)
  | accountLimits (accountID : UUID)
  | diagnose (q : RoutingQuery)
  | lockUsableKey (id : UUID)
  | keyNonTerminal (id : UUID)
  | queued
  | setOverload (active : Bool)
  | insertTask (row : Time → Task)
  | insertReservation (r : Reservation)
  | insertOutbox (taskID : UUID) (kind : Kind)

/-- The rows a statement returns. -/
def Statement.Res : Statement → Type
  | raise _ => Empty
  | timeNow => Time
  | lockTask _ => Option Task
  | readEstimatedTokens _ => ℕ
  | readPricingActive _ => Bool
  | loadClaimAccount _ _ => ClaimAccountState
  | chooseTarget _ _ => Option UUID
  | queueOrder _ _ => Bool × Bool
  | lockKeyConcurrency _ => ℤ
  | keyActive _ => ℕ
  | lockCapacity => SystemCapacityConfig
  | executing => ℕ
  | claimLease _ _ _ => Option Task
  | findIdempotent _ _ => Option Task
  | providerUncertain _ => ℕ
  | costRuleExists _ _ => Bool
  | chooseCandidate _ _ _ => Option UUID
  | reservedUsage _ => ℕ × ℕ
  | accountLimits _ => AccountLimits
  | diagnose _ => ℕ × Bool
  | lockUsableKey _ => ℤ
  | keyNonTerminal _ => ℕ
  | queued => ℕ
  | insertTask _ => Task
  | _ => Unit

def same {α : Type} [DecidableEq α] (a b : α) : Bool := decide (a = b)

theorem eq_of_same {α : Type} [DecidableEq α] {a b : α} (h : same a b = true) : a = b :=
  of_decide_eq_true h

def sql : Signature := ⟨Statement, Statement.Res⟩

abbrev Session := Prog sql

/-- One statement, or one call of the process between two statements. -/
def send (op : Statement) : Session op.Res := Prog.perform (S := sql) op

/-- `return …, err`: the deferred rollback discards the writes. -/
def fail {α : Type} (e : StoreError) : Session α :=
  Prog.call (S := sql) (.raise e) fun x => nomatch x

/-- The tasks `ClaimTask` may lease. -/
def Task.claimable (now : Time) (t : Task) : Bool :=
  !t.cancelRequested && (decide (t.status = .queued) || t.inFlight) &&
    (decide (t.status ≠ .queued) || t.queueDeadlineAt.all fun d => now < d) &&
    (decide (t.generationID = "") || t.upstreamDeadlineAt.all fun d => now < d) &&
    t.leaseFree now

def Task.claim (now : Time) (leaseID : UUID) (expiresAt : Time) (t : Task) : Task :=
  { t with
    status := if t.status = .queued then .reserving else t.status
    progress := if t.status = .queued then max t.progress 5 else t.progress
    startedAt := if t.status = .queued then coalesce t.startedAt (some now) else t.startedAt
    executionLeaseID := some leaseID
    executionLeaseExpiresAt := some expiresAt
    executionAttempt := t.executionAttempt + 1 }

def Task.failUnpriced (now : Time) (t : Task) : Task :=
  t.fail now "cost_rule_unavailable" "price rule was disabled before upstream submission"

/-- Ten minutes after its admission a task that is no video no longer waits for
videos. -/
def agingLimit : Time := minutes 10

/-- The API key of an earlier task would let it run. -/
def keyAdmits (db : Database) (now : Time) (key : Option UUID) : Bool :=
  key.all fun id => (db.apiKeys.get? id).any fun k =>
    k.usable now && (decide (k.concurrencyLimit ≤ 0) ||
      decide (((db.tasks.count fun t => decide (t.apiKeyID = some id) && t.status.executing : ℕ) : ℤ) <
        k.concurrencyLimit))

/-- A queued task of the account that `task` has to wait for. -/
def Task.goesFirst (db : Database) (now : Time) (accountID : UUID) (task earlier : Task) : Bool :=
  decide (earlier.accountID = some accountID) && decide (earlier.status = .queued) &&
    decide (earlier.id ≠ task.id) && keyAdmits db now earlier.apiKeyID &&
    if task.kind = .video then
      (decide (earlier.kind = .video) && earlier.before task) ||
        (decide (earlier.kind ≠ .video) && decide (earlier.createdAt ≤ now - agingLimit) &&
          earlier.before task)
    else
      (decide (earlier.kind = .video) && decide (now - agingLimit < task.createdAt)) ||
        (decide (earlier.kind ≠ .video) && earlier.before task)

def Task.moveTo (target : UUID) (t : Task) : Task := { t with accountID := some target }

/-- Only a held reservation moves. -/
def Reservation.moveTo (target : UUID) (r : Reservation) : Reservation :=
  if r.held then { r with accountID := target } else r

theorem Reservation.moveTo_taskID (target : UUID) (r : Reservation) :
    (r.moveTo target).taskID = r.taskID := by
  unfold Reservation.moveTo
  split <;> rfl

/-- `status='queued' AND generation_id=''`. -/
def Task.movable (t : Task) : Bool := decide (t.status = .queued) && decide (t.generationID = "")

/-- Moving a queued task and its held reservation is one statement; it returns
the number of reservations moved. -/
def moveQueued (id target : UUID) : Tx ℕ := fun db =>
  if (db.tasks.get? id).any Task.movable then do
    let db' ← db.replace (db.tasks.modify id (Task.moveTo target) (key_of_task fun _ => rfl))
      (db.reservations.modify id (Reservation.moveTo target)
        (key_of_reservation (Reservation.moveTo_taskID target)))
    .ok (if (db.reservations.get? id).any Reservation.held then 1 else 0, db')
  else .ok (0, db)

/-- The statement with the check that it moved one reservation. -/
def moveOneReservation (id target : UUID) : Tx Unit := do
  let moved ← moveQueued id target
  if moved ≠ 1 then throw .reservationNotRerouted

theorem moveOneReservation_ok {id target : UUID} {u : Unit} {db db' : Database}
    (h : moveOneReservation id target db = .ok (u, db')) : moveQueued id target db = .ok (1, db') := by
  obtain ⟨moved, db₁, hmove, hcheck⟩ := bind_eq_ok.mp h
  by_cases hmoved : moved = 1
  · rw [if_neg (not_not.mpr hmoved)] at hcheck
    obtain ⟨-, rfl⟩ := pure_eq_ok.mp hcheck
    rw [hmove, hmoved]
  · rw [if_pos hmoved] at hcheck
    cases hcheck

/-- `INSERT`; a second row under the same key is a unique violation. -/
def insertRow {ρ κ : Type} [Keyed κ ρ] [DecidableEq κ] (t : Table ρ) (r : ρ) :
    Except StoreError (Table ρ) :=
  match t.insert? r with
  | some t' => .ok t'
  | none => .error .uniqueViolation

/-- `Scan` of a query without a row. -/
def required {α : Type} (x : Option α) : Except StoreError α :=
  match x with
  | some a => .ok a
  | none => .error .noRows

theorem required_ok {α : Type} {o : Option α} {a : α} (h : required o = .ok a) : o = some a := by
  cases o with
  | none => cases h
  | some b =>
    cases h
    rfl

/-- A read: the answer is computed from the state, which stays as it is. -/
def answer {α : Type} (f : Database → Except StoreError α) : Tx α := fun db =>
  match f db with
  | .ok a => .ok (a, db)
  | .error e => .error e

theorem answer_ok {α : Type} {f : Database → Except StoreError α} {a : α} {db db' : Database}
    (h : answer f db = .ok (a, db')) : f db = .ok a ∧ db' = db := by
  unfold answer at h
  split at h
  · next b hb =>
    cases h
    exact ⟨hb, rfl⟩
  · cases h

/-- `INSERT INTO account_reservations`, under the foreign key. -/
def insertReservationRow (r : Reservation) : Tx Unit := fun db => do
  let reservations ← insertRow db.reservations r
  let db' ← db.replace db.tasks reservations
  .ok ((), db')

/-- An API key uses an idempotency key for one task. -/
def Task.sameIdempotency (a b : Task) : Bool :=
  a.apiKeyID.isSome && a.idempotencyKey.isSome && decide (a.apiKeyID = b.apiKeyID) &&
    decide (a.idempotencyKey = b.idempotencyKey)

def insertTaskRow (t : Task) : Tx Unit := fun db => do
  if db.tasks.rows.any t.sameIdempotency then throw .uniqueViolation
  let tasks ← insertRow db.tasks t
  let db' ← db.replace tasks db.reservations
  .ok ((), db')

def insertOutboxRow (row : OutboxRow) : Tx Unit := fun db => do
  let outbox ← insertRow db.outbox row
  .ok ((), { db with outbox := outbox })

theorem insertRow_ok {ρ κ : Type} [Keyed κ ρ] [DecidableEq κ] {t u : Table ρ} {r : ρ}
    (h : insertRow t r = .ok u) : t.insert? r = some u := by
  unfold insertRow at h
  split at h
  · next u' hu =>
    cases h
    exact hu
  · cases h

theorem insertTaskRow_ok {t : Task} {u : Unit} {db db' : Database}
    (h : insertTaskRow t db = .ok (u, db')) :
    db.tasks.get? t.id = none ∧ Touches t.id (fun c => { c with task := some t }) db db' ∧
      db.SameShared db' := by
  unfold insertTaskRow at h
  split_ifs at h
  · cases h
  cases hins : insertRow db.tasks t with
  | error e => simp [hins, bind, Except.bind] at h
  | ok tasks =>
    cases hrep : db.replace tasks db.reservations with
    | error e => simp [hins, hrep, bind, Except.bind] at h
    | ok db₁ =>
      simp only [hins, hrep, bind, Except.bind, Except.ok.injEq, Prod.mk.injEq] at h
      obtain ⟨-, rfl⟩ := h
      obtain ⟨htasks, hres, hout, hled, hshared⟩ := Database.replace_eq_ok hrep
      have hget := fun k => Table.get?_insert? (insertRow_ok hins) k
      refine ⟨(Table.insert?_eq_some (insertRow_ok hins)).1, ⟨?_, fun k hk => ?_⟩, hshared⟩
      · ext1 <;> simp [Database.cell, htasks, hres, hout, hled, hget]
      · ext1 <;> simp [Database.cell, htasks, hres, hout, hled, hget, hk]

theorem insertReservationRow_ok {r : Reservation} {u : Unit} {db db' : Database}
    (h : insertReservationRow r db = .ok (u, db')) :
    db.reservations.get? r.taskID = none ∧
      Touches r.taskID (fun c => { c with reservation := some r }) db db' ∧ db.SameShared db' := by
  unfold insertReservationRow at h
  cases hins : insertRow db.reservations r with
  | error e => simp [hins, bind, Except.bind] at h
  | ok reservations =>
    cases hrep : db.replace db.tasks reservations with
    | error e => simp [hins, hrep, bind, Except.bind] at h
    | ok db₁ =>
      simp only [hins, hrep, bind, Except.bind, Except.ok.injEq, Prod.mk.injEq] at h
      obtain ⟨-, rfl⟩ := h
      obtain ⟨htasks, hres, hout, hled, hshared⟩ := Database.replace_eq_ok hrep
      have hget := fun k => Table.get?_insert? (insertRow_ok hins) k
      refine ⟨(Table.insert?_eq_some (insertRow_ok hins)).1, ⟨?_, fun k hk => ?_⟩, hshared⟩
      · ext1 <;> simp [Database.cell, htasks, hres, hout, hled, hget]
      · ext1 <;> simp [Database.cell, htasks, hres, hout, hled, hget, hk]

theorem insertOutboxRow_ok {o : OutboxRow} {u : Unit} {db db' : Database}
    (h : insertOutboxRow o db = .ok (u, db')) :
    db.outbox.get? o.taskID = none ∧
      Touches o.taskID (fun c => { c with outbox := some o }) db db' ∧ db.SameShared db' := by
  unfold insertOutboxRow at h
  cases hins : insertRow db.outbox o with
  | error e => simp [hins, bind, Except.bind] at h
  | ok outbox =>
    simp only [hins, bind, Except.bind, Except.ok.injEq, Prod.mk.injEq] at h
    obtain ⟨-, rfl⟩ := h
    have hget := fun k => Table.get?_insert? (insertRow_ok hins) k
    refine ⟨(Table.insert?_eq_some (insertRow_ok hins)).1, ⟨?_, fun k hk => ?_⟩, ⟨rfl, rfl, rfl, rfl⟩⟩
    · ext1 <;> simp [Database.cell, hget]
    · ext1 <;> simp [Database.cell, hget, hk]

def writeOverload (active : Bool) : Tx Unit := fun db =>
  .ok ((), { db with capacity := { db.capacity with overloadActive := active } })

/-- `SELECT … FOR UPDATE`: the snapshot selects the row, and its latest version
has to pass the conditions again. -/
def Task.lockedFor (now : Time) (snapshot : Database) (id : UUID) (current : Database) :
    Option Task :=
  (current.tasks.get? id).filter fun t =>
    t.claimable now && (snapshot.tasks.get? id).any (Task.claimable now)

def queuedTasks (db : Database) : ℕ := db.tasks.count fun t => t.status = .queued

def executingTasks (db : Database) : ℕ := db.tasks.count fun t => t.status.executing

def executingOfKey (db : Database) (key : UUID) : ℕ :=
  db.tasks.count fun t => decide (t.apiKeyID = some key) && t.status.executing

def nonTerminalOfKey (db : Database) (key : UUID) : ℕ :=
  db.tasks.count fun t => decide (t.apiKeyID = some key) && !t.status.terminal

/-- The diagnosis of a failed admission: the healthy accounts, and whether one of
them could pay. -/
def diagnoseAdmission (now : Time) (q : RoutingQuery) (db : Database) : ℕ × Bool :=
  let rows := db.accounts.select fun a => a.healthy q.providerID now
  (rows.length, rows.any fun a =>
    decide ((q.estimatedTokens : ℤ) ≤ a.spendable (heldTokens db a.id) q.kind))

def RoutingQuery.accepts (q : RoutingQuery) (snapshot : Database) (now : Time) (a : Account) :
    Bool :=
  a.accepts q.policy snapshot q.providerID q.kind q.estimatedTokens now

/-- The account that the query of a reroute returns: one with a free slot. -/
def RoutingQuery.target (q : RoutingQuery) (old : UUID) (env : Env) (snapshot current : Database) :
    Option UUID :=
  chooseAccount snapshot current
    (fun a => q.accepts snapshot env.now a && decide (a.id ≠ old) &&
      decide (activeTasks snapshot a.id < a.imageConcurrency))
    (Account.routingKey snapshot q.kind q.estimatedTokens 0) env.lockedAccounts.contains

/-- One statement, with `snapshot` taken when it starts and the rows it locks or
writes as they are in the state it runs on. -/
def Statement.execute (env : Env) (snapshot : Database) : (op : Statement) → Tx op.Res
  | .raise e => throw e
  | .timeNow => return env.wall
  | .advisoryLock _ => return ()
  | .lockTask id => answer fun db => .ok (Task.lockedFor env.now snapshot id db)
  | .readEstimatedTokens id =>
    answer fun _ => required ((snapshot.tasks.get? id).map Task.estimatedTokens)
  | .readPricingActive id =>
    answer fun _ => .ok ((snapshot.tasks.get? id).any (pricingActive snapshot))
  | .failUnpriced id => do
    let _ ← updateTask id (fun t => t.status = .queued) (Task.failUnpriced env.now) fun _ => rfl
  | .releaseUnpriced id => do let _ ← releaseReservation env id "cost_rule_unavailable"
  | .deliver id => deliverOutbox env id
  | .deliverPending id => deliverPendingOutbox env id
  | .wake accountID apiKeyID => wakeQueuedTasksTx env accountID apiKeyID
  | .deferQueued id nextAttemptAt reason => deferOutbox id nextAttemptAt reason
  | .loadClaimAccount id _ => answer fun db =>
    required ((db.accounts.get? id).map fun a => ⟨a, usage snapshot id⟩)
  | .lockAccount _ => return ()
  | .chooseTarget q old => answer fun db => .ok (q.target old env snapshot db)
  | .moveReservation id target => moveOneReservation id target
  | .queueOrder accountID task => answer fun _ => .ok
    (snapshot.tasks.rows.any (task.goesFirst snapshot env.now accountID),
      snapshot.tasks.rows.any fun t => decide (t.accountID = some accountID) &&
        decide (t.status = .queued) && decide (t.kind = .video))
  | .lockKeyConcurrency id => answer fun db =>
    required ((db.apiKeys.get? id).map APIKey.concurrencyLimit)
  | .keyActive id => answer fun _ => .ok (executingOfKey snapshot id)
  | .lockCapacity => answer fun db => .ok db.capacity
  | .executing => answer fun _ => .ok (executingTasks snapshot)
  | .claimLease id leaseID expiresAt =>
    updateTask id (fun t => !t.cancelRequested && (decide (t.status = .queued) || t.inFlight) &&
      t.leaseFree env.now) (Task.claim env.now leaseID expiresAt) fun _ => rfl
  | .extendClaimed id expiresAt => do let _ ← extendReservation id fun _ => expiresAt
  | .findIdempotent keyID key => answer fun _ => .ok <|
    (snapshot.tasks.select fun t =>
      decide (t.apiKeyID = some keyID) && decide (t.idempotencyKey = some key)).head?
  | .providerUncertain provider => answer fun _ => .ok (uncertainOfProvider snapshot provider)
  | .costRuleExists id provider => answer fun db => .ok <|
    (db.costRules.get? id).any fun r => decide (r.providerID = provider) && r.active
  | .savepoint => return ()
  | .rollbackToSavepoint => return ()
  | .releaseSavepoint => return ()
  | .chooseCandidate q excluded skipLocked => answer fun db => .ok <|
    chooseAccount snapshot db
      (fun a => q.accepts snapshot env.now a && !excluded.contains a.id)
      (fun a => a.routingKey snapshot q.kind q.estimatedTokens (if a.lastError = "" then 0 else 1))
      fun id => skipLocked && env.lockedAccounts.contains id
  | .reservedUsage id => answer fun _ => .ok (reservationCount snapshot id, heldTokens snapshot id)
  | .accountLimits id => answer fun _ =>
    required ((snapshot.accounts.get? id).map Account.limits)
  | .diagnose q => answer fun _ => .ok (diagnoseAdmission env.now q snapshot)
  | .lockUsableKey id => answer fun db =>
    required (((db.apiKeys.get? id).filter fun k => k.usable env.now).map APIKey.concurrencyLimit)
  | .keyNonTerminal id => answer fun _ => .ok (nonTerminalOfKey snapshot id)
  | .queued => answer fun _ => .ok (queuedTasks snapshot)
  | .setOverload active => writeOverload active
  | .insertTask row => do
    insertTaskRow (row env.now)
    return row env.now
  | .insertReservation r => insertReservationRow r
  | .insertOutbox taskID kind => insertOutboxRow (OutboxRow.new env taskID kind)

theorem moveQueued_ok {id target : UUID} {n : ℕ} {db db' : Database}
    (h : moveQueued id target db = .ok (n, db')) :
    n = 0 ∧ db' = db ∨
    ∃ t, db.tasks.get? id = some t ∧ t.status = .queued ∧ t.generationID = "" ∧
      Touches id (fun c => (c.mapTask (Task.moveTo target)).mapReservation
        (Reservation.moveTo target)) db db' ∧ db.SameShared db' := by
  unfold moveQueued at h
  by_cases hm : (db.tasks.get? id).any Task.movable = true
  · rw [if_pos hm] at h
    simp only [Option.any_eq_true, Task.movable, Bool.and_eq_true, decide_eq_true_eq] at hm
    obtain ⟨t, ht, hstatus, hgen⟩ := hm
    generalize hr : db.replace _ _ = x at h
    cases x with
    | error e => cases h
    | ok db₁ =>
      simp only [bind, Except.bind, Except.ok.injEq, Prod.mk.injEq] at h
      obtain ⟨-, rfl⟩ := h
      obtain ⟨htasks, hres, hout, hled, hshared⟩ := Database.replace_eq_ok hr
      refine .inr ⟨t, ht, hstatus, hgen, ⟨?_, ?_⟩, hshared⟩
      · ext1 <;> simp [Database.cell, Cell.mapTask, Cell.mapReservation, htasks, hres, hout, hled]
      · intro k hk
        ext1 <;> simp [Database.cell, htasks, hres, hout, hled, Table.get?_modify_of_ne _ hk]
  · rw [if_neg hm] at h
    cases h
    exact .inl ⟨rfl, rfl⟩

/-- A statement run alone: its snapshot is the state it runs on. -/
def Statement.run (env : Env) (op : Statement) : Tx op.Res := fun db => op.execute env db db

/-- A transaction with nothing running beside it. -/
def Session.run {α : Type} (env : Env) (p : Session α) : Tx α := p.eval (Statement.run env)

end GenerationGateway
