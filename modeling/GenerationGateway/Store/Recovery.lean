import GenerationGateway.Store.Owned

/-!
# Recovery, cancellation and reconciliation

`RecoverStaleTasks` is one transaction of six passes. A pass updates the tasks
it selects in one statement and then repairs the other rows of each returned
task in a loop, so between the two the rows of a task do not fit together. The
loop lemma closes that gap for every pass at once.
-/

namespace GenerationGateway

open Relational

/-- A task that the recovery reports. -/
structure RecoveryTask where
  id : UUID
  kind : Kind
  status : TaskStatus

def Task.toRecoveryTask (t : Task) : RecoveryTask := ⟨t.id, t.kind, t.status⟩

def failExpiredQueued (env : Env) : Tx (List RecoveryTask) := do
  let rows ← updateTasks
    (fun _ t => decide (t.status = .queued) && due t.queueDeadlineAt env.now &&
      t.leaseFree env.now)
    (Task.fail env.now "queue_timeout" "task exceeded its queue deadline before submission")
    fun _ => rfl
  rows.forM fun t => scanAccount t fun account => do
    let _ ← releaseReservation env t.id "queue_timeout"
    deliverOutbox env t.id
    wakeQueuedTasksTx env account t.apiKeyID
  return rows.map Task.toRecoveryTask

/-- `SET status='submission_uncertain',progress=100,…` with the lease cleared. -/
def Task.uncertain (now : Time) (code message : String) (t : Task) : Task :=
  { t.clearLease with
    status := .submissionUncertain, progress := 100, errorCode := code, errorMessage := message
    completedAt := some now }

@[simp] theorem Task.uncertain_status (now : Time) (code message : String) (t : Task) :
    (t.uncertain now code message).status = .submissionUncertain := rfl

def Task.expireUpstream (now : Time) (t : Task) : Task :=
  { t.uncertain now "upstream_deadline_exceeded"
      "upstream generation did not reach a verifiable terminal result before its deadline" with
    reconciliationReason := "upstream_deadline_exceeded" }

def expireUpstream (env : Env) : Tx (List RecoveryTask) := do
  let rows ← updateTasks (fun _ t => t.inFlight && due t.upstreamDeadlineAt env.now)
    (Task.expireUpstream env.now) fun _ => rfl
  rows.forM fun t => scanAccount t fun account => do
    deliverOutbox env t.id
    wakeQueuedTasksTx env account t.apiKeyID
  return rows.map Task.toRecoveryTask

/-- The loop of the closure `requeue` over the rows its query returned. -/
def requeue (env : Env) (rows : List Task) : Tx (List RecoveryTask) := do
  rows.forM fun t => do
    let _ ← extendReservation t.id fun e => max e (env.now + minutes 20)
    upsertOutbox { OutboxRow.new env t.id t.kind with
        lastError := "lease expired; redispatch requested" }
      (fun o => { o.reset env.now with lastError := "lease expired; redispatch requested" })
      fun _ => rfl
  return rows.map Task.toRecoveryTask

def Task.requeue (t : Task) : Task :=
  { t.clearLease with status := .queued, progress := 0, errorCode := "", errorMessage := "" }

/-- The worker stopped before it prepared a submission. -/
def Task.lapsedUnsubmitted (now : Time) (t : Task) : Bool :=
  (t.status = .reserving || t.status = .uploading) && due t.executionLeaseExpiresAt now

def requeueUnsubmitted (env : Env) : Tx (List RecoveryTask) := do
  let rows ← updateTasks (fun _ t => t.lapsedUnsubmitted env.now) Task.requeue fun _ => rfl
  requeue env rows

/-- The worker stopped between preparing and recording its submission. -/
def Task.abandoned (now : Time) (t : Task) : Bool :=
  decide (t.status = .submitted) && decide (t.generationID = "") &&
    due t.executionLeaseExpiresAt now

def markUncertain (env : Env) : Tx Unit := do
  let _ ← updateTasks (fun _ t => t.abandoned env.now)
    (Task.uncertain env.now "submission_uncertain"
      "worker stopped after submission began; task was not resubmitted") fun _ => rfl
  let db ← get
  updateOutbox
    (fun o => (db.tasks.get? o.taskID).any fun t => t.status = .submissionUncertain)
    (OutboxRow.deliver env.now) (OutboxRow.deliver_taskID env)

/-- The worker stopped while the generation was in flight. -/
def Task.lapsedInFlight (now : Time) (t : Task) : Bool :=
  t.inFlight && due t.executionLeaseExpiresAt now

def requeueInFlight (env : Env) : Tx (List RecoveryTask) := do
  let rows ← updateTasks (fun _ t => t.lapsedInFlight env.now) Task.clearLease fun _ => rfl
  requeue env rows

def failExpiredReservations (env : Env) : Tx (List RecoveryTask) := do
  let rows ← updateTasks
    (fun db t => decide (t.status = .queued) && decide (t.executionAttempt = 0) &&
      (db.reservations.get? t.id).any fun r => r.held && decide (r.expiresAt ≤ env.now))
    (Task.fail env.now "reservation_expired"
      "task was not submitted before its account capacity reservation expired") fun _ => rfl
  rows.forM fun t => do
    let _ ← releaseReservation env t.id "reservation_expired"
    deliverOutbox env t.id
  return rows.map Task.toRecoveryTask

def recoverStaleTasks (env : Env) : Tx (Ending (List RecoveryTask)) := do
  let timedOut ← failExpiredQueued env
  let upstream ← expireUpstream env
  let unsubmitted ← requeueUnsubmitted env
  markUncertain env
  let inFlight ← requeueInFlight env
  let _ ← failExpiredReservations env
  return .commit (timedOut ++ upstream ++ unsubmitted ++ inFlight)

def Task.confirmNotCreated (now : Time) (t : Task) : Task :=
  { t.fail now "submission_not_created"
      "administrator confirmed that the upstream task was not created" with
    reconciliationReason := "administrator confirmed no upstream generation"
    completedAt := coalesce t.completedAt (some now) }

/-- An administrator's decision on a task whose submission had an unknown result. -/
def confirmSubmissionNotCreated (env : Env) (id : UUID) : Tx (Ending Bool) :=
  onRow (updateTask id (fun t => t.status = .submissionUncertain)
    (Task.confirmNotCreated env.now) fun _ => rfl) fun task => do
  let _ ← releaseReservation env id "submission_not_created"
  deliverOutbox env id
  wakeAccount env task.accountID task.apiKeyID
  return .commit true

def Task.cancel (now : Time) (t : Task) : Task :=
  { t with
    status := .cancelled, cancelRequested := true, progress := 100, completedAt := some now }

def cancelQueuedTaskAndRelease (env : Env) (id keyID : UUID) : Tx (Ending Bool) :=
  onRow (updateTask id
    (fun t => decide (t.apiKeyID = some keyID) && decide (t.status = .queued) &&
      t.leaseFree env.now) (Task.cancel env.now) fun _ => rfl) fun task =>
  scanAccount task fun account => do
  let _ ← releaseReservation env id "cancelled"
  deliverOutbox env id
  wakeQueuedTasksTx env account (some keyID)
  return .commit true

/-- The statement `ReleaseReservation` executes outside a transaction. -/
def releaseReservationOnce (env : Env) (taskID : UUID) (reason : String) : Tx (Ending Unit) := do
  let _ ← releaseReservation env taskID reason
  return .commit ()

end GenerationGateway
