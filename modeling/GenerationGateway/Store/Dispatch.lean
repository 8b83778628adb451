import GenerationGateway.Store.Recovery

/-!
# Dispatch of the outbox

The dispatcher takes a batch of undelivered rows whose task can be claimed and
pushes their next attempt back by thirty seconds.
-/

namespace GenerationGateway

open Relational

structure TaskOutboxMessage where
  taskID : UUID
  kind : Kind
  attemptCount : ℕ
  recovery : Bool

/-- The states that the dispatch query selects: queued, or in flight with a
generation id, and free of a live lease. -/
def Task.dispatchable (t : Task) (now : Time) : Bool :=
  (decide (t.status = .queued) || t.inFlight) && t.leaseFree now

def OutboxRow.dispatchable (db : Database) (now : Time) (o : OutboxRow) : Bool :=
  o.deliveredAt.isNone && decide (o.nextAttemptAt ≤ now) &&
    (db.tasks.get? o.taskID).any fun t => t.dispatchable now

/-- `ORDER BY o.next_attempt_at,o.created_at`. -/
def OutboxRow.precedes (a b : OutboxRow) : Prop :=
  a.nextAttemptAt < b.nextAttemptAt ∨
    (a.nextAttemptAt = b.nextAttemptAt ∧ a.createdAt ≤ b.createdAt)

instance : DecidableRel OutboxRow.precedes := fun a b =>
  inferInstanceAs (Decidable (_ ∨ _))

def OutboxRow.attempt (now : Time) (o : OutboxRow) : OutboxRow :=
  { o with
    lastAttemptAt := some now, nextAttemptAt := now + seconds 30
    attemptCount := o.attemptCount + 1 }

/-- `SKIP LOCKED` passes over the outbox rows in `locked`. -/
def dispatchCandidates (env : Env) (locked : List UUID) (limit : ℤ) (db : Database) :
    List OutboxRow :=
  let limit := if limit < 1 ∨ 500 < limit then 100 else limit.toNat
  ((db.outbox.select fun o => o.dispatchable db env.now &&
    !locked.contains o.taskID).insertionSort OutboxRow.precedes).take limit

def claimDispatchableOutbox (env : Env) (locked : List UUID) (limit : ℤ) :
    Tx (Ending (List TaskOutboxMessage)) := do
  let db ← get
  let candidates := dispatchCandidates env locked limit db
  updateOutbox (fun o => (candidates.map OutboxRow.taskID).contains o.taskID)
    (OutboxRow.attempt env.now) fun _ => rfl
  return .commit (candidates.map fun o =>
    { taskID := o.taskID
      kind := o.kind
      attemptCount := o.attemptCount + 1
      recovery := (db.tasks.get? o.taskID).any fun t =>
        t.status = .submitted || t.status = .polling })

def recordOutboxError (env : Env) (taskID : UUID) (message : String) (retryAfter : Time) :
    Tx (Ending Unit) := do
  let retryAfter := if retryAfter ≤ 0 then seconds 5 else retryAfter
  updateOutbox (fun o => decide (o.taskID = taskID) && o.deliveredAt.isNone)
    (fun o => { o with lastError := message, nextAttemptAt := env.wall + retryAfter })
    fun _ => rfl
  return .commit ()

end GenerationGateway
