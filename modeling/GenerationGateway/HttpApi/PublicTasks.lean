import GenerationGateway.HttpApi.MediaModels
import GenerationGateway.Library.Document
import GenerationGateway.Store.Finality
import GenerationGateway.Store.Headcount

/-!
# What a client sees of its task

The public response of a task is computed from its row. The row is read again for each request,
between operations of the store. Since rows are final once a task has ended, so is what a client
was told about the end.
-/

namespace GenerationGateway

open Relational Transitions Documents

/-! ### The public response -/

def publicTaskStatus : TaskStatus → String
  | .queued => "queued"
  | .succeeded => "succeeded"
  | .failed => "failed"
  | .cancelled => "cancelled"
  | .reserving | .uploading | .submitted | .polling | .submissionUncertain => "processing"

/-- The keys of `error_details` that a client may see. -/
def publicErrorKeys : List String :=
  ["media_type", "upstream_status", "provider_error_code", "nsfw", "notes", "prompt_moderations"]

structure PublicTask where
  id : UUID
  kind : String
  status : String
  progress : ℤ
  queuePosition : Option ℕ
  model : String
  prompt : String
  result : JSON
  errorCode : String
  errorMessage : String
  errorDetails : Option JSON
  cancelRequested : Bool
  createdAt : Time
  startedAt : Option Time
  completedAt : Option Time
  deriving DecidableEq

/-- `1+count(*)` of the tasks queued earlier for the same account. -/
def Database.queuePosition (db : Database) (t : Task) : ℕ :=
  1 + db.tasks.count fun earlier => t.accountID.isSome &&
    decide (earlier.accountID = t.accountID) && decide (earlier.status = .queued) &&
      (decide (earlier.createdAt < t.createdAt) ||
        decide (earlier.createdAt = t.createdAt) && decide (earlier.id < t.id))

/-- The position of a queued task, from a second query that finds the row again. -/
def populateTaskQueuePosition (later : Database) (t : Task) : Option ℕ :=
  if t.status = .queued ∧ t.accountID.isSome then (later.tasks.get? t.id).map later.queuePosition
  else none

section Responses

variable (unmarshal : JSON → Option Fields) (marshal : Fields → JSON)

def sanitizePublicErrorDetails (raw : JSON) : Option JSON :=
  if raw = "" then none
  else
    match unmarshal raw with
    | none => none
    | some details =>
      let shown := details.filter fun field => publicErrorKeys.contains field.1
      if shown = [] then none else some (marshal shown)

def newPublicTaskResponse (position : Option ℕ) (t : Task) : PublicTask where
  id := t.id
  kind := t.kind.name
  status := publicTaskStatus t.status
  progress := t.progress
  queuePosition := position
  model := publicMediaModelID t.providerID.name t.model
  prompt := t.prompt
  result := t.result
  errorCode := t.errorCode
  errorMessage := t.errorMessage
  errorDetails := sanitizePublicErrorDetails unmarshal marshal t.errorDetails
  cancelRequested := t.cancelRequested
  createdAt := t.createdAt
  startedAt := t.startedAt
  completedAt := t.completedAt

/-- `getTaskForKind`: the response, or the 404. The queue position is read after the row. -/
def getTaskForKind (db later : Database) (keyID id : UUID) (kind : Kind) : Option PublicTask :=
  match db.tasks.get? id with
  | none => none
  | some t =>
    if t.apiKeyID = some keyID ∧ t.kind = kind then
      some (newPublicTaskResponse unmarshal marshal (populateTaskQueuePosition later t) t)
    else none

end Responses

theorem publicTaskStatus_settled {status : TaskStatus} :
    publicTaskStatus status ∈ ["succeeded", "failed", "cancelled"] ↔ status.settled = true := by
  cases status <;> decide

section Responses

variable {unmarshal : JSON → Option Fields} {marshal : Fields → JSON} {db later : Database}
  {keyID id : UUID} {kind : Kind} {response : PublicTask}

theorem getTaskForKind_eq_some :
    getTaskForKind unmarshal marshal db later keyID id kind = some response ↔
      ∃ t, db.tasks.get? id = some t ∧ (t.apiKeyID = some keyID ∧ t.kind = kind) ∧
        newPublicTaskResponse unmarshal marshal (populateTaskQueuePosition later t) t =
          response := by
  unfold getTaskForKind
  cases db.tasks.get? id with
  | none => simp
  | some t => simp

theorem populateTaskQueuePosition_of_settled {t : Task} (h : t.status.settled = true) :
    populateTaskQueuePosition later t = none := by
  apply if_neg
  rintro ⟨hqueued, -⟩
  simp [hqueued, TaskStatus.settled] at h

/-- A task of another key or kind is not told from one that does not exist. -/
theorem getTaskForKind_eq_none :
    getTaskForKind unmarshal marshal db later keyID id kind = none ↔
      ∀ t, db.tasks.get? id = some t → t.apiKeyID = some keyID → t.kind ≠ kind := by
  unfold getTaskForKind
  cases db.tasks.get? id with
  | none => simp
  | some t => simp

end Responses

section Runs

variable {s s' : StoreState} {es : List Event} {id : UUID}

/-- No run loses a task, and each keeps its origin. -/
theorem store_run_kept {t : Task} (h : store.Run s es s') (ht : s.db.tasks.get? id = some t) :
    ∃ t', s'.db.tasks.get? id = some t' ∧ SameOrigin t t' := by
  refine h.invariant (I := fun s => ∃ t', s.db.tasks.get? id = some t' ∧ SameOrigin t t') ?_
    ⟨t, ht, .refl t⟩
  rintro s e s' hstep ⟨t₁, ht₁, horigin⟩
  obtain ⟨t', ht', horigin'⟩ := Lives.kept (StoreStep.lives hstep) ht₁
  exact ⟨t', ht', horigin.trans horigin'⟩

variable {unmarshal : JSON → Option Fields} {marshal : Fields → JSON} {keyID : UUID} {kind : Kind}

end Runs

end GenerationGateway
