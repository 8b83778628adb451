import GenerationGateway.Store.Signature
import Mathlib.Logic.Relation

/-!
# The life of one task

Seen from one task, a committed transaction is a sequence of transitions of its
four rows. There are thirteen kinds of them, each with the guard under which the
store makes it, and every operation is shown once to make no others. Invariants
of a task are then case analyses over the transitions.
-/

namespace GenerationGateway

open Relational Effects

/-- Who asks for a transition: the label of an operation, as far as the fencing
of leases and the finality of states depend on it. -/
inductive Call
  | admission
  | claim (id leaseID : UUID)
  | owned (id leaseID : UUID)
  | confirm (id : UUID)
  | release (id : UUID)
  | other

/-- What no operation changes in a task after its admission. -/
structure SameOrigin (t t' : Task) : Prop where
  id : t'.id = t.id
  providerID : t'.providerID = t.providerID
  apiKeyID : t'.apiKeyID = t.apiKeyID
  kind : t'.kind = t.kind
  model : t'.model = t.model
  pricingRuleID : t'.pricingRuleID = t.pricingRuleID
  estimatedTokens : t'.estimatedTokens = t.estimatedTokens
  createdAt : t'.createdAt = t.createdAt
  request : t'.request = t.request
  requestHash : t'.requestHash = t.requestHash
  idempotencyKey : t'.idempotencyKey = t.idempotencyKey

/-- An execution lease: an id with an expiry. -/
def Task.leased (t : Task) : Bool :=
  t.executionLeaseID.isSome && t.executionLeaseExpiresAt.isSome

def Task.unleased (t : Task) : Bool :=
  t.executionLeaseID.isNone && t.executionLeaseExpiresAt.isNone

/-- The update keeps the lease id, the tokens of financial identity apart, and an
id of a generation once there is one. -/
structure KeepsLease (now : Time) (leaseID : UUID) (t t' : Task) : Prop where
  origin : SameOrigin t t'
  leasedTo : t.leasedTo leaseID now = true
  running : t.status.terminal = false
  executing : t'.status.executing = true
  leaseID : t'.executionLeaseID = t.executionLeaseID
  expires : t'.executionLeaseExpiresAt.isSome = true
  generation : t.generationID ≠ "" → t'.generationID ≠ ""
  polling : t'.status = .polling → t.status = .polling ∨ t'.generationID ≠ ""

/-- `Cell.settle` for a cell whose reservation is held. -/
abbrev Cell.release (now : Time) (reason : String) : Cell → Cell :=
  Cell.settle (fun _ => true) (fun _ => releasedAt now) reason

inductive Transition (now : Time) (call : Call) : Cell → Cell → Prop
  /-- Admission inserts the three rows of a new task. -/
  | create {c : Cell} {t : Task} {r : Reservation} {o : OutboxRow} (hcall : call = .admission)
      (htask : c.task = none) (hres : c.reservation = none) (hout : c.outbox = none)
      (hstatus : t.status = .queued) (hlease : t.unleased = true) (hgen : t.generationID = "")
      (hheld : r.settlement = none) (hdel : o.deliveredAt = none) :
      Transition now call c ⟨some t, some r, some o, c.ledger⟩
  /-- A queued task is offered to the workers again. -/
  | redispatch {c : Cell} {t : Task} {f : OutboxRow → OutboxRow} (htask : c.task = some t)
      (hstatus : t.status = .queued) (hf : ∀ o, (f o).deliveredAt = none) :
      Transition now call c (c.mapOutbox f)
  /-- The dispatcher counts an attempt or records its error. -/
  | retime {c : Cell} {f : OutboxRow → OutboxRow}
      (hf : ∀ o, (f o).deliveredAt = o.deliveredAt) : Transition now call c (c.mapOutbox f)
  /-- A queued task and its held reservation move to another account. -/
  | reroute {c : Cell} {t : Task} (leaseID target : UUID) (hcall : call = .claim t.id leaseID)
      (htask : c.task = some t)
      (hstatus : t.status = .queued) (hgen : t.generationID = "") :
      Transition now call c
        ((c.mapTask (Task.moveTo target)).mapReservation (Reservation.moveTo target))
  /-- A worker takes the lease. -/
  | claim {c : Cell} {t : Task} (leaseID : UUID) (expiresAt : Time) (g : Time → Time)
      (hcall : call = .claim t.id leaseID) (htask : c.task = some t)
      (hstatus : t.status = .queued ∨ t.inFlight = true) (hfree : t.leaseFree now = true) :
      Transition now call c ((c.mapTask (Task.claim now leaseID expiresAt)).extend g)
  /-- The outbox row of a leased task is marked delivered. -/
  | deliver {c : Cell} {t : Task} {f : OutboxRow → OutboxRow} (htask : c.task = some t)
      (hlease : t.leased = true ∨ t.status.terminal = true) (hrunning : t.status ≠ .queued) :
      Transition now call c (c.mapOutbox f)
  /-- The holder of the lease updates the task. -/
  | update {c : Cell} {t : Task} {f : Task → Task} (leaseID : UUID) (g : Time → Time)
      (hcall : call = .owned t.id leaseID) (htask : c.task = some t)
      (hkeeps : KeepsLease now leaseID t (f t)) :
      Transition now call c ((c.mapTask f).extend g)
  /-- The lease is given back or recovered, and the task is offered again. -/
  | requeue {c : Cell} {t : Task} {f : Task → Task} {h : OutboxRow → OutboxRow} {row : OutboxRow}
      (g : Time → Time) (htask : c.task = some t) (horigin : SameOrigin t (f t))
      (hrunning : t.status.executing = true) (hlease : (f t).unleased = true)
      (hstatus : (f t).status = .queued ∧ t.inFlight = false ∧ t.status ≠ .submitted ∨
        (f t).inFlight = true)
      (hgen : (f t).generationID = t.generationID)
      (hh : ∀ o, (h o).deliveredAt = none) (hrow : row.deliveredAt = none) :
      Transition now call c { (c.mapTask f).extend g with
        outbox := some ((c.outbox.map h).getD row) }
  /-- The result of the submission is unknown; the reservation stays as it is. -/
  | uncertain {c : Cell} {t : Task} {f : Task → Task} (htask : c.task = some t)
      (horigin : SameOrigin t (f t)) (hrunning : t.status.terminal = false)
      (hstatus : (f t).status = .submissionUncertain) (hlease : (f t).unleased = true) :
      Transition now call c ((c.mapTask f).mapOutbox (OutboxRow.deliver now))
  /-- The generation is complete; the hold is consumed. -/
  | complete {c : Cell} {t : Task} {f : Task → Task} (htask : c.task = some t)
      (horigin : SameOrigin t (f t)) (hrunning : t.status = .submitted ∨ t.status = .polling)
      (hstatus : (f t).status = .succeeded) (hlease : (f t).unleased = true) :
      Transition now call c (((c.mapTask f).settle (fun _ => true) (consumedAt now)
        "local_ledger_consumed").mapOutbox (OutboxRow.deliver now))
  /-- The task ends without a result, in the queue or by the holder of its lease; the
  hold is released. -/
  | finish {c : Cell} {t : Task} {f : Task → Task} (reason : String) (htask : c.task = some t)
      (horigin : SameOrigin t (f t)) (hrunning : t.status.terminal = false)
      (hstatus : (f t).status = .failed ∨ (f t).status = .cancelled)
      (hlease : (f t).unleased = true ∨ t.status = .queued ∧
        (f t).executionLeaseID = t.executionLeaseID ∧
        (f t).executionLeaseExpiresAt = t.executionLeaseExpiresAt)
      (hender : t.status = .queued ∨ ∃ leaseID, call = .owned t.id leaseID) :
      Transition now call c (((c.mapTask f).release now reason).mapOutbox (OutboxRow.deliver now))
  /-- An administrator settles an uncertain task. -/
  | confirm {c : Cell} {t : Task} {f : Task → Task} (hcall : call = .confirm t.id)
      (htask : c.task = some t) (horigin : SameOrigin t (f t))
      (huncertain : t.status = .submissionUncertain) (hstatus : (f t).status = .failed)
      (hlease : (f t).executionLeaseID = t.executionLeaseID ∧
        (f t).executionLeaseExpiresAt = t.executionLeaseExpiresAt) :
      Transition now call c
        (((c.mapTask f).release now "submission_not_created").mapOutbox (OutboxRow.deliver now))
  /-- An administrator releases the hold of an uncertain task. -/
  | release {c : Cell} {t : Task} (reason : String) (htask : c.task = some t)
      (huncertain : t.status = .submissionUncertain) (hcall : call = .release t.id) :
      Transition now call c (c.release now reason)

/-- The transitions of one committed transaction. -/
abbrev Steps (now : Time) (call : Call) : Cell → Cell → Prop :=
  Relation.ReflTransGen (Transition now call)

/-- Every task goes through a sequence of transitions. -/
def Lives (now : Time) (call : Call) (db db' : Database) : Prop :=
  ∀ k, Steps now call (db.cell k) (db'.cell k)

theorem Cell.Woken.steps {now : Time} {call : Call} {c c' : Cell} (h : Cell.Woken now c c') :
    Steps now call c c' := by
  rcases h with rfl | ⟨⟨t, ht, hq⟩, rfl⟩
  · exact .refl
  · exact .single (.redispatch ht hq fun _ => rfl)

namespace Lives

variable {now : Time} {call : Call} {a b c : Database}

theorem refl (now : Time) (call : Call) (db : Database) : Lives now call db db := fun _ => .refl

theorem trans (h : Lives now call a b) (h' : Lives now call b c) : Lives now call a c :=
  fun k => (h k).trans (h' k)

theorem of_wakes (h : Wakes now a b) : Lives now call a b := fun k => (h.cell k).steps

theorem of_touches {id : UUID} {F : Cell → Cell} (h : Touches id F a b)
    (hF : Steps now call (a.cell id) (F (a.cell id))) : Lives now call a b := by
  intro k
  by_cases hk : k = id
  · rw [hk, h.cell]
    exact hF
  · rw [h.frame k hk]

end Lives

@[simp] theorem Cell.extend_id (c : Cell) : c.extend (fun e => e) = c := by
  cases c
  simp [Cell.extend]

theorem Cell.mapTask_of_task {c : Cell} {t : Task} (f : Task → Task) (h : c.task = some t) :
    c.mapTask f = { c with task := some (f t) } := by
  simp [Cell.mapTask, h]

end GenerationGateway
