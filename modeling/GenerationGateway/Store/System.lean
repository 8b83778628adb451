import GenerationGateway.Library.Reachability
import GenerationGateway.Store.Lifecycle.Owned
import GenerationGateway.Store.Lifecycle.Recovery
import GenerationGateway.Store.Lifecycle.Sessions

/-!
# The store as a transition system

A step is one operation: it commits or leaves the database as it is. Clocks are
free, since each transaction brings its own `now()`. The state also keeps the
lease ids drawn so far, because `uuid.New()` never returns the same id twice.
What every transition of a task preserves holds for every task of every
reachable store.
-/

namespace GenerationGateway

open Relational Transitions

/-- The operations called with a lease id; an update is one that the workers
issue. -/
inductive OwnedCall
  | renew (lease : Time)
  | yield (retryAt : Time)
  | update (u : TaskUpdate) (issued : u.issued)
  | prepare (accountID : UUID) (upstreamRequest : Option JSON) (upstreamDeadline : Time)
  | updateTokens (before after : Option ℤ)
  | recordSubmission (accountID : UUID) (generationID : String) (upstreamReportedCost : Option ℚ)
  | recordUpstreamStatus (known : Bool)
  | complete (accountID : UUID) (generationID : String) (result : JSON) (tokensAfter : Option ℤ)
  | fail (code message : String) (details : Option JSON) (tokensAfter : Option ℤ)
  | failSubmitted (code message : String) (details : Option JSON)

def OwnedCall.body (env : Env) (id leaseID : UUID) : OwnedCall → Tx (Ending Bool)
  | renew lease => renewTaskLease env id leaseID lease
  | yield retryAt => yieldTaskLease env id leaseID retryAt
  | update u _ => updateTaskOwned env id leaseID u
  | prepare accountID upstreamRequest upstreamDeadline =>
    prepareTaskSubmissionWithDeadlineOwned env id leaseID accountID upstreamRequest upstreamDeadline
  | updateTokens before after => updateTaskTokensOwned env id leaseID before after
  | recordSubmission accountID generationID cost =>
    recordTaskSubmissionOwned env id leaseID accountID generationID cost
  | recordUpstreamStatus known => recordTaskUpstreamStatusOwned env id leaseID known
  | complete accountID generationID result tokensAfter =>
    completeTaskOwned env id leaseID accountID generationID result tokensAfter
  | fail code message details tokensAfter =>
    failTaskOwned env id leaseID code message details tokensAfter
  | failSubmitted code message details => failSubmittedTaskOwned env id leaseID code message details

theorem OwnedCall.lives {env : Env} {id leaseID : UUID} {call : OwnedCall} {db db' : Database}
    {b : Bool} (h : call.body env id leaseID db = .ok (.commit b, db')) :
    Lives env.now (.owned id leaseID) db db' := by
  cases call with
  | renew lease => exact renewTaskLease_lives h
  | yield retryAt => exact yieldTaskLease_lives h
  | update u issued => exact updateTaskOwned_lives issued h
  | prepare accountID request deadline => exact updateTaskOwned_lives (.inr (.inl rfl)) h
  | updateTokens before after => exact updateTaskTokensOwned_lives h
  | recordSubmission accountID generationID cost => exact recordTaskSubmissionOwned_lives h
  | recordUpstreamStatus known => exact recordTaskUpstreamStatusOwned_lives h
  | complete accountID generationID result tokensAfter => exact completeTaskOwned_lives h
  | fail code message details tokensAfter => exact failTaskOwned_lives h
  | failSubmitted code message details => exact failSubmittedTaskOwned_lives h

inductive Operation
  | admission (sha256 : String → String) (policy : SchedulingPolicy) (req : AdmissionRequest)
  | claim (policy : SchedulingPolicy) (id leaseID : UUID) (lease : Time)
  | owned (id leaseID : UUID) (call : OwnedCall)
  | recover
  | cancel (id keyID : UUID)
  | confirm (id : UUID)
  | release (id : UUID) (reason : String)
  | dispatch (locked : List UUID) (limit : ℤ)
  | outboxError (id : UUID) (message : String) (retryAfter : Time)
  | administer

/-- The tables about tasks. -/
structure Database.SameTasks (db db' : Database) : Prop where
  tasks : db'.tasks = db.tasks
  reservations : db'.reservations = db.reservations
  outbox : db'.outbox = db.outbox
  ledger : db'.ledger = db.ledger

/-- What a commit of the operation leaves behind. A release outside a transaction
is for uncertain tasks; administration changes accounts, keys, price rules and
the capacity in any way. -/
def Operation.Commits (env : Env) : Operation → Database → Database → Prop
  | admission sha256 policy req, db, db' =>
    ∃ r, Session.Ends env (createReservedTaskForProviderOnce sha256 policy req) db (.commit r) db'
  | claim policy id leaseID lease, db, db' =>
    ∃ r, Session.Ends env (claimTaskOnce policy id leaseID lease) db (.commit r) db'
  | owned id leaseID call, db, db' => ∃ b, call.body env id leaseID db = .ok (.commit b, db')
  | recover, db, db' => ∃ tasks, recoverStaleTasks env db = .ok (.commit tasks, db')
  | cancel id keyID, db, db' =>
    ∃ b, cancelQueuedTaskAndRelease env id keyID db = .ok (.commit b, db')
  | confirm id, db, db' => ∃ b, confirmSubmissionNotCreated env id db = .ok (.commit b, db')
  | release id reason, db, db' =>
    (∃ t, db.tasks.get? id = some t ∧ t.status = .submissionUncertain) ∧
      releaseReservationOnce env id reason db = .ok (.commit (), db')
  | dispatch locked limit, db, db' =>
    ∃ messages, claimDispatchableOutbox env locked limit db = .ok (.commit messages, db')
  | outboxError id message retryAfter, db, db' =>
    recordOutboxError env id message retryAfter db = .ok (.commit (), db')
  | administer, db, db' => db.SameTasks db'

def Operation.call : Operation → Call
  | admission _ _ _ => .admission
  | claim _ id leaseID _ => .claim id leaseID
  | owned id leaseID _ => .owned id leaseID
  | confirm id => .confirm id
  | release id _ => .release id
  | _ => .other

theorem Operation.Commits.lives {env : Env} {op : Operation} {db db' : Database}
    (h : op.Commits env db db') : Lives env.now op.call db db' := by
  cases op with
  | admission sha256 policy req =>
    obtain ⟨r, h⟩ := h
    exact createReservedTaskForProviderOnce_lives h
  | claim policy id leaseID lease =>
    obtain ⟨r, h⟩ := h
    exact claimTaskOnce_lives h
  | owned id leaseID call =>
    obtain ⟨b, h⟩ := h
    exact OwnedCall.lives h
  | recover =>
    obtain ⟨tasks, h⟩ := h
    exact recoverStaleTasks_lives h
  | cancel id keyID =>
    obtain ⟨b, h⟩ := h
    exact cancelQueuedTaskAndRelease_lives h
  | confirm id =>
    obtain ⟨b, h⟩ := h
    exact confirmSubmissionNotCreated_lives h
  | release id reason =>
    obtain ⟨⟨t, ht, huncertain⟩, h⟩ := h
    exact releaseReservationOnce_lives ht huncertain h
  | dispatch locked limit =>
    obtain ⟨messages, h⟩ := h
    exact claimDispatchableOutbox_lives h
  | outboxError id message retryAfter => exact recordOutboxError_lives h
  | administer =>
    intro k
    have hcell : db'.cell k = db.cell k := by
      simp [Database.cell, h.tasks, h.reservations, h.outbox, h.ledger]
    rw [hcell]

/-- The lease ids that the operation draws. -/
def Operation.draws : Operation → List UUID
  | claim _ _ leaseID _ => [leaseID]
  | _ => []

structure StoreState where
  db : Database
  leases : List UUID

structure Event where
  env : Env
  op : Operation

/-- One operation: it draws new lease ids, and commits or changes nothing. -/
structure StoreStep (s : StoreState) (e : Event) (s' : StoreState) : Prop where
  fresh : ∀ leaseID ∈ e.op.draws, leaseID ∉ s.leases
  leases : s'.leases = e.op.draws ++ s.leases
  effect : s'.db = s.db ∨ e.op.Commits e.env s.db s'.db

def store : LTS StoreState Event := ⟨StoreStep⟩

/-- A store without tasks. -/
def StoreState.initial (accounts : Table Account) (apiKeys : Table APIKey)
    (costRules : Table CostRule) (capacity : SystemCapacityConfig) : StoreState where
  db := ⟨.empty, .empty, .empty, .empty, accounts, apiKeys, costRules, capacity, by
    intro r hr
    simp [Table.empty] at hr⟩
  leases := []

/-- The operation with nothing running beside it. -/
def Operation.apply (env : Env) : Operation → Database → Database
  | admission sha256 policy req, db =>
    (transaction ((createReservedTaskForProviderOnce sha256 policy req).run env) db).2
  | claim policy id leaseID lease, db =>
    (transaction ((claimTaskOnce policy id leaseID lease).run env) db).2
  | owned id leaseID call, db => (transaction (call.body env id leaseID) db).2
  | recover, db => (transaction (recoverStaleTasks env) db).2
  | cancel id keyID, db => (transaction (cancelQueuedTaskAndRelease env id keyID) db).2
  | confirm id, db => (transaction (confirmSubmissionNotCreated env id) db).2
  | release id reason, db =>
    if (db.tasks.get? id).any fun t => t.status = .submissionUncertain then
      (transaction (releaseReservationOnce env id reason) db).2
    else db
  | dispatch locked limit, db => (transaction (claimDispatchableOutbox env locked limit) db).2
  | outboxError id message retryAfter, db =>
    (transaction (recordOutboxError env id message retryAfter) db).2
  | administer, db => db

theorem transaction_commits {α : Type} (body : Tx (Ending α)) (db : Database) :
    (transaction body db).2 = db ∨ ∃ a, body db = .ok (.commit a, (transaction body db).2) := by
  have hcases := transaction_eq (r := (transaction body db).1) (show transaction body db = _ from rfl)
  rcases hcases with heq | ⟨a, -, hbody⟩
  · exact .inl heq
  · exact .inr ⟨a, hbody⟩

theorem Operation.apply_commits (env : Env) (op : Operation) (db : Database) :
    op.apply env db = db ∨ op.Commits env db (op.apply env db) := by
  have hsession {α : Type} (program : Session (Ending α)) :
      (transaction (program.run env) db).2 = db ∨
        ∃ r, program.Ends env db (.commit r) (transaction (program.run env) db).2 := by
    rcases transaction_commits (program.run env) db with hsame | ⟨r, h⟩
    · exact .inl hsame
    · exact .inr ⟨r, Session.run_ends h⟩
  cases op with
  | admission sha256 policy req => exact hsession _
  | claim policy id leaseID lease => exact hsession _
  | release id reason =>
    by_cases h : (db.tasks.get? id).any fun t => t.status = .submissionUncertain
    · rw [Operation.apply, if_pos h]
      rcases transaction_commits (releaseReservationOnce env id reason) db with hsame | ⟨_, hrun⟩
      · exact .inl hsame
      · refine .inr ⟨?_, hrun⟩
        simpa [Option.any_eq_true] using h
    · rw [Operation.apply, if_neg h]
      exact .inl rfl
  | outboxError id message retryAfter =>
    rcases transaction_commits (recordOutboxError env id message retryAfter) db with hsame | ⟨r, h⟩
    · exact .inl hsame
    · exact .inr h
  | administer => exact .inl rfl
  | owned id leaseID call => exact transaction_commits _ db
  | recover => exact transaction_commits _ db
  | cancel id keyID => exact transaction_commits _ db
  | confirm id => exact transaction_commits _ db
  | dispatch locked limit => exact transaction_commits _ db

/-- The operations one after the other. -/
def StoreState.after (s : StoreState) : List Event → StoreState
  | [] => s
  | e :: es => StoreState.after ⟨e.op.apply e.env s.db, e.op.draws ++ s.leases⟩ es

/-- No lease id is drawn twice. -/
def StoreState.Fresh (s : StoreState) (es : List Event) : Prop :=
  (es.flatMap fun e => e.op.draws).Nodup ∧ ∀ leaseID ∈ es.flatMap fun e => e.op.draws,
    leaseID ∉ s.leases

instance (s : StoreState) (es : List Event) : Decidable (s.Fresh es) :=
  inferInstanceAs (Decidable (_ ∧ _))

theorem store_run_after {s : StoreState} {es : List Event} (h : s.Fresh es) :
    store.Run s es (s.after es) := by
  induction es generalizing s with
  | nil => rfl
  | cons e es ih =>
    obtain ⟨hnodup, hnew⟩ := h
    rw [List.flatMap_cons] at hnodup hnew
    obtain ⟨-, hrest, hdisjoint⟩ := List.nodup_append.mp hnodup
    refine ⟨_, ⟨?_, rfl, e.op.apply_commits e.env s.db⟩, ih ⟨hrest, ?_⟩⟩
    · intro leaseID hdraw
      exact hnew leaseID (List.mem_append_left _ hdraw)
    · intro leaseID hdraw hold
      rcases List.mem_append.mp hold with hnow | hold
      · exact hdisjoint leaseID hnow leaseID hdraw rfl
      · exact hnew leaseID (List.mem_append_right _ hdraw) hold

theorem store_reachable_after {s : StoreState} {es : List Event} (h : s.Fresh es) :
    store.Reachable s (s.after es) := ⟨es, store_run_after h⟩

theorem StoreStep.lives {s s' : StoreState} {e : Event} (h : StoreStep s e s') :
    Lives e.env.now e.op.call s.db s'.db := by
  rcases h.effect with heq | hcommit
  · rw [heq]
    exact .refl _ _ _
  · exact hcommit.lives

theorem Steps.invariant {now : Time} {call : Call} {P : Cell → Prop}
    (hP : ∀ c c', Transition now call c c' → P c → P c') {c c' : Cell} (h : Steps now call c c')
    (hc : P c) : P c' := by
  induction h with
  | refl => exact hc
  | tail _ hstep ih => exact hP _ _ hstep ih

/-- The invariant rule: what every transition preserves holds for every task. -/
theorem store_invariant {P : Cell → Prop} (hempty : P .empty)
    (hP : ∀ now call c c', Transition now call c c' → P c → P c') {accounts : Table Account}
    {apiKeys : Table APIKey} {costRules : Table CostRule} {capacity : SystemCapacityConfig}
    {s : StoreState} (h : store.Reachable (.initial accounts apiKeys costRules capacity) s)
    (k : UUID) : P (s.db.cell k) := by
  refine h.invariant (I := fun s => ∀ k, P (s.db.cell k)) ?_ (fun _ => hempty) k
  intro s e s' hstep hs k
  exact (hstep.lives k).invariant (hP _ _) (hs k)

/-! ### A small store -/

/-- An account with two execution slots, four queue places and 100 credits. -/
def smallAccount : Account where
  id := 1
  providerID := .leonardo
  status := .active
  generationPermissionStatus := .verified
  cooldownUntil := none
  accessTokenExpiresAt := some (hours 100)
  lastCheckedAt := some 0
  subscriptionTokens := 100
  rolloverTokens := 0
  paidTokens := 0
  imageConcurrency := 2
  queueCapacity := 4
  routingRole := .general
  protectedTokens := 0
  videoReservedSlots := 0
  proxyURL := ""
  lastError := ""
  lastSubmittedAt := none
  archivedAt := none
  imageConcurrency_pos := by decide
  queueCapacity_pos := by decide
  queueCapacity_le := by decide
  videoReservedSlots_le := by decide

def smallCapacity : SystemCapacityConfig where
  maxExecuting := 10
  maxQueued := 10
  queueHighWatermark := 3
  queueResumeWatermark := 1
  queueTimeoutSeconds := 3600
  maintenanceMode := false
  executionPaused := false
  overloadActive := false
  maxExecuting_bounds := by decide
  maxQueued_bounds := by decide
  queueHighWatermark_bounds := by decide
  queueResumeWatermark_lt := by decide
  queueTimeoutSeconds_bounds := by decide
  executionPaused_maintenance := by decide

def smallAccounts : Table Account := ⟨[smallAccount], by decide⟩

def smallKeys : Table APIKey := ⟨[⟨7, true, 5, none, none⟩], by decide⟩

/-- These accounts, one API key and one price rule. -/
def smallStore (accounts : Table Account) : StoreState :=
  .initial accounts smallKeys ⟨[⟨3, .leonardo, true, false⟩], by decide⟩ smallCapacity

def atTime (t : Time) : Env := ⟨t, t, [], []⟩

def smallRequest (id : UUID) (kind : Kind) (estimatedTokens : ℕ) : AdmissionRequest where
  id := id
  keyID := 7
  providerID := .leonardo
  kind := kind
  model := ""
  prompt := ""
  request := emptyObject
  hashRequest := emptyObject
  idempotencyKey := ""
  estimatedTokens := estimatedTokens
  pricingRuleID := 3
  lease := 0
  attempts := 3

def admitAt (t : Time) (req : AdmissionRequest) : Event :=
  ⟨atTime t, .admission id defaultSchedulingPolicy req⟩

def claimAt (t : Time) (id leaseID : UUID) : Event :=
  ⟨atTime t, .claim defaultSchedulingPolicy id leaseID 0⟩

/-- The task 20 from its admission to its result. -/
def smallLife : List Event :=
  [admitAt 0 (smallRequest 20 .image 5), claimAt 1 20 900,
    ⟨atTime 2, .owned 20 900 (.prepare 1 none (hours 1))⟩,
    ⟨atTime 3, .owned 20 900 (.recordSubmission 1 "g" none)⟩,
    ⟨atTime 4, .owned 20 900 (.complete 1 "" "r" none)⟩]

end GenerationGateway
