import GenerationGateway.Store.Interleaving

/-!
# What a transaction has counted before it leases or inserts

Beside the discipline over the account, a second monitor keeps what a claim or an
admission has read about the API key and the system: the limit under the key's
lock, the counts taken after it, the capacity under its lock. A queued task is
leased only after counts below both limits, and a task is inserted only after a
count below the key's limit of open tasks.
-/

namespace GenerationGateway

open Relational Effects

/-- The answers about the API key and the system. A new lock of a key or of the
capacity, and a rollback to the savepoint, make the older answers void. -/
structure Reads where
  task : Option Task
  key : Option (UUID × ℤ)
  active : Option ℕ
  nonTerminal : Option ℕ
  config : Option SystemCapacityConfig
  executing : Option ℕ
  leased : Bool

namespace Reads

def start : Reads := ⟨none, none, none, none, none, none, false⟩

/-- The key of the task, if it has one, was locked and counted below its limit. -/
def KeyFree (x : Reads) (key : Option UUID) : Prop :=
  ∀ id, key = some id → ∃ limit, x.key = some (id, limit) ∧
    (0 < limit → ∃ active : ℕ, x.active = some active ∧ (active : ℤ) < limit)

/-- The capacity was locked, and the executing tasks are fewer. -/
def SystemFree (x : Reads) : Prop :=
  ∃ config executing, x.config = some config ∧ x.executing = some executing ∧
    executing < config.maxExecuting

/-- The key was locked, and its open tasks are fewer than it may have. -/
def KeyAdmits (x : Reads) (policy : SchedulingPolicy) (keyID : UUID) : Prop :=
  ∃ limit, ∃ nonTerminal : ℕ, x.key = some (keyID, limit) ∧ x.nonTerminal = some nonTerminal ∧
    (nonTerminal : ℤ) < keyConcurrency limit * (1 + policy.apiKeyQueueMultiplier)

/-- The statements that the counts depend on. -/
def allows (x : Reads) : Statement → Prop
  | .lockTask _ | .lockKeyConcurrency _ | .lockUsableKey _ | .lockCapacity
  | .rollbackToSavepoint => x.leased = false
  | .keyActive id | .keyNonTerminal id => x.leased = false ∧ ∃ limit, x.key = some (id, limit)
  | .executing => x.leased = false ∧ x.config ≠ none
  | .claimLease _ _ _ => ∃ task, x.task = some task ∧
    (task.status = .queued → x.KeyFree task.apiKeyID ∧ x.SystemFree)
  | _ => True

def next (x : Reads) : (op : Statement) → op.Res → Reads
  | .lockTask _, answer => (answer : Option Task).elim x fun task => { x with task := some task }
  | .lockKeyConcurrency id, limit | .lockUsableKey id, limit =>
    { x with key := some (id, limit), active := none, nonTerminal := none }
  | .keyActive _, active => { x with active := some active }
  | .keyNonTerminal _, nonTerminal => { x with nonTerminal := some nonTerminal }
  | .lockCapacity, config => { x with config := some config, executing := none }
  | .executing, executing => { x with executing := some executing }
  | .rollbackToSavepoint, _ =>
    { x with key := none, active := none, nonTerminal := none, config := none, executing := none }
  | .claimLease _ _ _, _ => { x with leased := true }
  | _, _ => x

end Reads

def readsMonitor : Monitor sql Reads := ⟨Reads.allows, Reads.next⟩

/-- The statements that the monitor passes over. -/
def Statement.unread : Statement → Bool
  | .lockTask _ | .lockKeyConcurrency _ | .lockUsableKey _ | .lockCapacity | .rollbackToSavepoint
  | .keyActive _ | .keyNonTerminal _ | .executing | .claimLease _ _ _ => false
  | _ => true

section Rules

variable {α β : Type} {x : Reads} {Q : β → Reads → Prop}

theorem Reads.allows_of_unread {op : Statement} (h : op.unread = true) : x.allows op := by
  cases op <;> trivial

theorem Reads.next_of_unread {op : Statement} (h : op.unread = true) (r : op.Res) :
    x.next op r = x := by
  cases op <;> first | rfl | cases h

theorem reads_send {op : Statement} {f : op.Res → Session β} (hop : x.allows op)
    (hf : ∀ r, (f r).Obeys readsMonitor (x.next op r) Q) :
    (send op >>= f).Obeys readsMonitor x Q := ⟨hop, hf⟩

theorem reads_unread {op : Statement} {f : op.Res → Session β} (hop : op.unread = true)
    (hf : ∀ r, (f r).Obeys readsMonitor x Q) : (send op >>= f).Obeys readsMonitor x Q := by
  refine reads_send (Reads.allows_of_unread hop) fun r => ?_
  rw [Reads.next_of_unread hop]
  exact hf r

theorem reads_last {op : Statement} {Q : op.Res → Reads → Prop} (hop : op.unread = true)
    (hQ : ∀ r, Q r x) : (send op).Obeys readsMonitor x Q := by
  refine ⟨Reads.allows_of_unread hop, fun r => ?_⟩
  exact (congrArg (Q r) (Reads.next_of_unread hop r)).mpr (hQ r)

theorem reads_fail (e : StoreError) : (fail e : Session β).Obeys readsMonitor x Q :=
  ⟨trivial, nofun⟩

end Rules

section Claim

variable {x : Reads}

theorem refuse_reads (task : Task) (reason : String) :
    (refuse task reason).Obeys readsMonitor x fun _ _ => True :=
  reads_unread rfl fun _ => reads_unread rfl fun _ => trivial

theorem wakeOwner_reads (task : Task) :
    (wakeOwner task).Obeys readsMonitor x fun _ x' => x' = x := by
  unfold wakeOwner
  cases task.accountID with
  | none => exact rfl
  | some account => exact reads_last rfl fun _ => rfl

theorem leaseTask_reads {id leaseID : UUID} {expiresAt : Time}
    (h : x.allows (.claimLease id leaseID expiresAt)) :
    (leaseTask id leaseID expiresAt).Obeys readsMonitor x fun _ _ => True := by
  refine reads_send h fun answer => ?_
  cases answer with
  | none => trivial
  | some task =>
    refine reads_unread rfl fun _ => reads_unread rfl fun _ => ?_
    exact Prog.Obeys.bind (wakeOwner_reads task) fun _ _ _ => trivial

theorem keyAvailable_reads (hx : x.leased = false) (key : Option UUID) :
    (keyAvailable key).Obeys readsMonitor x fun available x' =>
      x'.task = x.task ∧ x'.leased = false ∧ (available = true → x'.KeyFree key) := by
  cases key with
  | none => exact ⟨rfl, hx, fun _ => nofun⟩
  | some id =>
    refine reads_send hx fun (limit : ℤ) => ?_
    split
    · refine reads_send ⟨hx, limit, rfl⟩ fun (active : ℕ) => ⟨rfl, hx, fun hfree => ?_⟩
      rintro _ ⟨rfl⟩
      exact ⟨limit, rfl, fun _ => ⟨active, rfl, of_decide_eq_true hfree⟩⟩
    · next hlimit =>
      refine ⟨rfl, hx, fun _ => ?_⟩
      rintro _ ⟨rfl⟩
      exact ⟨limit, rfl, fun hpos => absurd hpos hlimit⟩

theorem lockSystemExecution_reads (hx : x.leased = false) :
    lockSystemExecution.Obeys readsMonitor x fun available x' =>
      x'.task = x.task ∧ (∀ key, x.KeyFree key → x'.KeyFree key) ∧
        (available.1 = true → x'.SystemFree) := by
  refine reads_send hx fun config => ?_
  split
  · exact ⟨rfl, fun _ h => h, nofun⟩
  · refine reads_send ⟨hx, nofun⟩ fun executing => ?_
    split
    · exact ⟨rfl, fun _ h => h, nofun⟩
    · next hfree => exact ⟨rfl, fun _ h => h, fun _ => ⟨config, executing, rfl, rfl, not_le.mp hfree⟩⟩

/-- The lease of a queued task comes after both counts. -/
theorem claimOnAccount_reads {task locked : Task} {accountID leaseID : UUID} {expiresAt : Time}
    {state : ClaimAccountState} (hx : x.leased = false) (hlocked : x.task = some locked)
    (hkey : task.apiKeyID = locked.apiKeyID) :
    (claimOnAccount task accountID leaseID expiresAt state).Obeys readsMonitor x
      fun _ _ => True := by
  refine reads_unread rfl fun wall => ?_
  split
  · exact refuse_reads task _
  refine reads_unread rfl fun queueOrder => ?_
  obtain ⟨earlierQueued, videoQueued⟩ := queueOrder
  dsimp only
  split
  · exact refuse_reads task _
  refine Prog.Obeys.bind (keyAvailable_reads hx task.apiKeyID) fun keyFree x₁ h₁ => ?_
  obtain ⟨htask₁, hx₁, hfree₁⟩ := h₁
  split
  · exact refuse_reads task _
  next hkeyFree =>
  refine Prog.Obeys.bind (lockSystemExecution_reads hx₁) fun system x₂ h₂ => ?_
  obtain ⟨systemAvailable, systemReason⟩ := system
  obtain ⟨htask₂, hkeep, hfree₂⟩ := h₂
  dsimp only
  split
  · exact refuse_reads task _
  next hsystem =>
  have hkeyed := hkeep _ (hfree₁ (by simpa using hkeyFree))
  refine leaseTask_reads ⟨locked, htask₂.trans (htask₁.trans hlocked), fun _ => ⟨?_, ?_⟩⟩
  · rwa [← hkey]
  · exact hfree₂ (by simpa using hsystem)

theorem rerouteQueuedTaskTx_reads {policy : SchedulingPolicy} {task : Task} {old : UUID}
    {estimatedTokens : ℕ} :
    (rerouteQueuedTaskTx policy task old estimatedTokens).Obeys readsMonitor x
      fun _ x' => x' = x := by
  refine reads_unread rfl fun _ => reads_unread rfl fun _ => reads_unread rfl fun target => ?_
  cases target with
  | none => exact rfl
  | some targetID => exact reads_unread rfl fun _ => rfl

theorem claimQueued_reads {policy : SchedulingPolicy} {task : Task} {leaseID : UUID}
    {expiresAt : Time} (hx : x.leased = false) (htask : x.task = some task) :
    (claimQueued policy task leaseID expiresAt).Obeys readsMonitor x fun _ _ => True := by
  unfold claimQueued
  cases task.accountID with
  | none => exact reads_fail _
  | some accountID =>
    refine reads_unread rfl fun estimatedTokens => reads_unread rfl fun priced => ?_
    split
    · exact reads_unread rfl fun _ => reads_unread rfl fun _ => reads_unread rfl fun _ =>
        reads_unread rfl fun _ => trivial
    refine reads_unread rfl fun preview => reads_unread rfl fun wall => ?_
    split
    · exact reads_unread rfl fun state => claimOnAccount_reads hx htask rfl
    · refine Prog.Obeys.bind rerouteQueuedTaskTx_reads fun target x' hx' => ?_
      cases hx'
      cases target with
      | none => exact refuse_reads task _
      | some targetID => exact reads_unread rfl fun state => claimOnAccount_reads hx htask rfl

theorem claimTaskOnce_reads (policy : SchedulingPolicy) (id leaseID : UUID) (lease : Time) :
    (claimTaskOnce policy id leaseID lease).Obeys readsMonitor .start fun _ _ => True := by
  refine reads_unread rfl fun wall => reads_send rfl fun answer => ?_
  cases answer with
  | none => trivial
  | some task =>
    dsimp only
    split
    · exact claimQueued_reads rfl rfl
    · next hq => exact leaseTask_reads ⟨task, rfl, fun h => absurd h hq⟩

end Claim

section Admission

theorem pollCandidate_reads {x : Reads} (q : RoutingQuery) (excluded : List UUID) (attempts : ℕ) :
    (pollCandidate q excluded attempts).Obeys readsMonitor x fun _ x' => x' = x := by
  induction attempts with
  | zero => exact rfl
  | succ attempts ih =>
    refine reads_unread rfl fun choice => ?_
    cases choice with
    | none => exact ih
    | some accountID => exact rfl

theorem selectAccount_reads (q : RoutingQuery) (attempts : ℕ) (excluded : List UUID) :
    (selectAccount q attempts excluded).Obeys readsMonitor .start fun _ x' => x' = .start := by
  induction attempts generalizing excluded with
  | zero => exact reads_fail _
  | succ attempts ih =>
    refine reads_unread rfl fun _ => ?_
    have hnext : (nextCandidate q excluded).Obeys readsMonitor .start fun _ x' => x' = .start := by
      refine Prog.Obeys.bind (pollCandidate_reads q excluded 10) fun choice x' hx' => ?_
      cases hx'
      cases choice with
      | none => exact reads_last rfl fun _ => rfl
      | some accountID => exact rfl
    refine Prog.Obeys.bind hnext fun choice x' hx' => ?_
    cases hx'
    cases choice with
    | none => exact reads_unread rfl fun _ => rfl
    | some accountID =>
      refine reads_unread rfl fun usage => ?_
      obtain ⟨reservationCount, reserved⟩ := usage
      refine reads_unread rfl fun limits => ?_
      split
      · exact reads_unread rfl fun _ => rfl
      · exact reads_send rfl fun _ => reads_unread rfl fun _ => ih _

theorem checkWatermarks_reads {x : Reads} (config : SystemCapacityConfig) (queued : ℕ) :
    (checkWatermarks config queued).Obeys readsMonitor x fun _ x' => x' = x := by
  unfold checkWatermarks
  split
  · exact reads_unread rfl fun _ => reads_fail _
  split
  · exact reads_unread rfl fun _ => reads_fail _
  · exact rfl

theorem lockSystemAdmission_reads {x : Reads} (hx : x.leased = false) :
    lockSystemAdmission.Obeys readsMonitor x fun _ x' =>
      x'.key = x.key ∧ x'.nonTerminal = x.nonTerminal := by
  refine reads_send hx fun config => ?_
  split
  · exact reads_fail _
  refine reads_unread rfl fun queued => ?_
  have hwatermarks : (checkWatermarks config queued).Obeys readsMonitor
      (x.next .lockCapacity config) fun _ x' => x'.key = x.key ∧ x'.nonTerminal = x.nonTerminal :=
    (checkWatermarks_reads config queued).mono (by rintro _ _ rfl; exact ⟨rfl, rfl⟩)
  split
  · split
    · exact reads_fail _
    · exact reads_unread rfl fun _ => hwatermarks
  · exact hwatermarks

theorem lockLimits_reads (policy : SchedulingPolicy) (keyID : UUID) :
    (lockLimits policy keyID).Obeys readsMonitor .start fun _ x' => x'.KeyAdmits policy keyID := by
  refine reads_send rfl fun limit => reads_send ⟨rfl, limit, rfl⟩ fun nonTerminal => ?_
  split
  · exact reads_fail _
  · next hlimit =>
    refine (lockSystemAdmission_reads rfl).mono fun _ x' hx' => ?_
    exact ⟨limit, nonTerminal, hx'.1, hx'.2, not_le.mp hlimit⟩

/-- A new task comes after the count of the key's open tasks. -/
def AdmissionRequest.Counted (policy : SchedulingPolicy) (req : AdmissionRequest) :
    Ending (Task × Bool) → Reads → Prop
  | .commit (_, true), x => x.KeyAdmits policy req.keyID
  | _, _ => True

theorem admitNew_reads (sha256 : String → String) (policy : SchedulingPolicy)
    (req : AdmissionRequest) :
    (admitNew sha256 policy req).Obeys readsMonitor .start (req.Counted policy) := by
  refine reads_unread rfl fun uncertain => ?_
  split
  · exact reads_fail _
  refine reads_unread rfl fun costRuleExists => ?_
  split
  · exact reads_fail _
  refine Prog.Obeys.bind (selectAccount_reads (req.query policy) _ _) fun choice x hx => ?_
  cases hx
  cases choice with
  | none =>
    refine reads_unread rfl fun diagnosis => ?_
    obtain ⟨healthy, enoughBalance⟩ := diagnosis
    dsimp only
    split
    · exact reads_fail _
    split <;> exact reads_fail _
  | some accountID =>
    refine Prog.Obeys.bind (lockLimits_reads policy req.keyID) fun config x hx => ?_
    exact reads_unread rfl fun _ => reads_unread rfl fun _ => reads_unread rfl fun _ =>
      reads_unread rfl fun _ => reads_unread rfl fun _ => hx

theorem createReservedTaskForProviderOnce_reads (sha256 : String → String)
    (policy : SchedulingPolicy) (req : AdmissionRequest) :
    (createReservedTaskForProviderOnce sha256 policy req).Obeys readsMonitor .start
      (req.Counted policy) := by
  unfold createReservedTaskForProviderOnce
  split
  · exact admitNew_reads sha256 policy req
  refine reads_unread rfl fun _ => reads_unread rfl fun existing => ?_
  cases existing with
  | none => exact admitNew_reads sha256 policy req
  | some task =>
    dsimp only
    split
    · exact reads_fail _
    · trivial

end Admission

/-- What the reads allow a transaction to commit. -/
def Job.Counted : Job → Ending Reply → Reads → Prop
  | .admission _ policy req, .commit (.admission _ true), x => x.KeyAdmits policy req.keyID
  | _, _, _ => True

/-- The reads of claim and admission. -/
def Watch.reads : Watch Reads where
  monitor _ := readsMonitor
  start := .start
  final := Job.Counted
  obeyed job := by
    cases job with
    | admission sha256 policy req =>
      refine Prog.Obeys.bind (createReservedTaskForProviderOnce_reads sha256 policy req) ?_
      intro ending x hx
      rcases ending with ⟨task, created⟩ | ⟨task, created⟩
      · cases created with
        | false => trivial
        | true => exact hx
      · trivial
    | claim policy id leaseID lease =>
      refine Prog.Obeys.bind (claimTaskOnce_reads policy id leaseID lease) ?_
      intro ending x _
      cases ending <;> trivial

end GenerationGateway
