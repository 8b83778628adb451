import GenerationGateway.Store.Admission
import GenerationGateway.Store.Claim

/-!
# The discipline of claim and admission

Whatever the answers are, a claim leases a queued task only after it has read a
free slot of the account, and an admission or a reroute reserves only on the
account that it has locked and compared with its numbers. A phase keeps what was
read; the monitor lists the statements that depend on it.
-/

namespace GenerationGateway

open Effects

/-- What a claim or an admission has read so far. -/
inductive Phase
  | start
  | locked (task : Task)
  | estimated (task : Task) (estimatedTokens : ℕ)
  | loaded (task : Task) (accountID : UUID) (state : ClaimAccountState)
  | target (task : Task) (q : RoutingQuery) (accountID : UUID)
  | moved (task : Task) (q : RoutingQuery) (accountID : UUID)
  | reloaded (task : Task) (q : RoutingQuery) (accountID : UUID) (state : ClaimAccountState)
  | failing (task : Task)
  | resumed (task : Task)
  | leased (task : Task) (accountID : UUID)
  | movedLeased (task : Task) (q : RoutingQuery) (accountID : UUID)
  | candidate (q : RoutingQuery) (accountID : UUID)
  | counted (q : RoutingQuery) (accountID : UUID) (reservationCount reserved : ℕ)
  | limited (q : RoutingQuery) (accountID : UUID) (reservationCount reserved : ℕ)
    (limits : AccountLimits)
  | inserting (q : RoutingQuery) (accountID : UUID)
  | admitted (q : RoutingQuery) (accountID : UUID)

/-- The snapshot that `loadClaimAccount` returns leaves a slot free. -/
def ClaimAccountState.slotFree (s : ClaimAccountState) : Prop :=
  s.usage.activeTasks < s.account.imageConcurrency

/-- The task that the INSERT of an admission may write. -/
structure Task.FreshFor (t : Task) (q : RoutingQuery) (accountID : UUID) : Prop where
  queued : t.status = .queued
  unleased : t.executionLeaseID = none
  kind : t.kind = q.kind
  account : t.accountID = some accountID

/-- The reservation that the INSERT of an admission may write. -/
structure Reservation.FreshFor (r : Reservation) (q : RoutingQuery) (accountID : UUID) : Prop where
  held : r.settlement = none
  account : r.accountID = accountID
  estimate : r.estimatedTokens = q.estimatedTokens

/-- The statements that a phase allows, in a transaction about the task `id`. -/
def Phase.allows (id : UUID) (ph : Phase) : Statement → Prop
  | .lockTask k => ph = start ∧ k = id
  | .readEstimatedTokens k => ∃ task, ph = locked task ∧ k = task.id
  | .loadClaimAccount accountID lock =>
    (∃ task estimatedTokens, ph = estimated task estimatedTokens ∧
      (lock = true → task.accountID = some accountID)) ∨
    ∃ task q, ph = moved task q accountID ∧ lock = false
  | .chooseTarget q _ => ∃ task, ph = estimated task q.estimatedTokens ∧ q.kind = task.kind
  | .moveReservation k accountID => ∃ task q, ph = target task q accountID ∧ k = task.id
  | .failUnpriced k =>
    ∃ task estimatedTokens, ph = estimated task estimatedTokens ∧ k = task.id ∧
      task.status = .queued
  | .releaseUnpriced k => ∃ task, ph = failing task ∧ k = task.id
  | .claimLease k _ _ =>
    (∃ task, ph = locked task ∧ k = id ∧ task.status ≠ .queued) ∨
    (∃ task accountID state, ph = loaded task accountID state ∧ k = task.id ∧
      task.accountID = some accountID ∧ state.slotFree) ∨
    ∃ task q accountID state, ph = reloaded task q accountID state ∧ k = task.id ∧ state.slotFree
  | .chooseCandidate _ _ _ => ph = start
  | .reservedUsage accountID => ∃ q, ph = candidate q accountID
  | .accountLimits accountID =>
    ∃ q reservationCount reserved, ph = counted q accountID reservationCount reserved
  | .savepoint => ph = start
  | .rollbackToSavepoint =>
    ∃ q accountID reservationCount reserved limits,
      ph = limited q accountID reservationCount reserved limits
  | .insertTask row =>
    ∃ q accountID reservationCount reserved limits,
      ph = limited q accountID reservationCount reserved limits ∧
      limits.admits q.kind q.estimatedTokens reservationCount reserved = true ∧
      ∀ now, (row now).id = id ∧ (row now).FreshFor q accountID
  | .insertReservation r =>
    ∃ q accountID, ph = inserting q accountID ∧ r.taskID = id ∧ r.FreshFor q accountID
  | _ => True

/-- The phase after an answer. -/
def Phase.next (ph : Phase) : (op : Statement) → op.Res → Phase
  | .lockTask _, answer => answer.elim ph locked
  | .readEstimatedTokens _, estimatedTokens =>
    match ph with
    | locked task => estimated task estimatedTokens
    | _ => ph
  | .loadClaimAccount accountID lock, state =>
    match ph with
    | estimated task _ => if lock then loaded task accountID state else ph
    | moved task q _ => reloaded task q accountID state
    | _ => ph
  | .chooseTarget q _, answer =>
    match ph with
    | estimated task _ => answer.elim ph (target task q)
    | _ => ph
  | .moveReservation _ _, _ =>
    match ph with
    | target task q accountID => moved task q accountID
    | _ => ph
  | .failUnpriced _, _ =>
    match ph with
    | estimated task _ => failing task
    | _ => ph
  | .claimLease _ _ _, _ =>
    match ph with
    | locked task => resumed task
    | loaded task accountID _ => leased task accountID
    | reloaded task q accountID _ => movedLeased task q accountID
    | _ => ph
  | .chooseCandidate q _ _, answer => answer.elim ph (candidate q)
  | .reservedUsage _, (reservationCount, reserved) =>
    match ph with
    | candidate q accountID => counted q accountID reservationCount reserved
    | _ => ph
  | .accountLimits _, limits =>
    match ph with
    | counted q accountID reservationCount reserved =>
      limited q accountID reservationCount reserved limits
    | _ => ph
  | .rollbackToSavepoint, _ => start
  | .insertTask _, _ =>
    match ph with
    | limited q accountID _ _ _ => inserting q accountID
    | _ => ph
  | .insertReservation _, _ =>
    match ph with
    | inserting q accountID => admitted q accountID
    | _ => ph
  | _, _ => ph

def discipline (id : UUID) : Monitor sql Phase := ⟨Phase.allows id, Phase.next⟩

/-- Every path of the program from the phase keeps to the discipline. -/
abbrev Session.Disciplined {α : Type} (id : UUID) (p : Session α) (ph : Phase) : Prop :=
  p.Obeys (discipline id) ph fun _ _ => True

/-- A part of a program that leaves the phase alone. -/
abbrev Session.Keeps {α : Type} (id : UUID) (p : Session α) (ph : Phase) : Prop :=
  p.Obeys (discipline id) ph fun _ ph' => ph' = ph

/-- The statements that every phase allows and that leave the phase alone. -/
def Statement.neutral : Statement → Bool
  | .lockTask _ | .readEstimatedTokens _ | .loadClaimAccount _ _ | .chooseTarget _ _
  | .moveReservation _ _ | .failUnpriced _ | .releaseUnpriced _ | .claimLease _ _ _
  | .chooseCandidate _ _ _ | .reservedUsage _ | .accountLimits _ | .savepoint
  | .rollbackToSavepoint | .insertTask _ | .insertReservation _ => false
  | _ => true

section Rules

variable {α β : Type} {id : UUID} {ph : Phase} {Q : β → Phase → Prop}

theorem Statement.allows_of_neutral {op : Statement} (h : op.neutral = true) : ph.allows id op := by
  cases op <;> trivial

theorem Statement.next_of_neutral {op : Statement} (h : op.neutral = true) (r : op.Res) :
    ph.next op r = ph := by
  cases op <;> first | rfl | cases h

/-- The rule for a statement and what follows its answer. -/
theorem obeys_send {op : Statement} {f : op.Res → Session β} (hop : ph.allows id op)
    (hf : ∀ r, (f r).Obeys (discipline id) (ph.next op r) Q) :
    (send op >>= f).Obeys (discipline id) ph Q := ⟨hop, hf⟩

theorem obeys_neutral {op : Statement} {f : op.Res → Session β} (hop : op.neutral = true)
    (hf : ∀ r, (f r).Obeys (discipline id) ph Q) : (send op >>= f).Obeys (discipline id) ph Q := by
  refine obeys_send (Statement.allows_of_neutral hop) fun r => ?_
  rw [Statement.next_of_neutral hop]
  exact hf r

theorem keeps_send {op : Statement} (hop : op.neutral = true) : Session.Keeps id (send op) ph :=
  ⟨Statement.allows_of_neutral hop, Statement.next_of_neutral hop⟩

theorem obeys_fail (e : StoreError) : (fail e : Session β).Obeys (discipline id) ph Q :=
  ⟨trivial, nofun⟩

theorem Session.Keeps.bind {p : Session α} {f : α → Session β} (hp : Session.Keeps id p ph)
    (hf : ∀ a, (f a).Obeys (discipline id) ph Q) : (p >>= f).Obeys (discipline id) ph Q := by
  refine Prog.Obeys.bind hp fun a ph' hph => ?_
  rw [hph]
  exact hf a

end Rules

section Claim

variable {id : UUID} {ph : Phase}

theorem refuse_disciplined (task : Task) (reason : String) :
    Session.Disciplined id (refuse task reason) ph :=
  obeys_neutral rfl fun _ => obeys_neutral rfl fun _ => trivial

theorem wakeOwner_keeps (task : Task) : Session.Keeps id (wakeOwner task) ph := by
  unfold wakeOwner
  cases task.accountID with
  | none => exact rfl
  | some account => exact keeps_send rfl

theorem leaseTask_disciplined {k leaseID : UUID} {expiresAt : Time}
    (h : ph.allows id (.claimLease k leaseID expiresAt)) :
    Session.Disciplined id (leaseTask k leaseID expiresAt) ph := by
  refine obeys_send h fun x => ?_
  cases x with
  | none => trivial
  | some task =>
    refine obeys_neutral rfl fun _ => obeys_neutral rfl fun _ => ?_
    exact (wakeOwner_keeps task).bind fun _ => trivial

theorem keyAvailable_keeps (key : Option UUID) : Session.Keeps id (keyAvailable key) ph := by
  cases key with
  | none => exact rfl
  | some key =>
    refine obeys_neutral rfl fun limit => ?_
    split
    · exact obeys_neutral rfl fun _ => rfl
    · exact rfl

theorem lockSystemExecution_keeps : Session.Keeps id lockSystemExecution ph := by
  refine obeys_neutral rfl fun config => ?_
  split
  · exact rfl
  · refine obeys_neutral rfl fun executing => ?_
    split <;> exact rfl

theorem ClaimAccountState.slotFree_of_available {s : ClaimAccountState} {k : Kind} {b b' : Bool}
    (h : (s.slotAvailable k b b').1 = true) : s.slotFree := by
  simp only [ClaimAccountState.slotAvailable, Bool.and_eq_true, decide_eq_true_eq] at h
  exact h.1.1

/-- Once the account was read, only its free slot matters to the lease. -/
theorem claimOnAccount_disciplined {task : Task} {accountID leaseID : UUID} {expiresAt : Time}
    {state : ClaimAccountState}
    (h : state.slotFree → ph.allows id (.claimLease task.id leaseID expiresAt)) :
    Session.Disciplined id (claimOnAccount task accountID leaseID expiresAt state) ph := by
  refine obeys_neutral rfl fun wall => ?_
  split
  · exact refuse_disciplined task _
  refine obeys_neutral rfl fun queueOrder => ?_
  obtain ⟨earlierQueued, videoQueued⟩ := queueOrder
  dsimp only
  split
  · exact refuse_disciplined task _
  next havailable =>
    have hfree : state.slotFree := by
      apply ClaimAccountState.slotFree_of_available (k := task.kind)
      simpa using havailable
    refine (keyAvailable_keeps task.apiKeyID).bind fun keyFree => ?_
    split
    · exact refuse_disciplined task _
    refine lockSystemExecution_keeps.bind fun system => ?_
    obtain ⟨systemAvailable, systemReason⟩ := system
    dsimp only
    split
    · exact refuse_disciplined task _
    · exact leaseTask_disciplined (h hfree)

theorem failUnpricedTask_disciplined {task : Task} {accountID : UUID} {estimatedTokens : ℕ}
    (hq : task.status = .queued) :
    Session.Disciplined id (failUnpricedTask task accountID) (.estimated task estimatedTokens) := by
  refine obeys_send ⟨task, estimatedTokens, rfl, rfl, hq⟩ fun _ => ?_
  refine obeys_send ⟨task, rfl, rfl⟩ fun _ => ?_
  exact obeys_neutral rfl fun _ => obeys_neutral rfl fun _ => trivial

/-- A reroute ends with the task moved to the target, or with nothing done. -/
theorem rerouteQueuedTaskTx_obeys {policy : SchedulingPolicy} {task : Task} {old : UUID}
    {estimatedTokens : ℕ} :
    (rerouteQueuedTaskTx policy task old estimatedTokens).Obeys (discipline id)
      (.estimated task estimatedTokens) fun target ph => match target with
        | none => ph = .estimated task estimatedTokens
        | some accountID => ∃ q, ph = .moved task q accountID := by
  refine obeys_neutral rfl fun _ => obeys_neutral rfl fun _ => ?_
  refine obeys_send ⟨task, rfl, rfl⟩ fun target => ?_
  cases target with
  | none => exact rfl
  | some targetID =>
    refine obeys_send ⟨task, _, rfl, rfl⟩ fun _ => ?_
    exact ⟨_, rfl⟩

theorem claimQueued_disciplined {policy : SchedulingPolicy} {task : Task} {leaseID : UUID}
    {expiresAt : Time} (hq : task.status = .queued) :
    Session.Disciplined id (claimQueued policy task leaseID expiresAt) (.locked task) := by
  unfold claimQueued
  cases hacc : task.accountID with
  | none => exact obeys_fail _
  | some accountID =>
    refine obeys_send ⟨task, rfl, rfl⟩ fun estimatedTokens => ?_
    refine obeys_neutral rfl fun priced => ?_
    split
    · exact failUnpricedTask_disciplined hq
    refine obeys_send (.inl ⟨task, estimatedTokens, rfl, nofun⟩) fun preview => ?_
    refine obeys_neutral rfl fun wall => ?_
    split
    · refine obeys_send (.inl ⟨task, estimatedTokens, rfl, fun _ => hacc⟩) fun state => ?_
      exact claimOnAccount_disciplined fun hfree =>
        .inr (.inl ⟨task, accountID, state, rfl, rfl, hacc, hfree⟩)
    · refine Prog.Obeys.bind rerouteQueuedTaskTx_obeys fun target ph hph => ?_
      cases target with
      | none => exact refuse_disciplined task _
      | some targetID =>
        obtain ⟨q, rfl⟩ := hph
        refine obeys_send (.inr ⟨task, q, rfl, rfl⟩) fun state => ?_
        exact claimOnAccount_disciplined fun hfree =>
          .inr (.inr ⟨task, q, targetID, state, rfl, rfl, hfree⟩)

/-- A claim keeps to the discipline. -/
theorem claimTaskOnce_disciplined (policy : SchedulingPolicy) (id leaseID : UUID) (lease : Time) :
    Session.Disciplined id (claimTaskOnce policy id leaseID lease) .start := by
  refine obeys_neutral rfl fun wall => ?_
  refine obeys_send ⟨rfl, rfl⟩ fun x => ?_
  cases x with
  | none => trivial
  | some task =>
    dsimp only
    split
    · next hq => exact claimQueued_disciplined hq
    · next hq => exact leaseTask_disciplined (.inl ⟨task, rfl, rfl, hq⟩)

end Claim

section Admission

variable {id : UUID} {ph : Phase}

theorem pollCandidate_obeys (q : RoutingQuery) (excluded : List UUID) (attempts : ℕ) :
    (pollCandidate q excluded attempts).Obeys (discipline id) .start fun choice ph =>
      ph = choice.elim .start (.candidate q) := by
  induction attempts with
  | zero => exact rfl
  | succ attempts ih =>
    refine obeys_send rfl fun choice => ?_
    cases choice with
    | none => exact ih
    | some accountID => exact rfl

theorem nextCandidate_obeys (q : RoutingQuery) (excluded : List UUID) :
    (nextCandidate q excluded).Obeys (discipline id) .start fun choice ph =>
      ph = choice.elim .start (.candidate q) := by
  refine Prog.Obeys.bind (pollCandidate_obeys q excluded 10) fun choice ph hph => ?_
  cases choice with
  | none =>
    obtain rfl := hph
    exact ⟨rfl, fun _ => rfl⟩
  | some accountID => exact hph

/-- The account that the loop chooses was locked, counted and found large enough. -/
theorem selectAccount_obeys (q : RoutingQuery) (attempts : ℕ) (excluded : List UUID) :
    (selectAccount q attempts excluded).Obeys (discipline id) .start fun choice ph =>
      ∀ accountID, choice = some accountID → ∃ reservationCount reserved limits,
        ph = .limited q accountID reservationCount reserved limits ∧
        limits.admits q.kind q.estimatedTokens reservationCount reserved = true := by
  induction attempts generalizing excluded with
  | zero => exact obeys_fail _
  | succ attempts ih =>
    refine obeys_send rfl fun _ => ?_
    refine Prog.Obeys.bind (nextCandidate_obeys q excluded) fun choice ph hph => ?_
    cases choice with
    | none => exact obeys_neutral rfl fun _ => nofun
    | some accountID =>
      obtain rfl := hph
      refine obeys_send ⟨q, rfl⟩ fun usage => ?_
      obtain ⟨reservationCount, reserved⟩ := usage
      refine obeys_send ⟨q, reservationCount, reserved, rfl⟩ fun limits => ?_
      split
      · next hadmits =>
        refine obeys_neutral rfl fun _ => ?_
        rintro _ ⟨rfl⟩
        exact ⟨reservationCount, reserved, limits, rfl, hadmits⟩
      · refine obeys_send ⟨q, accountID, reservationCount, reserved, limits, rfl⟩ fun _ => ?_
        exact obeys_neutral rfl fun _ => ih _

theorem checkWatermarks_keeps (config : SystemCapacityConfig) (queued : ℕ) :
    Session.Keeps id (checkWatermarks config queued) ph := by
  unfold checkWatermarks
  split
  · exact obeys_neutral rfl fun _ => obeys_fail _
  split
  · exact obeys_neutral rfl fun _ => obeys_fail _
  · exact rfl

theorem lockSystemAdmission_keeps : Session.Keeps id lockSystemAdmission ph := by
  refine obeys_neutral rfl fun config => ?_
  split
  · exact obeys_fail _
  refine obeys_neutral rfl fun queued => ?_
  split
  · split
    · exact obeys_fail _
    · exact obeys_neutral rfl fun _ => checkWatermarks_keeps config queued
  · exact checkWatermarks_keeps config queued

theorem lockLimits_keeps (policy : SchedulingPolicy) (keyID : UUID) :
    Session.Keeps id (lockLimits policy keyID) ph := by
  refine obeys_neutral rfl fun limit => obeys_neutral rfl fun nonTerminal => ?_
  split
  · exact obeys_fail _
  · exact lockSystemAdmission_keeps

theorem diagnoseFailure_disciplined {α : Type} (q : RoutingQuery) :
    Session.Disciplined id (diagnoseFailure q : Session α) ph := by
  refine obeys_neutral rfl fun diagnosis => ?_
  obtain ⟨healthy, enoughBalance⟩ := diagnosis
  dsimp only
  split
  · exact obeys_fail _
  split <;> exact obeys_fail _

theorem insertAdmitted_disciplined {sha256 : String → String} {policy : SchedulingPolicy}
    {req : AdmissionRequest} {accountID : UUID} {reservationCount reserved : ℕ}
    {limits : AccountLimits} {config : SystemCapacityConfig}
    (hadmits : limits.admits req.kind req.estimatedTokens reservationCount reserved = true) :
    Session.Disciplined req.id (insertAdmitted sha256 req accountID config)
      (.limited (req.query policy) accountID reservationCount reserved limits) := by
  refine obeys_neutral rfl fun wall => ?_
  refine obeys_send ⟨_, accountID, reservationCount, reserved, limits, rfl, hadmits,
    fun now => ⟨rfl, rfl, rfl, rfl, rfl⟩⟩ fun task => ?_
  refine obeys_neutral rfl fun wall' => ?_
  refine obeys_send ⟨_, accountID, rfl, rfl, rfl, rfl, rfl⟩ fun _ => ?_
  exact obeys_neutral rfl fun _ => trivial

theorem admitNew_disciplined (sha256 : String → String) (policy : SchedulingPolicy)
    (req : AdmissionRequest) :
    Session.Disciplined req.id (admitNew sha256 policy req) .start := by
  refine obeys_neutral rfl fun uncertain => ?_
  split
  · exact obeys_fail _
  refine obeys_neutral rfl fun costRuleExists => ?_
  split
  · exact obeys_fail _
  refine Prog.Obeys.bind (selectAccount_obeys (req.query policy) _ _) fun choice ph hph => ?_
  cases choice with
  | none => exact diagnoseFailure_disciplined _
  | some accountID =>
    obtain ⟨reservationCount, reserved, limits, rfl, hadmits⟩ := hph accountID rfl
    refine (lockLimits_keeps policy req.keyID).bind fun config => ?_
    exact insertAdmitted_disciplined hadmits

/-- An admission keeps to the discipline. -/
theorem createReservedTaskForProviderOnce_disciplined (sha256 : String → String)
    (policy : SchedulingPolicy) (req : AdmissionRequest) :
    Session.Disciplined req.id (createReservedTaskForProviderOnce sha256 policy req) .start := by
  unfold createReservedTaskForProviderOnce
  split
  · exact admitNew_disciplined sha256 policy req
  refine obeys_neutral rfl fun _ => obeys_neutral rfl fun existing => ?_
  cases existing with
  | none => exact admitNew_disciplined sha256 policy req
  | some task =>
    dsimp only
    split
    · exact obeys_fail _
    · trivial

end Admission

end GenerationGateway
