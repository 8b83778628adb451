import GenerationGateway.Store.Stranded

/-!
# The row that an operation writes

The transitions say what may happen to a task; the holder of a lease can say more. Each
of its operations finds the row under its guard and leaves one exact row behind, and the
other rows of the tasks stay as they are. A claim that succeeds leaves the row that it
returns.
-/

namespace GenerationGateway

open Relational Effects

/-- The rows of the tasks are as before. -/
def Database.KeepsTasks (db db' : Database) : Prop := ∀ k, (db'.cell k).task = (db.cell k).task

namespace Database.KeepsTasks

variable {a b c : Database}

theorem refl (db : Database) : db.KeepsTasks db := fun _ => rfl

theorem trans (h : a.KeepsTasks b) (h' : b.KeepsTasks c) : a.KeepsTasks c :=
  fun k => (h' k).trans (h k)

theorem of_wakes {now : Time} (h : Wakes now a b) : a.KeepsTasks b := fun k => (h.cell k).task

theorem of_touches {id : UUID} {F : Cell → Cell} (h : Touches id F a b)
    (hF : ∀ c, (F c).task = c.task) : a.KeepsTasks b := by
  intro k
  by_cases hk : k = id
  · rw [hk, h.cell, hF]
  · rw [h.frame k hk]

end Database.KeepsTasks

/-- The update of `prepareTaskSubmissionWithDeadlineOwned`. -/
def submissionUpdate (accountID : UUID) (upstreamRequest : Option JSON) (upstreamDeadline : Time) :
    TaskUpdate where
  status := .submitted
  progress := 20
  accountID := some accountID
  generationID := ""
  result := none
  code := ""
  message := ""
  upstreamRequest := upstreamRequest
  upstreamDeadline := some upstreamDeadline

/-- The guard of an operation on the row, the lease apart. -/
def OwnedCall.accepts (db : Database) : OwnedCall → Task → Bool
  | renew _, t => t.status.executing
  | yield _, t => t.yieldable
  | update u _, t => t.updatable db u
  | prepare accountID request deadline, t =>
    t.updatable db (submissionUpdate accountID request deadline)
  | updateTokens _ _, t => t.status.executing
  | recordSubmission _ _ _, t => decide (t.status = .submitted)
  | recordUpstreamStatus _, t =>
    decide (t.generationID ≠ "") && (t.status = .submitted || t.status = .polling)
  | complete _ _ _ _, t => t.status = .submitted || t.status = .polling
  | fail _ _ _ _, t => decide (t.generationID = "") && !t.status.terminal
  | failSubmitted _ _ _, t =>
    decide (t.generationID ≠ "") && (t.status = .submitted || t.status = .polling)

/-- The row that an operation leaves. -/
def OwnedCall.row (env : Env) : OwnedCall → Task → Task
  | renew lease, t =>
    { t with executionLeaseExpiresAt := some (env.wall + if lease ≤ 0 then defaultLease else lease) }
  | yield _, t => t.yield
  | update u _, t => t.update env.now u
  | prepare accountID request deadline, t =>
    t.update env.now (submissionUpdate accountID request deadline)
  | updateTokens before after, t =>
    { t with
      tokensBefore := coalesce before t.tokensBefore
      tokensAfter := coalesce after t.tokensAfter }
  | recordSubmission accountID generationID cost, t =>
    { t with
      status := .submitted
      progress := 0
      accountID := some accountID
      generationID := generationID
      upstreamReportedCost := coalesce cost t.upstreamReportedCost }
  | recordUpstreamStatus known, t =>
    { t with
      lastUpstreamStatusAt := some env.now
      unknownStatusCount := if known then t.unknownStatusCount else t.unknownStatusCount + 1 }
  | complete accountID generationID result tokensAfter, t =>
    t.succeed env.now accountID generationID result tokensAfter
  | fail code message details tokensAfter, t =>
    { (t.fail env.now code message).clearLease with
      errorDetails := details.getD emptyObject
      tokensAfter := coalesce tokensAfter t.tokensAfter }
  | failSubmitted code message details, t =>
    { (t.fail env.now code message).clearLease with errorDetails := details.getD emptyObject }

/-- The row of the task `id` passes the guard and is rewritten; no other row of a task
changes. -/
structure OwnedCall.Wrote (call : OwnedCall) (env : Env) (id leaseID : UUID)
    (db db' : Database) (t : Task) : Prop where
  found : db.tasks.get? id = some t
  leasedTo : t.leasedTo leaseID env.now = true
  accepts : call.accepts db t = true
  row : db'.tasks.get? id = some (call.row env t)
  others : ∀ k, k ≠ id → db'.tasks.get? k = db.tasks.get? k

section Wrote

variable {env : Env} {id leaseID : UUID} {db db' : Database} {b : Bool}

/-- The common form of the operations: an update of the row, then work on other
tables. -/
theorem OwnedCall.wrote_of_onRow {call : OwnedCall} {guard : Task → Bool} {f : Task → Task}
    {hf : ∀ t, (f t).id = t.id} {rest : Task → Tx (Ending Bool)}
    (h : onRow (updateTask id guard f hf) rest db = .ok (.commit b, db'))
    (hguard : ∀ t, guard t = (t.leasedTo leaseID env.now && call.accepts db t))
    (hrow : ∀ t, f t = call.row env t)
    (hrest : ∀ t db₁, rest t db₁ = .ok (.commit b, db') → db₁.KeepsTasks db') :
    ∃ t, call.Wrote env id leaseID db db' t := by
  obtain ⟨t', db₁, h₁, h₂⟩ := onRow_commit h
  obtain ⟨t, ht, hg, rfl, htouch, -⟩ := updateTask_some h₁
  have hkeep := hrest _ _ h₂
  rw [hguard, Bool.and_eq_true] at hg
  refine ⟨t, ht, hg.1, hg.2, ?_, fun k hk => ?_⟩
  · have hwritten : (db'.cell id).task = ((db.cell id).mapTask f).task := by
      rw [hkeep, htouch.cell]
    simpa [Database.cell, Cell.mapTask, ht, hrow] using hwritten
  · have hframe : (db'.cell k).task = (db.cell k).task := by rw [hkeep, htouch.frame k hk]
    exact hframe

theorem keeps_of_pure {a : Ending Bool} {db db' : Database} {x : Ending Bool}
    (h : (pure a : Tx (Ending Bool)) db = .ok (x, db')) : db.KeepsTasks db' := by
  obtain ⟨-, rfl⟩ := pure_eq_ok.mp h
  exact .refl _

theorem keeps_of_extend {g : Time → Time} {x : Option Reservation}
    (h : extendReservation id g db = .ok (x, db')) : db.KeepsTasks db' :=
  .of_touches (extendReservation_ok h).1 fun _ => rfl

theorem keeps_of_deliver {u : Unit} (h : deliverOutbox env id db = .ok (u, db')) :
    db.KeepsTasks db' := .of_touches (deliverOutbox_ok h).1 fun _ => rfl

theorem keeps_of_release {reason : String} {x : Option Reservation}
    (h : releaseReservation env id reason db = .ok (x, db')) : db.KeepsTasks db' :=
  .of_touches (releaseReservation_ok h).1 fun c => Cell.settle_task _ _ _ c

theorem keeps_of_markSubmitted {u : TaskUpdate} {x : Unit}
    (h : markSubmitted env u db = .ok (x, db')) : db.KeepsTasks db' :=
  fun k => congrArg Cell.task (markSubmitted_cell h k)

theorem updateTaskOwned_wrote {u : TaskUpdate} (call : OwnedCall)
    (haccepts : ∀ t, call.accepts db t = Task.updatable db u t)
    (hrow : ∀ t, Task.update env.now u t = call.row env t)
    (h : updateTaskOwned env id leaseID u db = .ok (.commit b, db')) :
    ∃ t, call.Wrote env id leaseID db db' t := by
  obtain ⟨db₀, db₀', hget, h⟩ := bind_eq_ok.mp h
  obtain ⟨rfl, rfl⟩ := get_eq_ok.mp hget
  refine OwnedCall.wrote_of_onRow h (fun t => by rw [haccepts]) hrow fun t db₁ hrest => ?_
  obtain ⟨x, db₂, h₁, h₂⟩ := bind_eq_ok.mp hrest
  refine (keeps_of_markSubmitted h₁).trans ?_
  by_cases hterm : u.status.terminal = true
  · simp only [hterm, if_true] at h₂
    obtain ⟨y, db₃, h₃, h₄⟩ := bind_eq_ok.mp h₂
    obtain ⟨z, db₄, h₅, h₆⟩ := bind_eq_ok.mp h₄
    exact ((keeps_of_deliver h₃).trans (.of_wakes (wakeAccount_ok h₅))).trans (keeps_of_pure h₆)
  · simp only [hterm, Bool.false_eq_true, if_false] at h₂
    exact keeps_of_pure h₂

theorem OwnedCall.wrote {call : OwnedCall} (h : call.body env id leaseID db = .ok (.commit b, db')) :
    ∃ t, call.Wrote env id leaseID db db' t := by
  cases call with
  | renew lease =>
    refine wrote_of_onRow h (fun _ => rfl) (fun _ => rfl) fun t db₁ hrest => ?_
    obtain ⟨x, db₂, h₁, h₂⟩ := bind_eq_ok.mp hrest
    exact (keeps_of_extend h₁).trans (keeps_of_pure h₂)
  | yield retryAt =>
    refine wrote_of_onRow h (fun _ => rfl) (fun _ => rfl) fun t db₁ hrest => ?_
    obtain ⟨x, db₂, h₁, h₂⟩ := bind_eq_ok.mp hrest
    obtain ⟨y, db₃, h₃, h₄⟩ := bind_eq_ok.mp h₂
    obtain ⟨z, db₄, h₅, h₆⟩ := bind_eq_ok.mp h₄
    exact ((keeps_of_extend h₁).trans (.of_touches (upsertOutbox_ok h₃).1 fun _ => rfl)).trans
      ((Database.KeepsTasks.of_wakes (wakeAccount_ok h₅)).trans (keeps_of_pure h₆))
  | update u issued => exact updateTaskOwned_wrote _ (fun _ => rfl) (fun _ => rfl) h
  | prepare accountID request deadline =>
    exact updateTaskOwned_wrote _ (fun _ => rfl) (fun _ => rfl) h
  | updateTokens before after =>
    exact wrote_of_onRow h (fun _ => rfl) (fun _ => rfl) fun t db₁ hrest => keeps_of_pure hrest
  | recordSubmission accountID generationID cost =>
    simp only [body, recordTaskSubmissionOwned] at h
    split_ifs at h with hgen
    · cases h
    · exact wrote_of_onRow h (fun _ => rfl) (fun _ => rfl) fun t db₁ hrest => keeps_of_pure hrest
  | recordUpstreamStatus known =>
    exact wrote_of_onRow h (fun _ => by simp only [accepts, Bool.and_assoc]) (fun _ => rfl)
      fun t db₁ hrest => keeps_of_pure hrest
  | complete accountID generationID result tokensAfter =>
    refine wrote_of_onRow h (fun _ => rfl) (fun _ => rfl) fun t db₁ hrest => ?_
    obtain ⟨x, db₂, h₁, h₂⟩ := bind_eq_ok.mp hrest
    obtain ⟨y, db₃, h₃, h₄⟩ := bind_eq_ok.mp h₂
    obtain ⟨z, db₄, h₅, h₆⟩ := bind_eq_ok.mp h₄
    have hconsume : db₁.KeepsTasks db₂ :=
      .of_touches (consumeReservation_ok h₁) fun c => Cell.settle_task _ _ _ c
    exact (hconsume.trans (keeps_of_deliver h₃)).trans
      ((Database.KeepsTasks.of_wakes (wakeQueuedTasksTx_ok h₅)).trans (keeps_of_pure h₆))
  | fail code message details tokensAfter =>
    refine wrote_of_onRow h (fun _ => by simp only [accepts, Bool.and_assoc]) (fun _ => rfl)
      fun t db₁ hrest => ?_
    obtain ⟨x, db₂, h₁, h₂⟩ := bind_eq_ok.mp hrest
    obtain ⟨y, db₃, h₃, h₄⟩ := bind_eq_ok.mp h₂
    obtain ⟨z, db₄, h₅, h₆⟩ := bind_eq_ok.mp h₄
    exact ((keeps_of_release h₁).trans (keeps_of_deliver h₃)).trans
      ((Database.KeepsTasks.of_wakes (wakeAccount_ok h₅)).trans (keeps_of_pure h₆))
  | failSubmitted code message details =>
    refine wrote_of_onRow h (fun _ => by simp only [accepts, Bool.and_assoc]) (fun _ => rfl)
      fun t db₁ hrest => ?_
    obtain ⟨account, -, hrest⟩ := scanAccount_ok hrest
    obtain ⟨x, db₂, h₁, h₂⟩ := bind_eq_ok.mp hrest
    obtain ⟨y, db₃, h₃, h₄⟩ := bind_eq_ok.mp h₂
    obtain ⟨z, db₄, h₅, h₆⟩ := bind_eq_ok.mp h₄
    exact ((keeps_of_release h₁).trans (keeps_of_deliver h₃)).trans
      ((Database.KeepsTasks.of_wakes (wakeQueuedTasksTx_ok h₅)).trans (keeps_of_pure h₆))

end Wrote

section Claimed

variable {env : Env} {id leaseID : UUID} {expiresAt : Time} {db db' : Database} {r : ClaimResult}

/-- What a claim that succeeds returns: the row that it leaves, with its lease, new from
the queue or in flight. -/
structure ClaimResult.Claimed (r : ClaimResult) (id leaseID : UUID) (db' : Database) (t : Task) :
    Prop where
  result : r = ⟨some t, some leaseID, true⟩
  row : db'.tasks.get? id = some t
  lease : t.executionLeaseID = some leaseID
  status : t.status = .reserving ∨ t.inFlight = true

theorem refuse_claims {task : Task} {reason : String} (hclaimed : r.claimed = true)
    (h : Session.Ends env (refuse task reason) db (.commit r) db') : False := by
  obtain ⟨u, db₁, h₁, h₂⟩ := ends_bind.mp h
  obtain ⟨hr, -⟩ := ends_pure.mp h₂
  cases hr
  cases hclaimed

theorem failUnpricedTask_claims {task : Task} {accountID : UUID} (hclaimed : r.claimed = true)
    (h : Session.Ends env (failUnpricedTask task accountID) db (.commit r) db') : False := by
  obtain ⟨_, db₁, h₁, h₂⟩ := ends_bind.mp h
  obtain ⟨_, db₂, h₃, h₄⟩ := ends_bind.mp h₂
  obtain ⟨_, db₃, h₅, h₆⟩ := ends_bind.mp h₄
  obtain ⟨_, db₄, h₇, h₈⟩ := ends_bind.mp h₆
  obtain ⟨hr, -⟩ := ends_pure.mp h₈
  cases hr
  cases hclaimed

theorem leaseTask_claims (h : Session.Ends env (leaseTask id leaseID expiresAt) db (.commit r) db') :
    ∃ t, r.Claimed id leaseID db' t := by
  obtain ⟨x, db₁, h₁, h₂⟩ := ends_bind.mp h
  have hrun : updateTask id _ (Task.claim env.now leaseID expiresAt) (fun _ => rfl) db =
    .ok (x, db₁) := ends_own rfl h₁
  cases x with
  | none =>
    obtain ⟨hr, -⟩ := ends_pure.mp h₂
    cases hr
  | some t' =>
    obtain ⟨t, ht, hg, rfl, htouch, -⟩ := updateTask_some hrun
    obtain ⟨u, db₂, h₃, h₄⟩ := ends_bind.mp h₂
    obtain ⟨v, db₃, h₅, h₆⟩ := ends_bind.mp h₄
    obtain ⟨w, db₄, h₇, h₈⟩ := ends_bind.mp h₆
    obtain ⟨hr, rfl⟩ := ends_pure.mp h₈
    cases hr
    obtain ⟨y, db₂', h₃', hpure⟩ := bind_eq_ok.mp (ends_own rfl h₃)
    obtain ⟨-, rfl⟩ := pure_eq_ok.mp hpure
    have hdel : db₂.KeepsTasks db₃ :=
      .of_touches (deliverPendingOutbox_ok (ends_own rfl h₅)).1 fun _ => rfl
    have hkeep := ((keeps_of_extend h₃').trans hdel).trans (.of_wakes (wakeOwner_ends h₇))
    have hrow : (db'.cell id).task =
        ((db.cell id).mapTask (Task.claim env.now leaseID expiresAt)).task := by
      rw [hkeep, htouch.cell]
    refine ⟨_, rfl, by simpa [Database.cell, Cell.mapTask, ht] using hrow, rfl, ?_⟩
    simp only [Bool.and_eq_true, Bool.or_eq_true, decide_eq_true_eq] at hg
    rcases hg.1.2 with hqueued | hflight
    · exact .inl (by simp [Task.claim, hqueued])
    · have hstatus : t.status ≠ .queued := by
        rcases (Task.inFlight_iff.mp hflight).1 with h | h <;> simp [h]
      refine .inr (Task.inFlight_iff.mpr ?_)
      simpa [Task.claim, hstatus] using Task.inFlight_iff.mp hflight

theorem claimOnAccount_claims {task : Task} {accountID : UUID} {state : ClaimAccountState}
    (hclaimed : r.claimed = true)
    (h : Session.Ends env (claimOnAccount task accountID leaseID expiresAt state) db (.commit r) db') :
    ∃ t, r.Claimed task.id leaseID db' t := by
  obtain ⟨wall, db₁, h₁, h₂⟩ := ends_bind.mp h
  split at h₂
  · exact (refuse_claims hclaimed h₂).elim
  obtain ⟨⟨earlierQueued, videoQueued⟩, db₂, h₃, h₄⟩ := ends_bind.mp h₂
  dsimp only at h₄
  split at h₄
  · exact (refuse_claims hclaimed h₄).elim
  obtain ⟨keyFree, db₃, h₅, h₆⟩ := ends_bind.mp h₄
  split at h₆
  · exact (refuse_claims hclaimed h₆).elim
  obtain ⟨⟨systemAvailable, systemReason⟩, db₄, h₇, h₈⟩ := ends_bind.mp h₆
  dsimp only at h₈
  split at h₈
  · exact (refuse_claims hclaimed h₈).elim
  · exact leaseTask_claims h₈

theorem claimQueued_claims {policy : SchedulingPolicy} {task : Task} (hclaimed : r.claimed = true)
    (h : Session.Ends env (claimQueued policy task leaseID expiresAt) db (.commit r) db') :
    ∃ t, r.Claimed task.id leaseID db' t := by
  unfold claimQueued at h
  cases hacc : task.accountID with
  | none =>
    rw [hacc] at h
    exact absurd h not_ends_fail
  | some accountID =>
    simp only [hacc] at h
    obtain ⟨estimatedTokens, db₁, h₁, h₂⟩ := ends_bind.mp h
    obtain ⟨priced, db₂, h₃, h₄⟩ := ends_bind.mp h₂
    split at h₄
    · exact (failUnpricedTask_claims hclaimed h₄).elim
    obtain ⟨preview, db₃, h₅, h₆⟩ := ends_bind.mp h₄
    obtain ⟨wall, db₄, h₇, h₈⟩ := ends_bind.mp h₆
    split at h₈
    · obtain ⟨state, db₅, h₉, h₁₀⟩ := ends_bind.mp h₈
      exact claimOnAccount_claims hclaimed h₁₀
    · obtain ⟨target, db₅, h₉, h₁₀⟩ := ends_bind.mp h₈
      cases target with
      | none => exact (refuse_claims hclaimed h₁₀).elim
      | some targetID =>
        obtain ⟨state, db₆, h₁₁, h₁₂⟩ := ends_bind.mp h₁₀
        have hmoved : ∃ t, r.Claimed (task.moveTo targetID).id leaseID db' t :=
          claimOnAccount_claims hclaimed h₁₂
        exact hmoved

theorem claimTaskOnce_claims {policy : SchedulingPolicy} {lease : Time}
    (hclaimed : r.claimed = true)
    (h : Session.Ends env (claimTaskOnce policy id leaseID lease) db (.commit r) db') :
    ∃ t, r.Claimed id leaseID db' t := by
  obtain ⟨wall, db₁, h₁, h₂⟩ := ends_bind.mp h
  obtain ⟨x, db₂, h₃, h₄⟩ := ends_bind.mp h₂
  obtain ⟨-, hx⟩ := lockTask_ends h₃
  cases x with
  | none =>
    obtain ⟨hr, -⟩ := ends_pure.mp h₄
    cases hr
  | some task =>
    obtain rfl : task.id = id := Table.key_of_get? (hx task rfl).1
    dsimp only at h₄
    split at h₄
    · exact claimQueued_claims hclaimed h₄
    · exact leaseTask_claims h₄

end Claimed

end GenerationGateway
