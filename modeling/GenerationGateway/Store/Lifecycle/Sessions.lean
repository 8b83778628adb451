import GenerationGateway.Store.Lifecycle.Transition
import GenerationGateway.Store.Admission
import GenerationGateway.Store.Claim

/-!
# Transitions made by claim and admission

Beside other transactions, what a claim or an admission reads of shared rows may
be of any age. It is only the rows of its own task that nobody else writes from
the lock to the commit. So the committed effect is studied with arbitrary
answers to every shared read, which covers each interleaving; running alone is
one of them.
-/

namespace GenerationGateway

open Relational Effects

/-- The statements that write, or lock the transaction's own task. -/
def Statement.own : Statement → Bool
  | .raise _ | .lockTask _ | .failUnpriced _ | .releaseUnpriced _
  | .deliver _ | .deliverPending _ | .wake _ _ | .deferQueued _ _ _ | .moveReservation _ _
  | .claimLease _ _ _ | .extendClaimed _ _ | .setOverload _ | .insertTask _
  | .insertReservation _ | .insertOutbox _ _ => true
  | _ => false

/-- A statement beside other transactions: a shared read may return anything. -/
def looseStep (env : Env) (op : Statement) (db : Database) (r : op.Res) (db' : Database) : Prop :=
  if op.own then op.run env db = .ok (r, db') else db' = db

/-- The transaction can end with `e`, its own writes leading from `db` to `db'`. -/
def Session.Ends {α : Type} (env : Env) (p : Session α) (db : Database) (e : α)
    (db' : Database) : Prop :=
  p.Runs (S := sql) (looseStep env) db e db'

section Ends

variable {α β : Type} {env : Env} {db db' : Database}

theorem ends_bind {p : Session α} {f : α → Session β} {b : β} :
    Session.Ends env (p >>= f) db b db' ↔
      ∃ a db₁, Session.Ends env p db a db₁ ∧ Session.Ends env (f a) db₁ b db' :=
  Prog.runs_bind _

theorem ends_pure {a b : α} :
    Session.Ends env (pure a : Session α) db b db' ↔ b = a ∧ db' = db := Iff.rfl

theorem ends_send {op : Statement} {r : op.Res} :
    Session.Ends env (send op) db r db' ↔ looseStep env op db r db' := by
  constructor
  · rintro ⟨r', db₁, hstep, rfl, rfl⟩
    exact hstep
  · intro hstep
    exact ⟨r, db', hstep, rfl, rfl⟩

theorem ends_own {op : Statement} {r : op.Res} (hown : op.own = true)
    (h : Session.Ends env (send op) db r db') : op.run env db = .ok (r, db') := by
  have hstep := ends_send.mp h
  rwa [looseStep, if_pos hown] at hstep

theorem ends_shared {op : Statement} {r : op.Res} (hown : op.own = false)
    (h : Session.Ends env (send op) db r db') : db' = db := by
  have hstep := ends_send.mp h
  rwa [looseStep, if_neg (by simp [hown])] at hstep

theorem not_ends_fail {e : StoreError} {b : α} :
    ¬ Session.Ends env (fail e : Session α) db b db' := by
  rintro ⟨r, -⟩
  exact nomatch r

/-- A statement that is not about rows of its own transaction is a read. -/
theorem Statement.run_shared {op : Statement} {r : op.Res} (hown : op.own = false)
    (h : op.run env db = .ok (r, db')) : db' = db := by
  simp only [Statement.run] at h
  cases op <;> simp only [Statement.execute] at h <;>
    first
    | exact (answer_ok h).2
    | exact (pure_eq_ok.mp h).2
    | cases hown

/-- A transaction that runs alone is one of the interleavings. -/
theorem Session.run_ends {p : Session α} {a : α} (h : p.run env db = .ok (a, db')) :
    Session.Ends env p db a db' := by
  induction p generalizing db with
  | ret b => exact pure_eq_ok.mp h
  | call op k ih =>
    obtain ⟨r, db₁, hop, hk⟩ := bind_eq_ok.mp h
    have hstep : looseStep env op db r db₁ := by
      unfold looseStep
      split
      · exact hop
      · next hown => exact Statement.run_shared (by simpa using hown) hop
    exact ⟨r, db₁, hstep, ih r hk⟩

end Ends

section Claim

variable {env : Env} {db db' : Database} {id leaseID : UUID} {expiresAt : Time}
variable {result : Ending ClaimResult}

def QueuedIn (db : Database) (id : UUID) : Prop :=
  ∃ t, db.tasks.get? id = some t ∧ t.status = .queued

theorem deferQueuedTaskTx_ends {reason : String} {delay : Time} {u : Unit}
    (h : Session.Ends env (deferQueuedTaskTx id reason delay) db u db') :
    ∃ f, (∀ o, (f o).deliveredAt = none) ∧ Touches id (Cell.mapOutbox f) db db' := by
  obtain ⟨wall, db₁, h₁, h₂⟩ := ends_bind.mp h
  obtain rfl := ends_shared rfl h₁
  exact ⟨_, fun _ => rfl, (deferOutbox_ok (ends_own rfl h₂)).1⟩

theorem refuse_lives {call : Call} {task : Task} {reason : String} (hq : QueuedIn db task.id)
    (h : Session.Ends env (refuse task reason) db result db') : Lives env.now call db db' := by
  obtain ⟨u, db₁, h₁, h₂⟩ := ends_bind.mp h
  obtain ⟨-, rfl⟩ := ends_pure.mp h₂
  obtain ⟨f, hf, htouch⟩ := deferQueuedTaskTx_ends h₁
  obtain ⟨t, ht, hstatus⟩ := hq
  exact .of_touches htouch (.single (.redispatch ht hstatus hf))

theorem Task.claim_leased (now : Time) (t : Task) :
    (t.claim now leaseID expiresAt).leased = true := rfl

theorem Task.claim_status_ne (now : Time) (t : Task) :
    (t.claim now leaseID expiresAt).status ≠ .queued := by
  by_cases h : t.status = .queued <;> simp [Task.claim, h]

theorem wakeOwner_ends {task : Task} {u : Unit}
    (h : Session.Ends env (wakeOwner task) db u db') : Wakes env.now db db' := by
  unfold wakeOwner at h
  cases hacc : task.accountID with
  | none =>
    rw [hacc] at h
    obtain ⟨-, rfl⟩ := ends_pure.mp h
    exact .refl _ _
  | some account =>
    rw [hacc] at h
    exact wakeQueuedTasksTx_ok (ends_own rfl h)

theorem leaseTask_lives (h : Session.Ends env (leaseTask id leaseID expiresAt) db result db') :
    Lives env.now (.claim id leaseID) db db' := by
  obtain ⟨x, db₁, h₁, h₂⟩ := ends_bind.mp h
  have hrun : updateTask id _ (Task.claim env.now leaseID expiresAt) (fun _ => rfl) db =
    .ok (x, db₁) := ends_own rfl h₁
  cases x with
  | none =>
    obtain ⟨-, rfl⟩ := ends_pure.mp h₂
    rw [updateTask_none hrun]
    exact .refl _ _ _
  | some t' =>
    obtain ⟨t, ht, hg, rfl, htouch, -⟩ := updateTask_some hrun
    obtain rfl : t.id = id := Table.key_of_get? ht
    obtain ⟨u, db₂, h₃, h₄⟩ := ends_bind.mp h₂
    obtain ⟨v, db₃, h₅, h₆⟩ := ends_bind.mp h₄
    obtain ⟨y, db₂', h₃', hpure⟩ := bind_eq_ok.mp (ends_own rfl h₃)
    obtain ⟨-, rfl⟩ := pure_eq_ok.mp hpure
    have hext := (extendReservation_ok h₃').1
    have hdel := (deliverPendingOutbox_ok (ends_own rfl h₅)).1
    simp only [Bool.and_eq_true, Bool.or_eq_true, decide_eq_true_eq] at hg
    have hclaim : Lives env.now (.claim t.id leaseID) db db₂ :=
      .of_touches (htouch.trans hext) (.single (.claim leaseID expiresAt _ rfl ht hg.1.2 hg.2))
    have htask : (db₂.cell t.id).task = some (t.claim env.now leaseID expiresAt) := by
      rw [(htouch.trans hext).cell]
      simp [Cell.extend, Cell.mapTask, Database.cell, ht]
    have hdeliver : Lives env.now (.claim t.id leaseID) db₂ db₃ :=
      .of_touches hdel (.single (.deliver htask (.inl rfl) (Task.claim_status_ne _ _)))
    obtain ⟨w, db₄, h₇, h₈⟩ := ends_bind.mp h₆
    obtain ⟨-, rfl⟩ := ends_pure.mp h₈
    exact (hclaim.trans hdeliver).trans (.of_wakes (wakeOwner_ends h₇))

theorem keyAvailable_ends {key : Option UUID} {b : Bool}
    (h : Session.Ends env (keyAvailable key) db b db') : db' = db := by
  cases key with
  | none => exact (ends_pure.mp h).2
  | some key =>
    obtain ⟨limit, db₁, h₁, h₂⟩ := ends_bind.mp h
    obtain rfl := ends_shared rfl h₁
    split at h₂
    · obtain ⟨active, db₂, h₃, h₄⟩ := ends_bind.mp h₂
      obtain rfl := ends_shared rfl h₃
      exact (ends_pure.mp h₄).2
    · exact (ends_pure.mp h₂).2

theorem lockSystemExecution_ends {r : Bool × String}
    (h : Session.Ends env lockSystemExecution db r db') : db' = db := by
  obtain ⟨config, db₁, h₁, h₂⟩ := ends_bind.mp h
  obtain rfl := ends_shared rfl h₁
  split at h₂
  · exact (ends_pure.mp h₂).2
  · obtain ⟨executing, db₂, h₃, h₄⟩ := ends_bind.mp h₂
    obtain rfl := ends_shared rfl h₃
    split at h₄ <;> exact (ends_pure.mp h₄).2

theorem claimOnAccount_lives {task : Task} {accountID : UUID} {state : ClaimAccountState}
    (hq : QueuedIn db task.id)
    (h : Session.Ends env (claimOnAccount task accountID leaseID expiresAt state) db result db') :
    Lives env.now (.claim task.id leaseID) db db' := by
  obtain ⟨wall, db₁, h₁, h₂⟩ := ends_bind.mp h
  obtain rfl := ends_shared rfl h₁
  split at h₂
  · exact refuse_lives hq h₂
  obtain ⟨⟨earlierQueued, videoQueued⟩, db₂, h₃, h₄⟩ := ends_bind.mp h₂
  obtain rfl := ends_shared rfl h₃
  dsimp only at h₄
  split at h₄
  · exact refuse_lives hq h₄
  obtain ⟨keyFree, db₃, h₅, h₆⟩ := ends_bind.mp h₄
  obtain rfl := keyAvailable_ends h₅
  split at h₆
  · exact refuse_lives hq h₆
  obtain ⟨⟨systemAvailable, systemReason⟩, db₄, h₇, h₈⟩ := ends_bind.mp h₆
  obtain rfl := lockSystemExecution_ends h₇
  dsimp only at h₈
  split at h₈
  · exact refuse_lives hq h₈
  · exact leaseTask_lives h₈

theorem failUnpricedTask_lives {call : Call} {task : Task} {accountID : UUID}
    (hq : QueuedIn db task.id)
    (h : Session.Ends env (failUnpricedTask task accountID) db result db') :
    Lives env.now call db db' := by
  obtain ⟨t, ht, hstatus⟩ := hq
  obtain ⟨_, db₁, h₁, h₂⟩ := ends_bind.mp h
  obtain ⟨_, db₂, h₃, h₄⟩ := ends_bind.mp h₂
  obtain ⟨_, db₃, h₅, h₆⟩ := ends_bind.mp h₄
  obtain ⟨_, db₄, h₇, h₈⟩ := ends_bind.mp h₆
  obtain ⟨-, rfl⟩ := ends_pure.mp h₈
  obtain ⟨x, db₁', h₁', hpure⟩ := bind_eq_ok.mp (ends_own rfl h₁)
  obtain ⟨-, rfl⟩ := pure_eq_ok.mp hpure
  obtain ⟨y, db₂', h₃', hpure⟩ := bind_eq_ok.mp (ends_own rfl h₃)
  obtain ⟨-, rfl⟩ := pure_eq_ok.mp hpure
  cases x with
  | none =>
    -- the row is queued, so the statement does return it
    obtain ⟨db₀, hsome⟩ := @updateTask_of_guard task.id (fun t => t.status = .queued)
      (Task.failUnpriced env.now) (fun _ => rfl) db t ht (by simpa using hstatus) rfl rfl
    have hnone := h₁'.symm.trans hsome
    cases hnone
  | some t' =>
    obtain ⟨t₀, ht₀, -, rfl, htouch, -⟩ := updateTask_some h₁'
    obtain rfl : t₀ = t := by simpa [ht] using ht₀.symm
    refine (Lives.of_touches ((htouch.trans (releaseReservation_ok h₃').1).trans
      (deliverOutbox_ok (ends_own rfl h₅)).1) (.single ?_)).trans
      (.of_wakes (wakeQueuedTasksTx_ok (ends_own rfl h₇)))
    refine .finish "cost_rule_unavailable" ht ⟨rfl, rfl, rfl, rfl, rfl, rfl, rfl, rfl, rfl, rfl, rfl⟩
      ?_ (.inl rfl) (.inr ⟨hstatus, ?_, ?_⟩) (.inl hstatus)
    · simp [hstatus, TaskStatus.terminal]
    · rfl
    · rfl

theorem rerouteQueuedTaskTx_lives {policy : SchedulingPolicy} {task : Task}
    {old : UUID} {estimatedTokens : ℕ} {target : Option UUID} (hq : QueuedIn db task.id)
    (h : Session.Ends env (rerouteQueuedTaskTx policy task old estimatedTokens) db target db') :
    Lives env.now (.claim task.id leaseID) db db' ∧ QueuedIn db' task.id := by
  obtain ⟨_, db₁, h₁, h₂⟩ := ends_bind.mp h
  obtain rfl := ends_shared rfl h₁
  obtain ⟨_, db₂, h₃, h₄⟩ := ends_bind.mp h₂
  obtain rfl := ends_shared rfl h₃
  obtain ⟨choice, db₃, h₅, h₆⟩ := ends_bind.mp h₄
  obtain rfl := ends_shared rfl h₅
  cases choice with
  | none =>
    obtain ⟨-, rfl⟩ := ends_pure.mp h₆
    exact ⟨.refl _ _ _, hq⟩
  | some targetID =>
    obtain ⟨_, db₄, h₇, h₈⟩ := ends_bind.mp h₆
    have hmoved := moveOneReservation_ok (ends_own rfl h₇)
    obtain ⟨-, rfl⟩ := ends_pure.mp h₈
    rcases moveQueued_ok hmoved with ⟨hnone, -⟩ | ⟨t, ht, hstatus, hgen, htouch, -⟩
    · cases hnone
    · have hid : t.id = task.id := Table.key_of_get? ht
      refine ⟨.of_touches htouch (.single (.reroute leaseID targetID (by rw [hid]) ht hstatus hgen)),
        t.moveTo targetID, ?_, hstatus⟩
      have htask := congrArg Cell.task htouch.cell
      simpa [Cell.mapTask, Cell.mapReservation, Database.cell, ht] using htask

theorem claimQueued_lives {policy : SchedulingPolicy} {task : Task} (hq : QueuedIn db task.id)
    (h : Session.Ends env (claimQueued policy task leaseID expiresAt) db result db') :
    Lives env.now (.claim task.id leaseID) db db' := by
  unfold claimQueued at h
  cases hacc : task.accountID with
  | none =>
    rw [hacc] at h
    exact absurd h not_ends_fail
  | some accountID =>
    simp only [hacc] at h
    obtain ⟨estimatedTokens, db₁, h₁, h₂⟩ := ends_bind.mp h
    obtain rfl := ends_shared rfl h₁
    obtain ⟨priced, db₂, h₃, h₄⟩ := ends_bind.mp h₂
    obtain rfl := ends_shared rfl h₃
    split at h₄
    · exact failUnpricedTask_lives hq h₄
    obtain ⟨preview, db₃, h₅, h₆⟩ := ends_bind.mp h₄
    obtain rfl := ends_shared rfl h₅
    obtain ⟨wall, db₄, h₇, h₈⟩ := ends_bind.mp h₆
    obtain rfl := ends_shared rfl h₇
    split at h₈
    · obtain ⟨state, db₅, h₉, h₁₀⟩ := ends_bind.mp h₈
      obtain rfl := ends_shared rfl h₉
      exact claimOnAccount_lives hq h₁₀
    · obtain ⟨target, db₅, h₉, h₁₀⟩ := ends_bind.mp h₈
      obtain ⟨hlives, hq'⟩ := rerouteQueuedTaskTx_lives hq h₉
      cases target with
      | none => exact hlives.trans (refuse_lives hq' h₁₀)
      | some targetID =>
        obtain ⟨state, db₆, h₁₁, h₁₂⟩ := ends_bind.mp h₁₀
        obtain rfl := ends_shared rfl h₁₁
        have hmoved : QueuedIn db₆ (task.moveTo targetID).id := hq'
        have hclaim : Lives env.now (.claim (task.moveTo targetID).id leaseID) db₆ db' :=
          claimOnAccount_lives hmoved h₁₂
        exact hlives.trans hclaim

theorem lockTask_ends {x : Option Task} (h : Session.Ends env (send (.lockTask id)) db x db') :
    db' = db ∧ ∀ t, x = some t → db.tasks.get? id = some t ∧ t.claimable env.now = true := by
  have hrun : answer (fun db => .ok (Task.lockedFor env.now db id db)) db = .ok (x, db') :=
    ends_own rfl h
  obtain ⟨hread, rfl⟩ := answer_ok hrun
  refine ⟨rfl, ?_⟩
  rintro t rfl
  simp only [Task.lockedFor, Except.ok.injEq, Option.filter_eq_some_iff, Bool.and_eq_true] at hread
  exact ⟨hread.1, hread.2.1⟩

theorem claimTaskOnce_lives {policy : SchedulingPolicy} {lease : Time}
    (h : Session.Ends env (claimTaskOnce policy id leaseID lease) db result db') :
    Lives env.now (.claim id leaseID) db db' := by
  obtain ⟨wall, db₁, h₁, h₂⟩ := ends_bind.mp h
  obtain rfl := ends_shared rfl h₁
  obtain ⟨x, db₂, h₃, h₄⟩ := ends_bind.mp h₂
  obtain ⟨rfl, hx⟩ := lockTask_ends h₃
  cases x with
  | none =>
    obtain ⟨-, rfl⟩ := ends_pure.mp h₄
    exact .refl _ _ _
  | some task =>
    obtain ⟨ht, -⟩ := hx task rfl
    obtain rfl : task.id = id := Table.key_of_get? ht
    dsimp only at h₄
    split at h₄
    · next hstatus => exact claimQueued_lives ⟨task, ht, hstatus⟩ h₄
    · exact leaseTask_lives h₄

end Claim

section Admission

variable {env : Env} {db db' : Database} {policy : SchedulingPolicy} {req : AdmissionRequest}

theorem pollCandidate_ends {q : RoutingQuery} {excluded : List UUID} {attempts : ℕ}
    {x : Option UUID} (h : Session.Ends env (pollCandidate q excluded attempts) db x db') :
    db' = db := by
  induction attempts with
  | zero => exact (ends_pure.mp h).2
  | succ attempts ih =>
    obtain ⟨choice, db₁, h₁, h₂⟩ := ends_bind.mp h
    obtain rfl := ends_shared rfl h₁
    cases choice with
    | none => exact ih h₂
    | some accountID => exact (ends_pure.mp h₂).2

theorem nextCandidate_ends {q : RoutingQuery} {excluded : List UUID} {x : Option UUID}
    (h : Session.Ends env (nextCandidate q excluded) db x db') : db' = db := by
  obtain ⟨choice, db₁, h₁, h₂⟩ := ends_bind.mp h
  obtain rfl := pollCandidate_ends h₁
  cases choice with
  | none => exact ends_shared rfl h₂
  | some accountID => exact (ends_pure.mp h₂).2

theorem selectAccount_ends {q : RoutingQuery} {attempts : ℕ} {excluded : List UUID}
    {x : Option UUID} (h : Session.Ends env (selectAccount q attempts excluded) db x db') :
    db' = db := by
  induction attempts generalizing excluded db with
  | zero => exact absurd h not_ends_fail
  | succ attempts ih =>
    obtain ⟨_, db₁, h₁, h₂⟩ := ends_bind.mp h
    obtain rfl := ends_shared rfl h₁
    obtain ⟨choice, db₂, h₃, h₄⟩ := ends_bind.mp h₂
    obtain rfl := nextCandidate_ends h₃
    cases choice with
    | none =>
      obtain ⟨_, db₃, h₅, h₆⟩ := ends_bind.mp h₄
      obtain rfl := ends_shared rfl h₅
      exact (ends_pure.mp h₆).2
    | some accountID =>
      obtain ⟨⟨reservationCount, reserved⟩, db₃, h₅, h₆⟩ := ends_bind.mp h₄
      obtain rfl := ends_shared rfl h₅
      obtain ⟨limits, db₄, h₇, h₈⟩ := ends_bind.mp h₆
      obtain rfl := ends_shared rfl h₇
      split at h₈
      · obtain ⟨_, db₅, h₉, h₁₀⟩ := ends_bind.mp h₈
        obtain rfl := ends_shared rfl h₉
        exact (ends_pure.mp h₁₀).2
      · obtain ⟨_, db₅, h₉, h₁₀⟩ := ends_bind.mp h₈
        obtain rfl := ends_shared rfl h₉
        obtain ⟨_, db₆, h₁₁, h₁₂⟩ := ends_bind.mp h₁₀
        obtain rfl := ends_shared rfl h₁₁
        exact ih h₁₂

theorem setOverload_ends {active : Bool} {u : Unit}
    (h : Session.Ends env (send (.setOverload active)) db u db') (k : UUID) :
    db'.cell k = db.cell k := by
  have hrun : writeOverload active db = .ok (u, db') := ends_own rfl h
  cases hrun
  rfl

theorem checkWatermarks_ends {stored config : SystemCapacityConfig} {queued : ℕ}
    (h : Session.Ends env (checkWatermarks stored queued) db config db') : db' = db := by
  unfold checkWatermarks at h
  split at h
  · obtain ⟨_, db₁, -, h₂⟩ := ends_bind.mp h
    exact absurd h₂ not_ends_fail
  split at h
  · obtain ⟨_, db₁, -, h₂⟩ := ends_bind.mp h
    exact absurd h₂ not_ends_fail
  · exact (ends_pure.mp h).2

theorem lockSystemAdmission_ends {config : SystemCapacityConfig}
    (h : Session.Ends env lockSystemAdmission db config db') (k : UUID) :
    db'.cell k = db.cell k := by
  obtain ⟨stored, db₁, h₁, h₂⟩ := ends_bind.mp h
  obtain rfl := ends_shared rfl h₁
  split at h₂
  · exact absurd h₂ not_ends_fail
  obtain ⟨queued, db₂, h₃, h₄⟩ := ends_bind.mp h₂
  obtain rfl := ends_shared rfl h₃
  split at h₄
  · split at h₄
    · exact absurd h₄ not_ends_fail
    · obtain ⟨_, db₃, h₅, h₆⟩ := ends_bind.mp h₄
      rw [checkWatermarks_ends h₆, setOverload_ends h₅]
  · rw [checkWatermarks_ends h₄]

theorem lockLimits_ends {keyID : UUID} {config : SystemCapacityConfig}
    (h : Session.Ends env (lockLimits policy keyID) db config db') (k : UUID) :
    db'.cell k = db.cell k := by
  obtain ⟨limit, db₁, h₁, h₂⟩ := ends_bind.mp h
  obtain rfl := ends_shared rfl h₁
  obtain ⟨nonTerminal, db₂, h₃, h₄⟩ := ends_bind.mp h₂
  obtain rfl := ends_shared rfl h₃
  split at h₄
  · exact absurd h₄ not_ends_fail
  · exact lockSystemAdmission_ends h₄ k

variable {sha256 : String → String} {result : Ending (Task × Bool)}

theorem insertAdmitted_lives {accountID : UUID} {config : SystemCapacityConfig}
    (h : Session.Ends env (insertAdmitted sha256 req accountID config) db result db') :
    Lives env.now .admission db db' := by
  obtain ⟨wall, db₁, h₁, h₂⟩ := ends_bind.mp h
  obtain rfl := ends_shared rfl h₁
  obtain ⟨task, db₂, h₃, h₄⟩ := ends_bind.mp h₂
  obtain ⟨wall', db₃, h₅, h₆⟩ := ends_bind.mp h₄
  obtain rfl := ends_shared rfl h₅
  obtain ⟨_, db₄, h₇, h₈⟩ := ends_bind.mp h₆
  obtain ⟨_, db₅, h₉, h₁₀⟩ := ends_bind.mp h₈
  obtain ⟨-, rfl⟩ := ends_pure.mp h₁₀
  obtain ⟨_, db₂', hrow, hpure⟩ := bind_eq_ok.mp (ends_own rfl h₃)
  obtain ⟨-, rfl⟩ := pure_eq_ok.mp hpure
  obtain ⟨htask, htouch, -⟩ := insertTaskRow_ok hrow
  obtain ⟨hres, htouch', -⟩ := insertReservationRow_ok (ends_own rfl h₇)
  obtain ⟨hout, htouch'', -⟩ := insertOutboxRow_ok (ends_own rfl h₉)
  have hres' : (db₁.cell req.id).reservation = none :=
    (congrArg Cell.reservation htouch.cell).symm.trans hres
  have hout' : (db₁.cell req.id).outbox = none :=
    (congrArg Cell.outbox htouch.cell).symm.trans
      ((congrArg Cell.outbox htouch'.cell).symm.trans hout)
  exact .of_touches ((htouch.trans htouch').trans htouch'')
    (.single (.create rfl htask hres' hout' rfl rfl rfl rfl rfl))

theorem admitNew_lives (h : Session.Ends env (admitNew sha256 policy req) db result db') :
    Lives env.now .admission db db' := by
  obtain ⟨uncertain, db₁, h₁, h₂⟩ := ends_bind.mp h
  obtain rfl := ends_shared rfl h₁
  split at h₂
  · exact absurd h₂ not_ends_fail
  obtain ⟨costRuleExists, db₂, h₃, h₄⟩ := ends_bind.mp h₂
  obtain rfl := ends_shared rfl h₃
  split at h₄
  · exact absurd h₄ not_ends_fail
  obtain ⟨choice, db₃, h₅, h₆⟩ := ends_bind.mp h₄
  obtain rfl := selectAccount_ends h₅
  cases choice with
  | none =>
    obtain ⟨⟨healthy, enough⟩, db₄, h₇, h₈⟩ := ends_bind.mp h₆
    dsimp only at h₈
    split at h₈
    · exact absurd h₈ not_ends_fail
    split at h₈ <;> exact absurd h₈ not_ends_fail
  | some accountID =>
    obtain ⟨config, db₄, h₇, h₈⟩ := ends_bind.mp h₆
    have hcells : ∀ k, db₄.cell k = db₃.cell k := lockLimits_ends h₇
    intro k
    rw [← hcells k]
    exact insertAdmitted_lives h₈ k

theorem createReservedTaskForProviderOnce_lives
    (h : Session.Ends env (createReservedTaskForProviderOnce sha256 policy req) db result db') :
    Lives env.now .admission db db' := by
  unfold createReservedTaskForProviderOnce at h
  split at h
  · exact admitNew_lives h
  obtain ⟨_, db₁, h₁, h₂⟩ := ends_bind.mp h
  obtain rfl := ends_shared rfl h₁
  obtain ⟨existing, db₂, h₃, h₄⟩ := ends_bind.mp h₂
  obtain rfl := ends_shared rfl h₃
  cases existing with
  | none => exact admitNew_lives h₄
  | some task =>
    dsimp only at h₄
    split at h₄
    · exact absurd h₄ not_ends_fail
    · obtain ⟨-, rfl⟩ := ends_pure.mp h₄
      exact .refl _ _ _

end Admission

end GenerationGateway
