import GenerationGateway.Library.Waiting
import GenerationGateway.Store.System

/-!
# The queue of an account

While the account has a free slot and nothing but the order of the queue keeps a
queued task back, a claim of that task succeeds exactly when the order lets it. The
order is a line with two classes of jobs, so the queue stands still in one case.
-/

namespace GenerationGateway

open Relational Effects Transitions Waiting

section Run

variable {α β : Type} {env : Env} {db db' : Database}

theorem run_send {op : Statement} {f : op.Res → Session β} {r : op.Res}
    (h : op.run env db = .ok (r, db')) :
    (send op >>= f).run env db = Session.run env (f r) db' := bind_of_ok h

theorem run_bind {p : Session α} {f : α → Session β} {a : α} (h : p.run env db = .ok (a, db')) :
    (p >>= f).run env db = Session.run env (f a) db' := by
  induction p generalizing db with
  | ret b =>
    obtain ⟨rfl, rfl⟩ := pure_eq_ok.mp h
    rfl
  | call op k ih =>
    obtain ⟨r, db₁, hop, hk⟩ := bind_eq_ok.mp h
    exact (bind_of_ok hop).trans (ih r hk)

/-- The foreign key holds after an update that keeps what a reservation is about. -/
theorem FinancialIdentity.modify {tasks : Table Task} {reservations : Table Reservation} {id : UUID}
    {f : Reservation → Reservation} (h : FinancialIdentity tasks reservations)
    (hid : ∀ r, (f r).taskID = r.taskID) (haccount : ∀ r, (f r).accountID = r.accountID)
    (hestimate : ∀ r, (f r).estimatedTokens = r.estimatedTokens) :
    FinancialIdentity tasks (reservations.modify id f (key_of_reservation hid)) := by
  intro r' hr'
  have hget := Table.get?_of_mem hr'
  rw [Table.get?_modify] at hget
  split_ifs at hget with hkey
  · obtain ⟨r, hr, rfl⟩ := Option.map_eq_some_iff.mp hget
    rw [hid, haccount, hestimate]
    exact h r (Table.mem_of_get? hr)
  · exact h r' (Table.mem_of_get? hget)

/-- A hold can always be extended. -/
theorem extendReservation_run (id : UUID) (g : Time → Time) (db : Database) :
    ∃ r db', extendReservation id g db = .ok (r, db') := by
  unfold extendReservation updateReservation
  cases hget : db.reservations.get? id with
  | none => exact ⟨none, db, rfl⟩
  | some r =>
    by_cases hheld : r.held = true
    · have hidentity : FinancialIdentity db.tasks (db.reservations.modify id
          (fun r => { r with expiresAt := g r.expiresAt }) (key_of_reservation fun _ => rfl)) := by
        apply db.identity.modify <;> intro _ <;> rfl
      have hopen : r.settlement = none := by simpa [Reservation.held] using hheld
      simp [hheld, enforceReservationImmutability, Database.replace, hidentity, bind, Except.bind,
        appendAPIKeyUsageLedger, hopen]
    · exact ⟨none, db, by simp [hheld]⟩

theorem wakeWhere_run (env : Env) (p : Task → Bool) (db : Database) :
    ∃ db', wakeWhere env p db = .ok ((), db') := ⟨_, rfl⟩

theorem wakeQueuedTasksTx_run (env : Env) (accountID : UUID) (key : Option UUID) (db : Database) :
    ∃ db', wakeQueuedTasksTx env accountID key db = .ok ((), db') := by
  obtain ⟨db₁, h₁⟩ := wakeWhere_run env (fun t => t.accountID = some accountID) db
  cases key with
  | none => exact ⟨db₁, bind_of_ok h₁⟩
  | some key =>
    obtain ⟨db₂, h₂⟩ := wakeWhere_run env (fun t => t.apiKeyID = some key) db₁
    exact ⟨db₂, (bind_of_ok h₁).trans h₂⟩

/-- A task that may be claimed gets its lease. -/
theorem leaseTask_run {t : Task} (leaseID : UUID) (expiresAt : Time)
    (ht : db.tasks.get? t.id = some t) (hcancel : t.cancelRequested = false)
    (hstatus : t.status = .queued) (hfree : t.leaseFree env.now = true) :
    ∃ db', (leaseTask t.id leaseID expiresAt).run env db =
      .ok (.commit ⟨some (t.claim env.now leaseID expiresAt), some leaseID, true⟩, db') := by
  obtain ⟨db₁, h₁⟩ : ∃ db₁, updateTask t.id (fun t => !t.cancelRequested &&
      (decide (t.status = .queued) || t.inFlight) && t.leaseFree env.now)
      (Task.claim env.now leaseID expiresAt) (fun _ => rfl) db =
        .ok (some (t.claim env.now leaseID expiresAt), db₁) :=
    updateTask_of_guard ht (by simp [hcancel, hstatus, hfree]) rfl rfl
  obtain ⟨r, db₂, h₂⟩ := extendReservation_run t.id (fun _ => expiresAt) db₁
  have hextend : Statement.run env (.extendClaimed t.id expiresAt) db₁ = .ok ((), db₂) :=
    bind_of_ok h₂
  obtain ⟨db₃, h₃⟩ : ∃ db₃, Statement.run env (.deliverPending t.id) db₂ = .ok ((), db₃) := ⟨_, rfl⟩
  have hlease : Statement.run env (.claimLease t.id leaseID expiresAt) db =
    .ok (some (t.claim env.now leaseID expiresAt), db₁) := h₁
  obtain ⟨db₄, h₄⟩ : ∃ db₄, Session.run env (do
      wakeOwner (t.claim env.now leaseID expiresAt)
      return Ending.commit (⟨some (t.claim env.now leaseID expiresAt), some leaseID, true⟩ :
        ClaimResult)) db₃ =
        .ok (.commit ⟨some (t.claim env.now leaseID expiresAt), some leaseID, true⟩, db₄) := by
    unfold wakeOwner
    cases (t.claim env.now leaseID expiresAt).accountID with
    | none => exact ⟨db₃, rfl⟩
    | some account =>
      obtain ⟨db₄, h₄⟩ := wakeQueuedTasksTx_run env account
        (t.claim env.now leaseID expiresAt).apiKeyID db₃
      exact ⟨db₄, run_send h₄⟩
  exact ⟨db₄, (run_send hlease).trans ((run_send hextend).trans ((run_send h₃).trans h₄))⟩

end Run

/-! ### Claims from the queue of an account -/

/-- The task waits on the account. -/
def Task.queuedOn (accountID : UUID) (t : Task) : Bool :=
  decide (t.accountID = some accountID) && decide (t.status = .queued)

/-- The claim of the task `id` hands it out. -/
def Database.claims (db : Database) (env : Env) (policy : SchedulingPolicy) (id leaseID : UUID)
    (lease : Time) : Bool :=
  match (transaction ((claimTaskOnce policy id leaseID lease).run env) db).1 with
  | .ok r => r.claimed
  | .error _ => false

/-- The API key of a queued task is enabled and has a free slot. -/
def keyReady (db : Database) (key : Option UUID) : Bool :=
  key.all fun id => (db.apiKeys.get? id).any fun k =>
    k.enabled && (decide (k.concurrencyLimit ≤ 0) ||
      decide ((executingOfKey db id : ℤ) < k.concurrencyLimit))

/-- Nothing about the task itself keeps it back. -/
def Task.ready (db : Database) (env : Env) (a : Account) (t : Task) : Bool :=
  t.claimable env.now && pricingActive db t && keyReady db t.apiKeyID &&
    (⟨a, usage db a.id⟩ : ClaimAccountState).routeable t.providerID env.wall

/-- The account and the system have room, and what waits on the account is ready. -/
structure Database.Workable (db : Database) (env : Env) (a : Account) : Prop where
  account : db.accounts.get? a.id = some a
  slots : activeTasks db a.id < a.imageConcurrency
  running : db.capacity.executionPaused = false
  room : executingTasks db < db.capacity.maxExecuting
  queued : ∃ t ∈ db.tasks.rows, t.queuedOn a.id = true
  ready : ∀ t ∈ db.tasks.rows, t.queuedOn a.id = true → t.ready db env a = true

section Claims

variable {env : Env} {db : Database} {a : Account} {t : Task}

theorem keyAvailable_run {key : Option UUID} (h : keyReady db key = true) :
    (keyAvailable key).run env db = .ok (true, db) := by
  cases key with
  | none => rfl
  | some id =>
    simp only [keyReady, Option.all_some, Option.any_eq_true, Bool.and_eq_true, Bool.or_eq_true,
      decide_eq_true_eq] at h
    obtain ⟨k, hk, -, hfree⟩ := h
    have hlock : Statement.run env (.lockKeyConcurrency id) db = .ok (k.concurrencyLimit, db) := by
      simp only [Statement.run, Statement.execute, answer, required, hk]
      rfl
    have hactive : Statement.run env (.keyActive id) db = .ok (executingOfKey db id, db) := rfl
    refine (run_send hlock).trans ?_
    by_cases hlimited : 0 < k.concurrencyLimit
    · rw [if_pos hlimited]
      refine (run_send hactive).trans ?_
      rw [decide_eq_true (hfree.resolve_left (not_le.mpr hlimited))]
      rfl
    · rw [if_neg hlimited]
      rfl

theorem lockSystemExecution_run (h : db.Workable env a) :
    lockSystemExecution.run env db = .ok ((true, ""), db) := by
  have hcapacity : Statement.run env .lockCapacity db = .ok (db.capacity, db) := rfl
  have hexecuting : Statement.run env .executing db = .ok (executingTasks db, db) := rfl
  refine (run_send hcapacity).trans ?_
  rw [if_neg (by simp [h.running])]
  refine (run_send hexecuting).trans ?_
  rw [if_neg (not_le.mpr h.room)]
  rfl

/-- The slot that the claim of the task finds on its account. -/
def Task.slot (db : Database) (env : Env) (a : Account) (t : Task) : Bool × String :=
  (⟨a, usage db a.id⟩ : ClaimAccountState).slotAvailable t.kind
    (db.tasks.rows.any (t.goesFirst db env.now a.id))
    (db.tasks.rows.any fun t => decide (t.accountID = some a.id) &&
        decide (t.status = .queued) && decide (t.kind = .video))

theorem refuse_run (env : Env) (db : Database) (t : Task) (reason : String) :
    ∃ db', (refuse t reason).run env db = .ok (.commit (.refused (some t)), db') := ⟨_, rfl⟩

/-- On an account with room the order of the queue decides about a task that is ready. -/
theorem claimOnAccount_run (leaseID : UUID) (expiresAt : Time) (hwork : db.Workable env a)
    (ht : db.tasks.get? t.id = some t) (hstatus : t.status = .queued) (hready : t.ready db env a = true) :
    ∃ task leaseID' db', (claimOnAccount t a.id leaseID expiresAt ⟨a, usage db a.id⟩).run env db =
      .ok (.commit ⟨task, leaseID', (t.slot db env a).1⟩, db') := by
  simp only [Task.ready, Bool.and_eq_true] at hready
  obtain ⟨⟨⟨hclaimable, -⟩, hkey⟩, hrouteable⟩ := hready
  simp only [Task.claimable, Bool.and_eq_true, Bool.not_eq_true'] at hclaimable
  obtain ⟨⟨⟨⟨hcancel, -⟩, -⟩, -⟩, hfree⟩ := hclaimable
  have hwall : Statement.run env .timeNow db = .ok (env.wall, db) := rfl
  have horder : Statement.run env (.queueOrder a.id t) db =
    .ok ((db.tasks.rows.any (t.goesFirst db env.now a.id),
      db.tasks.rows.any fun t => decide (t.accountID = some a.id) &&
        decide (t.status = .queued) && decide (t.kind = .video)), db) := rfl
  cases hslot : (t.slot db env a).1 with
  | false =>
    obtain ⟨db', hrefuse⟩ := refuse_run env db t (t.slot db env a).2
    refine ⟨some t, none, db', (run_send hwall).trans ?_⟩
    rw [if_neg (by simp [hrouteable])]
    refine (run_send horder).trans ?_
    change Session.run env (if !(t.slot db env a).1 then refuse t (t.slot db env a).2 else _) db = _
    rw [if_pos (by simp [hslot])]
    exact hrefuse
  | true =>
    obtain ⟨db', hlease⟩ := leaseTask_run leaseID expiresAt ht hcancel hstatus hfree
    refine ⟨some (t.claim env.now leaseID expiresAt), some leaseID, db', (run_send hwall).trans ?_⟩
    rw [if_neg (by simp [hrouteable])]
    refine (run_send horder).trans ?_
    change Session.run env (if !(t.slot db env a).1 then refuse t (t.slot db env a).2 else _) db = _
    rw [if_neg (by simp [hslot])]
    refine (run_bind (keyAvailable_run hkey)).trans ?_
    refine (run_bind (lockSystemExecution_run hwork)).trans ?_
    exact hlease

/-- The claim of a task that is ready succeeds exactly when it finds a slot. -/
theorem claims_eq_slot (policy : SchedulingPolicy) (leaseID : UUID) (lease : Time)
    (hwork : db.Workable env a) (hrow : t ∈ db.tasks.rows) (hqueued : t.queuedOn a.id = true) :
    db.claims env policy t.id leaseID lease = (t.slot db env a).1 := by
  have hready := hwork.ready t hrow hqueued
  have ht : db.tasks.get? t.id = some t := Table.get?_of_mem hrow
  simp only [Task.queuedOn, Bool.and_eq_true, decide_eq_true_eq] at hqueued
  obtain ⟨haccount, hstatus⟩ := hqueued
  obtain ⟨task, leaseID', db', hrun⟩ := claimOnAccount_run leaseID
    (env.wall + if lease ≤ 0 then defaultLease else lease) hwork ht hstatus hready
  simp only [Task.ready, Bool.and_eq_true] at hready
  obtain ⟨⟨⟨hclaimable, hactive⟩, -⟩, hrouteable⟩ := hready
  have hwall : Statement.run env .timeNow db = .ok (env.wall, db) := rfl
  have hlock : Statement.run env (.lockTask t.id) db = .ok (some t, db) := by
    simp only [Statement.run, Statement.execute, answer, Task.lockedFor, ht]
    simp [Option.filter, hclaimable]
  have hestimate : Statement.run env (.readEstimatedTokens t.id) db =
      .ok (t.estimatedTokens, db) := by
    simp only [Statement.run, Statement.execute, answer, required, ht]
    rfl
  have hpriced : Statement.run env (.readPricingActive t.id) db = .ok (true, db) := by
    simp only [Statement.run, Statement.execute, answer, ht, Option.any_some, hactive]
  have hload (lock : Bool) : Statement.run env (.loadClaimAccount a.id lock) db =
      .ok (⟨a, usage db a.id⟩, db) := by
    simp only [Statement.run, Statement.execute, answer, required, hwork.account]
    rfl
  have hqueue : (claimQueued policy t leaseID
      (env.wall + if lease ≤ 0 then defaultLease else lease)).run env db =
        .ok (.commit ⟨task, leaseID', (t.slot db env a).1⟩, db') := by
    unfold claimQueued
    rw [haccount]
    refine (run_send hestimate).trans ((run_send hpriced).trans ?_)
    refine (run_send (hload false)).trans ((run_send hwall).trans ?_)
    rw [if_pos hrouteable]
    exact (run_send (hload true)).trans hrun
  have hclaim : (claimTaskOnce policy t.id leaseID lease).run env db =
      .ok (.commit ⟨task, leaseID', (t.slot db env a).1⟩, db') := by
    refine (run_send hwall).trans ((run_send hlock).trans ?_)
    dsimp only
    rw [if_pos hstatus]
    exact hqueue
  unfold Database.claims transaction
  rw [hclaim]

end Claims

/-! ### The order of the queue -/

/-- The tasks that wait on an account. -/
def Database.line (db : Database) (now : Time) (accountID : UUID) : Line Task (Time ×ₗ UUID) where
  jobs := db.tasks.select (Task.queuedOn accountID)
  arrival t := toLex (t.createdAt, t.id)
  urgent t := t.kind = .video
  aged t := t.createdAt ≤ now - agingLimit
  counts t := keyAdmits db now t.apiKeyID = true
  aged_of_le a b hle haged := by
    rcases Prod.Lex.le_iff.mp hle with hlt | ⟨heq, -⟩
    · exact hlt.le.trans haged
    · exact heq.le.trans haged

/-- The slots reserved for videos are all that the others leave. -/
def Database.keptBack (db : Database) (a : Account) : Prop :=
  a.routingRole = .videoReserved ∧
    (a.imageConcurrency : ℤ) - a.videoReservedSlots ≤ activeNonVideoTasks db a.id

/-- The queue stands still: an aged task that is no video is before every video that
waits, and the slots left are kept back for these videos. -/
def Database.Deadlocked (db : Database) (now : Time) (a : Account) : Prop :=
  db.keptBack a ∧ (∃ v ∈ (db.line now a.id).jobs, (db.line now a.id).urgent v) ∧
    (db.line now a.id).Overtaken

section Order

variable {env : Env} {db : Database} {a : Account} {t : Task}

theorem Task.before_iff {e t : Task} {now : Time} {accountID : UUID} : e.before t = true ↔
    (db.line now accountID).arrival e < (db.line now accountID).arrival t := by
  simp [Task.before, Database.line, Prod.Lex.lt_iff]

@[simp] theorem line_urgent {now : Time} {accountID : UUID} :
    (db.line now accountID).urgent t ↔ t.kind = .video := Iff.rfl

@[simp] theorem line_aged {now : Time} {accountID : UUID} :
    (db.line now accountID).aged t ↔ t.createdAt ≤ now - agingLimit := Iff.rfl

@[simp] theorem line_counts {now : Time} {accountID : UUID} :
    (db.line now accountID).counts t ↔ keyAdmits db now t.apiKeyID = true := Iff.rfl

theorem mem_line {now : Time} {accountID : UUID} : t ∈ (db.line now accountID).jobs ↔
    t ∈ db.tasks.rows ∧ t.queuedOn accountID = true := List.mem_filter

theorem goesFirst_iff_blocks {e : Task} {now : Time} {accountID : UUID} (he : e ∈ db.tasks.rows)
    (ht : t ∈ db.tasks.rows) :
    t.goesFirst db now accountID e = true ↔ (db.line now accountID).Blocks e t := by
  by_cases hid : e.id = t.id
  · have hget : db.tasks.get? t.id = some e := hid ▸ Table.get?_of_mem he
    obtain rfl : e = t := Option.some.inj (hget.symm.trans (Table.get?_of_mem ht))
    constructor
    · intro hfirst
      simp [Task.goesFirst] at hfirst
    · exact fun hblocks => absurd hblocks Line.not_blocks_self
  · have hbefore : e.before t = true ↔ (db.line now accountID).arrival e <
      (db.line now accountID).arrival t := Task.before_iff
    simp only [Line.Blocks, ← hbefore, mem_line, he, true_and, Task.queuedOn, Task.goesFirst,
      Bool.and_eq_true, decide_eq_true_eq, ne_eq, hid, not_false_eq_true, and_true]
    by_cases hvideo : t.kind = .video
    · simp only [line_urgent, line_aged, line_counts, hvideo]
      simp only [reduceIte, not_true_eq_false, false_and, or_false, true_and, Bool.or_eq_true,
        Bool.and_eq_true, decide_eq_true_eq]
      tauto
    · simp only [line_urgent, line_aged, line_counts, hvideo]
      simp only [reduceIte, not_false_eq_true, false_and, false_or, true_and, Bool.or_eq_true,
        Bool.and_eq_true, decide_eq_true_eq, not_le]
      tauto

/-- The query about earlier tasks finds one exactly when the line blocks. -/
theorem goesFirst_iff {now : Time} {accountID : UUID} (ht : t ∈ db.tasks.rows) :
    db.tasks.rows.any (t.goesFirst db now accountID) = true ↔
      ∃ e, (db.line now accountID).Blocks e t := by
  rw [List.any_eq_true]
  constructor
  · rintro ⟨e, he, hfirst⟩
    exact ⟨e, (goesFirst_iff_blocks he ht).mp hfirst⟩
  · rintro ⟨e, hblocks⟩
    have he := (mem_line.mp hblocks.1).1
    exact ⟨e, he, (goesFirst_iff_blocks he ht).mpr hblocks⟩

theorem slot_iff (ht : t ∈ (db.line env.now a.id).jobs) (hslots : activeTasks db a.id < a.imageConcurrency) :
    (t.slot db env a).1 = true ↔ (db.line env.now a.id).Moves (db.keptBack a) t := by
  have hvideos : (db.tasks.rows.any fun t => decide (t.accountID = some a.id) &&
      decide (t.status = .queued) && decide (t.kind = .video)) = true ↔
      ∃ v ∈ (db.line env.now a.id).jobs, (db.line env.now a.id).urgent v := by
    simp only [List.any_eq_true, Bool.and_eq_true, decide_eq_true_eq, mem_line, Task.queuedOn,
      line_urgent, and_assoc]
  have hearlier : db.tasks.rows.any (t.goesFirst db env.now a.id) = true ↔
    ∃ e, (db.line env.now a.id).Blocks e t := goesFirst_iff (mem_line.mp ht).1
  simp only [Task.slot, ClaimAccountState.slotAvailable, Bool.and_eq_true, decide_eq_true_eq,
    Bool.not_eq_true']
  have hactive : (usage db a.id).activeTasks < a.imageConcurrency := hslots
  have hfree : db.tasks.rows.any (t.goesFirst db env.now a.id) = false ↔
      ∀ e, ¬ (db.line env.now a.id).Blocks e t := by
    rw [← Bool.not_eq_true, hearlier, not_exists]
  rw [hfree]
  simp only [hactive, true_and, Line.Moves, ht, line_urgent]
  refine and_congr_right fun _ => ?_
  rw [← Bool.not_eq_true, Bool.and_eq_true, Bool.and_eq_true, Bool.and_eq_true, hvideos]
  have husage : (usage db a.id).activeNonVideoTasks = activeNonVideoTasks db a.id := rfl
  simp only [decide_eq_true_eq, line_urgent, Database.keptBack, husage]
  by_cases hvideo : t.kind = .video
  · simp [hvideo]
  · simp only [hvideo, ne_eq, not_false_eq_true, true_and, false_or]
    rw [and_right_comm]

end Order

/-- Where nothing but the order of the queue keeps the tasks of an account back, one of
them can be claimed exactly when the queue is not deadlocked. -/
theorem work_conserving {db : Database} {env : Env} {a : Account} (policy : SchedulingPolicy)
    (leaseID : UUID) (lease : Time) (hwork : db.Workable env a) :
    (∃ t ∈ db.tasks.rows, t.queuedOn a.id = true ∧
      db.claims env policy t.id leaseID lease = true) ↔ ¬ db.Deadlocked env.now a := by
  have hline : ∃ t, t ∈ (db.line env.now a.id).jobs := by
    obtain ⟨t, ht, hqueued⟩ := hwork.queued
    exact ⟨t, mem_line.mpr ⟨ht, hqueued⟩⟩
  have hclaims (t : Task) (ht : t ∈ (db.line env.now a.id).jobs) :
      db.claims env policy t.id leaseID lease = true ↔
        (db.line env.now a.id).Moves (db.keptBack a) t := by
    obtain ⟨hrow, hqueued⟩ := mem_line.mp ht
    rw [claims_eq_slot policy leaseID lease hwork hrow hqueued]
    exact slot_iff ht hwork.slots
  refine Iff.trans ?_ (Line.exists_moves_iff hline)
  constructor
  · rintro ⟨t, hrow, hqueued, hclaimed⟩
    exact ⟨t, (hclaims t (mem_line.mpr ⟨hrow, hqueued⟩)).mp hclaimed⟩
  · rintro ⟨t, hmoves⟩
    obtain ⟨hrow, hqueued⟩ := mem_line.mp hmoves.1
    exact ⟨t, hrow, hqueued, (hclaims t hmoves.1).mpr hmoves⟩

/-- The small account with all its slots reserved for videos. -/
def videoAccount : Account :=
  { smallAccount with
    routingRole := .videoReserved
    videoReservedSlots := 2
    videoReservedSlots_le := by decide }

def videoStore : StoreState := smallStore ⟨[videoAccount], by decide⟩

/-- An image and then a video are admitted. -/
def imageThenVideo : List Event :=
  [admitAt 0 (smallRequest 20 .image 5), admitAt 1 (smallRequest 21 .video 5)]

/-- While the image is young the video goes first. -/
theorem work_conserving_imageThenVideo :
    (∃ t ∈ (videoStore.after imageThenVideo).db.tasks.rows, t.queuedOn 1 = true ∧
      (videoStore.after imageThenVideo).db.claims (atTime 2) defaultSchedulingPolicy t.id 900 0 =
        true) ↔ ¬ (videoStore.after imageThenVideo).db.Deadlocked 2 videoAccount := by
  refine work_conserving (a := videoAccount) defaultSchedulingPolicy 900 0 ?_
  constructor <;> decide +kernel

/-- Eleven minutes later neither is handed out. -/
theorem imageThenVideo_deadlocked :
    ¬ ∀ s, store.Reachable videoStore s → ∀ env a, s.db.Workable env a →
      ∃ t ∈ s.db.tasks.rows, t.queuedOn a.id = true ∧
        s.db.claims env defaultSchedulingPolicy t.id 900 0 = true := by
  intro h
  have hreach : store.Reachable videoStore (videoStore.after imageThenVideo) :=
    store_reachable_after (by decide +kernel)
  have hwork : (videoStore.after imageThenVideo).db.Workable (atTime (minutes 11)) videoAccount := by
    constructor <;> decide +kernel
  obtain ⟨t, ht, -, hclaimed⟩ := h _ hreach _ _ hwork
  have hnone : ∀ t ∈ (videoStore.after imageThenVideo).db.tasks.rows,
      (videoStore.after imageThenVideo).db.claims (atTime (minutes 11)) defaultSchedulingPolicy
        t.id 900 0 = false := by
    decide +kernel
  rw [hnone t ht] at hclaimed
  cases hclaimed

end GenerationGateway
