import GenerationGateway.Accounts.Session
import GenerationGateway.Library.Retention
import GenerationGateway.Store.Accounting
import GenerationGateway.Store.Finality

/-!
# The cleanup of the history

The scheduler deletes old rows of six tables, the oldest of each in one batch. Two of the tables
belong to tasks: the rows of a task are kept until it has ended, so the cleanup runs beside the
operations of the store without stranding a task or losing an event of one that is not over.
-/

namespace GenerationGateway

open Relational Transitions

/-- A row of `task_events`. -/
structure TaskEvent where
  id : ℤ
  taskID : UUID
  status : String
  message : String
  createdAt : Time
  deriving DecidableEq

/-- What the cleanup reads of `api_request_logs`, `audit_logs` and
`account_reconciliation_batches`. -/
structure DatedRow where
  id : ℤ
  createdAt : Time
  deriving DecidableEq

instance : Keyed ℤ TaskEvent := ⟨TaskEvent.id⟩
instance : Keyed ℤ DatedRow := ⟨DatedRow.id⟩

structure HistoryRetention where
  taskEvents : Time
  outbox : Time
  sessionJobs : Time
  apiRequests : Time
  auditLogs : Time
  reconciliations : Time
  batchSize : ℕ

/-- The tables in the order of `CleanupHistory`. -/
inductive HistoryTable
  | taskEvents | outbox | sessionJobs | apiRequests | auditLogs | reconciliations
  deriving DecidableEq

namespace HistoryTable

def steps : List HistoryTable :=
  [taskEvents, outbox, sessionJobs, apiRequests, auditLogs, reconciliations]

def retention (r : HistoryRetention) : HistoryTable → Time
  | taskEvents => r.taskEvents
  | outbox => r.outbox
  | sessionJobs => r.sessionJobs
  | apiRequests => r.apiRequests
  | auditLogs => r.auditLogs
  | reconciliations => r.reconciliations

end HistoryTable

/-- The store with the tables that only grow. -/
structure Archive where
  store : StoreState
  taskEvents : Table TaskEvent
  sessionJobs : Table SessionRefreshJob
  apiRequests : Table DatedRow
  auditLogs : Table DatedRow
  reconciliations : Table DatedRow

def Archive.db (a : Archive) : Database := a.store.db

/-- The clock of a cleanup, the columns `updated_at`, and the rows that other transactions
have locked. -/
structure Cleanup where
  now : Time
  outboxUpdatedAt : UUID → Time
  jobUpdatedAt : UUID → Time
  locked : HistoryTable → ℤ → Bool

namespace Cleanup

variable (c : Cleanup) (cutoff : Time)

/-- `t.status IN ('succeeded','failed','cancelled','submission_uncertain')` of the joined task. -/
def finished (db : Database) (id : UUID) : Bool :=
  (db.tasks.get? id).any fun t => t.status.terminal

def eventExpired (db : Database) (e : TaskEvent) : Bool :=
  decide (e.createdAt < cutoff) && finished db e.taskID && !c.locked .taskEvents e.id

def outboxExpired (db : Database) (o : OutboxRow) : Bool :=
  o.deliveredAt.isSome && decide (c.outboxUpdatedAt o.taskID < cutoff) && finished db o.taskID &&
    !c.locked .outbox o.taskID

def jobExpired (j : SessionRefreshJob) : Bool :=
  (decide (j.status = .succeeded) || decide (j.status = .failed) || decide (j.status = .cancelled)) &&
    decide (c.jobUpdatedAt j.id < cutoff) && !c.locked .sessionJobs j.id

def rowExpired (table : HistoryTable) (r : DatedRow) : Bool :=
  decide (r.createdAt < cutoff) && !c.locked table r.id

end Cleanup

open Cleanup in
/-- One statement of `CleanupHistory`, and the rows it affects. -/
def cleanupTable (c : Cleanup) (r : HistoryRetention) (table : HistoryTable) (a : Archive) :
    Archive × ℕ :=
  let cutoff := c.now - table.retention r
  match table with
  | .taskEvents =>
    let expired := c.eventExpired cutoff a.db
    let older := Table.Older TaskEvent.createdAt
    ({ a with taskEvents := a.taskEvents.sweep expired older r.batchSize },
      (a.taskEvents.oldest expired older r.batchSize).length)
  | .outbox =>
    let expired := c.outboxExpired cutoff a.db
    let older := Table.Older fun o : OutboxRow => c.outboxUpdatedAt o.taskID
    ({ a with store.db.outbox := a.db.outbox.sweep expired older r.batchSize },
      (a.db.outbox.oldest expired older r.batchSize).length)
  | .sessionJobs =>
    let expired := c.jobExpired cutoff
    let older := Table.Older fun j : SessionRefreshJob => c.jobUpdatedAt j.id
    ({ a with sessionJobs := a.sessionJobs.sweep expired older r.batchSize },
      (a.sessionJobs.oldest expired older r.batchSize).length)
  | .apiRequests =>
    let expired := c.rowExpired cutoff .apiRequests
    let older := Table.Older DatedRow.createdAt
    ({ a with apiRequests := a.apiRequests.sweep expired older r.batchSize },
      (a.apiRequests.oldest expired older r.batchSize).length)
  | .auditLogs =>
    let expired := c.rowExpired cutoff .auditLogs
    let older := Table.Older DatedRow.createdAt
    ({ a with auditLogs := a.auditLogs.sweep expired older r.batchSize },
      (a.auditLogs.oldest expired older r.batchSize).length)
  | .reconciliations =>
    let expired := c.rowExpired cutoff .reconciliations
    let older := Table.Older DatedRow.createdAt
    ({ a with reconciliations := a.reconciliations.sweep expired older r.batchSize },
      (a.reconciliations.oldest expired older r.batchSize).length)

/-- `CleanupHistory` up to the first statement that fails, and the rows affected. -/
def cleanupHistory (c : Cleanup) (r : HistoryRetention) :
    List HistoryTable → Archive → Archive × List ℕ
  | [], a => (a, [])
  | table :: rest, a =>
    let step := cleanupTable c r table a
    let result := cleanupHistory c r rest step.1
    (result.1, step.2 :: result.2)

/-! ### The backlog -/

section Backlog

variable (c : Cleanup) (r : HistoryRetention)

/-- The age and the key of the rows that the statement for the table may delete, in the order in
which it takes them. -/
def backlog (table : HistoryTable) (a : Archive) : List (Time × ℤ) :=
  let cutoff := c.now - table.retention r
  match table with
  | .taskEvents =>
    (a.taskEvents.queue (c.eventExpired cutoff a.db) (Table.Older TaskEvent.createdAt)).map
      fun e => (e.createdAt, e.id)
  | .outbox =>
    (a.db.outbox.queue (c.outboxExpired cutoff a.db)
      (Table.Older fun o : OutboxRow => c.outboxUpdatedAt o.taskID)).map
      fun o => (c.outboxUpdatedAt o.taskID, (o.taskID : ℤ))
  | .sessionJobs =>
    (a.sessionJobs.queue (c.jobExpired cutoff)
      (Table.Older fun j : SessionRefreshJob => c.jobUpdatedAt j.id)).map
      fun j => (c.jobUpdatedAt j.id, (j.id : ℤ))
  | .apiRequests =>
    (a.apiRequests.queue (c.rowExpired cutoff .apiRequests) (Table.Older DatedRow.createdAt)).map
      fun row => (row.createdAt, row.id)
  | .auditLogs =>
    (a.auditLogs.queue (c.rowExpired cutoff .auditLogs) (Table.Older DatedRow.createdAt)).map
      fun row => (row.createdAt, row.id)
  | .reconciliations =>
    (a.reconciliations.queue (c.rowExpired cutoff .reconciliations)
      (Table.Older DatedRow.createdAt)).map fun row => (row.createdAt, row.id)

/-- The keys of the rows that the statement for the table may not delete. -/
def retained (table : HistoryTable) (a : Archive) : List ℤ :=
  let cutoff := c.now - table.retention r
  match table with
  | .taskEvents => (a.taskEvents.select fun e => !c.eventExpired cutoff a.db e).map TaskEvent.id
  | .outbox => (a.db.outbox.select fun o => !c.outboxExpired cutoff a.db o).map
      fun o => (o.taskID : ℤ)
  | .sessionJobs => (a.sessionJobs.select fun j => !c.jobExpired cutoff j).map fun j => (j.id : ℤ)
  | .apiRequests =>
    (a.apiRequests.select fun row => !c.rowExpired cutoff .apiRequests row).map DatedRow.id
  | .auditLogs =>
    (a.auditLogs.select fun row => !c.rowExpired cutoff .auditLogs row).map DatedRow.id
  | .reconciliations =>
    (a.reconciliations.select fun row => !c.rowExpired cutoff .reconciliations row).map DatedRow.id

variable {c r} {table other : HistoryTable} {a : Archive}

theorem cleanupTable_affected :
    (cleanupTable c r table a).2 = min r.batchSize (backlog c r table a).length := by
  cases table <;> simp only [cleanupTable, backlog, Table.oldest, List.length_take, List.length_map]

theorem backlog_cleanupTable_self :
    backlog c r table (cleanupTable c r table a).1 = (backlog c r table a).drop r.batchSize := by
  cases table <;> exact Table.map_queue_sweep _ _

theorem backlog_cleanupTable_of_ne (h : other ≠ table) :
    backlog c r table (cleanupTable c r other a).1 = backlog c r table a := by
  cases table <;> cases other <;> first | rfl | exact absurd rfl h

theorem retained_cleanupTable :
    retained c r table (cleanupTable c r other a).1 = retained c r table a := by
  by_cases h : other = table
  · subst h
    cases other <;> exact congrArg (List.map _) Table.select_not_sweep
  · cases table <;> cases other <;> first | rfl | exact absurd rfl h

theorem backlog_cleanupHistory (tables : List HistoryTable) (a : Archive) :
    backlog c r table (cleanupHistory c r tables a).1 =
      (backlog c r table a).drop (tables.count table * r.batchSize) := by
  induction tables generalizing a with
  | nil => simp [cleanupHistory]
  | cons other rest ih =>
    rw [cleanupHistory, ih]
    by_cases h : other = table
    · subst h
      rw [backlog_cleanupTable_self, List.drop_drop, List.count_cons_self, Nat.succ_mul, add_comm]
    · rw [backlog_cleanupTable_of_ne h, List.count_cons_of_ne h]

theorem retained_cleanupHistory (tables : List HistoryTable) (a : Archive) :
    retained c r table (cleanupHistory c r tables a).1 = retained c r table a := by
  induction tables generalizing a with
  | nil => rfl
  | cons other rest ih => rw [cleanupHistory, ih, retained_cleanupTable]

/-- Each statement takes what it finds, whatever the statements before it have deleted. -/
theorem affected_cleanupHistory {tables : List HistoryTable} (h : tables.Nodup) (a : Archive) :
    (cleanupHistory c r tables a).2 =
      tables.map fun table => min r.batchSize (backlog c r table a).length := by
  induction tables generalizing a with
  | nil => rfl
  | cons other rest ih =>
    obtain ⟨hnew, hrest⟩ := List.nodup_cons.mp h
    have hothers (table : HistoryTable) (htable : table ∈ rest) :
        backlog c r table (cleanupTable c r other a).1 = backlog c r table a := by
      apply backlog_cleanupTable_of_ne
      rintro rfl
      exact hnew htable
    simp only [cleanupHistory, ih hrest, List.map_cons, cleanupTable_affected]
    congr 1
    apply List.map_congr_left
    intro table htable
    rw [hothers table htable]

end Backlog

theorem HistoryTable.count_steps (table : HistoryTable) : HistoryTable.steps.count table = 1 := by
  cases table <;> rfl

/-- Repeated cleanups work the backlog of each table off from its oldest row and leave every
other row alone. -/
theorem cleanupHistory_drains (c : Cleanup) (r : HistoryRetention) (a : Archive)
    (table : HistoryTable) (n : ℕ) :
    let a' := (fun a => (cleanupHistory c r HistoryTable.steps a).1)^[n] a
    backlog c r table a' = (backlog c r table a).drop (n * r.batchSize) ∧
      retained c r table a' = retained c r table a ∧
      (cleanupHistory c r HistoryTable.steps a').2 =
        HistoryTable.steps.map fun other =>
          min r.batchSize ((backlog c r other a).length - n * r.batchSize) := by
  have hbacklog (other : HistoryTable) (a : Archive) (n : ℕ) :
      backlog c r other ((fun a => (cleanupHistory c r HistoryTable.steps a).1)^[n] a) =
        (backlog c r other a).drop (n * r.batchSize) := by
    induction n generalizing a with
    | zero => simp
    | succ n ih =>
      rw [Function.iterate_succ_apply, ih, backlog_cleanupHistory, HistoryTable.count_steps,
        List.drop_drop, one_mul, Nat.succ_mul, add_comm]
  refine ⟨hbacklog table a n, ?_, ?_⟩
  · induction n generalizing a with
    | zero => rfl
    | succ n ih => rw [Function.iterate_succ_apply, ih, retained_cleanupHistory]
  · rw [affected_cleanupHistory (by decide)]
    simp only [hbacklog, List.length_drop]

/-! ### Runs with cleanups -/

section Cells

variable {now : Time} {call : Call} {c c' : Cell}

/-- Somebody comes back to the task of the cell while it has not ended; the outbox row of one that
has may be gone. -/
def Cell.AttendedToEnd (c : Cell) : Prop :=
  ∀ t, c.task = some t → t.status.terminal = false →
    ∃ o, c.outbox = some o ∧ (t.Held ∨ t.Offered o)

theorem Cell.AttendedToEnd.attended {t : Task} (h : c.AttendedToEnd) (ht : c.task = some t)
    (hrun : t.status.terminal = false) : c.Attended := by
  obtain ⟨o, ho, hstate⟩ := h t ht hrun
  exact Cell.attended_of ht ho (.inr hstate)

theorem Cell.Attended.toEnd (h : c.Attended) : c.AttendedToEnd := by
  intro t ht hrun
  obtain ⟨o, ho, hended | hstate⟩ := h t ht
  · simp [hrun] at hended
  · exact ⟨o, ho, hstate⟩

theorem Transition.attendedToEnd (h : Transition now call c c') (hc : c.AttendedToEnd) :
    c'.AttendedToEnd := by
  cases htask : c.task with
  | none => exact (h.attended (by simp [Cell.Attended, htask])).toEnd
  | some t =>
    cases hrun : t.status.terminal with
    | false => exact (h.attended (hc.attended htask hrun)).toEnd
    | true =>
      obtain ⟨⟨t', ht', hfinal⟩, -⟩ := h.final htask hrun
      intro t₀ ht₀ hrun₀
      obtain rfl : t' = t₀ := Option.some.inj (ht'.symm.trans ht₀)
      simp [hfinal.terminal hrun] at hrun₀

end Cells

inductive ArchiveAct
  | operation (e : Event)
  | cleanup (c : Cleanup) (r : HistoryRetention) (table : HistoryTable)

/-- An operation of the store adds events; the rows of the other tables come and go as the rest of
the gateway writes them. The statements of a cleanup commit one by one. -/
def ArchiveStep (a : Archive) : ArchiveAct → Archive → Prop
  | .operation e, a' => StoreStep a.store e a'.store ∧ a.taskEvents.rows ⊆ a'.taskEvents.rows
  | .cleanup c r table, a' => a' = (cleanupTable c r table a).1

def archive : LTS Archive ArchiveAct := ⟨ArchiveStep⟩

/-- The store is new. -/
def Archive.Initial (a : Archive) : Prop :=
  ∃ accounts apiKeys costRules capacity, a.store = .initial accounts apiKeys costRules capacity

section Cleanup

variable {c : Cleanup} {r : HistoryRetention} {table : HistoryTable} {a : Archive}

theorem cleanupTable_tasks : (cleanupTable c r table a).1.db.tasks = a.db.tasks := by
  cases table <;> rfl

theorem Cleanup.finished_of_expired {cutoff : Time} {db : Database} {o : OutboxRow}
    (h : c.outboxExpired cutoff db o = true) :
    ∃ t, db.tasks.get? o.taskID = some t ∧ t.status.terminal = true := by
  simp only [outboxExpired, finished, Bool.and_eq_true, Option.any_eq_true] at h
  exact h.1.2

/-- A cleanup changes at most the outbox row of a task, and only once the task has ended. -/
theorem cleanupTable_cell (c : Cleanup) (r : HistoryRetention) (table : HistoryTable)
    (a : Archive) (k : UUID) :
    (cleanupTable c r table a).1.db.cell k = a.db.cell k ∨
      (cleanupTable c r table a).1.db.cell k = { a.db.cell k with outbox := none } ∧
        ∃ t, (a.db.cell k).task = some t ∧ t.status.terminal = true := by
  cases table with
  | outbox =>
    set swept := (cleanupTable c r .outbox a).1.db.outbox with hswept
    have hcell : (cleanupTable c r .outbox a).1.db.cell k =
        { a.db.cell k with outbox := swept.get? k } := rfl
    rw [hcell]
    cases hout : swept.get? k with
    | some o =>
      have hold : a.db.outbox.get? k = some o := Table.get?_of_sweep hout
      left
      rw [← hold]
      rfl
    | none =>
      cases hold : a.db.outbox.get? k with
      | none =>
        left
        rw [← hold]
        rfl
      | some o =>
        cases hexpired : c.outboxExpired (c.now - r.outbox) a.db o with
        | false =>
          have hkept : swept.get? k = some o := Table.get?_sweep hold hexpired
          rw [hout] at hkept
          cases hkept
        | true =>
          obtain ⟨t, ht, hended⟩ := Cleanup.finished_of_expired hexpired
          rw [show o.taskID = k from Table.key_of_get? hold] at ht
          exact .inr ⟨rfl, t, ht, hended⟩
  | _ => exact .inl rfl

theorem cleanupTable_attendedToEnd {k : UUID} (h : (a.db.cell k).AttendedToEnd) :
    ((cleanupTable c r table a).1.db.cell k).AttendedToEnd := by
  rcases cleanupTable_cell c r table a k with hcell | ⟨hcell, t, ht, hended⟩
  · rwa [hcell]
  · rw [hcell]
    intro t' ht' hrun
    obtain rfl : t = t' := Option.some.inj (ht.symm.trans ht')
    simp [hended] at hrun

theorem cleanupTable_accounted {k : UUID} (h : (a.db.cell k).Accounted) :
    ((cleanupTable c r table a).1.db.cell k).Accounted := by
  rcases cleanupTable_cell c r table a k with hcell | ⟨hcell, -⟩
  · rwa [hcell]
  · rw [hcell]
    exact h

/-- An event of a task that has not ended stays. -/
theorem cleanupTable_event {e : TaskEvent} (he : e ∈ a.taskEvents.rows)
    (hrun : Cleanup.finished a.db e.taskID = false) :
    e ∈ (cleanupTable c r table a).1.taskEvents.rows := by
  cases table with
  | taskEvents =>
    have hexpired : c.eventExpired (c.now - r.taskEvents) a.db e = false := by
      simp [Cleanup.eventExpired, hrun]
    exact Table.mem_of_get? (Table.get?_sweep (Table.get?_of_mem he) hexpired)
  | _ => exact he

end Cleanup

section Runs

variable {a a' : Archive} {acts : List ArchiveAct}

theorem archive_invariant {P : Cell → Prop} (hempty : P .empty)
    (hP : ∀ now call c c', Transition now call c c' → P c → P c')
    (hcleanup : ∀ c r table (a : Archive) k, P (a.db.cell k) →
      P ((cleanupTable c r table a).1.db.cell k))
    {initial : Archive} (hinitial : initial.Initial) (h : archive.Reachable initial a) (k : UUID) :
    P (a.db.cell k) := by
  refine h.invariant (I := fun a => ∀ k, P (a.db.cell k)) ?_ ?_ k
  · intro a act a' hstep ha k
    cases act with
    | operation e => exact (hstep.1.lives k).invariant (hP _ _) (ha k)
    | cleanup c r table =>
      rw [show a' = _ from hstep]
      exact hcleanup c r table a k (ha k)
  · obtain ⟨accounts, apiKeys, costRules, capacity, hstore⟩ := hinitial
    intro k
    rw [Archive.db, hstore]
    exact hempty

theorem Cleanup.finished_iff {db : Database} {id : UUID} :
    finished db id = true ↔ ∃ t, (db.cell id).task = some t ∧ t.status.terminal = true := by
  simp [finished, Database.cell, Option.any_eq_true]

/-- A task that has ended has ended in every later state. -/
theorem run_finished {id : UUID} (h : archive.Run a acts a') (hended : Cleanup.finished a.db id = true) :
    Cleanup.finished a'.db id = true := by
  refine h.invariant (I := fun a => Cleanup.finished a.db id = true) ?_ hended
  intro a act a' hstep ha
  cases act with
  | operation e =>
    rw [Cleanup.finished_iff] at ha ⊢
    refine Steps.invariant (P := fun c => ∃ t, c.task = some t ∧ t.status.terminal = true) ?_
      (hstep.1.lives id) ha
    rintro c c' htransition ⟨t, ht, hended⟩
    obtain ⟨⟨t', ht', hfinal⟩, -⟩ := htransition.final ht hended
    exact ⟨t', ht', hfinal.terminal hended⟩
  | cleanup c r table =>
    rw [show a' = _ from hstep, Cleanup.finished, cleanupTable_tasks]
    exact ha

/-- No event of a task that has not ended by the end of the run is lost in it. -/
theorem run_event {e : TaskEvent} (h : archive.Run a acts a') (he : e ∈ a.taskEvents.rows)
    (hrun : Cleanup.finished a'.db e.taskID = false) : e ∈ a'.taskEvents.rows := by
  induction acts generalizing a with
  | nil =>
    obtain rfl : a' = a := h
    exact he
  | cons act rest ih =>
    obtain ⟨b, hstep, hrest⟩ := h
    refine ih hrest ?_
    cases act with
    | operation ev => exact hstep.2 he
    | cleanup c r table =>
      have hopen : Cleanup.finished a.db e.taskID = false := by
        by_contra hended
        have hall : archive.Run a (.cleanup c r table :: rest) a' := ⟨b, hstep, hrest⟩
        have hfinal := run_finished hall (by simpa using hended)
        rw [hrun] at hfinal
        cases hfinal
      rw [show b = _ from hstep]
      exact cleanupTable_event he hopen

end Runs

theorem Database.noneStranded_of_cells {db : Database} (h : ∀ k, (db.cell k).AttendedToEnd) :
    db.NoneStranded := by
  have hrow (t : Task) (ht : t ∈ db.tasks.rows) (hrun : t.status.terminal = false) :
      ∃ o, db.outbox.get? t.id = some o ∧ (t.Held ∨ t.Offered o) :=
    h t.id t (Table.get?_of_mem ht) hrun
  refine ⟨fun t ht hrun => ?_, fun t ht hqueued => ?_, fun t ht hstatus => ?_⟩
  · obtain ⟨o, ho, hheld | hoffered⟩ := hrow t ht hrun
    · exact hheld.attends
    · exact hoffered.attends (Table.get?_of_mem ht) ho
  · obtain ⟨o, ho, hheld | hoffered⟩ := hrow t ht (by simp [hqueued, TaskStatus.terminal])
    · have hexec := hheld.executing
      simp [hqueued, TaskStatus.executing] at hexec
    · exact ⟨o, ho, hoffered.undelivered⟩
  · have hrun : t.status.terminal = false := by
      rcases hstatus with h | h | ⟨h, -⟩ <;> simp [h, TaskStatus.terminal]
    obtain ⟨o, ho, hheld | hoffered⟩ := hrow t ht hrun
    · exact hheld.leased
    · rcases hoffered.claimable with hqueued | hflight
      · rcases hstatus with h | h | ⟨h, -⟩ <;> simp [h] at hqueued
      · obtain ⟨hs, hgen⟩ := Task.inFlight_iff.mp hflight
        rcases hstatus with h | h | ⟨-, h⟩
        · simp [h] at hs
        · simp [h] at hs
        · exact absurd h hgen

/-- What the cleanup leaves of the store: the accounting of every task, somebody who comes back to
each that has not ended, and its events. -/
structure Archive.KeepsTasks (a : Archive) : Prop where
  accounted : a.db.Accounted
  noneStranded : a.db.NoneStranded
  events : ∀ acts a', archive.Run a acts a' → ∀ e ∈ a.taskEvents.rows,
    Cleanup.finished a'.db e.taskID = false → e ∈ a'.taskEvents.rows

theorem archive_keepsTasks {initial a : Archive} (hinitial : initial.Initial)
    (h : archive.Reachable initial a) : a.KeepsTasks where
  accounted := by
    apply Database.accounted_of_cells
    exact archive_invariant (P := Cell.Accounted) rfl (fun _ _ _ _ => Transition.accounted)
      (fun _ _ _ _ _ => cleanupTable_accounted) hinitial h
  noneStranded := by
    apply Database.noneStranded_of_cells
    refine archive_invariant (P := Cell.AttendedToEnd) ?_ (fun _ _ _ _ => Transition.attendedToEnd)
      (fun _ _ _ _ _ => cleanupTable_attendedToEnd) hinitial h
    intro t ht
    cases ht
  events := fun acts a' hrun e he hopen => run_event hrun he hopen

/-- Operations of the store alone. -/
theorem archive_run_operations {a : Archive} {s : StoreState} {es : List Event}
    (h : store.Run a.store es s) : archive.Run a (es.map .operation) { a with store := s } := by
  induction es generalizing a with
  | nil =>
    obtain rfl : s = a.store := h
    rfl
  | cons e es ih =>
    obtain ⟨t, hstep, hrun⟩ := h
    exact ⟨{ a with store := t }, ⟨hstep, fun _ he => he⟩, ih (a := { a with store := t }) hrun⟩

/-- The history of a store that has one. -/
def archiveOf (s : StoreState) : Archive := ⟨s, .empty, .empty, .empty, .empty, .empty⟩

/-- Nothing is locked, and every row is as old as the store. -/
def lateCleanup : Cleanup := ⟨hours 1, fun _ => 0, fun _ => 0, fun _ _ => false⟩

def shortRetention : HistoryRetention := ⟨minutes 1, minutes 1, minutes 1, minutes 1, minutes 1,
  minutes 1, 100⟩

theorem archive_reachable_cleanup {a : Archive} {s : StoreState} {es : List Event}
    (h : store.Run a.store es s) (c : Cleanup) (r : HistoryRetention) (table : HistoryTable) :
    archive.Reachable a (cleanupTable c r table { a with store := s }).1 := by
  refine ⟨es.map .operation ++ [.cleanup c r table], (LTS.run_append _).mpr ?_⟩
  refine ⟨{ a with store := s }, archive_run_operations h, _, ?_, rfl⟩
  exact (rfl : (cleanupTable c r table { a with store := s }).1 = _)

/-- The outbox row of a task that has succeeded is deleted. -/
theorem archive_keepsTasks_swept :
    let a := (cleanupTable lateCleanup shortRetention .outbox
      (archiveOf ((smallStore smallAccounts).after smallLife))).1
    a.db.outbox.rows.map OutboxRow.taskID = [] ∧ a.db.tasks.rows.map Task.id = [20] ∧
      a.KeepsTasks :=
  ⟨by decide +kernel, by decide +kernel,
    archive_keepsTasks (a := (cleanupTable lateCleanup shortRetention .outbox
        (archiveOf ((smallStore smallAccounts).after smallLife))).1)
      ⟨smallAccounts, smallKeys, ⟨[⟨3, .leonardo, true, false⟩], by decide⟩, smallCapacity, rfl⟩
      (archive_reachable_cleanup (a := archiveOf (smallStore smallAccounts))
        (store_run_after (by decide +kernel)) _ _ _)⟩

end GenerationGateway
