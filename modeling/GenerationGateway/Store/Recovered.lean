import GenerationGateway.Store.System

/-!
# What a recovery decides

The recovery is six passes over all the tasks, and each sees what the passes before it have done,
its own wake-ups included. For one task all this is a single decision: the first of six
conditions that the task meets as the recovery found it. What it leaves undone, the next
recovery finishes.
-/

namespace GenerationGateway

open Relational

section Pass

variable {R : Cell → Cell → Prop} {body : Task → Tx Unit} {F : Task → Cell → Cell}
  {p : Database → Task → Bool} {f : Task → Task} {hf : ∀ t, (f t).id = t.id}
  {db db₁ db' : Database} {rows : List Task} {u : Unit}

/-- What one pass does to a task that it selects, and to the others. -/
theorem pass_cell (hrefl : ∀ c, R c c) (htrans : ∀ a b c, R a b → R b c → R a c)
    (hbody : ∀ t db db' u, body t db = .ok (u, db') →
      ∃ db₁, Touches t.id (F t) db db₁ ∧ ∀ k, R (db₁.cell k) (db'.cell k))
    (hbulk : updateTasks p f hf db = .ok (rows, db₁)) (hloop : rows.forM body db₁ = .ok (u, db'))
    (k : UUID) :
    (∀ t, db.tasks.get? k = some t → p db t = true →
      ∃ c, R ((db.cell k).mapTask f) c ∧ R (F (f t) c) (db'.cell k)) ∧
    ((∀ t, db.tasks.get? k = some t → p db t = false) → R (db.cell k) (db'.cell k)) := by
  obtain ⟨rfl, hcell, -⟩ := updateTasks_ok hbulk
  have hids : ((db.tasks.select (p db)).map f).map Task.id =
      (db.tasks.select (p db)).map Task.id := by
    rw [List.map_map]
    exact List.map_congr_left fun t _ => hf t
  have hnodup : (((db.tasks.select (p db)).map f).map Task.id).Nodup := by
    rw [hids]
    exact (List.filter_sublist.map _).nodup db.tasks.nodup
  obtain ⟨hout, hin⟩ := forM_touches hrefl htrans hbody hnodup hloop k
  rw [hcell] at hout hin
  constructor
  · intro t ht hp
    have hmem : f t ∈ (db.tasks.select (p db)).map f :=
      List.mem_map_of_mem (List.mem_filter.mpr ⟨Table.mem_of_get? ht, hp⟩)
    obtain ⟨c, hc, hc'⟩ := hin (f t) hmem ((hf t).trans (Table.key_of_get? ht))
    have hsame : (db.cell k).mapTask (fun t => if p db t then f t else t) =
        (db.cell k).mapTask f := by
      simp [Cell.mapTask, Database.cell, ht, hp]
    exact ⟨c, hsame ▸ hc, hc'⟩
  · intro hp
    have hsame : (db.cell k).mapTask (fun t => if p db t then f t else t) = db.cell k := by
      cases ht : db.tasks.get? k with
      | none => simp [Cell.mapTask, Database.cell, ht]
      | some t => simp [Cell.mapTask, Database.cell, ht, hp t ht]
    rw [hsame] at hout
    apply hout
    rw [hids]
    intro hmem
    obtain ⟨t, ht, rfl⟩ := List.mem_map.mp hmem
    obtain ⟨htr, hpt⟩ := List.mem_filter.mp ht
    rw [hp t (Table.get?_of_mem htr)] at hpt
    cases hpt

end Pass

/-! ### The passes on one task -/

/-- A pass as one task sees it. -/
structure Pass where
  applies : Cell → Task → Bool
  update : Task → Task
  repair : Task → Cell → Cell

def Pass.run (P : Pass) (c : Cell) : Cell :=
  match c.task with
  | some t => if P.applies c t then P.repair (P.update t) (c.mapTask P.update) else c
  | none => c

section Passes

variable (env : Env)

/-- The queue deadline of a task that nobody holds is over. -/
def Task.queueTimedOut (now : Time) (t : Task) : Bool :=
  decide (t.status = .queued) && due t.queueDeadlineAt now && t.leaseFree now

def Task.upstreamTimedOut (now : Time) (t : Task) : Bool :=
  t.inFlight && due t.upstreamDeadlineAt now

/-- No worker has ever claimed the task, and its hold has expired. -/
def Cell.holdExpired (now : Time) (c : Cell) (t : Task) : Bool :=
  decide (t.status = .queued) && decide (t.executionAttempt = 0) &&
    c.reservation.any fun r => r.held && decide (r.expiresAt ≤ now)

def Pass.queueTimeout : Pass where
  applies _ t := t.queueTimedOut env.now
  update := Task.fail env.now "queue_timeout" "task exceeded its queue deadline before submission"
  repair _ := Cell.finish env.now "queue_timeout"

def Pass.upstream : Pass where
  applies _ t := t.upstreamTimedOut env.now
  update := Task.expireUpstream env.now
  repair _ := Cell.mapOutbox (OutboxRow.deliver env.now)

def Pass.unsubmitted : Pass where
  applies _ t := t.lapsedUnsubmitted env.now
  update := Task.requeue
  repair := Cell.requeue env

def Pass.inFlight : Pass where
  applies _ t := t.lapsedInFlight env.now
  update := Task.clearLease
  repair := Cell.requeue env

def Pass.reservation : Pass where
  applies c t := c.holdExpired env.now t
  update := Task.fail env.now "reservation_expired"
    "task was not submitted before its account capacity reservation expired"
  repair _ := Cell.finish env.now "reservation_expired"

def Task.abandon (now : Time) (t : Task) : Task :=
  t.uncertain now "submission_uncertain"
    "worker stopped after submission began; task was not resubmitted"

/-- The pass that also delivers the outbox rows of the tasks that were uncertain before. -/
def Cell.markUncertain (c : Cell) : Cell :=
  match c.task with
  | some t =>
    if t.abandoned env.now then
      (c.mapTask (Task.abandon env.now)).mapOutbox (OutboxRow.deliver env.now)
    else if t.status = .submissionUncertain then c.mapOutbox (OutboxRow.deliver env.now)
    else c
  | none => c

/-- The six passes on one task. -/
def Cell.passes (c : Cell) : Cell :=
  (Pass.reservation env).run <| (Pass.inFlight env).run <| Cell.markUncertain env <|
    (Pass.unsubmitted env).run <| (Pass.upstream env).run <| (Pass.queueTimeout env).run c

/-- The decision about one task. -/
def Cell.recover (c : Cell) : Cell :=
  match c.task with
  | none => c
  | some t =>
    if t.queueTimedOut env.now then
      (c.mapTask (Pass.queueTimeout env).update).finish env.now "queue_timeout"
    else if t.upstreamTimedOut env.now then
      (c.mapTask (Task.expireUpstream env.now)).mapOutbox (OutboxRow.deliver env.now)
    else if t.lapsedUnsubmitted env.now then (c.mapTask Task.requeue).requeue env t.requeue
    else if t.abandoned env.now then
      (c.mapTask (Task.abandon env.now)).mapOutbox (OutboxRow.deliver env.now)
    else if t.lapsedInFlight env.now then (c.mapTask Task.clearLease).requeue env t.clearLease
    else if c.holdExpired env.now t then
      (c.mapTask (Pass.reservation env).update).finish env.now "reservation_expired"
    else if t.status = .submissionUncertain then c.mapOutbox (OutboxRow.deliver env.now)
    else c

end Passes

section Runs

variable {env : Env} {P : Pass} {c c' : Cell} {t : Task}

theorem Pass.run_of_applies (ht : c.task = some t) (hp : P.applies c t = true) :
    P.run c = P.repair (P.update t) (c.mapTask P.update) := by
  simp [Pass.run, ht, hp]

theorem Pass.run_of_not (h : ∀ t, c.task = some t → P.applies c t = false) : P.run c = c := by
  unfold Pass.run
  cases ht : c.task with
  | none => rfl
  | some t => simp [h t ht]

/-- The pass reads no outbox row, and the tasks that it selects leave the queue. -/
structure Pass.Separate (P : Pass) : Prop where
  leaves : ∀ c t, P.applies c t = true → (P.update t).status ≠ .queued
  blind : ∀ c f t, P.applies (c.mapOutbox f) t = P.applies c t
  task : ∀ t c, (P.repair t c).task = c.task

theorem Pass.Separate.applies_woken (hP : P.Separate) {now : Time} (hw : Cell.Woken now c c')
    (t : Task) : P.applies c' t = P.applies c t := by
  rcases hw with rfl | ⟨-, rfl⟩
  · rfl
  · exact hP.blind c _ t

/-- A task woken after a pass could as well have been woken before it. -/
theorem Pass.Separate.woken_run (hP : P.Separate) {now : Time} (hw : Cell.Woken now (P.run c) c') :
    ∃ c₀, Cell.Woken now c c₀ ∧ c' = P.run c₀ := by
  by_cases happ : ∃ t, c.task = some t ∧ P.applies c t = true
  · obtain ⟨t, ht, hp⟩ := happ
    refine ⟨c, .refl now c, hw.eq_of_not_queued ?_⟩
    intro t' ht'
    rw [Pass.run_of_applies ht hp, hP.task] at ht'
    simp only [Cell.mapTask, ht, Option.map_some, Option.some.injEq] at ht'
    rw [← ht']
    exact hP.leaves c t hp
  · have hnot : ∀ t, c.task = some t → P.applies c t = false := by
      intro t ht
      by_contra hp
      exact happ ⟨t, ht, by simpa using hp⟩
    rw [Pass.run_of_not hnot] at hw
    refine ⟨c', hw, (Pass.run_of_not fun t ht => ?_).symm⟩
    rw [hP.applies_woken hw]
    exact hnot t (hw.task.symm.trans ht)

variable {body : Task → Tx Unit} {p : Database → Task → Bool} {hf : ∀ t, (P.update t).id = t.id}
  {db db₁ db' : Database} {rows : List Task} {u : Unit}

/-- A pass whose turns wake other tasks. -/
theorem Pass.Separate.ok (hP : P.Separate) {now : Time} {k : UUID}
    (hp : ∀ t, db.tasks.get? k = some t → p db t = P.applies (db.cell k) t)
    (hbody : ∀ t db db' u, body t db = .ok (u, db') →
      ∃ db₁, Touches t.id (P.repair t) db db₁ ∧ ∀ k, Cell.Woken now (db₁.cell k) (db'.cell k))
    (hbulk : updateTasks p P.update hf db = .ok (rows, db₁))
    (hloop : rows.forM body db₁ = .ok (u, db')) :
    ∃ c, Cell.Woken now (db.cell k) c ∧ db'.cell k = P.run c := by
  obtain ⟨hin, hout⟩ := pass_cell (Cell.Woken.refl now) (fun _ _ _ => Cell.Woken.trans) hbody hbulk
    hloop k
  by_cases happ : ∃ t, db.tasks.get? k = some t ∧ P.applies (db.cell k) t = true
  · obtain ⟨t, ht, hpt⟩ := happ
    obtain ⟨c, hc, hc'⟩ := hin t ht ((hp t ht).trans hpt)
    refine ⟨db.cell k, .refl now _, ?_⟩
    rw [cell_of_turn ht (hP.leaves _ t hpt) (hP.task _) hc hc', Pass.run_of_applies ht hpt]
  · have hnot : ∀ t, db.tasks.get? k = some t → P.applies (db.cell k) t = false := by
      intro t ht
      by_contra hpt
      exact happ ⟨t, ht, by simpa using hpt⟩
    have hw := hout fun t ht => (hp t ht).trans (hnot t ht)
    refine ⟨_, hw, (Pass.run_of_not fun t ht => ?_).symm⟩
    rw [hP.applies_woken hw]
    exact hnot t (hw.task.symm.trans ht)

/-- A pass whose turns only touch their own tasks. -/
theorem Pass.ok {k : UUID} (hp : ∀ t, db.tasks.get? k = some t → p db t = P.applies (db.cell k) t)
    (hbody : ∀ t db db' u, body t db = .ok (u, db') → Touches t.id (P.repair t) db db')
    (hbulk : updateTasks p P.update hf db = .ok (rows, db₁))
    (hloop : rows.forM body db₁ = .ok (u, db')) : db'.cell k = P.run (db.cell k) := by
  obtain ⟨hin, hout⟩ := pass_cell (R := fun c c' => c' = c) (fun _ => rfl)
    (fun _ _ _ h h' => h'.trans h) (fun t a b u h => ⟨b, hbody t a b u h, fun _ => rfl⟩) hbulk hloop k
  by_cases happ : ∃ t, db.tasks.get? k = some t ∧ P.applies (db.cell k) t = true
  · obtain ⟨t, ht, hpt⟩ := happ
    obtain ⟨c, rfl, hc'⟩ := hin t ht ((hp t ht).trans hpt)
    rw [hc', Pass.run_of_applies ht hpt]
  · have hnot : ∀ t, db.tasks.get? k = some t → P.applies (db.cell k) t = false := by
      intro t ht
      by_contra hpt
      exact happ ⟨t, ht, by simpa using hpt⟩
    rw [hout fun t ht => (hp t ht).trans (hnot t ht), Pass.run_of_not hnot]

end Runs

section Recovery

variable {env : Env} {db db' : Database} {out : List RecoveryTask}

theorem queueTimeout_separate : (Pass.queueTimeout env).Separate where
  leaves _ _ _ := by simp [Pass.queueTimeout, Task.fail]
  blind _ _ _ := rfl
  task _ c := Cell.finish_task env.now _ c

theorem upstream_separate : (Pass.upstream env).Separate where
  leaves _ _ _ := by simp [Pass.upstream, Task.expireUpstream]
  blind _ _ _ := rfl
  task _ _ := rfl

theorem failExpiredQueued_run (h : failExpiredQueued env db = .ok (out, db')) (k : UUID) :
    ∃ c, Cell.Woken env.now (db.cell k) c ∧ db'.cell k = (Pass.queueTimeout env).run c := by
  obtain ⟨rows, db₁, hbulk, h⟩ := bind_eq_ok.mp h
  obtain ⟨u, db₂, hloop, h⟩ := bind_eq_ok.mp h
  obtain ⟨-, rfl⟩ := pure_eq_ok.mp h
  refine queueTimeout_separate.ok (fun _ _ => rfl) ?_ hbulk hloop
  intro t a b _ hbody
  obtain ⟨account, -, hbody⟩ := scanAccount_ok hbody
  exact finish_body hbody

theorem expireUpstream_run (h : expireUpstream env db = .ok (out, db')) (k : UUID) :
    ∃ c, Cell.Woken env.now (db.cell k) c ∧ db'.cell k = (Pass.upstream env).run c := by
  obtain ⟨rows, db₁, hbulk, h⟩ := bind_eq_ok.mp h
  obtain ⟨u, db₂, hloop, h⟩ := bind_eq_ok.mp h
  obtain ⟨-, rfl⟩ := pure_eq_ok.mp h
  refine upstream_separate.ok (fun _ _ => rfl) ?_ hbulk hloop
  intro t a b _ hbody
  obtain ⟨account, -, hbody⟩ := scanAccount_ok hbody
  obtain ⟨x, b₁, h₁, h₂⟩ := bind_eq_ok.mp hbody
  exact ⟨b₁, (deliverOutbox_ok h₁).1, (wakeQueuedTasksTx_ok h₂).cell⟩

theorem requeue_body {t : Task} {u : Unit} (h : (do
      let _ ← extendReservation t.id fun e => max e (env.now + minutes 20)
      upsertOutbox { OutboxRow.new env t.id t.kind with
          lastError := "lease expired; redispatch requested" }
        (fun o => { o.reset env.now with lastError := "lease expired; redispatch requested" })
        fun _ => rfl : Tx Unit) db = .ok (u, db')) :
    Touches t.id (Cell.requeue env t) db db' := by
  obtain ⟨x, db₁, h₁, h₂⟩ := bind_eq_ok.mp h
  exact (extendReservation_ok h₁).1.trans (upsertOutbox_ok h₂).1

theorem requeueUnsubmitted_run (h : requeueUnsubmitted env db = .ok (out, db')) (k : UUID) :
    db'.cell k = (Pass.unsubmitted env).run (db.cell k) := by
  obtain ⟨rows, db₁, hbulk, h⟩ := bind_eq_ok.mp h
  obtain ⟨u, db₂, hloop, h⟩ := bind_eq_ok.mp h
  obtain ⟨-, rfl⟩ := pure_eq_ok.mp h
  exact Pass.ok (fun _ _ => rfl) (fun t a b _ hbody => requeue_body hbody) hbulk hloop

theorem requeueInFlight_run (h : requeueInFlight env db = .ok (out, db')) (k : UUID) :
    db'.cell k = (Pass.inFlight env).run (db.cell k) := by
  obtain ⟨rows, db₁, hbulk, h⟩ := bind_eq_ok.mp h
  obtain ⟨u, db₂, hloop, h⟩ := bind_eq_ok.mp h
  obtain ⟨-, rfl⟩ := pure_eq_ok.mp h
  exact Pass.ok (fun _ _ => rfl) (fun t a b _ hbody => requeue_body hbody) hbulk hloop

theorem failExpiredReservations_run (h : failExpiredReservations env db = .ok (out, db'))
    (k : UUID) : db'.cell k = (Pass.reservation env).run (db.cell k) := by
  obtain ⟨rows, db₁, hbulk, h⟩ := bind_eq_ok.mp h
  obtain ⟨u, db₂, hloop, h⟩ := bind_eq_ok.mp h
  obtain ⟨-, rfl⟩ := pure_eq_ok.mp h
  refine Pass.ok ?_ ?_ hbulk hloop
  · intro t ht
    obtain rfl : t.id = k := Table.key_of_get? ht
    rfl
  · intro t a b _ hbody
    obtain ⟨x, b₁, h₁, h₂⟩ := bind_eq_ok.mp hbody
    exact (releaseReservation_ok h₁).1.trans (deliverOutbox_ok h₂).1

theorem markUncertain_run {u : Unit} (h : markUncertain env db = .ok (u, db')) (k : UUID) :
    db'.cell k = (db.cell k).markUncertain env := by
  obtain ⟨rows, db₁, hbulk, h₁⟩ := bind_eq_ok.mp h
  obtain ⟨db₂, db₃, hget, h₂⟩ := bind_eq_ok.mp h₁
  obtain ⟨rfl, rfl⟩ := get_eq_ok.mp hget
  obtain ⟨-, hcell, -⟩ := updateTasks_ok hbulk
  rw [updateOutbox_of_task
    (q := fun k => (db₃.tasks.get? k).any fun t => t.status = .submissionUncertain) h₂ k]
  have htask : db₃.tasks.get? k = _ := congrArg Cell.task (hcell k)
  rw [htask, hcell]
  unfold Cell.markUncertain
  cases ht : db.tasks.get? k with
  | none => simp [Cell.mapTask, Database.cell, ht]
  | some t =>
    by_cases hp : t.abandoned env.now = true
    · simp [Cell.mapTask, Cell.mapOutbox, Database.cell, ht, hp, Task.abandon]
    · by_cases hu : t.status = .submissionUncertain
      · simp [Cell.mapTask, Cell.mapOutbox, Database.cell, ht, hp, hu]
      · simp [Cell.mapTask, Database.cell, ht, hp, hu]

/-- The transaction is its passes. -/
theorem recoverStaleTasks_passes {tasks : List RecoveryTask}
    (h : recoverStaleTasks env db = .ok (.commit tasks, db')) (k : UUID) :
    ∃ c, Cell.Woken env.now (db.cell k) c ∧ db'.cell k = c.passes env := by
  obtain ⟨_, db₁, h₁, h⟩ := bind_eq_ok.mp h
  obtain ⟨_, db₂, h₂, h⟩ := bind_eq_ok.mp h
  obtain ⟨_, db₃, h₃, h⟩ := bind_eq_ok.mp h
  obtain ⟨_, db₄, h₄, h⟩ := bind_eq_ok.mp h
  obtain ⟨_, db₅, h₅, h⟩ := bind_eq_ok.mp h
  obtain ⟨_, db₆, h₆, h⟩ := bind_eq_ok.mp h
  obtain ⟨-, rfl⟩ := pure_eq_ok.mp h
  obtain ⟨c₁, hw₁, hc₁⟩ := failExpiredQueued_run h₁ k
  obtain ⟨c₂, hw₂, hc₂⟩ := expireUpstream_run h₂ k
  rw [hc₁] at hw₂
  obtain ⟨c, hw, rfl⟩ := queueTimeout_separate.woken_run hw₂
  refine ⟨c, hw₁.trans hw, ?_⟩
  rw [failExpiredReservations_run h₆, requeueInFlight_run h₅, markUncertain_run h₄,
    requeueUnsubmitted_run h₃, hc₂]
  rfl

end Recovery

section Decision

variable {env : Env} {c : Cell} {t : Task}

/-- The extension leaves no hold that has expired. -/
theorem Cell.holdExpired_requeue (t' : Task) (c : Cell) (t : Task) :
    (c.requeue env t').holdExpired env.now t = false := by
  rcases c with ⟨task, reservation, outbox, ledger⟩
  unfold Cell.holdExpired Cell.requeue Cell.extend
  have hlater : 0 < minutes 20 := by decide
  cases reservation with
  | none => simp
  | some r =>
    by_cases hheld : r.held = true
    · simp [hheld, hlater]
    · simp [hheld]



/-- A pass selects tasks of these statuses only. -/
def Pass.From (P : Pass) (statuses : List TaskStatus) : Prop :=
  ∀ c t, P.applies c t = true → t.status ∈ statuses

theorem Pass.From.skip {P : Pass} {statuses : List TaskStatus} (hP : P.From statuses)
    (ht : c.task = some t) (hs : t.status ∉ statuses) : P.run c = c := by
  apply Pass.run_of_not
  intro t' ht'
  rw [ht] at ht'
  cases ht'
  by_contra hp
  exact hs (hP c t (by simpa using hp))

theorem queueTimeout_from : (Pass.queueTimeout env).From [.queued] := by
  intro c t hp
  simp only [Pass.queueTimeout, Task.queueTimedOut, Bool.and_eq_true, decide_eq_true_eq] at hp
  simp [hp.1.1]

theorem upstream_from : (Pass.upstream env).From [.submitted, .polling] := by
  intro c t hp
  simp only [Pass.upstream, Task.upstreamTimedOut, Task.inFlight, Bool.and_eq_true,
    Bool.or_eq_true, decide_eq_true_eq] at hp
  simpa using hp.1.1

theorem unsubmitted_from : (Pass.unsubmitted env).From [.reserving, .uploading] := by
  intro c t hp
  simp only [Pass.unsubmitted, Task.lapsedUnsubmitted, Bool.and_eq_true, Bool.or_eq_true,
    decide_eq_true_eq] at hp
  simpa using hp.1

theorem inFlight_from : (Pass.inFlight env).From [.submitted, .polling] := by
  intro c t hp
  simp only [Pass.inFlight, Task.lapsedInFlight, Task.inFlight, Bool.and_eq_true,
    Bool.or_eq_true, decide_eq_true_eq] at hp
  simpa using hp.1.1

theorem reservation_from : (Pass.reservation env).From [.queued] := by
  intro c t hp
  simp only [Pass.reservation, Cell.holdExpired, Bool.and_eq_true, decide_eq_true_eq] at hp
  simp [hp.1.1]

theorem markUncertain_skip (ht : c.task = some t)
    (hs : t.status ∉ [TaskStatus.submitted, .submissionUncertain]) : c.markUncertain env = c := by
  simp only [List.mem_cons, List.not_mem_nil, or_false, not_or] at hs
  simp [Cell.markUncertain, ht, hs, Task.abandoned]

theorem Pass.run_of_task {P : Pass} (ht : c.task = some t) (hp : ¬ P.applies c t = true) :
    P.run c = c := by
  simp [Pass.run, ht, hp]

theorem markUncertain_of_uncertain (ht : c.task = some t) (hs : t.status = .submissionUncertain) :
    c.markUncertain env = c.mapOutbox (OutboxRow.deliver env.now) := by
  simp [Cell.markUncertain, ht, hs, Task.abandoned]

/-- The pass over the uncertain tasks delivers once more what an earlier pass has delivered. -/
theorem Cell.mapOutbox_deliver (now : Time) (c : Cell) :
    (c.mapOutbox (OutboxRow.deliver now)).mapOutbox (OutboxRow.deliver now) =
      c.mapOutbox (OutboxRow.deliver now) := by
  cases ho : c.outbox <;> simp [Cell.mapOutbox, ho, OutboxRow.deliver]

theorem passes_of_queueTimedOut (ht : c.task = some t) (h : t.queueTimedOut env.now = true) :
    c.passes env = (c.mapTask (Pass.queueTimeout env).update).finish env.now "queue_timeout" := by
  have hrun : (Pass.queueTimeout env).run c =
      (c.mapTask (Pass.queueTimeout env).update).finish env.now "queue_timeout" :=
    Pass.run_of_applies ht h
  have htask : ((c.mapTask (Pass.queueTimeout env).update).finish env.now "queue_timeout").task =
      some ((Pass.queueTimeout env).update t) := by
    simp [Cell.mapTask, ht]
  have hs : ((Pass.queueTimeout env).update t).status = .failed := rfl
  rw [Cell.passes, hrun, upstream_from.skip htask (by simp [hs]),
    unsubmitted_from.skip htask (by simp [hs]), markUncertain_skip htask (by simp [hs]),
    inFlight_from.skip htask (by simp [hs]), reservation_from.skip htask (by simp [hs])]

theorem passes_of_upstreamTimedOut (ht : c.task = some t) (h : t.upstreamTimedOut env.now = true) :
    c.passes env = (c.mapTask (Task.expireUpstream env.now)).mapOutbox
      (OutboxRow.deliver env.now) := by
  have hrun : (Pass.upstream env).run c = (c.mapTask (Task.expireUpstream env.now)).mapOutbox
      (OutboxRow.deliver env.now) := Pass.run_of_applies ht h
  have htask : ((c.mapTask (Task.expireUpstream env.now)).mapOutbox
      (OutboxRow.deliver env.now)).task = some (t.expireUpstream env.now) := by
    simp [Cell.mapTask, Cell.mapOutbox, ht]
  have hs : (t.expireUpstream env.now).status = .submissionUncertain := rfl
  have hfrom : t.status ∈ [.submitted, .polling] := upstream_from c t h
  have hqueued : t.status ∉ [TaskStatus.queued] := by
    intro hq
    simp [List.mem_singleton.mp hq] at hfrom
  have hmark : Cell.markUncertain env ((c.mapTask (Task.expireUpstream env.now)).mapOutbox
      (OutboxRow.deliver env.now)) = (c.mapTask (Task.expireUpstream env.now)).mapOutbox
      (OutboxRow.deliver env.now) := by
    rw [markUncertain_of_uncertain htask hs, Cell.mapOutbox_deliver]
  rw [Cell.passes, queueTimeout_from.skip ht hqueued, hrun,
    unsubmitted_from.skip htask (by simp [hs]), hmark, inFlight_from.skip htask (by simp [hs]),
    reservation_from.skip htask (by simp [hs])]

theorem passes_of_lapsedUnsubmitted (ht : c.task = some t)
    (h : t.lapsedUnsubmitted env.now = true) :
    c.passes env = (c.mapTask Task.requeue).requeue env t.requeue := by
  have hrun : (Pass.unsubmitted env).run c = (c.mapTask Task.requeue).requeue env t.requeue :=
    Pass.run_of_applies ht h
  have htask : ((c.mapTask Task.requeue).requeue env t.requeue).task = some t.requeue := by
    simp [Cell.requeue, Cell.extend, Cell.mapTask, ht]
  have hs : t.requeue.status = .queued := rfl
  have hfrom : t.status ∈ [.reserving, .uploading] := unsubmitted_from c t h
  have hheld : ¬ (Pass.reservation env).applies ((c.mapTask Task.requeue).requeue env t.requeue)
      t.requeue = true := by
    rw [show (Pass.reservation env).applies = Cell.holdExpired env.now from rfl,
      Cell.holdExpired_requeue]
    exact Bool.false_ne_true
  rw [Cell.passes, queueTimeout_from.skip ht (by grind), upstream_from.skip ht (by grind), hrun,
    markUncertain_skip htask (by simp [hs]), inFlight_from.skip htask (by simp [hs]),
    Pass.run_of_task htask hheld]

theorem passes_of_abandoned (ht : c.task = some t) (h : t.abandoned env.now = true) :
    c.passes env = (c.mapTask (Task.abandon env.now)).mapOutbox (OutboxRow.deliver env.now) := by
  have hrun : c.markUncertain env = (c.mapTask (Task.abandon env.now)).mapOutbox
      (OutboxRow.deliver env.now) := by
    simp [Cell.markUncertain, ht, h]
  have htask : ((c.mapTask (Task.abandon env.now)).mapOutbox (OutboxRow.deliver env.now)).task =
      some (t.abandon env.now) := by
    simp [Cell.mapTask, Cell.mapOutbox, ht]
  have hs : (t.abandon env.now).status = .submissionUncertain := rfl
  have hsub : t.status = .submitted ∧ t.generationID = "" := by
    simp only [Task.abandoned, Bool.and_eq_true, decide_eq_true_eq] at h
    exact h.1
  have hup : ¬ (Pass.upstream env).applies c t = true := by
    simp [Pass.upstream, Task.upstreamTimedOut, Task.inFlight, hsub.2]
  rw [Cell.passes, queueTimeout_from.skip ht (by simp [hsub.1]), Pass.run_of_task ht hup,
    unsubmitted_from.skip ht (by simp [hsub.1]), hrun, inFlight_from.skip htask (by simp [hs]),
    reservation_from.skip htask (by simp [hs])]

theorem passes_of_lapsedInFlight (ht : c.task = some t) (hup : ¬ t.upstreamTimedOut env.now = true)
    (h : t.lapsedInFlight env.now = true) :
    c.passes env = (c.mapTask Task.clearLease).requeue env t.clearLease := by
  have hrun : (Pass.inFlight env).run c = (c.mapTask Task.clearLease).requeue env t.clearLease :=
    Pass.run_of_applies ht h
  have htask : ((c.mapTask Task.clearLease).requeue env t.clearLease).task = some t.clearLease := by
    simp [Cell.requeue, Cell.extend, Cell.mapTask, ht]
  have hs : t.clearLease.status = t.status := rfl
  have hfrom : t.status ∈ [.submitted, .polling] := inFlight_from c t h
  have hgen : t.generationID ≠ "" := by
    simp only [Task.lapsedInFlight, Task.inFlight, Bool.and_eq_true, decide_eq_true_eq] at h
    exact h.1.2
  have hmark : c.markUncertain env = c := by
    have hne : t.status ≠ .submissionUncertain := by grind
    simp [Cell.markUncertain, ht, hne, Task.abandoned, hgen]
  rw [Cell.passes, queueTimeout_from.skip ht (by grind), Pass.run_of_task ht hup,
    unsubmitted_from.skip ht (by grind), hmark, hrun, reservation_from.skip htask (by grind)]

theorem passes_of_holdExpired (ht : c.task = some t) (hq : ¬ t.queueTimedOut env.now = true)
    (h : c.holdExpired env.now t = true) :
    c.passes env = (c.mapTask (Pass.reservation env).update).finish env.now
      "reservation_expired" := by
  have hrun : (Pass.reservation env).run c =
      (c.mapTask (Pass.reservation env).update).finish env.now "reservation_expired" :=
    Pass.run_of_applies ht h
  have hs : t.status = .queued := List.mem_singleton.mp (reservation_from c t h)
  rw [Cell.passes, Pass.run_of_task ht hq, upstream_from.skip ht (by simp [hs]),
    unsubmitted_from.skip ht (by simp [hs]), markUncertain_skip ht (by simp [hs]),
    inFlight_from.skip ht (by simp [hs]), hrun]

/-- At most one of the conditions holds of a task, and a pass leaves nothing for those after it. -/
theorem Cell.passes_eq_recover (c : Cell) : c.passes env = c.recover env := by
  cases ht : c.task with
  | none => simp [Cell.passes, Cell.recover, Pass.run, Cell.markUncertain, ht]
  | some t =>
    simp only [Cell.recover, ht]
    split_ifs with h₁ h₂ h₃ h₄ h₅ h₆ h₇
    · exact passes_of_queueTimedOut ht h₁
    · exact passes_of_upstreamTimedOut ht h₂
    · exact passes_of_lapsedUnsubmitted ht h₃
    · exact passes_of_abandoned ht h₄
    · exact passes_of_lapsedInFlight ht h₂ h₅
    · exact passes_of_holdExpired ht h₁ h₆
    · have hmark : c.markUncertain env = c.mapOutbox (OutboxRow.deliver env.now) :=
        markUncertain_of_uncertain ht h₇
      have htask : (c.mapOutbox (OutboxRow.deliver env.now)).task = some t := ht
      rw [Cell.passes, Pass.run_of_task ht h₁, Pass.run_of_task ht h₂, Pass.run_of_task ht h₃,
        hmark, inFlight_from.skip htask (by simp [h₇]), reservation_from.skip htask (by simp [h₇])]
    · have hmark : c.markUncertain env = c := by
        simp [Cell.markUncertain, ht, h₄, h₇]
      rw [Cell.passes, Pass.run_of_task ht h₁, Pass.run_of_task ht h₂, Pass.run_of_task ht h₃,
        hmark, Pass.run_of_task ht h₅, Pass.run_of_task ht h₆]


/-- One of the conditions of the recovery holds. -/
def Cell.stale (now : Time) (c : Cell) : Bool :=
  c.task.any fun t =>
    t.queueTimedOut now || t.upstreamTimedOut now || t.lapsedUnsubmitted now || t.abandoned now ||
      t.lapsedInFlight now || c.holdExpired now t

theorem Cell.Woken.stale {now : Time} (h : Cell.Woken now c c') : c'.stale now = c.stale now := by
  rcases h with rfl | ⟨-, rfl⟩ <;> rfl

theorem stale_of_ended {now : Time} (ht : c.task = some t)
    (hs : t.status = .failed ∨ t.status = .submissionUncertain) : c.stale now = false := by
  rcases hs with hs | hs <;>
    simp [Cell.stale, ht, hs, Task.queueTimedOut, Task.upstreamTimedOut, Task.inFlight,
      Task.lapsedUnsubmitted, Task.abandoned, Task.lapsedInFlight, Cell.holdExpired]

/-- The decision may have to be followed by a second one for a task that it offers again although
its time in the queue is over. -/
theorem Cell.stale_recover (h : (c.recover env).stale env.now = true) :
    ∃ t, c.task = some t ∧ t.lapsedUnsubmitted env.now = true ∧ due t.queueDeadlineAt env.now = true ∧
      (c.recover env).task = some t.requeue := by
  cases ht : c.task with
  | none => simp [Cell.recover, Cell.stale, ht] at h
  | some t =>
    refine ⟨t, rfl, ?_⟩
    simp only [Cell.recover, ht] at h ⊢
    split_ifs at h ⊢ with h₁ h₂ h₃ h₄ h₅ h₆ h₇
    · rw [stale_of_ended (t := (Pass.queueTimeout env).update t) (by simp [Cell.mapTask, ht])
        (.inl rfl)] at h
      cases h
    · rw [stale_of_ended (t := t.expireUpstream env.now)
        (by simp [Cell.mapTask, Cell.mapOutbox, ht]) (.inr rfl)] at h
      cases h
    · have htask : ((c.mapTask Task.requeue).requeue env t.requeue).task = some t.requeue := by
        simp [Cell.requeue, Cell.extend, Cell.mapTask, ht]
      rw [Cell.stale, htask, Option.any_some, Cell.holdExpired_requeue] at h
      refine ⟨h₃, ?_, htask⟩
      simpa [Task.requeue, Task.clearLease, Task.queueTimedOut, Task.upstreamTimedOut,
        Task.inFlight, Task.lapsedUnsubmitted, Task.abandoned, Task.lapsedInFlight,
        Task.leaseFree] using h
    · rw [stale_of_ended (t := t.abandon env.now)
        (by simp [Cell.mapTask, Cell.mapOutbox, ht]) (.inr rfl)] at h
      cases h
    · have htask : ((c.mapTask Task.clearLease).requeue env t.clearLease).task =
          some t.clearLease := by
        simp [Cell.requeue, Cell.extend, Cell.mapTask, ht]
      have hfrom : t.status ∈ [.submitted, .polling] := inFlight_from c t h₅
      have hq : t.clearLease.queueTimedOut env.now = false := by
        rcases List.mem_pair.mp hfrom with hs | hs <;>
          simp [Task.queueTimedOut, Task.clearLease, hs]
      have hup : t.clearLease.upstreamTimedOut env.now = false := Bool.eq_false_iff.mpr h₂
      rw [Cell.stale, htask, Option.any_some, Cell.holdExpired_requeue, hq, hup] at h
      simp [Task.clearLease, Task.lapsedUnsubmitted, Task.abandoned, Task.lapsedInFlight,
        due] at h
    · rw [stale_of_ended (t := (Pass.reservation env).update t) (by simp [Cell.mapTask, ht])
        (.inl rfl)] at h
      cases h
    · rw [stale_of_ended (t := t) (by simp [Cell.mapOutbox, ht]) (.inr h₇)] at h
      cases h
    · simp [Cell.stale, ht, h₁, h₂, h₃, h₄, h₅, h₆] at h

variable {env' : Env} {db db₁ db₂ : Database} {tasks tasks₁ tasks₂ : List RecoveryTask}

/-- A recovery decides about each task once, as it finds the task or as its own wake-ups leave it. -/
theorem recoverStaleTasks_cell (h : recoverStaleTasks env db = .ok (.commit tasks, db₁))
    (k : UUID) : ∃ c, Cell.Woken env.now (db.cell k) c ∧ db₁.cell k = c.recover env := by
  obtain ⟨c, hw, hc⟩ := recoverStaleTasks_passes h k
  exact ⟨c, hw, hc.trans c.passes_eq_recover⟩

/-- What a recovery leaves to the next one. -/
theorem recoverStaleTasks_stale (h : recoverStaleTasks env db = .ok (.commit tasks, db₁)) {k : UUID}
    (hstale : (db₁.cell k).stale env.now = true) :
    ∃ t, db.tasks.get? k = some t ∧ t.lapsedUnsubmitted env.now = true ∧
      due t.queueDeadlineAt env.now = true ∧ db₁.tasks.get? k = some t.requeue := by
  obtain ⟨c, hw, hc⟩ := recoverStaleTasks_cell h k
  rw [hc] at hstale
  obtain ⟨t, ht, hlapsed, hdue, htask⟩ := Cell.stale_recover hstale
  refine ⟨t, hw.task.symm.trans ht, hlapsed, hdue, ?_⟩
  rw [← hc] at htask
  exact htask

/-- The six passes make one decision about each task. A task offered again past its queue deadline
is all that the next recovery could still act on, and that one leaves nothing. -/
theorem recoverStaleTasks_settles (hclock : env'.now = env.now)
    (h₁ : recoverStaleTasks env db = .ok (.commit tasks₁, db₁))
    (h₂ : recoverStaleTasks env' db₁ = .ok (.commit tasks₂, db₂)) (k : UUID) :
    (∃ c, Cell.Woken env.now (db.cell k) c ∧ db₁.cell k = c.recover env) ∧
      ((db₁.cell k).stale env.now = true →
        ∃ t, db.tasks.get? k = some t ∧ t.lapsedUnsubmitted env.now = true ∧
          due t.queueDeadlineAt env.now = true ∧ db₁.tasks.get? k = some t.requeue) ∧
      (db₂.cell k).stale env.now = false := by
  refine ⟨recoverStaleTasks_cell h₁ k, recoverStaleTasks_stale h₁, ?_⟩
  by_contra hstale
  rw [Bool.not_eq_false, ← hclock] at hstale
  obtain ⟨t, ht, hlapsed, -, -⟩ := recoverStaleTasks_stale h₂ hstale
  have hbefore : (db₁.cell k).stale env.now = true := by
    rw [hclock] at hlapsed
    simp [Cell.stale, Database.cell, ht, hlapsed]
  obtain ⟨s, -, -, -, hs⟩ := recoverStaleTasks_stale h₁ hbefore
  rw [ht, Option.some.injEq] at hs
  simp [hs, Task.requeue, Task.lapsedUnsubmitted] at hlapsed

theorem recover_commits {k : UUID}
    (hchanged : ((Operation.recover.apply env db).cell k).task ≠ (db.cell k).task) :
    ∃ tasks, recoverStaleTasks env db = .ok (.commit tasks, Operation.recover.apply env db) := by
  rcases Operation.apply_commits env .recover db with hsame | hcommits
  · rw [hsame] at hchanged
    exact absurd rfl hchanged
  · exact hcommits

/-- The worker that claimed the task 20 has not come back within the hour. -/
theorem recoverStaleTasks_settles_requeued :
    let db := ((smallStore smallAccounts).after (smallLife.take 2)).db
    let db₁ := Operation.recover.apply (atTime (hours 1)) db
    let db₂ := Operation.recover.apply (atTime (hours 1)) db₁
    (db₁.cell 20).stale (hours 1) = true ∧ (db₂.cell 20).stale (hours 1) = false := by
  intro db db₁ db₂
  obtain ⟨tasks₁, h₁⟩ : ∃ tasks, recoverStaleTasks _ db = .ok (.commit tasks, db₁) :=
    recover_commits (k := 20) (by decide +kernel)
  obtain ⟨tasks₂, h₂⟩ : ∃ tasks, recoverStaleTasks _ db₁ = .ok (.commit tasks, db₂) :=
    recover_commits (k := 20) (by decide +kernel)
  exact ⟨by decide +kernel, (recoverStaleTasks_settles rfl h₁ h₂ 20).2.2⟩

end Decision

end GenerationGateway
