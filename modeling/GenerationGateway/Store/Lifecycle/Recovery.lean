import GenerationGateway.Store.Lifecycle.Transition
import GenerationGateway.Store.Dispatch

/-!
# Transitions made by recovery, cancellation and dispatch

A pass of the recovery updates its tasks in bulk and repairs their other rows
one by one. The loop lemma gives, for each task, the cell before and after its
own turn; the other turns can only wake it.
-/

namespace GenerationGateway

open Relational

section Loop

variable {R : Cell → Cell → Prop} {body : Task → Tx Unit} {F : Task → Cell → Cell}

/-- A loop over distinct tasks. Each turn changes its own task by `F` and all
tasks by `R`. -/
theorem forM_touches (hrefl : ∀ c, R c c) (htrans : ∀ a b c, R a b → R b c → R a c)
    (hbody : ∀ t db db' u, body t db = .ok (u, db') →
      ∃ db₁, Touches t.id (F t) db db₁ ∧ ∀ k, R (db₁.cell k) (db'.cell k))
    {rows : List Task} (hnodup : (rows.map Task.id).Nodup) {db db' : Database} {u : Unit}
    (h : rows.forM body db = .ok (u, db')) (k : UUID) :
    (k ∉ rows.map Task.id → R (db.cell k) (db'.cell k)) ∧
      ∀ t ∈ rows, t.id = k → ∃ c, R (db.cell k) c ∧ R (F t c) (db'.cell k) := by
  induction rows generalizing db with
  | nil =>
    obtain ⟨-, rfl⟩ := pure_eq_ok.mp h
    exact ⟨fun _ => hrefl _, by simp⟩
  | cons t rest ih =>
    rw [List.map_cons, List.nodup_cons] at hnodup
    obtain ⟨_, db₁, h₁, h₂⟩ := bind_eq_ok.mp h
    obtain ⟨db₀, htouch, hR⟩ := hbody t db db₁ _ h₁
    obtain ⟨hout, hin⟩ := ih hnodup.2 h₂
    refine ⟨?_, ?_⟩
    · intro hk
      simp only [List.map_cons, List.mem_cons, not_or] at hk
      have hstep := hR k
      rw [htouch.frame k hk.1] at hstep
      exact htrans _ _ _ hstep (hout hk.2)
    · intro s hs hsk
      rcases List.mem_cons.mp hs with rfl | hs
      · refine ⟨db.cell k, hrefl _, ?_⟩
        have hstep := hR k
        rw [← hsk, htouch.cell] at hstep
        exact htrans _ _ _ (hsk ▸ hstep) (hout (hsk ▸ hnodup.1))
      · have hne : k ≠ t.id := by
          rintro rfl
          exact hnodup.1 (hsk ▸ List.mem_map_of_mem hs)
        obtain ⟨c, hc, hc'⟩ := hin s hs hsk
        have hstep := hR k
        rw [htouch.frame k hne] at hstep
        exact ⟨c, htrans _ _ _ hstep hc, hc'⟩

variable {now : Time} {p : Database → Task → Bool} {f : Task → Task}
  {hf : ∀ t, (f t).id = t.id} {db db₁ db' : Database} {rows : List Task} {u : Unit}

/-- One pass: the bulk update and its loop. -/
theorem pass_lives (hrefl : ∀ c, R c c) (htrans : ∀ a b c, R a b → R b c → R a c)
    (hbody : ∀ t db db' u, body t db = .ok (u, db') →
      ∃ db₁, Touches t.id (F t) db db₁ ∧ ∀ k, R (db₁.cell k) (db'.cell k))
    (hother : ∀ c c', R c c' → Steps now .other c c')
    (hown : ∀ k t c c', db.tasks.get? k = some t → p db t = true →
      R ((db.cell k).mapTask f) c → R (F (f t) c) c' → Steps now .other (db.cell k) c')
    (hbulk : updateTasks p f hf db = .ok (rows, db₁)) (hloop : rows.forM body db₁ = .ok (u, db')) :
    Lives now .other db db' := by
  obtain ⟨rfl, hcell, -⟩ := updateTasks_ok hbulk
  have hids : ((db.tasks.select (p db)).map f).map Task.id = (db.tasks.select (p db)).map Task.id := by
    rw [List.map_map]
    exact List.map_congr_left fun t _ => hf t
  have hnodup : (((db.tasks.select (p db)).map f).map Task.id).Nodup := by
    rw [hids]
    exact (List.filter_sublist.map _).nodup db.tasks.nodup
  intro k
  obtain ⟨hout, hin⟩ := forM_touches hrefl htrans hbody hnodup hloop k
  rw [hcell] at hout hin
  by_cases hk : ∃ t, db.tasks.get? k = some t ∧ p db t = true
  · obtain ⟨t, ht, hp⟩ := hk
    have hmem : f t ∈ (db.tasks.select (p db)).map f :=
      List.mem_map_of_mem (List.mem_filter.mpr ⟨Table.mem_of_get? ht, hp⟩)
    have hid : (f t).id = k := (hf t).trans (Table.key_of_get? ht)
    obtain ⟨c, hc, hc'⟩ := hin (f t) hmem hid
    refine hown k t c _ ht hp ?_ hc'
    have hsame : (db.cell k).mapTask (fun t => if p db t then f t else t) = (db.cell k).mapTask f := by
      simp [Cell.mapTask, Database.cell, ht, hp]
    exact hsame ▸ hc
  · have hsame : (db.cell k).mapTask (fun t => if p db t then f t else t) = db.cell k := by
      cases ht : db.tasks.get? k with
      | none => simp [Cell.mapTask, Database.cell, ht]
      | some t =>
        have hp : p db t = false := by
          by_contra hp
          exact hk ⟨t, ht, by simpa using hp⟩
        simp [Cell.mapTask, Database.cell, ht, hp]
    rw [hsame] at hout
    refine hother _ _ (hout ?_)
    rw [hids]
    intro hmem
    obtain ⟨t, ht, rfl⟩ := List.mem_map.mp hmem
    obtain ⟨htr, hp⟩ := List.mem_filter.mp ht
    exact hk ⟨t, Table.get?_of_mem htr, hp⟩

end Loop

section Passes

variable {env : Env} {db db' : Database} {out : List RecoveryTask}

/-- The rows of a task that fails and gives its hold back. -/
def Cell.finish (now : Time) (reason : String) (c : Cell) : Cell :=
  (c.release now reason).mapOutbox (OutboxRow.deliver now)

@[simp] theorem Cell.settle_task (guard : Reservation → Bool) (s : Reservation → Settlement)
    (reason : String) (c : Cell) : (c.settle guard s reason).task = c.task := by
  unfold Cell.settle
  split
  · split <;> rfl
  · rfl

@[simp] theorem Cell.settle_outbox (guard : Reservation → Bool) (s : Reservation → Settlement)
    (reason : String) (c : Cell) : (c.settle guard s reason).outbox = c.outbox := by
  unfold Cell.settle
  split
  · split <;> rfl
  · rfl

theorem finish_body {id account : UUID} {key : Option UUID} {reason : String} {u : Unit}
    (h : (do
      let _ ← releaseReservation env id reason
      deliverOutbox env id
      wakeQueuedTasksTx env account key : Tx Unit) db = .ok (u, db')) :
    ∃ db₁, Touches id (Cell.finish env.now reason) db db₁ ∧
      ∀ k, Cell.Woken env.now (db₁.cell k) (db'.cell k) := by
  obtain ⟨x, db₁, h₁, h₂⟩ := bind_eq_ok.mp h
  obtain ⟨y, db₂, h₃, h₄⟩ := bind_eq_ok.mp h₂
  exact ⟨db₂, (releaseReservation_ok h₁).1.trans (deliverOutbox_ok h₃).1,
    (wakeQueuedTasksTx_ok h₄).cell⟩

@[simp] theorem Cell.finish_task (now : Time) (reason : String) (c : Cell) :
    (c.finish now reason).task = c.task := by
  simp [Cell.finish, Cell.mapOutbox]

/-- A task that a pass has moved out of the queue is not woken by the other turns. -/
theorem cell_of_turn {now : Time} {k : UUID} {t : Task} {f : Task → Task} {F : Cell → Cell}
    {c c' : Cell} (ht : db.tasks.get? k = some t) (hf : (f t).status ≠ .queued)
    (hF : ∀ c, (F c).task = c.task) (hc : Cell.Woken now ((db.cell k).mapTask f) c)
    (hc' : Cell.Woken now (F c) c') : c' = F ((db.cell k).mapTask f) := by
  have hmap : ((db.cell k).mapTask f).task = some (f t) := by
    simp [Cell.mapTask, Database.cell, ht]
  obtain rfl := hc.eq_of_not_queued fun t' ht' => by
    rw [hmap] at ht'
    cases ht'
    exact hf
  refine hc'.eq_of_not_queued fun t' ht' => ?_
  rw [hF, hmap] at ht'
  cases ht'
  exact hf

theorem failExpiredQueued_lives (h : failExpiredQueued env db = .ok (out, db')) :
    Lives env.now .other db db' := by
  obtain ⟨rows, db₁, hbulk, h⟩ := bind_eq_ok.mp h
  obtain ⟨u, db₂, hloop, h⟩ := bind_eq_ok.mp h
  obtain ⟨-, rfl⟩ := pure_eq_ok.mp h
  refine pass_lives (F := fun _ => Cell.finish env.now "queue_timeout") (Cell.Woken.refl env.now)
    (fun _ _ _ => Cell.Woken.trans) ?_ (fun _ _ => Cell.Woken.steps) ?_ hbulk hloop
  · intro t a b _ hbody
    obtain ⟨account, -, hbody⟩ := scanAccount_ok hbody
    exact finish_body hbody
  · intro k t c c' ht hp hc hc'
    obtain rfl := cell_of_turn ht (by simp [Task.fail]) (Cell.finish_task _ _) hc hc'
    simp only [Bool.and_eq_true, decide_eq_true_eq] at hp
    exact .single (.finish "queue_timeout" ht ⟨rfl, rfl, rfl, rfl, rfl, rfl, rfl, rfl, rfl, rfl, rfl⟩
      (by simp [hp.1.1, TaskStatus.terminal]) (.inl rfl) (.inr ⟨hp.1.1, rfl, rfl⟩) (.inl hp.1.1))

theorem expireUpstream_lives (h : expireUpstream env db = .ok (out, db')) :
    Lives env.now .other db db' := by
  obtain ⟨rows, db₁, hbulk, h⟩ := bind_eq_ok.mp h
  obtain ⟨u, db₂, hloop, h⟩ := bind_eq_ok.mp h
  obtain ⟨-, rfl⟩ := pure_eq_ok.mp h
  refine pass_lives (F := fun _ => Cell.mapOutbox (OutboxRow.deliver env.now))
    (Cell.Woken.refl env.now) (fun _ _ _ => Cell.Woken.trans) ?_ (fun _ _ => Cell.Woken.steps) ?_
    hbulk hloop
  · intro t a b _ hbody
    obtain ⟨account, -, hbody⟩ := scanAccount_ok hbody
    obtain ⟨x, b₁, h₁, h₂⟩ := bind_eq_ok.mp hbody
    exact ⟨b₁, (deliverOutbox_ok h₁).1, (wakeQueuedTasksTx_ok h₂).cell⟩
  · intro k t c c' ht hp hc hc'
    obtain rfl := cell_of_turn (F := Cell.mapOutbox (OutboxRow.deliver env.now)) ht
      (by simp [Task.expireUpstream, Task.uncertain]) (fun _ => rfl) hc hc'
    simp only [Task.inFlight, Bool.and_eq_true, Bool.or_eq_true, decide_eq_true_eq] at hp
    have hrun : t.status.terminal = false := by
      rcases hp.1.1 with h | h <;> simp [h, TaskStatus.terminal]
    exact .single (.uncertain ht ⟨rfl, rfl, rfl, rfl, rfl, rfl, rfl, rfl, rfl, rfl, rfl⟩ hrun rfl rfl)

/-- The rows of a task that is offered again after its lease expired. -/
def Cell.requeue (env : Env) (t : Task) (c : Cell) : Cell :=
  { c.extend (fun e => max e (env.now + minutes 20)) with
    outbox := some ((c.outbox.map fun o =>
      { o.reset env.now with lastError := "lease expired; redispatch requested" }).getD
        { OutboxRow.new env t.id t.kind with
          lastError := "lease expired; redispatch requested" }) }

theorem requeue_lives {p : Database → Task → Bool} {f : Task → Task}
    {hf : ∀ t, (f t).id = t.id} {rows : List Task} {db₁ : Database}
    (hown : ∀ k t, db.tasks.get? k = some t → p db t = true →
      Steps env.now .other (db.cell k) (((db.cell k).mapTask f).requeue env (f t)))
    (hbulk : updateTasks p f hf db = .ok (rows, db₁)) (h : requeue env rows db₁ = .ok (out, db')) :
    Lives env.now .other db db' := by
  obtain ⟨u, db₂, hloop, h⟩ := bind_eq_ok.mp h
  obtain ⟨-, rfl⟩ := pure_eq_ok.mp h
  refine pass_lives (R := fun c c' => c' = c) (F := Cell.requeue env) (fun _ => rfl)
    (fun _ _ _ h h' => h'.trans h) ?_ (fun _ _ h => h ▸ .refl) ?_ hbulk hloop
  · intro t a b _ hbody
    obtain ⟨x, b₁, h₁, h₂⟩ := bind_eq_ok.mp hbody
    exact ⟨b, (extendReservation_ok h₁).1.trans (upsertOutbox_ok h₂).1, fun _ => rfl⟩
  · rintro k t c c' ht hp rfl rfl
    exact hown k t ht hp

theorem requeueUnsubmitted_lives (h : requeueUnsubmitted env db = .ok (out, db')) :
    Lives env.now .other db db' := by
  obtain ⟨rows, db₁, hbulk, h⟩ := bind_eq_ok.mp h
  refine requeue_lives (fun k t ht hp => .single ?_) hbulk h
  simp only [Task.lapsedUnsubmitted, Bool.and_eq_true, Bool.or_eq_true, decide_eq_true_eq] at hp
  refine .requeue (fun e => max e (env.now + minutes 20)) ht
    ⟨rfl, rfl, rfl, rfl, rfl, rfl, rfl, rfl, rfl, rfl, rfl⟩ ?_ rfl (.inl ⟨rfl, ?_, ?_⟩) rfl (fun _ => rfl) rfl
  · rcases hp.1 with h | h <;> simp [h, TaskStatus.executing]
  · rcases hp.1 with h | h <;> simp [h, Task.inFlight]
  · rcases hp.1 with h | h <;> simp [h]

theorem requeueInFlight_lives (h : requeueInFlight env db = .ok (out, db')) :
    Lives env.now .other db db' := by
  obtain ⟨rows, db₁, hbulk, h⟩ := bind_eq_ok.mp h
  refine requeue_lives (fun k t ht hp => .single ?_) hbulk h
  rw [Task.lapsedInFlight, Bool.and_eq_true] at hp
  refine .requeue (fun e => max e (env.now + minutes 20)) ht
    ⟨rfl, rfl, rfl, rfl, rfl, rfl, rfl, rfl, rfl, rfl, rfl⟩ ?_ rfl (.inr hp.1) rfl (fun _ => rfl) rfl
  have hflight := hp.1
  simp only [Task.inFlight, Bool.and_eq_true, Bool.or_eq_true, decide_eq_true_eq] at hflight
  rcases hflight.1 with h | h <;> simp [h, TaskStatus.executing]

theorem failExpiredReservations_lives (h : failExpiredReservations env db = .ok (out, db')) :
    Lives env.now .other db db' := by
  obtain ⟨rows, db₁, hbulk, h⟩ := bind_eq_ok.mp h
  obtain ⟨u, db₂, hloop, h⟩ := bind_eq_ok.mp h
  obtain ⟨-, rfl⟩ := pure_eq_ok.mp h
  refine pass_lives (R := fun c c' => c' = c)
    (F := fun _ => Cell.finish env.now "reservation_expired") (fun _ => rfl)
    (fun _ _ _ h h' => h'.trans h) ?_ (fun _ _ h => h ▸ .refl) ?_ hbulk hloop
  · intro t a b _ hbody
    obtain ⟨x, b₁, h₁, h₂⟩ := bind_eq_ok.mp hbody
    exact ⟨b, (releaseReservation_ok h₁).1.trans (deliverOutbox_ok h₂).1, fun _ => rfl⟩
  · rintro k t c c' ht hp rfl rfl
    simp only [Bool.and_eq_true, decide_eq_true_eq] at hp
    exact .single (.finish "reservation_expired" ht ⟨rfl, rfl, rfl, rfl, rfl, rfl, rfl, rfl, rfl, rfl, rfl⟩
      (by simp [hp.1.1, TaskStatus.terminal]) (.inl rfl) (.inr ⟨hp.1.1, rfl, rfl⟩) (.inl hp.1.1))

theorem markUncertain_lives {u : Unit} (h : markUncertain env db = .ok (u, db')) :
    Lives env.now .other db db' := by
  obtain ⟨rows, db₁, hbulk, h₁⟩ := bind_eq_ok.mp h
  obtain ⟨db₂, db₃, hget, h₂⟩ := bind_eq_ok.mp h₁
  obtain ⟨rfl, rfl⟩ := get_eq_ok.mp hget
  obtain ⟨-, hcell, -⟩ := updateTasks_ok hbulk
  intro k
  rw [updateOutbox_of_task
    (q := fun k => (db₃.tasks.get? k).any fun t => t.status = .submissionUncertain) h₂ k]
  have htask : db₃.tasks.get? k = _ := congrArg Cell.task (hcell k)
  simp only [Cell.mapTask] at htask
  rw [htask, hcell]
  cases ht : db.tasks.get? k with
  | none => simp [Cell.mapTask, Database.cell, ht, Relation.ReflTransGen.refl]
  | some t =>
    by_cases hp : t.abandoned env.now = true
    · have hstep : Transition env.now .other (db.cell k) (((db.cell k).mapTask (Task.uncertain
          env.now "submission_uncertain"
          "worker stopped after submission began; task was not resubmitted")).mapOutbox
          (OutboxRow.deliver env.now)) := by
        simp only [Task.abandoned, Bool.and_eq_true, decide_eq_true_eq] at hp
        exact .uncertain ht ⟨rfl, rfl, rfl, rfl, rfl, rfl, rfl, rfl, rfl, rfl, rfl⟩
          (by simp [hp.1.1, TaskStatus.terminal]) rfl rfl
      refine .single ?_
      simpa [Cell.mapTask, Cell.mapOutbox, Database.cell, ht, hp] using hstep
    · by_cases hu : t.status = .submissionUncertain
      · have hstep : Transition env.now .other (db.cell k)
            ((db.cell k).mapOutbox (OutboxRow.deliver env.now)) :=
          .deliver ht (.inr (by simp [hu, TaskStatus.terminal])) (by simp [hu])
        refine .single ?_
        simpa [Cell.mapTask, Cell.mapOutbox, Database.cell, ht, hp, hu] using hstep
      · simp [Cell.mapTask, Database.cell, ht, hp, hu, Relation.ReflTransGen.refl]

theorem recoverStaleTasks_lives {tasks : List RecoveryTask}
    (h : recoverStaleTasks env db = .ok (.commit tasks, db')) : Lives env.now .other db db' := by
  obtain ⟨_, db₁, h₁, h⟩ := bind_eq_ok.mp h
  obtain ⟨_, db₂, h₂, h⟩ := bind_eq_ok.mp h
  obtain ⟨_, db₃, h₃, h⟩ := bind_eq_ok.mp h
  obtain ⟨_, db₄, h₄, h⟩ := bind_eq_ok.mp h
  obtain ⟨_, db₅, h₅, h⟩ := bind_eq_ok.mp h
  obtain ⟨_, db₆, h₆, h⟩ := bind_eq_ok.mp h
  obtain ⟨-, rfl⟩ := pure_eq_ok.mp h
  exact (failExpiredQueued_lives h₁).trans <| (expireUpstream_lives h₂).trans <|
    (requeueUnsubmitted_lives h₃).trans <| (markUncertain_lives h₄).trans <|
    (requeueInFlight_lives h₅).trans (failExpiredReservations_lives h₆)

end Passes

section Administration

variable {env : Env} {id : UUID} {db db' : Database} {b : Bool}

theorem confirmSubmissionNotCreated_lives
    (h : confirmSubmissionNotCreated env id db = .ok (.commit b, db')) :
    Lives env.now (.confirm id) db db' := by
  obtain ⟨t', db₁, h₁, h₂⟩ := onRow_commit h
  obtain ⟨t, ht, hg, rfl, htouch, -⟩ := updateTask_some h₁
  obtain rfl : t.id = id := Table.key_of_get? ht
  obtain ⟨x, db₂, h₃, h₄⟩ := bind_eq_ok.mp h₂
  obtain ⟨y, db₃, h₅, h₆⟩ := bind_eq_ok.mp h₄
  obtain ⟨z, db₄, h₇, h₈⟩ := bind_eq_ok.mp h₆
  obtain ⟨-, rfl⟩ := pure_eq_ok.mp h₈
  refine (Lives.of_touches ((htouch.trans (releaseReservation_ok h₃).1).trans
    (deliverOutbox_ok h₅).1) (.single ?_)).trans (.of_wakes (wakeAccount_ok h₇))
  exact .confirm rfl ht ⟨rfl, rfl, rfl, rfl, rfl, rfl, rfl, rfl, rfl, rfl, rfl⟩ (by simpa using hg) rfl ⟨rfl, rfl⟩

theorem cancelQueuedTaskAndRelease_lives {keyID : UUID}
    (h : cancelQueuedTaskAndRelease env id keyID db = .ok (.commit b, db')) :
    Lives env.now .other db db' := by
  obtain ⟨t', db₁, h₁, h₂⟩ := onRow_commit h
  obtain ⟨t, ht, hg, rfl, htouch, -⟩ := updateTask_some h₁
  obtain ⟨account, -, h₂⟩ := scanAccount_ok h₂
  obtain ⟨x, db₂, h₃, h₄⟩ := bind_eq_ok.mp h₂
  obtain ⟨y, db₃, h₅, h₆⟩ := bind_eq_ok.mp h₄
  obtain ⟨z, db₄, h₇, h₈⟩ := bind_eq_ok.mp h₆
  obtain ⟨-, rfl⟩ := pure_eq_ok.mp h₈
  simp only [Bool.and_eq_true, decide_eq_true_eq] at hg
  refine (Lives.of_touches ((htouch.trans (releaseReservation_ok h₃).1).trans
    (deliverOutbox_ok h₅).1) (.single ?_)).trans (.of_wakes (wakeQueuedTasksTx_ok h₇))
  exact .finish "cancelled" ht ⟨rfl, rfl, rfl, rfl, rfl, rfl, rfl, rfl, rfl, rfl, rfl⟩
    (by simp [hg.1.2, TaskStatus.terminal]) (.inr rfl) (.inr ⟨hg.1.2, rfl, rfl⟩) (.inl hg.1.2)

theorem releaseReservationOnce_lives {reason : String} {t : Task} {u : Unit}
    (ht : db.tasks.get? id = some t) (huncertain : t.status = .submissionUncertain)
    (h : releaseReservationOnce env id reason db = .ok (.commit u, db')) :
    Lives env.now (.release id) db db' := by
  obtain ⟨x, db₁, h₁, h₂⟩ := bind_eq_ok.mp h
  obtain ⟨-, rfl⟩ := pure_eq_ok.mp h₂
  refine .of_touches (releaseReservation_ok h₁).1 (.single (.release reason ht huncertain ?_))
  rw [show t.id = id from Table.key_of_get? ht]

theorem claimDispatchableOutbox_lives {locked : List UUID} {limit : ℤ}
    {messages : List TaskOutboxMessage}
    (h : claimDispatchableOutbox env locked limit db = .ok (.commit messages, db')) :
    Lives env.now .other db db' := by
  obtain ⟨db₀, db₁, hget, h₁⟩ := bind_eq_ok.mp h
  obtain ⟨rfl, rfl⟩ := get_eq_ok.mp hget
  obtain ⟨u, db₂, h₂, h₃⟩ := bind_eq_ok.mp h₁
  obtain ⟨-, rfl⟩ := pure_eq_ok.mp h₃
  intro k
  rw [(updateOutbox_ok h₂).1]
  refine .single (.retime fun o => ?_)
  split_ifs <;> rfl

theorem recordOutboxError_lives {message : String} {retryAfter : Time} {u : Unit}
    (h : recordOutboxError env id message retryAfter db = .ok (.commit u, db')) :
    Lives env.now .other db db' := by
  obtain ⟨x, db₁, h₁, h₂⟩ := bind_eq_ok.mp h
  obtain ⟨-, rfl⟩ := pure_eq_ok.mp h₂
  intro k
  rw [(updateOutbox_ok h₁).1]
  refine .single (.retime fun o => ?_)
  split_ifs <;> rfl

end Administration

end GenerationGateway
