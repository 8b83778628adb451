import GenerationGateway.Store.Lifecycle.Transition

/-!
# Transitions made under a lease

One theorem for each operation of a lease holder: a committed run takes every
task through transitions labelled with that lease.
-/

namespace GenerationGateway

open Relational

section Owned

variable {env : Env} {id leaseID : UUID} {db db' : Database} {b : Bool}

theorem Task.leasedTo_expires {t : Task} {now : Time} (h : t.leasedTo leaseID now = true) :
    t.executionLeaseID = some leaseID ∧ t.executionLeaseExpiresAt.isSome = true := by
  simp only [Task.leasedTo, Bool.and_eq_true, decide_eq_true_eq] at h
  refine ⟨h.1, ?_⟩
  cases he : t.executionLeaseExpiresAt with
  | none => simp [he] at h
  | some e => rfl

theorem TaskStatus.terminal_of_executing {s : TaskStatus} (h : s.executing = true) :
    s.terminal = false :=
  TaskStatus.terminal_eq_false_iff.mpr (.inr h)

theorem Transition.updateTask {now : Time} {c : Cell} {t : Task} {f : Task → Task}
    (htask : c.task = some t) (hkeeps : KeepsLease now leaseID t (f t)) :
    Transition now (.owned t.id leaseID) c (c.mapTask f) := by
  rw [← Cell.extend_id (Cell.mapTask f c)]
  exact .update leaseID _ rfl htask hkeeps

theorem renewTaskLease_lives {lease : Time}
    (h : renewTaskLease env id leaseID lease db = .ok (.commit b, db')) :
    Lives env.now (.owned id leaseID) db db' := by
  obtain ⟨t', db₁, h₁, h₂⟩ := onRow_commit h
  obtain ⟨t, ht, hg, rfl, htouch, -⟩ := updateTask_some h₁
  obtain rfl : t.id = id := Table.key_of_get? ht
  obtain ⟨x, db₂, h₃, h₄⟩ := bind_eq_ok.mp h₂
  obtain ⟨-, rfl⟩ := pure_eq_ok.mp h₄
  obtain ⟨hext, -⟩ := extendReservation_ok h₃
  simp only [Bool.and_eq_true] at hg
  have hrun := TaskStatus.terminal_of_executing hg.2
  refine .of_touches (htouch.trans hext) (.single (.update leaseID _ rfl ht ?_))
  exact ⟨⟨rfl, rfl, rfl, rfl, rfl, rfl, rfl, rfl, rfl, rfl, rfl⟩, hg.1, hrun, hg.2, rfl, rfl, fun h => h, .inl⟩

theorem yieldTaskLease_lives {retryAt : Time}
    (h : yieldTaskLease env id leaseID retryAt db = .ok (.commit b, db')) :
    Lives env.now (.owned id leaseID) db db' := by
  obtain ⟨t', db₁, h₁, h₂⟩ := onRow_commit h
  obtain ⟨t, ht, hg, rfl, htouch, -⟩ := updateTask_some h₁
  obtain ⟨x, db₂, h₃, h₄⟩ := bind_eq_ok.mp h₂
  obtain ⟨u, db₃, h₅, h₆⟩ := bind_eq_ok.mp h₄
  obtain ⟨v, db₄, h₇, h₈⟩ := bind_eq_ok.mp h₆
  obtain ⟨-, rfl⟩ := pure_eq_ok.mp h₈
  obtain ⟨hext, -⟩ := extendReservation_ok h₃
  obtain ⟨hups, -⟩ := upsertOutbox_ok h₅
  refine (Lives.of_touches ((htouch.trans hext).trans hups) (.single ?_)).trans
    (.of_wakes (wakeAccount_ok h₇))
  simp only [Task.yieldable, Bool.and_eq_true, Bool.or_eq_true, decide_eq_true_eq] at hg
  refine .requeue _ ht ⟨rfl, rfl, rfl, rfl, rfl, rfl, rfl, rfl, rfl, rfl, rfl⟩ ?_ rfl ?_ rfl (fun _ => rfl) rfl
  · rcases hg.2 with ((h | h) | h) | ⟨h, -⟩ <;> simp [h, TaskStatus.executing]
  · by_cases hgen : t.generationID = ""
    · refine .inl ⟨by simp [Task.yield, hgen], by simp [Task.inFlight, hgen], ?_⟩
      rcases hg.2 with ((h | h) | h) | ⟨-, h⟩ <;> simp_all
    · exact .inr (by simp [Task.inFlight, Task.yield, Task.clearLease, hgen])

theorem Task.update_keepsLease {now : Time} {u : TaskUpdate} {t : Task} (hissued : u.issued)
    (hlease : t.leasedTo leaseID now = true) (hrun : t.status.terminal = false)
    (hterm : u.status.terminal = false) : KeepsLease now leaseID t (t.update now u) := by
  have hexp := (Task.leasedTo_expires hlease).2
  refine ⟨⟨rfl, rfl, rfl, rfl, rfl, rfl, rfl, rfl, rfl, rfl, rfl⟩, hlease, hrun, ?_, ?_, ?_, ?_, ?_⟩
  · rcases hissued with h | h | ⟨h, -⟩ | h <;>
      simp [Task.update, h, TaskStatus.executing, TaskStatus.terminal] at hterm ⊢
  · simp [Task.update, hterm]
  · simp [Task.update, hterm, hexp]
  · intro hgen
    simp only [Task.update]
    split_ifs with hu
    · exact hgen
    · exact hu
  · intro hpoll
    rcases hissued with h | h | ⟨-, h⟩ | h
    · simp [Task.update, h] at hpoll
    · simp [Task.update, h] at hpoll
    · exact .inr (by simp [Task.update, h])
    · simp [Task.update, h] at hpoll

theorem markSubmitted_cell {u : TaskUpdate} {x : Unit} (h : markSubmitted env u db = .ok (x, db'))
    (k : UUID) : db'.cell k = db.cell k := by
  cases hacc : u.accountID with
  | none =>
    simp only [markSubmitted, hacc] at h
    obtain ⟨-, rfl⟩ := pure_eq_ok.mp h
    rfl
  | some account =>
    simp only [markSubmitted, hacc] at h
    split_ifs at h
    · exact updateAccount_cell h k
    · obtain ⟨-, rfl⟩ := pure_eq_ok.mp h
      rfl

theorem updateTaskOwned_lives {u : TaskUpdate} (hissued : u.issued)
    (h : updateTaskOwned env id leaseID u db = .ok (.commit b, db')) :
    Lives env.now (.owned id leaseID) db db' := by
  obtain ⟨db₀, db₀', hget, h⟩ := bind_eq_ok.mp h
  obtain ⟨rfl, rfl⟩ := get_eq_ok.mp hget
  obtain ⟨t', db₁, h₁, h₂⟩ := onRow_commit h
  obtain ⟨t, ht, hg, rfl, htouch, -⟩ := updateTask_some h₁
  obtain rfl : t.id = id := Table.key_of_get? ht
  obtain ⟨x, db₂, h₃, h₄⟩ := bind_eq_ok.mp h₂
  replace htouch := htouch.of_cells (markSubmitted_cell h₃)
  simp only [Task.updatable, Bool.and_eq_true, Bool.not_eq_true'] at hg
  obtain ⟨hlease, hrun, -⟩ := hg
  by_cases hterm : u.status.terminal = true
  · simp only [hterm, if_true] at h₄
    obtain ⟨y, db₃, h₅, h₆⟩ := bind_eq_ok.mp h₄
    obtain ⟨z, db₄, h₇, h₈⟩ := bind_eq_ok.mp h₆
    obtain ⟨-, rfl⟩ := pure_eq_ok.mp h₈
    have huncertain : u.status = .submissionUncertain := by
      rcases hissued with h | h | ⟨h, -⟩ | h <;> simp [h, TaskStatus.terminal] at hterm ⊢
    refine (Lives.of_touches (htouch.trans (deliverOutbox_ok h₅).1) (.single ?_)).trans
      (.of_wakes (wakeAccount_ok h₇))
    exact .uncertain ht ⟨rfl, rfl, rfl, rfl, rfl, rfl, rfl, rfl, rfl, rfl, rfl⟩ hrun huncertain
      (by simp [Task.unleased, Task.update, hterm])
  · simp only [hterm, Bool.false_eq_true, if_false] at h₄
    obtain ⟨-, rfl⟩ := pure_eq_ok.mp h₄
    have hkeeps := Task.update_keepsLease hissued hlease hrun (by simpa using hterm)
    exact .of_touches htouch (.single (.updateTask ht hkeeps))

theorem updateTaskTokensOwned_lives {before after : Option ℤ}
    (h : updateTaskTokensOwned env id leaseID before after db = .ok (.commit b, db')) :
    Lives env.now (.owned id leaseID) db db' := by
  obtain ⟨t', db₁, h₁, h₂⟩ := onRow_commit h
  obtain ⟨t, ht, hg, rfl, htouch, -⟩ := updateTask_some h₁
  obtain rfl : t.id = id := Table.key_of_get? ht
  obtain ⟨-, rfl⟩ := pure_eq_ok.mp h₂
  simp only [Bool.and_eq_true] at hg
  have hexp := (Task.leasedTo_expires hg.1).2
  have hrun := TaskStatus.terminal_of_executing hg.2
  refine .of_touches htouch (.single (.updateTask ht ?_))
  exact ⟨⟨rfl, rfl, rfl, rfl, rfl, rfl, rfl, rfl, rfl, rfl, rfl⟩, hg.1, hrun, hg.2, rfl, hexp, fun h => h, .inl⟩

theorem recordTaskSubmissionOwned_lives {accountID : UUID} {generationID : String}
    {cost : Option ℚ}
    (h : recordTaskSubmissionOwned env id leaseID accountID generationID cost db =
      .ok (.commit b, db')) : Lives env.now (.owned id leaseID) db db' := by
  unfold recordTaskSubmissionOwned at h
  split_ifs at h with hgen
  · cases h
  obtain ⟨t', db₁, h₁, h₂⟩ := onRow_commit h
  obtain ⟨t, ht, hg, rfl, htouch, -⟩ := updateTask_some h₁
  obtain rfl : t.id = id := Table.key_of_get? ht
  obtain ⟨-, rfl⟩ := pure_eq_ok.mp h₂
  simp only [Bool.and_eq_true, decide_eq_true_eq] at hg
  have hexp := (Task.leasedTo_expires hg.1).2
  refine .of_touches htouch (.single (.updateTask ht ?_))
  exact ⟨⟨rfl, rfl, rfl, rfl, rfl, rfl, rfl, rfl, rfl, rfl, rfl⟩, hg.1, by simp [hg.2, TaskStatus.terminal], rfl,
    rfl, hexp, fun _ => hgen, fun _ => .inr hgen⟩

theorem recordTaskUpstreamStatusOwned_lives {known : Bool}
    (h : recordTaskUpstreamStatusOwned env id leaseID known db = .ok (.commit b, db')) :
    Lives env.now (.owned id leaseID) db db' := by
  obtain ⟨t', db₁, h₁, h₂⟩ := onRow_commit h
  obtain ⟨t, ht, hg, rfl, htouch, -⟩ := updateTask_some h₁
  obtain rfl : t.id = id := Table.key_of_get? ht
  obtain ⟨-, rfl⟩ := pure_eq_ok.mp h₂
  simp only [Bool.and_eq_true, Bool.or_eq_true, decide_eq_true_eq] at hg
  obtain ⟨⟨hlease, -⟩, hstatus⟩ := hg
  have hexp := (Task.leasedTo_expires hlease).2
  have hexec : t.status.executing = true := by
    rcases hstatus with h | h <;> simp [h, TaskStatus.executing]
  have hrun := TaskStatus.terminal_of_executing hexec
  refine .of_touches htouch (.single (.updateTask ht ?_))
  exact ⟨⟨rfl, rfl, rfl, rfl, rfl, rfl, rfl, rfl, rfl, rfl, rfl⟩, hlease, hrun, hexec, rfl, hexp, fun h => h, .inl⟩

theorem consumeReservation_ok {accountID : UUID} {x : Unit}
    (h : consumeReservation env id accountID db = .ok (x, db')) :
    Touches id (Cell.settle (fun r => r.accountID = accountID) (consumedAt env.now)
      "local_ledger_consumed") db db' := by
  obtain ⟨consumed, db₁, h₁, h₂⟩ := bind_eq_ok.mp h
  obtain ⟨htouch, -⟩ := settleReservation_ok h₁
  refine htouch.of_cells fun k => ?_
  cases consumed with
  | none =>
    obtain ⟨-, rfl⟩ := pure_eq_ok.mp h₂
    rfl
  | some r =>
    simp only at h₂
    split_ifs at h₂
    · exact updateAccount_cell h₂ k
    · obtain ⟨-, rfl⟩ := pure_eq_ok.mp h₂
      rfl

theorem Cell.settle_congr {guard guard' : Reservation → Bool} {s : Reservation → Settlement}
    {reason : String} {c : Cell} (h : ∀ r, c.reservation = some r → guard r = guard' r) :
    c.settle guard s reason = c.settle guard' s reason := by
  unfold Cell.settle
  split
  · next t r ht hr => simp only [h r hr]
  · rfl

theorem completeTaskOwned_lives {accountID : UUID} {generationID : String} {result : JSON}
    {tokensAfter : Option ℤ}
    (h : completeTaskOwned env id leaseID accountID generationID result tokensAfter db =
      .ok (.commit b, db')) : Lives env.now (.owned id leaseID) db db' := by
  obtain ⟨t', db₁, h₁, h₂⟩ := onRow_commit h
  obtain ⟨t, ht, hg, rfl, htouch, -⟩ := updateTask_some h₁
  obtain ⟨x, db₂, h₃, h₄⟩ := bind_eq_ok.mp h₂
  obtain ⟨y, db₃, h₅, h₆⟩ := bind_eq_ok.mp h₄
  obtain ⟨z, db₄, h₇, h₈⟩ := bind_eq_ok.mp h₆
  obtain ⟨-, rfl⟩ := pure_eq_ok.mp h₈
  simp only [Bool.and_eq_true, Bool.or_eq_true, decide_eq_true_eq] at hg
  -- the foreign key holds after the update, so the reservation is on `accountID`
  have haccount : ∀ r, (db₁.cell id).reservation = some r → decide (r.accountID = accountID) = true := by
    intro r hr
    obtain ⟨t₁, ht₁, hacc, -⟩ := Database.identity_of_get? hr
    have hcell : db₁.tasks.get? id = (db.tasks.get? id).map _ := congrArg Cell.task htouch.cell
    rw [ht, ht₁] at hcell
    cases hcell
    simpa [Task.succeed, eq_comm] using hacc
  have hconsume := consumeReservation_ok h₃
  have hsettle : Touches id (Cell.settle (fun _ => true) (consumedAt env.now)
      "local_ledger_consumed") db₁ db₂ :=
    ⟨hconsume.cell.trans (Cell.settle_congr haccount), hconsume.frame⟩
  refine (Lives.of_touches ((htouch.trans hsettle).trans (deliverOutbox_ok h₅).1)
    (.single ?_)).trans (.of_wakes (wakeQueuedTasksTx_ok h₇))
  exact .complete ht ⟨rfl, rfl, rfl, rfl, rfl, rfl, rfl, rfl, rfl, rfl, rfl⟩ hg.2 rfl rfl

theorem failTaskOwned_lives {code message : String} {details : Option JSON}
    {tokensAfter : Option ℤ}
    (h : failTaskOwned env id leaseID code message details tokensAfter db = .ok (.commit b, db')) :
    Lives env.now (.owned id leaseID) db db' := by
  obtain ⟨t', db₁, h₁, h₂⟩ := onRow_commit h
  obtain ⟨t, ht, hg, rfl, htouch, -⟩ := updateTask_some h₁
  obtain ⟨x, db₂, h₃, h₄⟩ := bind_eq_ok.mp h₂
  obtain ⟨y, db₃, h₅, h₆⟩ := bind_eq_ok.mp h₄
  obtain ⟨z, db₄, h₇, h₈⟩ := bind_eq_ok.mp h₆
  obtain ⟨-, rfl⟩ := pure_eq_ok.mp h₈
  simp only [Bool.and_eq_true, Bool.not_eq_true', decide_eq_true_eq] at hg
  refine (Lives.of_touches ((htouch.trans (releaseReservation_ok h₃).1).trans
    (deliverOutbox_ok h₅).1) (.single ?_)).trans (.of_wakes (wakeAccount_ok h₇))
  exact .finish code ht ⟨rfl, rfl, rfl, rfl, rfl, rfl, rfl, rfl, rfl, rfl, rfl⟩ hg.2 (.inl rfl) (.inl rfl)
    (.inr ⟨leaseID, by rw [show t.id = id from Table.key_of_get? ht]⟩)

theorem failSubmittedTaskOwned_lives {code message : String} {details : Option JSON}
    (h : failSubmittedTaskOwned env id leaseID code message details db = .ok (.commit b, db')) :
    Lives env.now (.owned id leaseID) db db' := by
  obtain ⟨t', db₁, h₁, h₂⟩ := onRow_commit h
  obtain ⟨t, ht, hg, rfl, htouch, -⟩ := updateTask_some h₁
  simp only [Bool.and_eq_true, Bool.or_eq_true, decide_eq_true_eq] at hg
  have hrun : t.status.terminal = false := by
    rcases hg.2 with h | h <;> simp [h, TaskStatus.terminal]
  obtain ⟨account, -, h₂⟩ := scanAccount_ok h₂
  obtain ⟨x, db₂, h₃, h₄⟩ := bind_eq_ok.mp h₂
  obtain ⟨y, db₃, h₅, h₆⟩ := bind_eq_ok.mp h₄
  obtain ⟨z, db₄, h₇, h₈⟩ := bind_eq_ok.mp h₆
  obtain ⟨-, rfl⟩ := pure_eq_ok.mp h₈
  refine (Lives.of_touches ((htouch.trans (releaseReservation_ok h₃).1).trans
    (deliverOutbox_ok h₅).1) (.single ?_)).trans (.of_wakes (wakeQueuedTasksTx_ok h₇))
  exact .finish code ht ⟨rfl, rfl, rfl, rfl, rfl, rfl, rfl, rfl, rfl, rfl, rfl⟩ hrun (.inl rfl) (.inl rfl)
    (.inr ⟨leaseID, by rw [show t.id = id from Table.key_of_get? ht]⟩)

end Owned

end GenerationGateway
