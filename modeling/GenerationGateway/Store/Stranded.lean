import GenerationGateway.Store.Fencing

/-!
# No stranded task

A task that has not ended is either leased, so that the recovery finds it when
the lease has expired, or its outbox row is undelivered and the dispatcher finds
it. The invariant couples the lease columns of the task with the delivery of its
outbox row; every transition resets one side when it gives up the other.
-/

namespace GenerationGateway

open Relational Transitions

/-- A task that a worker holds, in a state from which the recovery takes it back. -/
structure Task.Held (t : Task) : Prop where
  leased : t.leased = true
  executing : t.status.executing = true
  polling : t.status = .polling → t.generationID ≠ ""

/-- A task that is waiting for a worker. -/
structure Task.Offered (t : Task) (o : OutboxRow) : Prop where
  unleased : t.unleased = true
  undelivered : o.deliveredAt = none
  claimable : t.status = .queued ∨ t.inFlight = true

/-- Somebody comes back to the task of the cell, unless it has ended. -/
def Cell.Attended (c : Cell) : Prop :=
  ∀ t, c.task = some t → ∃ o, c.outbox = some o ∧
    (t.status.terminal = true ∨ t.Held ∨ t.Offered o)

theorem Task.inFlight_iff {t : Task} : t.inFlight = true ↔
    (t.status = .submitted ∨ t.status = .polling) ∧ t.generationID ≠ "" := by
  simp [Task.inFlight]

theorem Task.leased_of_leasedTo {t : Task} {leaseID : UUID} {now : Time}
    (h : t.leasedTo leaseID now = true) : t.leased = true := by
  obtain ⟨hid, e, he, -⟩ := Task.leasedTo_iff.mp h
  simp [Task.leased, hid, he]

theorem Task.Offered.not_leased {t : Task} {o : OutboxRow} (h : t.Offered o) : t.leased = false := by
  simp [Task.leased, Task.unleased_id h.unleased]

section Step

variable {now : Time} {call : Call} {c c' : Cell}

theorem Cell.Attended.outbox {t : Task} (hc : c.Attended) (ht : c.task = some t) :
    ∃ o, c.outbox = some o :=
  (hc t ht).imp fun _ h => h.1

/-- A cell whose only task has ended, has a holder or is offered. -/
theorem Cell.attended_of {t : Task} {o : OutboxRow} (ht : c.task = some t) (ho : c.outbox = some o)
    (h : t.status.terminal = true ∨ t.Held ∨ t.Offered o) : c.Attended := by
  intro t' ht'
  obtain rfl : t = t' := Option.some.inj (ht.symm.trans ht')
  exact ⟨o, ho, h⟩

theorem Transition.attended (h : Transition now call c c') (hc : c.Attended) : c'.Attended := by
  cases h with
  | @create t r o hcall htask hres hout hstatus hlease hgen hheld hdel =>
    exact Cell.attended_of rfl rfl (.inr (.inr ⟨hlease, hdel, .inl hstatus⟩))
  | @redispatch t f htask hstatus hf =>
    obtain ⟨o, ho, hstate⟩ := hc t htask
    have hoffered : t.Offered o := by
      rcases hstate with hended | hheld | hoffered
      · simp [hstatus, TaskStatus.terminal] at hended
      · have hexec := hheld.executing
        simp [hstatus, TaskStatus.executing] at hexec
      · exact hoffered
    refine Cell.attended_of (o := f o) htask (by simp [Cell.mapOutbox, ho]) (.inr (.inr ?_))
    exact ⟨hoffered.unleased, hf o, hoffered.claimable⟩
  | @retime f hf =>
    intro t ht
    obtain ⟨o, ho, hstate⟩ := hc t ht
    refine ⟨f o, by simp [Cell.mapOutbox, ho], hstate.imp_right (Or.imp_right fun h => ?_)⟩
    exact ⟨h.unleased, (hf o).trans h.undelivered, h.claimable⟩
  | @reroute t leaseID target hcall htask hstatus hgen =>
    obtain ⟨o, ho, hstate⟩ := hc t htask
    refine Cell.attended_of (t := t.moveTo target) (by simp [Cell.mapReservation, Cell.mapTask, htask])
      ho ?_
    rcases hstate with hended | hheld | hoffered
    · exact .inl hended
    · exact .inr (.inl ⟨hheld.leased, hheld.executing, hheld.polling⟩)
    · exact .inr (.inr ⟨hoffered.unleased, hoffered.undelivered, hoffered.claimable⟩)
  | @claim t leaseID expiresAt g hcall htask hstatus hfree =>
    obtain ⟨o, ho⟩ := hc.outbox htask
    refine Cell.attended_of (t := t.claim now leaseID expiresAt) (by simp [Cell.extend, Cell.mapTask, htask])
      ho (.inr (.inl ⟨rfl, ?_, ?_⟩))
    · rcases hstatus with hq | hflight
      · simp [Task.claim, hq, TaskStatus.executing]
      · rcases (Task.inFlight_iff.mp hflight).1 with h | h <;>
          simp [Task.claim, h, TaskStatus.executing]
    · intro hpolling
      rcases hstatus with hq | hflight
      · simp [Task.claim, hq] at hpolling
      · exact (Task.inFlight_iff.mp hflight).2
  | @deliver t f htask hlease hrunning =>
    obtain ⟨o, ho, hstate⟩ := hc t htask
    refine Cell.attended_of (o := f o) htask (by simp [Cell.mapOutbox, ho]) ?_
    rcases hstate with hended | hheld | hoffered
    · exact .inl hended
    · exact .inr (.inl hheld)
    · rcases hlease with hlease | hended
      · simp [hoffered.not_leased] at hlease
      · exact .inl hended
  | @update t f leaseID g hcall htask hkeeps =>
    obtain ⟨o, ho, hstate⟩ := hc t htask
    have hleased := Task.leased_of_leasedTo hkeeps.leasedTo
    have hheld : t.Held := by
      rcases hstate with hended | hheld | hoffered
      · simp [hkeeps.running] at hended
      · exact hheld
      · simp [hoffered.not_leased] at hleased
    refine Cell.attended_of (t := f t) (by simp [Cell.extend, Cell.mapTask, htask]) ho
      (.inr (.inl ⟨?_, hkeeps.executing, ?_⟩))
    · simp only [Task.leased, Bool.and_eq_true] at hleased ⊢
      rw [hkeeps.leaseID]
      exact ⟨hleased.1, hkeeps.expires⟩
    · intro hpolling
      rcases hkeeps.polling hpolling with hpolling | hgen
      · exact hkeeps.generation (hheld.polling hpolling)
      · exact hgen
  | @requeue t f h row g htask horigin hrunning hlease hstatus hgen hh hrow =>
    obtain ⟨o, ho⟩ := hc.outbox htask
    refine Cell.attended_of (t := f t) (o := h o) (by simp [Cell.extend, Cell.mapTask, htask])
      (by simp [ho]) (.inr (.inr ⟨hlease, hh o, ?_⟩))
    rcases hstatus with ⟨hq, -⟩ | hflight
    · exact .inl hq
    · exact .inr hflight
  | @uncertain t f htask horigin hrunning hstatus hlease =>
    obtain ⟨o, ho⟩ := hc.outbox htask
    refine Cell.attended_of (t := f t) (o := o.deliver now) (by simp [Cell.mapOutbox, Cell.mapTask, htask])
      (by simp [Cell.mapOutbox, Cell.mapTask, ho]) (.inl ?_)
    simp [hstatus, TaskStatus.terminal]
  | @complete t f htask horigin hrunning hstatus hlease =>
    obtain ⟨o, ho⟩ := hc.outbox htask
    refine Cell.attended_of (t := f t) (o := o.deliver now) (by simp [Cell.mapOutbox, Cell.mapTask, htask])
      (by simp [Cell.mapOutbox, Cell.mapTask, ho]) (.inl ?_)
    simp [hstatus, TaskStatus.terminal]
  | @finish t f reason htask horigin hrunning hstatus hlease =>
    obtain ⟨o, ho⟩ := hc.outbox htask
    refine Cell.attended_of (t := f t) (o := o.deliver now) (by simp [Cell.mapOutbox, Cell.mapTask, htask])
      (by simp [Cell.mapOutbox, Cell.mapTask, ho]) (.inl ?_)
    rcases hstatus with h | h <;> simp [h, TaskStatus.terminal]
  | @confirm t f hcall htask horigin huncertain hstatus hlease =>
    obtain ⟨o, ho⟩ := hc.outbox htask
    refine Cell.attended_of (t := f t) (o := o.deliver now) (by simp [Cell.mapOutbox, Cell.mapTask, htask])
      (by simp [Cell.mapOutbox, Cell.mapTask, ho]) (.inl ?_)
    simp [hstatus, TaskStatus.terminal]
  | @release t reason htask huncertain =>
    obtain ⟨o, ho⟩ := hc.outbox htask
    refine Cell.attended_of (t := t) (o := o) (by rw [Cell.settle_task, htask])
      (by rw [Cell.settle_outbox, ho]) (.inl ?_)
    simp [huncertain, TaskStatus.terminal]

end Step

/-- One of the updates of `RecoverStaleTasks` selects the task. -/
def Task.lapsed (now : Time) (t : Task) : Bool :=
  t.lapsedUnsubmitted now || t.abandoned now || t.lapsedInFlight now

theorem Task.Held.lapsed {t : Task} {now e : Time} (h : t.Held)
    (hexpires : t.executionLeaseExpiresAt = some e) (hle : e ≤ now) : t.lapsed now = true := by
  have hdue : due t.executionLeaseExpiresAt now = true := by simp [due, hexpires, hle]
  simp only [Task.lapsed, Task.lapsedUnsubmitted, Task.abandoned, Task.lapsedInFlight, hdue,
    Bool.and_true]
  have hexec := h.executing
  have hpolling := h.polling
  cases hs : t.status <;> simp_all [TaskStatus.executing, Task.inFlight]

/-- The recovery takes the task once its lease has expired, or the dispatcher takes
it once its next attempt is due. -/
def Database.Attends (db : Database) (t : Task) : Prop :=
  (∃ leaseID expiresAt, t.executionLeaseID = some leaseID ∧
    t.executionLeaseExpiresAt = some expiresAt ∧ ∀ now, expiresAt ≤ now → t.lapsed now = true) ∨
  ∃ o, db.outbox.get? t.id = some o ∧ o.deliveredAt = none ∧
    (t.status = .queued ∨ t.inFlight = true) ∧
    ∀ now, o.nextAttemptAt ≤ now → o.dispatchable db now = true

theorem Task.Held.attends {db : Database} {t : Task} (h : t.Held) : db.Attends t := by
  have hleased := h.leased
  simp only [Task.leased, Bool.and_eq_true, Option.isSome_iff_exists] at hleased
  obtain ⟨⟨leaseID, hid⟩, expiresAt, hexpires⟩ := hleased
  exact .inl ⟨leaseID, expiresAt, hid, hexpires, fun now => h.lapsed hexpires⟩

theorem Task.Offered.attends {db : Database} {t : Task} {o : OutboxRow} (h : t.Offered o)
    (ht : db.tasks.get? t.id = some t) (ho : db.outbox.get? t.id = some o) : db.Attends t := by
  refine .inr ⟨o, ho, h.undelivered, h.claimable, fun now hle => ?_⟩
  have hkey : o.taskID = t.id := Table.key_of_get? ho
  have hfree : t.leaseFree now = true := by simp [Task.leaseFree, Task.unleased_id h.unleased]
  have hclaimable := h.claimable
  simp [OutboxRow.dispatchable, h.undelivered, hle, hkey, ht, Task.dispatchable, hfree, hclaimable]

/-- Every task that has not ended is attended to; a queued task is unleased and
undelivered, and a task that has not been submitted yet, or whose submission has
no id, is leased. -/
structure Database.NoneStranded (db : Database) : Prop where
  attended : ∀ t ∈ db.tasks.rows, t.status.terminal = false → db.Attends t
  queued : ∀ t ∈ db.tasks.rows, t.status = .queued →
    ∃ o, db.outbox.get? t.id = some o ∧ o.deliveredAt = none
  unsubmitted : ∀ t ∈ db.tasks.rows, t.status = .reserving ∨ t.status = .uploading ∨
    t.status = .submitted ∧ t.generationID = "" → t.leased = true

theorem none_stranded {accounts : Table Account} {apiKeys : Table APIKey}
    {costRules : Table CostRule} {capacity : SystemCapacityConfig} {s : StoreState}
    (h : store.Reachable (.initial accounts apiKeys costRules capacity) s) :
    s.db.NoneStranded := by
  have hcell : ∀ t ∈ s.db.tasks.rows, ∃ o, s.db.outbox.get? t.id = some o ∧
      (t.status.terminal = true ∨ t.Held ∨ t.Offered o) := by
    intro t ht
    have hempty : Cell.Attended .empty := by
      intro t ht
      cases ht
    have hattended : (s.db.cell t.id).Attended :=
      store_invariant hempty (fun _ _ _ _ => Transition.attended) h t.id
    have htask : (s.db.cell t.id).task = some t := Table.get?_of_mem ht
    exact hattended t htask
  refine ⟨?_, ?_, ?_⟩
  · intro t ht hrun
    obtain ⟨o, ho, hended | hheld | hoffered⟩ := hcell t ht
    · simp [hrun] at hended
    · exact hheld.attends
    · exact hoffered.attends (Table.get?_of_mem ht) ho
  · intro t ht hqueued
    obtain ⟨o, ho, hended | hheld | hoffered⟩ := hcell t ht
    · simp [hqueued, TaskStatus.terminal] at hended
    · have hexec := hheld.executing
      simp [hqueued, TaskStatus.executing] at hexec
    · exact ⟨o, ho, hoffered.undelivered⟩
  · intro t ht hstatus
    obtain ⟨o, ho, hended | hheld | hoffered⟩ := hcell t ht
    · rcases hstatus with h | h | ⟨h, -⟩ <;> simp [h, TaskStatus.terminal] at hended
    · exact hheld.leased
    · rcases hoffered.claimable with hq | hflight
      · rcases hstatus with h | h | ⟨h, -⟩ <;> simp [h] at hq
      · obtain ⟨hs, hgen⟩ := Task.inFlight_iff.mp hflight
        rcases hstatus with h | h | ⟨-, h⟩
        · simp [h] at hs
        · simp [h] at hs
        · exact absurd h hgen

/-- One task in flight and leased, one waiting in the queue. -/
theorem none_stranded_leased :
    let s := (smallStore ⟨[smallAccount], by decide⟩).after
      [admitAt 0 (smallRequest 20 .image 5), admitAt 0 (smallRequest 21 .image 5), claimAt 1 20 900]
    s.db.tasks.rows.map Task.status = [.reserving, .queued] ∧ s.db.NoneStranded :=
  ⟨by decide +kernel, none_stranded (store_reachable_after (by decide +kernel))⟩

end GenerationGateway
