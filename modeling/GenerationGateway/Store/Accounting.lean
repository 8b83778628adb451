import GenerationGateway.Store.System

/-!
# Task, reservation and ledger

The status of a task decides the state of its only reservation, and the usage
ledger has one row for each settled reservation and none for a held one. Each
transition keeps the three rows together; the account and the estimate follow
from the foreign key.
-/

namespace GenerationGateway

open Relational Transitions

/-- The hold was given back. -/
def Reservation.released (r : Reservation) : Prop :=
  ∃ s, r.settlement = some s ∧ s.state = .released ∧ s.settledTokens = 0

/-- The hold was charged in full. -/
def Reservation.consumed (r : Reservation) : Prop :=
  ∃ s, r.settlement = some s ∧ s.state = .consumed ∧ s.settledTokens = r.estimatedTokens

/-- The state of the reservation of a task with this status. -/
def Reservation.fits (r : Reservation) : TaskStatus → Prop
  | .succeeded => r.consumed
  | .failed | .cancelled => r.released
  | .submissionUncertain => r.settlement = none ∨ r.released
  | _ => r.settlement = none

theorem Reservation.fits_of_running {r : Reservation} {s : TaskStatus} (h : s.terminal = false) :
    r.fits s ↔ r.settlement = none := by
  cases s <;> simp_all [TaskStatus.terminal, Reservation.fits]

/-- The ledger rows that a task and its reservation call for. -/
def Reservation.ledger (t : Task) (r : Reservation) : Option LedgerRow :=
  r.settlement.map (ledgerRow t r)

theorem Reservation.ledger_of_held {t : Task} {r : Reservation} (h : r.settlement = none) :
    r.ledger t = none := by
  simp [Reservation.ledger, h]

theorem Reservation.ledger_congr {t t' : Task} (h : SameOrigin t t') (r : Reservation) :
    r.ledger t' = r.ledger t := by
  have hrow : ledgerRow t' r = ledgerRow t r := by
    funext s
    simp [ledgerRow, h.id, h.apiKeyID, h.providerID, h.pricingRuleID, h.kind, h.model]
  rw [Reservation.ledger, hrow, Reservation.ledger]

/-- The rows of one task fit together. -/
def Cell.Accounted (c : Cell) : Prop :=
  match c.task with
  | none => c.ledger = none
  | some t => ∃ r, c.reservation = some r ∧ r.fits t.status ∧ c.ledger = r.ledger t

theorem Cell.accounted_of_task {c : Cell} {t : Task} (h : c.task = some t) :
    c.Accounted ↔ ∃ r, c.reservation = some r ∧ r.fits t.status ∧ c.ledger = r.ledger t := by
  simp [Cell.Accounted, h]

theorem Cell.accounted_mapOutbox {c : Cell} (f : OutboxRow → OutboxRow) :
    (c.mapOutbox f).Accounted ↔ c.Accounted := Iff.rfl

/-- A running task holds its reservation and has no ledger row. -/
theorem Cell.Accounted.held {c : Cell} {t : Task} (hc : c.Accounted) (htask : c.task = some t)
    (hrun : t.status.terminal = false) :
    ∃ r, c.reservation = some r ∧ r.settlement = none ∧ c.ledger = none := by
  obtain ⟨r, hr, hfits, hledger⟩ := (Cell.accounted_of_task htask).mp hc
  have hheld : r.settlement = none := (Reservation.fits_of_running hrun).mp hfits
  refine ⟨r, hr, hheld, ?_⟩
  rw [hledger, Reservation.ledger_of_held hheld]

/-- A task that goes on running keeps its hold, whatever its other columns. -/
theorem Cell.Accounted.run {c c' : Cell} {t t' : Task} (hc : c.Accounted) (htask : c.task = some t)
    (hrun : t.status.terminal = false) (htask' : c'.task = some t')
    (hkeep : ∀ r : Reservation, t'.status.terminal = true → r.settlement = none → r.fits t'.status)
    (hres : ∀ r, c.reservation = some r → r.settlement = none →
      ∃ r', c'.reservation = some r' ∧ r'.settlement = none)
    (hledger : c'.ledger = c.ledger) : c'.Accounted := by
  obtain ⟨r, hr, hheld, hnone⟩ := hc.held htask hrun
  obtain ⟨r', hr', hheld'⟩ := hres r hr hheld
  rw [Cell.accounted_of_task htask']
  refine ⟨r', hr', ?_, ?_⟩
  · cases hterm : t'.status.terminal with
    | false => exact (Reservation.fits_of_running hterm).mpr hheld'
    | true => exact hkeep r' hterm hheld'
  · rw [hledger, hnone, Reservation.ledger_of_held hheld']

theorem Cell.extend_reservation {c : Cell} {r : Reservation} (g : Time → Time)
    (hr : c.reservation = some r) (hheld : r.settlement = none) :
    ∃ r', (c.extend g).reservation = some r' ∧ r'.settlement = none := by
  refine ⟨{ r with expiresAt := g r.expiresAt }, ?_, hheld⟩
  simp [Cell.extend, hr, Reservation.held, hheld]

theorem Cell.settle_of_held {c : Cell} {t : Task} {r : Reservation} (s : Reservation → Settlement)
    (reason : String) (htask : c.task = some t) (hr : c.reservation = some r)
    (hheld : r.settlement = none) : c.settle (fun _ => true) s reason =
      { c with
        reservation := some (r.settle (s r) reason)
        ledger := (r.settle (s r) reason).ledger t } := by
  simp [Cell.settle, htask, hr, Reservation.held, hheld, Reservation.ledger, Reservation.settle]

theorem Cell.settle_of_settled {c : Cell} {r : Reservation} (s : Reservation → Settlement)
    (reason : String) (hr : c.reservation = some r) (hsettled : r.settlement ≠ none) :
    c.settle (fun _ => true) s reason = c := by
  have hheld : r.held = false := by
    rw [Reservation.held, Option.isNone_eq_false_iff]
    exact Option.isSome_iff_ne_none.mpr hsettled
  unfold Cell.settle
  split
  · next t r' ht hr' =>
    obtain rfl : r = r' := by simpa [hr] using hr'
    simp [hheld]
  · rfl

/-- Settling the hold of a running task into the state of its new status. -/
theorem Cell.Accounted.settle {c : Cell} {t t' : Task} {s : Reservation → Settlement}
    {reason : String} (hc : c.Accounted) (htask : c.task = some t)
    (hrun : t.status.terminal = false) (hfits : ∀ r : Reservation, (r.settle (s r) reason).fits t'.status) :
    (({ c with task := some t' } : Cell).settle (fun _ => true) s reason).Accounted := by
  obtain ⟨r, hr, hheld, -⟩ := hc.held htask hrun
  rw [Cell.settle_of_held (c := { c with task := some t' }) s reason rfl hr hheld]
  exact (Cell.accounted_of_task rfl).mpr ⟨_, rfl, hfits r, rfl⟩

/-- Releasing what an uncertain task may still hold. -/
theorem Cell.Accounted.release {c : Cell} {t t' : Task} {now : Time} {reason : String}
    (hc : c.Accounted) (htask : c.task = some t) (huncertain : t.status = .submissionUncertain)
    (horigin : SameOrigin t t')
    (hfits : ∀ r : Reservation, r.released → r.fits t'.status) :
    (({ c with task := some t' } : Cell).release now reason).Accounted := by
  obtain ⟨r, hr, hstate, hledger⟩ := (Cell.accounted_of_task htask).mp hc
  rw [huncertain] at hstate
  rcases hstate with hheld | hreleased
  · rw [Cell.release, Cell.settle_of_held (c := { c with task := some t' }) _ reason rfl hr hheld]
    exact (Cell.accounted_of_task rfl).mpr ⟨_, rfl, hfits _ ⟨_, rfl, rfl, rfl⟩, rfl⟩
  · have hsettled : r.settlement ≠ none := by
      obtain ⟨s, hs, -⟩ := hreleased
      simp [hs]
    rw [Cell.release, Cell.settle_of_settled (c := { c with task := some t' }) _ reason hr hsettled]
    refine (Cell.accounted_of_task rfl).mpr ⟨r, hr, hfits r hreleased, ?_⟩
    rw [Reservation.ledger_congr horigin]
    exact hledger

/-- Every transition keeps the rows of a task together. -/
theorem Transition.accounted {now : Time} {call : Call} {c c' : Cell}
    (h : Transition now call c c') (hc : c.Accounted) : c'.Accounted := by
  cases h with
  | create hcall htask hres hout hstatus hlease hgen hheld hdel =>
    have hledger : c.ledger = none := by simpa [Cell.Accounted, htask] using hc
    refine (Cell.accounted_of_task rfl).mpr ⟨_, rfl, ?_, ?_⟩
    · rw [hstatus]
      exact hheld
    · rw [Reservation.ledger_of_held hheld]
      exact hledger
  | redispatch htask hstatus hf => exact hc
  | retime hf => exact hc
  | reroute leaseID target hcall htask hstatus hgen =>
    rw [Cell.mapTask_of_task _ htask]
    refine hc.run htask (by simp [hstatus, TaskStatus.terminal]) rfl ?_ ?_ rfl
    · intro r hterm
      simp [Task.moveTo, hstatus, TaskStatus.terminal] at hterm
    · intro r hr hheld
      refine ⟨r.moveTo target, by simp [Cell.mapReservation, hr], ?_⟩
      simp [Reservation.moveTo, Reservation.held, hheld]
  | @claim t leaseID expiresAt g hcall htask hstatus hfree =>
    have hrun : t.status.terminal = false ∧
        (t.claim now leaseID expiresAt).status.terminal = false := by
      rcases hstatus with hq | hflight
      · simp [Task.claim, hq, TaskStatus.terminal]
      · simp only [Task.inFlight, Bool.and_eq_true, Bool.or_eq_true, decide_eq_true_eq] at hflight
        rcases hflight.1 with h | h <;> simp [Task.claim, h, TaskStatus.terminal]
    rw [Cell.mapTask_of_task _ htask]
    refine hc.run htask hrun.1 rfl ?_ ?_ rfl
    · intro r hterm
      simp [hrun.2] at hterm
    · intro r hr hheld
      exact Cell.extend_reservation g hr hheld
  | deliver htask hlease hrunning => exact hc
  | @update t f leaseID g hcall htask hkeeps =>
    rw [Cell.mapTask_of_task _ htask]
    refine hc.run htask hkeeps.running rfl ?_ ?_ rfl
    · intro r hterm
      simp [TaskStatus.terminal_of_executing hkeeps.executing] at hterm
    · intro r hr hheld
      exact Cell.extend_reservation g hr hheld
  | @requeue t f h row g htask horigin hrunning hlease hstatus hgen hh hrow =>
    have hterm' : (f t).status.terminal = false := by
      rcases hstatus with ⟨hq, -⟩ | hflight
      · simp [hq, TaskStatus.terminal]
      · simp only [Task.inFlight, Bool.and_eq_true, Bool.or_eq_true, decide_eq_true_eq] at hflight
        rcases hflight.1 with h | h <;> simp [h, TaskStatus.terminal]
    rw [Cell.mapTask_of_task _ htask]
    refine hc.run htask (TaskStatus.terminal_of_executing hrunning) rfl ?_ ?_ rfl
    · intro r hterm
      simp [hterm'] at hterm
    · intro r hr hheld
      exact Cell.extend_reservation g hr hheld
  | @uncertain t f htask horigin hrunning hstatus hlease =>
    rw [Cell.mapTask_of_task _ htask, Cell.accounted_mapOutbox]
    refine hc.run htask hrunning rfl ?_ ?_ rfl
    · intro r _ hheld
      rw [hstatus]
      exact .inl hheld
    · intro r hr hheld
      exact ⟨r, hr, hheld⟩
  | @complete t f htask horigin hrunning hstatus hlease =>
    rw [Cell.mapTask_of_task _ htask, Cell.accounted_mapOutbox]
    refine hc.settle htask ?_ fun r => ?_
    · rcases hrunning with h | h <;> simp [h, TaskStatus.terminal]
    · rw [hstatus]
      exact ⟨_, rfl, rfl, rfl⟩
  | @finish t f reason htask horigin hrunning hstatus hlease =>
    rw [Cell.mapTask_of_task _ htask, Cell.accounted_mapOutbox]
    refine hc.settle htask hrunning fun r => ?_
    rcases hstatus with h | h <;> rw [h] <;> exact ⟨_, rfl, rfl, rfl⟩
  | @confirm t f hcall htask horigin huncertain hstatus hlease =>
    rw [Cell.mapTask_of_task _ htask, Cell.accounted_mapOutbox]
    refine hc.release htask huncertain horigin fun r hr => ?_
    rw [hstatus]
    exact hr
  | @release t reason htask huncertain =>
    have hsame : c = { c with task := some t } := by rw [← htask]
    rw [hsame]
    refine hc.release htask huncertain ⟨rfl, rfl, rfl, rfl, rfl, rfl, rfl, rfl, rfl, rfl, rfl⟩ fun r hr => ?_
    rw [huncertain]
    exact .inr hr

/-- Each task has exactly one reservation, on its account and with its estimate,
in the state that its status calls for; the ledger has exactly one row for it
once it is settled and none before. There are no rows of other tasks. -/
structure Database.Accounted (db : Database) : Prop where
  task : ∀ t ∈ db.tasks.rows, ∃ r, (db.reservations.select fun r => r.taskID = t.id) = [r] ∧
    t.accountID = some r.accountID ∧ r.estimatedTokens = t.estimatedTokens ∧ r.fits t.status ∧
    (db.ledger.select fun l => l.taskID = t.id) = (r.ledger t).toList
  reservation : ∀ r ∈ db.reservations.rows, ∃ t ∈ db.tasks.rows, t.id = r.taskID
  ledger : ∀ l ∈ db.ledger.rows, ∃ t ∈ db.tasks.rows, t.id = l.taskID

theorem Database.accounted_of_cells {db : Database} (h : ∀ k, (db.cell k).Accounted) :
    db.Accounted where
  task := by
    intro t ht
    have htask : (db.cell t.id).task = some t := Table.get?_of_mem ht
    obtain ⟨r, hr, hfits, hledger⟩ := (Cell.accounted_of_task htask).mp (h t.id)
    obtain ⟨t', ht', hacc, hest⟩ := Database.identity_of_get? hr
    obtain rfl : t = t' := Option.some.inj (htask.symm.trans ht')
    refine ⟨r, ?_, hacc, hest.symm, hfits, ?_⟩
    · have hget : db.reservations.get? t.id = some r := hr
      simpa only [key_reservation, hget, Option.toList_some] using db.reservations.select_key t.id
    · have hget : db.ledger.get? t.id = r.ledger t := hledger
      simpa only [key_ledgerRow, hget] using db.ledger.select_key t.id
  reservation := by
    intro r hr
    obtain ⟨t, ht, hid, -⟩ := db.identity r hr
    exact ⟨t, ht, hid⟩
  ledger := by
    intro l hl
    have hrow : (db.cell l.taskID).ledger = some l := Table.get?_of_mem hl
    have hacc := h l.taskID
    cases htask : (db.cell l.taskID).task with
    | none =>
      simp only [Cell.Accounted, htask] at hacc
      rw [hrow] at hacc
      cases hacc
    | some t => exact ⟨t, Table.mem_of_get? htask, Table.key_of_get? htask⟩

/-- The accounting holds in every reachable store. -/
theorem reservation_of_task {accounts : Table Account} {apiKeys : Table APIKey}
    {costRules : Table CostRule} {capacity : SystemCapacityConfig} {s : StoreState}
    (h : store.Reachable (.initial accounts apiKeys costRules capacity) s) : s.db.Accounted :=
  Database.accounted_of_cells
    (store_invariant (P := Cell.Accounted) rfl (fun _ _ _ _ => Transition.accounted) h)

/-- A task that ran to its end. -/
theorem reservation_of_task_smallLife :
    ((smallStore ⟨[smallAccount], by decide⟩).after smallLife).db.tasks.rows.map Task.status =
        [.succeeded] ∧
      ((smallStore ⟨[smallAccount], by decide⟩).after smallLife).db.Accounted :=
  ⟨by decide +kernel, reservation_of_task (store_reachable_after (by decide +kernel))⟩

end GenerationGateway
