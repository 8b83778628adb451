import GenerationGateway.Store.Stranded

/-!
# What the held reservations of an account add up to

Every aggregate over held reservations is a sum of one share for each task, so a
transaction about one task moves it by the change of that share, and the other
operations never let it grow: only admission and claim create or move a hold or
start an execution.
-/

namespace GenerationGateway

open Relational

/-- What the task of the cell adds to the aggregate `g` over the account's holds. -/
def Cell.share (account : UUID) (g : Option Task → ℕ → ℕ) (c : Cell) : ℕ :=
  match c.reservation with
  | some r => if r.holds account then g c.task r.estimatedTokens else 0
  | none => 0

def Database.share (db : Database) (account : UUID) (g : Option Task → ℕ → ℕ) : ℕ :=
  db.reservations.total fun r =>
    if r.holds account then g (db.tasks.get? r.taskID) r.estimatedTokens else 0

def countExecuting (t : Option Task) (_ : ℕ) : ℕ := if t.any fun t => t.status.executing then 1 else 0

theorem heldTokens_eq (db : Database) (account : UUID) :
    heldTokens db account = db.share account fun _ estimate => estimate := rfl

theorem reservationCount_eq (db : Database) (account : UUID) :
    reservationCount db account = db.share account fun _ _ => 1 :=
  Table.count_eq_total _ _

theorem activeTasks_eq (db : Database) (account : UUID) :
    activeTasks db account = db.share account countExecuting := by
  rw [activeTasks, Table.count_eq_total, Database.share]
  congr
  funext r
  cases r.holds account <;> simp [countExecuting]

section Share

variable {db v : Database} {account : UUID} {g : Option Task → ℕ → ℕ}

theorem share_contribution (db : Database) (account : UUID) (g : Option Task → ℕ → ℕ) (k : UUID) :
    db.reservations.contribution (fun r =>
      if r.holds account then g (db.tasks.get? r.taskID) r.estimatedTokens else 0) k =
      (db.cell k).share account g := by
  cases hr : db.reservations.get? k with
  | none => simp [Table.contribution_of_none hr, Cell.share, Database.cell, hr]
  | some r =>
    have hkey : r.taskID = k := Table.key_of_get? hr
    simp [Table.contribution_of_get? hr, Cell.share, Database.cell, hr, hkey]

/-- A change of one task moves an aggregate by the change of its share. -/
theorem share_add_share (id : UUID)
    (h : ∀ k, k ≠ id → (v.cell k).share account g = (db.cell k).share account g) :
    v.share account g + (db.cell id).share account g =
      db.share account g + (v.cell id).share account g := by
  rw [← share_contribution db, ← share_contribution v]
  apply Table.total_add_contribution
  intro k hk
  rw [share_contribution, share_contribution]
  exact h k hk

theorem share_le_share (h : ∀ k, (v.cell k).share account g ≤ (db.cell k).share account g) :
    v.share account g ≤ db.share account g := by
  apply Table.total_le_total
  intro k
  rw [share_contribution, share_contribution]
  exact h k

theorem share_congr (h : ∀ k, (v.cell k).share account g = (db.cell k).share account g) :
    v.share account g = db.share account g := by
  apply Table.total_congr
  intro k
  rw [share_contribution, share_contribution]
  exact h k

end Share

/-- The calls whose transitions create or move holds, or start executions. -/
def Call.session : Call → Bool
  | .admission | .claim _ _ => true
  | _ => false

section Step

variable {now : Time} {call : Call} {c c' : Cell} {account : UUID} {g : Option Task → ℕ → ℕ}

theorem Cell.share_le_of_reservation (hres : c'.reservation = c.reservation)
    (hg : ∀ estimate, g c'.task estimate ≤ g c.task estimate) :
    c'.share account g ≤ c.share account g := by
  unfold Cell.share
  rw [hres]
  split
  · split
    · exact hg _
    · exact le_rfl
  · exact le_rfl

@[simp] theorem Cell.share_extend (c : Cell) (e : Time → Time) :
    (c.extend e).share account g = c.share account g := by
  cases hr : c.reservation with
  | none => simp [Cell.share, Cell.extend, hr]
  | some r => by_cases hheld : r.held <;> simp [Cell.share, Cell.extend, hr, Reservation.holds,
      Reservation.held] <;> simp_all [Reservation.held]

@[simp] theorem Cell.share_mapOutbox (c : Cell) (f : OutboxRow → OutboxRow) :
    (c.mapOutbox f).share account g = c.share account g := rfl

/-- A settled reservation adds nothing. -/
theorem Cell.share_settle_le (s : Reservation → Settlement) (reason : String) (c : Cell) :
    (c.settle (fun _ => true) s reason).share account g ≤ c.share account g := by
  unfold Cell.settle
  split
  · split
    · simp [Cell.share, Reservation.holds, Reservation.held, Reservation.settle]
    · exact le_rfl
  · exact le_rfl

/-- Outside admission and claim a share does not grow, if the new task weighs no
more than the old one. -/
theorem Transition.share_le (h : Transition now call c c') (hcall : call.session = false)
    (hg : ∀ t t', c.task = some t → c'.task = some t' →
      ∀ estimate, g (some t') estimate ≤ g (some t) estimate) :
    c'.share account g ≤ c.share account g := by
  have hmap {t : Task} {f : Task → Task} (htask : c.task = some t)
      (htask' : c'.task = some (f t)) :
      (c.mapTask f).share account g ≤ c.share account g := by
    apply Cell.share_le_of_reservation (by rfl)
    rw [Cell.mapTask_of_task f htask, htask]
    exact hg t (f t) htask htask'
  cases h with
  | create hsession htask hres hout hstatus hlease hgen hheld hdel =>
    rw [hsession] at hcall
    cases hcall
  | redispatch htask hstatus hf => exact le_rfl
  | retime hf => exact le_rfl
  | reroute leaseID target hsession htask hstatus hgen =>
    rw [hsession] at hcall
    cases hcall
  | claim leaseID expiresAt e hsession htask hstatus hfree =>
    rw [hsession] at hcall
    cases hcall
  | deliver htask hlease hrunning => exact le_rfl
  | update leaseID e hsession htask hkeeps =>
    rw [Cell.share_extend]
    exact hmap htask (by simp [Cell.extend, Cell.mapTask, htask])
  | @requeue t f outbox row e htask horigin hrunning hlease hstatus hgen hh hrow =>
    have hextend : ((c.mapTask f).extend e).share account g ≤ c.share account g := by
      rw [Cell.share_extend]
      exact hmap htask (by simp [Cell.extend, Cell.mapTask, htask])
    exact hextend
  | uncertain htask horigin hrunning hstatus hlease =>
    rw [Cell.share_mapOutbox]
    exact hmap htask (by simp [Cell.mapOutbox, Cell.mapTask, htask])
  | complete htask horigin hrunning hstatus hlease =>
    rw [Cell.share_mapOutbox]
    refine (Cell.share_settle_le _ _ _).trans (hmap htask ?_)
    simp [Cell.mapOutbox, Cell.mapTask, htask]
  | finish reason htask horigin hrunning hstatus hlease =>
    rw [Cell.share_mapOutbox]
    refine (Cell.share_settle_le _ _ _).trans (hmap htask ?_)
    simp [Cell.mapOutbox, Cell.mapTask, htask]
  | confirm hsession htask horigin huncertain hstatus hlease =>
    rw [Cell.share_mapOutbox]
    refine (Cell.share_settle_le _ _ _).trans (hmap htask ?_)
    simp [Cell.mapOutbox, Cell.mapTask, htask]
  | release reason htask huncertain => exact Cell.share_settle_le _ _ _

/-- Outside claim no task starts to execute. -/
theorem Transition.executing (h : Transition now call c c') (hcall : call.session = false)
    (hc : c.Attended) {t t' : Task} (ht : c.task = some t) (ht' : c'.task = some t')
    (hexec : t'.status.executing = true) : t.status.executing = true := by
  have hsame {t₀ : Task} (h₀ : c.task = some t₀) : t₀ = t := Option.some.inj (h₀.symm.trans ht)
  cases h with
  | create hsession htask hres hout hstatus hlease hgen hheld hdel =>
    rw [hsession] at hcall
    cases hcall
  | redispatch htask hstatus hf =>
    obtain rfl : t' = t := Option.some.inj (ht'.symm.trans ht)
    exact hexec
  | retime hf =>
    obtain rfl : t' = t := Option.some.inj (ht'.symm.trans ht)
    exact hexec
  | reroute leaseID target hsession htask hstatus hgen =>
    rw [hsession] at hcall
    cases hcall
  | claim leaseID expiresAt e hsession htask hstatus hfree =>
    rw [hsession] at hcall
    cases hcall
  | deliver htask hlease hrunning =>
    obtain rfl : t' = t := Option.some.inj (ht'.symm.trans ht)
    exact hexec
  | update leaseID e hsession htask hkeeps =>
    obtain rfl := hsame htask
    obtain ⟨o, -, hended | hheld | hoffered⟩ := hc _ ht
    · simp [hkeeps.running] at hended
    · exact hheld.executing
    · have hleased := Task.leased_of_leasedTo hkeeps.leasedTo
      simp [hoffered.not_leased] at hleased
  | requeue e htask horigin hrunning hlease hstatus hgen hh hrow =>
    obtain rfl := hsame htask
    exact hrunning
  | uncertain htask horigin hrunning hstatus hlease =>
    obtain rfl := Cell.task_of_mapTask htask ht'
    simp [hstatus, TaskStatus.executing] at hexec
  | complete htask horigin hrunning hstatus hlease =>
    rw [Cell.mapOutbox, Cell.settle_task] at ht'
    obtain rfl := Cell.task_of_mapTask htask ht'
    simp [hstatus, TaskStatus.executing] at hexec
  | finish reason htask horigin hrunning hstatus hlease =>
    rw [Cell.mapOutbox, Cell.settle_task] at ht'
    obtain rfl := Cell.task_of_mapTask htask ht'
    rcases hstatus with h | h <;> simp [h, TaskStatus.executing] at hexec
  | confirm hsession htask horigin huncertain hstatus hlease =>
    rw [Cell.mapOutbox, Cell.settle_task] at ht'
    obtain rfl := Cell.task_of_mapTask htask ht'
    simp [hstatus, TaskStatus.executing] at hexec
  | release reason htask huncertain =>
    rw [Cell.settle_task] at ht'
    obtain rfl : t' = t := Option.some.inj (ht'.symm.trans ht)
    exact hexec

/-- Over the transitions of one operation a hold does not grow. -/
theorem Steps.hold_le (h : Steps now call c c') (hcall : call.session = false) (g : ℕ → ℕ) :
    c'.share account (fun _ => g) ≤ c.share account (fun _ => g) := by
  induction h with
  | refl => exact le_rfl
  | tail _ hstep ih => exact (hstep.share_le hcall fun _ _ _ _ _ => le_rfl).trans ih

theorem Steps.executing_le (h : Steps now call c c') (hcall : call.session = false)
    (hc : c.Attended) : c'.share account countExecuting ≤ c.share account countExecuting := by
  induction h with
  | refl => exact le_rfl
  | tail hsteps hstep ih =>
    have hmid := Steps.invariant (P := Cell.Attended) (fun _ _ => Transition.attended) hsteps hc
    refine (hstep.share_le hcall fun t t' ht ht' estimate => ?_).trans ih
    simp only [countExecuting, Option.any_some]
    by_cases hexec : t'.status.executing = true
    · rw [if_pos hexec, if_pos (hstep.executing hcall hmid ht ht' hexec)]
    · rw [if_neg hexec]
      exact Nat.zero_le _

end Step

/-- Outside admission and claim no aggregate over the holds of an account grows. -/
theorem Lives.share_le {now : Time} {call : Call} {db db' : Database} (h : Lives now call db db')
    (hcall : call.session = false) (account : UUID) :
    heldTokens db' account ≤ heldTokens db account ∧
      reservationCount db' account ≤ reservationCount db account := by
  rw [heldTokens_eq, heldTokens_eq, reservationCount_eq, reservationCount_eq]
  exact ⟨share_le_share fun k => (h k).hold_le hcall fun estimate => estimate,
    share_le_share fun k => (h k).hold_le hcall fun _ => 1⟩

theorem Lives.activeTasks_le {now : Time} {call : Call} {db db' : Database}
    (h : Lives now call db db') (hcall : call.session = false)
    (hattended : ∀ k, (db.cell k).Attended) (account : UUID) :
    activeTasks db' account ≤ activeTasks db account := by
  rw [activeTasks_eq, activeTasks_eq]
  exact share_le_share fun k => (h k).executing_le hcall (hattended k)

end GenerationGateway
