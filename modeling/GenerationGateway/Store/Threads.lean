import GenerationGateway.Store.Discipline
import GenerationGateway.Store.Holds
import GenerationGateway.Store.ReadCommitted

/-!
# What an open transaction has written

The writes of a claim or an admission up to a phase are known: they concern the
rows of its own task and leave every account alone. This holds of the writes
redone on any committed state, so it needs no care about what others do. A commit
is then an operation of the store, and invariants of the cells carry over to the
interleaved machine.
-/

namespace GenerationGateway

open Relational Effects Transitions

/-- The account and the estimate of a held reservation. -/
def Reservation.stake (r : Reservation) : Option (UUID × ℕ) :=
  if r.held then some (r.accountID, r.estimatedTokens) else none

def Cell.stake (c : Cell) : Option (UUID × ℕ) := c.reservation.bind Reservation.stake

/-- What a stake adds to an aggregate. -/
def stakeShare (account : UUID) (g : Option Task → ℕ → ℕ) (t : Option Task) :
    Option (UUID × ℕ) → ℕ
  | some (holder, estimate) => if holder = account then g t estimate else 0
  | none => 0

theorem Cell.share_eq (c : Cell) (account : UUID) (g : Option Task → ℕ → ℕ) :
    c.share account g = stakeShare account g c.task c.stake := by
  cases hr : c.reservation with
  | none => simp [Cell.share, Cell.stake, hr, stakeShare]
  | some r =>
    by_cases hheld : r.held = true
    · simp [Cell.share, Cell.stake, hr, Reservation.stake, Reservation.holds, hheld, stakeShare]
    · simp [Cell.share, Cell.stake, hr, Reservation.stake, Reservation.holds, hheld, stakeShare]

/-- The task of a held reservation is on its account. -/
theorem Database.stake_identity {db : Database} {k holder : UUID} {estimate : ℕ}
    (h : (db.cell k).stake = some (holder, estimate)) :
    ∃ t, (db.cell k).task = some t ∧ t.accountID = some holder ∧ t.estimatedTokens = estimate := by
  obtain ⟨r, hr, hstake⟩ := Option.bind_eq_some_iff.mp h
  obtain ⟨t, ht, hacc, hest⟩ := Database.identity_of_get? (k := k) (r := r) hr
  unfold Reservation.stake at hstake
  split_ifs at hstake
  cases hstake
  exact ⟨t, ht, hacc, hest⟩

/-- The same task under the same hold. -/
structure Cell.Alike (c c' : Cell) : Prop where
  task : c'.task = c.task
  stake : c'.stake = c.stake

namespace Cell.Alike

variable {a b c : Cell}

theorem refl (c : Cell) : Cell.Alike c c := ⟨rfl, rfl⟩

theorem trans (h : Cell.Alike a b) (h' : Cell.Alike b c) : Cell.Alike a c :=
  ⟨h'.task.trans h.task, h'.stake.trans h.stake⟩

theorem share (h : Cell.Alike a b) (account : UUID) (g : Option Task → ℕ → ℕ) :
    b.share account g = a.share account g := by
  rw [Cell.share_eq, Cell.share_eq, h.task, h.stake]

theorem mapOutbox (c : Cell) (f : OutboxRow → OutboxRow) : Cell.Alike c (c.mapOutbox f) :=
  ⟨rfl, rfl⟩

theorem extend (c : Cell) (e : Time → Time) : Cell.Alike c (c.extend e) := by
  refine ⟨rfl, ?_⟩
  cases hr : c.reservation with
  | none => simp [Cell.stake, Cell.extend, hr]
  | some r =>
    by_cases hheld : r.held = true
    · simp only [Cell.stake, Cell.extend, hr, Option.map_some, if_pos hheld, Option.bind_some]
      rfl
    · simp [Cell.stake, Cell.extend, hr, hheld]

theorem of_woken {now : Time} (h : Cell.Woken now a b) : Cell.Alike a b := by
  rcases h with rfl | ⟨-, rfl⟩
  · exact refl _
  · exact mapOutbox _ _

end Cell.Alike

/-- The rows that claim and admission never write; of the capacity they write the
overload mode. -/
structure SameConfig (db v : Database) : Prop where
  accounts : v.accounts = db.accounts
  apiKeys : v.apiKeys = db.apiKeys
  maxExecuting : v.capacity.maxExecuting = db.capacity.maxExecuting

theorem SameConfig.refl (db : Database) : SameConfig db db := ⟨rfl, rfl, rfl⟩

theorem SameConfig.trans {a b c : Database} (h : SameConfig a b) (h' : SameConfig b c) :
    SameConfig a c :=
  ⟨h'.accounts.trans h.accounts, h'.apiKeys.trans h.apiKeys, h'.maxExecuting.trans h.maxExecuting⟩

theorem SameConfig.of_shared {a b : Database} (h : a.SameShared b) : SameConfig a b :=
  ⟨h.accounts, h.apiKeys, by rw [h.capacity]⟩

/-- Only the rows of the task `id` differ, and no configuration. -/
structure Frame (id : UUID) (db v : Database) : Prop extends SameConfig db v where
  others : ∀ k, k ≠ id → Cell.Alike (db.cell k) (v.cell k)

namespace Frame

variable {id : UUID} {a b c : Database}

theorem refl (id : UUID) (db : Database) : Frame id db db := ⟨.refl db, fun _ _ => .refl _⟩

theorem trans (h : Frame id a b) (h' : Frame id b c) : Frame id a c :=
  ⟨h.toSameConfig.trans h'.toSameConfig, fun k hk => (h.others k hk).trans (h'.others k hk)⟩

theorem of_touches {F : Cell → Cell} (h : Touches id F a b) (hshared : a.SameShared b) :
    Frame id a b :=
  ⟨.of_shared hshared, fun k hk => by rw [h.frame k hk]; exact .refl _⟩

end Frame

/-- All tasks and holds are as before. -/
structure Quiet (db v : Database) : Prop extends SameConfig db v where
  cells : ∀ k, Cell.Alike (db.cell k) (v.cell k)

namespace Quiet

variable {id : UUID} {a b : Database}

theorem refl (db : Database) : Quiet db db := ⟨.refl db, fun _ => .refl _⟩

theorem frame (h : Quiet a b) (id : UUID) : Frame id a b := ⟨h.toSameConfig, fun k _ => h.cells k⟩

theorem of_touches {F : Cell → Cell} (h : Touches id F a b) (hshared : a.SameShared b)
    (hF : Cell.Alike (a.cell id) (F (a.cell id))) : Quiet a b := by
  refine ⟨.of_shared hshared, fun k => ?_⟩
  by_cases hk : k = id
  · rw [hk, h.cell]
    exact hF
  · rw [h.frame k hk]
    exact .refl _

end Quiet

/-- A neutral statement writes outbox rows, an expiry or the overload mode at most. -/
theorem Statement.quiet_of_neutral {env : Env} {op : Statement} {r : op.Res} {u v : Database}
    (hneutral : op.neutral = true) (h : op.run env u = .ok (r, v)) : Quiet u v := by
  by_cases hown : op.own = true
  · cases op with
    | raise e => exact Empty.elim r
    | deliver id =>
      obtain ⟨htouch, hshared⟩ := deliverOutbox_ok h
      exact .of_touches htouch hshared (.mapOutbox _ _)
    | deliverPending id =>
      obtain ⟨htouch, hshared⟩ := deliverPendingOutbox_ok h
      exact .of_touches htouch hshared (.mapOutbox _ _)
    | wake accountID apiKeyID =>
      have hwakes := wakeQueuedTasksTx_ok h
      exact ⟨.of_shared hwakes.shared, fun k => .of_woken (hwakes.cell k)⟩
    | deferQueued id nextAttemptAt reason =>
      obtain ⟨htouch, hshared⟩ := deferOutbox_ok h
      exact .of_touches htouch hshared (.mapOutbox _ _)
    | extendClaimed id expiresAt =>
      obtain ⟨x, w, hext, hpure⟩ := bind_eq_ok.mp h
      obtain ⟨-, rfl⟩ := pure_eq_ok.mp hpure
      obtain ⟨htouch, hshared⟩ := extendReservation_ok hext
      exact .of_touches htouch hshared (.extend _ _)
    | setOverload active =>
      have hwrite : writeOverload active u = .ok (r, v) := h
      cases hwrite
      exact ⟨⟨rfl, rfl, rfl⟩, fun _ => ⟨rfl, rfl⟩⟩
    | insertOutbox id kind =>
      obtain ⟨-, htouch, hshared⟩ := insertOutboxRow_ok h
      exact .of_touches htouch hshared ⟨rfl, rfl⟩
    | _ => first | exact absurd hown Bool.false_ne_true | exact absurd hneutral Bool.false_ne_true
  · obtain rfl := Statement.run_shared (by simpa using hown) h
    exact .refl _

/-- The own rows before and after the writes up to a phase. -/
def Phase.Wrote (c c' : Cell) : Phase → Prop
  | start | candidate _ _ | counted _ _ _ _ | limited _ _ _ _ _ => Cell.Alike c c'
  | locked task | estimated task _ | loaded task _ _ | target task _ _ =>
    Cell.Alike c c' ∧ c.task = some task
  | moved task _ accountID | reloaded task _ accountID _ =>
    c.task = some task ∧ c'.task = some (task.moveTo accountID) ∧ task.status = .queued ∧
      c'.stake = c.stake.map fun s => (accountID, s.2)
  | failing task => c.task = some task ∧ task.status = .queued ∧
    (∃ t, c'.task = some t ∧ t.status.executing = false) ∧ (c'.stake = c.stake ∨ c'.stake = none)
  | resumed task | leased task _ => c.task = some task ∧ c'.stake = c.stake
  | movedLeased task _ accountID =>
    c.task = some task ∧ c'.stake = c.stake.map fun s => (accountID, s.2)
  | inserting _ _ => c.task = none ∧ c'.stake = c.stake ∧ ∃ t, c'.task = some t ∧ t.status = .queued
  | admitted q accountID => c.task = none ∧ c.stake = none ∧
    c'.stake = some (accountID, q.estimatedTokens) ∧ ∃ t, c'.task = some t ∧ t.status = .queued

/-- What the answers say about the locked task. -/
def Phase.Known : Phase → Prop
  | locked task => task.status = .queued ∨ task.status.executing = true
  | estimated task estimatedTokens => estimatedTokens = task.estimatedTokens
  | target task q _ | moved task q _ | reloaded task q _ _ | movedLeased task q _ =>
    q.estimatedTokens = task.estimatedTokens
  | resumed task => task.status.executing = true
  | leased task accountID => task.accountID = some accountID
  | _ => True

namespace Phase

variable {id : UUID} {env : Env} {ph : Phase} {c : Cell} {u v : Database}

theorem Wrote.quiet {a b : Cell} (h : ph.Wrote c a) (hab : Cell.Alike a b) : ph.Wrote c b := by
  cases ph with
  | start | candidate | counted | limited => exact Cell.Alike.trans h hab
  | locked | estimated | loaded | target => exact ⟨Cell.Alike.trans h.1 hab, h.2⟩
  | moved | reloaded =>
    obtain ⟨htask, htask', hq, hstake⟩ := h
    exact ⟨htask, hab.task.trans htask', hq, hab.stake.trans hstake⟩
  | failing =>
    obtain ⟨htask, hq, ⟨t, ht, hexec⟩, hstake⟩ := h
    refine ⟨htask, hq, ⟨t, hab.task.trans ht, hexec⟩, ?_⟩
    rwa [hab.stake]
  | resumed | leased | movedLeased => exact ⟨h.1, hab.stake.trans h.2⟩
  | inserting =>
    obtain ⟨hnone, hstake, t, ht, hq⟩ := h
    exact ⟨hnone, hab.stake.trans hstake, t, hab.task.trans ht, hq⟩
  | admitted =>
    obtain ⟨hnone, hfree, hstake, t, ht, hq⟩ := h
    exact ⟨hnone, hfree, hab.stake.trans hstake, t, hab.task.trans ht, hq⟩

theorem id_of_alike {task : Task} (h : Cell.Alike c (u.cell id) ∧ c.task = some task) :
    u.tasks.get? id = some task ∧ task.id = id := by
  have ht : u.tasks.get? id = some task := h.1.task.trans h.2
  exact ⟨ht, Table.key_of_get? ht⟩

theorem wrote_lockTask {x : Option Task} (hrun : Statement.run env (.lockTask id) u = .ok (x, v))
    (hw : Cell.Alike c (u.cell id)) :
    v = u ∧ (Phase.next .start (.lockTask id) x).Wrote c (u.cell id) := by
  have hanswer : answer (fun db => .ok (Task.lockedFor env.now u id db)) u = .ok (x, v) := hrun
  obtain ⟨hread, rfl⟩ := answer_ok hanswer
  refine ⟨rfl, ?_⟩
  cases x with
  | none => exact hw
  | some task =>
    simp only [Task.lockedFor, Except.ok.injEq, Option.filter_eq_some_iff] at hread
    exact ⟨hw, hw.task.symm.trans hread.1⟩

theorem wrote_failUnpriced {task : Task} {estimatedTokens : ℕ} {x : Unit}
    (hq : task.status = .queued) (hrun : Statement.run env (.failUnpriced task.id) u = .ok (x, v))
    (hw : (estimated task estimatedTokens).Wrote c (u.cell id)) :
    Frame id u v ∧ (failing task).Wrote c (v.cell id) := by
  obtain ⟨ht, hid⟩ := id_of_alike hw
  obtain ⟨y, w, hupdate, hpure⟩ := bind_eq_ok.mp hrun
  obtain ⟨-, rfl⟩ := pure_eq_ok.mp hpure
  rw [hid] at hupdate
  cases y with
  | none =>
    obtain rfl := updateTask_none hupdate
    exact ⟨.refl _ _, hw.2, hq, ⟨task, ht, by rw [hq]; rfl⟩, .inl hw.1.stake⟩
  | some t' =>
    obtain ⟨t, ht', -, rfl, htouch, hshared⟩ := updateTask_some hupdate
    refine ⟨.of_touches htouch hshared, hw.2, hq, ⟨t.failUnpriced env.now, ?_, rfl⟩, .inl ?_⟩
    · rw [htouch.cell]
      exact congrArg (Option.map _) ht'
    · rw [htouch.cell]
      exact hw.1.stake

theorem stake_settle (s : Reservation → Settlement) (reason : String) (c : Cell) :
    (c.settle (fun _ => true) s reason).stake = c.stake ∨
      (c.settle (fun _ => true) s reason).stake = none := by
  unfold Cell.settle
  split
  · split
    · exact .inr rfl
    · exact .inl rfl
  · exact .inl rfl

theorem wrote_releaseUnpriced {task : Task} {x : Unit}
    (hrun : Statement.run env (.releaseUnpriced id) u = .ok (x, v))
    (hw : (failing task).Wrote c (u.cell id)) :
    Frame id u v ∧ (failing task).Wrote c (v.cell id) := by
  obtain ⟨y, w, hrelease, hpure⟩ := bind_eq_ok.mp hrun
  obtain ⟨-, rfl⟩ := pure_eq_ok.mp hpure
  obtain ⟨htouch, hshared⟩ := releaseReservation_ok hrelease
  obtain ⟨htask, hq, ⟨t, ht, hexec⟩, hstake⟩ := hw
  refine ⟨.of_touches htouch hshared, htask, hq, ⟨t, ?_, hexec⟩, ?_⟩
  · rw [htouch.cell, Cell.settle_task, ht]
  · rw [htouch.cell]
    rcases stake_settle (fun _ => releasedAt env.now) "cost_rule_unavailable" (u.cell id) with h | h
    · rw [h]
      exact hstake
    · exact .inr h

theorem stake_moveTo (target : UUID) (c : Cell) :
    (c.mapReservation (Reservation.moveTo target)).stake = c.stake.map fun s => (target, s.2) := by
  cases hr : c.reservation with
  | none => simp [Cell.stake, Cell.mapReservation, hr]
  | some r =>
    by_cases hheld : r.held = true
    · simp only [Cell.stake, Cell.mapReservation, hr, Reservation.moveTo, if_pos hheld,
        Option.map_some, Option.bind_some, Reservation.stake]
      exact if_pos hheld
    · simp [Cell.stake, Cell.mapReservation, hr, Reservation.moveTo, hheld, Reservation.stake]

theorem wrote_moveReservation {task : Task} {q : RoutingQuery} {target : UUID}
    {x : Unit} (hrun : Statement.run env (.moveReservation task.id target) u = .ok (x, v))
    (hw : (Phase.target task q target).Wrote c (u.cell id)) :
    Frame id u v ∧ (moved task q target).Wrote c (v.cell id) := by
  obtain ⟨ht, hid⟩ := id_of_alike hw
  have hmove := moveOneReservation_ok hrun
  rw [hid] at hmove
  rcases moveQueued_ok hmove with ⟨hzero, -⟩ | ⟨t, ht', hstatus, -, htouch, hshared⟩
  · cases hzero
  · obtain rfl : task = t := Option.some.inj (ht.symm.trans ht')
    refine ⟨.of_touches htouch hshared, hw.2, ?_, hstatus, ?_⟩
    · rw [htouch.cell]
      simp [Cell.mapReservation, Cell.mapTask, Database.cell, ht]
    · rw [htouch.cell, stake_moveTo, ← hw.1.stake]
      rfl

/-- A lease leaves the hold where it is. -/
theorem stake_claimLease {leaseID : UUID} {expiresAt : Time} {x : Option Task}
    (hrun : Statement.run env (.claimLease id leaseID expiresAt) u = .ok (x, v)) :
    Frame id u v ∧ (v.cell id).stake = (u.cell id).stake := by
  have hupdate : updateTask id _ (Task.claim env.now leaseID expiresAt) (fun _ => rfl) u =
    .ok (x, v) := hrun
  cases x with
  | none =>
    obtain rfl := updateTask_none hupdate
    exact ⟨.refl _ _, rfl⟩
  | some t' =>
    obtain ⟨t, -, -, -, htouch, hshared⟩ := updateTask_some hupdate
    refine ⟨.of_touches htouch hshared, ?_⟩
    rw [htouch.cell]
    rfl

theorem wrote_insertTask {q : RoutingQuery} {accountID : UUID} {reservationCount reserved : ℕ}
    {limits : AccountLimits} {row : Time → Task} {answer : Task}
    (hrow : ∀ now, (row now).id = id ∧ (row now).FreshFor q accountID)
    (hrun : Statement.run env (.insertTask row) u = .ok (answer, v))
    (hw : (limited q accountID reservationCount reserved limits).Wrote c (u.cell id)) :
    Frame id u v ∧ (inserting q accountID).Wrote c (v.cell id) := by
  obtain ⟨x, w, hinsert, hpure⟩ := bind_eq_ok.mp hrun
  obtain ⟨-, rfl⟩ := pure_eq_ok.mp hpure
  obtain ⟨hnone, htouch, hshared⟩ := insertTaskRow_ok hinsert
  obtain ⟨hid, hfresh⟩ := hrow env.now
  rw [hid] at hnone htouch
  refine ⟨.of_touches htouch hshared, hw.task.symm.trans hnone, ?_, row env.now, ?_, hfresh.queued⟩
  · rw [htouch.cell, ← hw.stake]
    rfl
  · rw [htouch.cell]

theorem wrote_insertReservation {q : RoutingQuery} {accountID : UUID} {r : Reservation} {x : Unit}
    (hid : r.taskID = id) (hfresh : r.FreshFor q accountID)
    (hrun : Statement.run env (.insertReservation r) u = .ok (x, v))
    (hw : (inserting q accountID).Wrote c (u.cell id)) :
    Frame id u v ∧ (admitted q accountID).Wrote c (v.cell id) := by
  obtain ⟨hnone, htouch, hshared⟩ := insertReservationRow_ok hrun
  rw [hid] at hnone htouch
  obtain ⟨htask, hstake, t, ht, hq⟩ := hw
  have hfree : (u.cell id).stake = none := by simp [Cell.stake, Database.cell, hnone]
  refine ⟨.of_touches htouch hshared, htask, hstake.symm.trans hfree, ?_, t, ?_, hq⟩
  · rw [htouch.cell]
    simp [Cell.stake, Reservation.stake, Reservation.held, hfresh.held, hfresh.account,
      hfresh.estimate]
  · rw [htouch.cell]
    exact ht

/-- A read moves to a phase with the same writes. -/
theorem wrote_shared {op : Statement} {r : op.Res} {c' : Cell} (hown : op.own = false)
    (hallows : ph.allows id op) (hw : ph.Wrote c c') : (ph.next op r).Wrote c c' := by
  by_cases hneutral : op.neutral = true
  · rw [Statement.next_of_neutral hneutral]
    exact hw
  cases op with
  | readEstimatedTokens k =>
    obtain ⟨task, rfl, -⟩ := hallows
    exact hw
  | loadClaimAccount accountID lock =>
    obtain ⟨task, estimatedTokens, rfl, -⟩ | ⟨task, q, rfl, -⟩ := hallows
    · cases lock <;> exact hw
    · exact hw
  | chooseTarget q old =>
    obtain ⟨task, rfl, -⟩ := hallows
    cases r <;> exact hw
  | chooseCandidate q excluded skipLocked =>
    obtain rfl := hallows
    cases r <;> exact hw
  | reservedUsage accountID =>
    obtain ⟨q, rfl⟩ := hallows
    exact hw
  | accountLimits accountID =>
    obtain ⟨q, reservationCount, reserved, rfl⟩ := hallows
    exact hw
  | savepoint =>
    obtain rfl := hallows
    exact hw
  | rollbackToSavepoint =>
    obtain ⟨q, accountID, reservationCount, reserved, limits, rfl⟩ := hallows
    exact hw
  | _ => first | exact absurd hown Bool.noConfusion | exact absurd rfl hneutral

/-- What a statement about the own rows adds to the writes. -/
theorem wrote_own {op : Statement} {r : op.Res} (hid : ∀ t, c.task = some t → t.id = id)
    (hown : op.own = true) (hallows : ph.allows id op) (hrun : op.run env u = .ok (r, v))
    (hw : ph.Wrote c (u.cell id)) : Frame id u v ∧ (ph.next op r).Wrote c (v.cell id) := by
  by_cases hneutral : op.neutral = true
  · rw [Statement.next_of_neutral hneutral]
    have hquiet := Statement.quiet_of_neutral hneutral hrun
    exact ⟨hquiet.frame id, hw.quiet (hquiet.cells id)⟩
  cases op with
  | lockTask k =>
    obtain ⟨rfl, rfl⟩ := hallows
    obtain ⟨rfl, hnext⟩ := wrote_lockTask hrun hw
    exact ⟨.refl _ _, hnext⟩
  | failUnpriced k =>
    obtain ⟨task, estimatedTokens, rfl, rfl, hq⟩ := hallows
    exact wrote_failUnpriced hq hrun hw
  | releaseUnpriced k =>
    obtain ⟨task, rfl, rfl⟩ := hallows
    obtain rfl := hid task hw.1
    exact wrote_releaseUnpriced hrun hw
  | moveReservation k target =>
    obtain ⟨task, q, rfl, rfl⟩ := hallows
    exact wrote_moveReservation hrun hw
  | claimLease k leaseID expiresAt =>
    obtain ⟨task, rfl, rfl, hq⟩ | ⟨task, accountID, state, rfl, rfl, hacc, hfree⟩ |
      ⟨task, q, accountID, state, rfl, rfl, hfree⟩ := hallows
    · obtain ⟨hframe, hstake⟩ := stake_claimLease hrun
      exact ⟨hframe, hw.2, hstake.trans hw.1.stake⟩
    · obtain rfl := hid task hw.2
      obtain ⟨hframe, hstake⟩ := stake_claimLease hrun
      exact ⟨hframe, hw.2, hstake.trans hw.1.stake⟩
    · obtain rfl := hid task hw.1
      obtain ⟨hframe, hstake⟩ := stake_claimLease hrun
      exact ⟨hframe, hw.1, hstake.trans hw.2.2.2⟩
  | insertTask row =>
    obtain ⟨q, accountID, reservationCount, reserved, limits, rfl, -, hrow⟩ := hallows
    exact wrote_insertTask hrow hrun hw
  | insertReservation r =>
    obtain ⟨q, accountID, rfl, hid, hfresh⟩ := hallows
    exact wrote_insertReservation hid hfresh hrun hw
  | _ => first | exact absurd rfl hneutral | exact absurd hown Bool.noConfusion

/-- What the answer of a statement says about the task; a statement that waits for
no lock is answered from the rows as they are. -/
theorem known_next {op : Statement} {r : op.Res} {snapshot w : Database}
    (hallows : ph.allows id op) (hexec : op.execute env snapshot v = .ok (r, w))
    (hsnapshot : op.waits = false → snapshot = v) (hw : ph.Wrote c (v.cell id))
    (hknown : ph.Known) : (ph.next op r).Known := by
  by_cases hneutral : op.neutral = true
  · rw [Statement.next_of_neutral hneutral]
    exact hknown
  cases op with
  | lockTask k =>
    obtain ⟨rfl, -⟩ := hallows
    have hanswer : answer (fun db => .ok (Task.lockedFor env.now snapshot k db)) v = .ok (r, w) :=
      hexec
    obtain ⟨hread, -⟩ := answer_ok hanswer
    cases r with
    | none => trivial
    | some task =>
      simp only [Task.lockedFor, Except.ok.injEq, Option.filter_eq_some_iff, Bool.and_eq_true,
        Task.claimable, Bool.or_eq_true, decide_eq_true_eq] at hread
      obtain hq | hflight := hread.2.1.1.1.1.2
      · exact .inl hq
      · refine .inr ?_
        rcases (Task.inFlight_iff.mp hflight).1 with h | h <;> rw [h] <;> rfl
  | readEstimatedTokens k =>
    obtain ⟨task, rfl, rfl⟩ := hallows
    obtain rfl := hsnapshot rfl
    obtain ⟨ht, hid⟩ := id_of_alike hw
    have hanswer : answer (fun _ => required ((snapshot.tasks.get? task.id).map
      Task.estimatedTokens)) snapshot = .ok (r, w) := hexec
    have hread := (answer_ok hanswer).1
    rw [hid, ht] at hread
    cases hread
    rfl
  | loadClaimAccount accountID lock =>
    obtain ⟨task, estimatedTokens, rfl, -⟩ | ⟨task, q, rfl, -⟩ := hallows
    · cases lock
      · exact hknown
      · trivial
    · exact hknown
  | chooseTarget q old =>
    obtain ⟨task, rfl, -⟩ := hallows
    cases r <;> exact hknown
  | moveReservation k target =>
    obtain ⟨task, q, rfl, rfl⟩ := hallows
    exact hknown
  | failUnpriced k =>
    obtain ⟨task, estimatedTokens, rfl, -⟩ := hallows
    trivial
  | releaseUnpriced k => exact hknown
  | claimLease k leaseID expiresAt =>
    obtain ⟨task, rfl, -, hq⟩ | ⟨task, accountID, state, rfl, -, hacc, -⟩ |
      ⟨task, q, accountID, state, rfl, -⟩ := hallows
    · exact hknown.resolve_left hq
    · exact hacc
    · exact hknown
  | chooseCandidate q excluded skipLocked =>
    obtain rfl := hallows
    cases r <;> trivial
  | reservedUsage accountID =>
    obtain ⟨q, rfl⟩ := hallows
    trivial
  | accountLimits accountID =>
    obtain ⟨q, reservationCount, reserved, rfl⟩ := hallows
    trivial
  | savepoint => exact hknown
  | rollbackToSavepoint => trivial
  | insertTask row =>
    obtain ⟨q, accountID, reservationCount, reserved, limits, rfl, -⟩ := hallows
    trivial
  | insertReservation r =>
    obtain ⟨q, accountID, rfl, -⟩ := hallows
    trivial
  | _ => exact absurd rfl hneutral

end Phase

/-- The rest of the thread's program keeps to the discipline from the phase, and the
writes so far, redone on any committed rows, are those of the phase. -/
structure Thread.Sound (th : Thread) (ph : Phase) : Prop where
  follows : ∀ db v, th.view db = some v → ∀ e db', Session.Ends th.env th.rest v e db' →
    Session.Ends th.env th.job.prog db e db'
  disciplined : Session.Disciplined th.job.taskID th.rest ph
  frame : ∀ db v, th.view db = some v → Frame th.job.taskID db v
  wrote : ∀ db v, th.view db = some v →
    ph.Wrote (db.cell th.job.taskID) (v.cell th.job.taskID)
  known : ph.Known
  saved : th.saved ⊆ th.locks

theorem Job.prog_disciplined (job : Job) : Session.Disciplined job.taskID job.prog .start := by
  cases job with
  | admission sha256 policy req =>
    exact (createReservedTaskForProviderOnce_disciplined sha256 policy req).bind
      fun _ _ _ => trivial
  | claim policy id leaseID lease =>
    exact (claimTaskOnce_disciplined policy id leaseID lease).bind fun _ _ _ => trivial

theorem Thread.sound_start (env : Env) (job : Job) : (Thread.start env job).Sound .start where
  follows db v hview e db' hends := by
    cases hview
    exact hends
  disciplined := job.prog_disciplined
  frame db v hview := by
    cases hview
    exact .refl _ _
  wrote db v hview := by
    cases hview
    exact .refl _
  known := trivial
  saved := List.Subset.refl _

section Advance

variable {th : Thread} {op : Statement} {k : op.Res → Session (Ending Reply)} {r : op.Res}
variable {db v : Database}

theorem Thread.view_of_shared (hown : op.own = false) :
    (th.advance op k r).view db = th.view db := by
  simp [Thread.view, Thread.advance, hown]

theorem Thread.view_of_own (hown : op.own = true) (h : (th.advance op k r).view db = some v) :
    ∃ u, th.view db = some u ∧ op.run th.env u = .ok (r, v) := by
  have hlog : (th.advance op k r).log = th.log ++ [⟨op, r⟩] := if_pos hown
  rw [Thread.view, hlog] at h
  obtain ⟨u, hu, hlast⟩ := redo_append.mp h
  exact ⟨u, hu, redo_single hown hlast⟩

theorem Thread.saved_advance (h : th.saved ⊆ th.locks) :
    (th.advance op k r).saved ⊆ (th.advance op k r).locks := by
  cases op with
  | savepoint => exact List.Subset.refl _
  | rollbackToSavepoint => exact List.Subset.refl _
  | _ => exact fun a ha => List.mem_append_right _ (h ha)

/-- A thread stays sound when a statement is answered. -/
theorem Thread.sound_advance {ph : Phase} {env : Env} {snapshot w : Database} (hth : th.Sound ph)
    (hrest : th.rest = .call op k) (hview : th.view db = some v)
    (hexec : op.execute env snapshot v = .ok (r, w))
    (hsnapshot : op.waits = false → snapshot = v) : (th.advance op k r).Sound (ph.next op r) := by
  have hdisc := hth.disciplined
  rw [hrest] at hdisc
  have hallows : ph.allows th.job.taskID op := hdisc.1
  have hid (a : Database) (t : Task) (ht : (a.cell th.job.taskID).task = some t) :
      t.id = th.job.taskID := Table.key_of_get? (t := a.tasks) ht
  refine ⟨?_, hdisc.2 r, ?_, ?_, ?_, Thread.saved_advance hth.saved⟩
  · intro a b hb e a' hends
    by_cases hown : op.own = true
    · obtain ⟨u, hu, hrun⟩ := Thread.view_of_own hown hb
      apply hth.follows a u hu
      rw [hrest]
      exact ⟨r, b, by rwa [looseStep, if_pos hown], hends⟩
    · rw [Thread.view_of_shared (by simpa using hown)] at hb
      apply hth.follows a b hb
      rw [hrest]
      exact ⟨r, b, by rw [looseStep, if_neg hown], hends⟩
  · intro a b hb
    by_cases hown : op.own = true
    · obtain ⟨u, hu, hrun⟩ := Thread.view_of_own hown hb
      exact (hth.frame a u hu).trans
        (Phase.wrote_own (hid a) hown hallows hrun (hth.wrote a u hu)).1
    · rw [Thread.view_of_shared (by simpa using hown)] at hb
      exact hth.frame a b hb
  · intro a b hb
    by_cases hown : op.own = true
    · obtain ⟨u, hu, hrun⟩ := Thread.view_of_own hown hb
      exact (Phase.wrote_own (hid a) hown hallows hrun (hth.wrote a u hu)).2
    · rw [Thread.view_of_shared (by simpa using hown)] at hb
      exact Phase.wrote_shared (by simpa using hown) hallows (hth.wrote a b hb)
  · exact Phase.known_next hallows hexec hsnapshot (hth.wrote db v hview) hth.known

end Advance

/-- The attempt of a committed thread. -/
theorem Thread.Sound.ends {th : Thread} {ph : Phase} {r : Reply} {db v : Database}
    (hth : th.Sound ph) (hrest : th.rest = .ret (.commit r)) (hview : th.view db = some v) :
    Session.Ends th.env th.job.prog db (.commit r) v := by
  apply hth.follows db v hview
  rw [hrest]
  exact ⟨rfl, rfl⟩

theorem ends_map {α β : Type} {f : α → β} {p : Session (Ending α)} {env : Env} {db v : Database}
    {b : β} : Session.Ends env (do let ending ← p; return ending.map f) db (.commit b) v ↔
      ∃ a, b = f a ∧ Session.Ends env p db (.commit a) v := by
  constructor
  · intro h
    obtain ⟨ending, w, hp, hpure⟩ := ends_bind.mp h
    obtain ⟨hcommit, rfl⟩ := ends_pure.mp hpure
    cases ending with
    | commit a =>
      cases hcommit
      exact ⟨a, rfl, hp⟩
    | rollback a => cases hcommit
  · rintro ⟨a, rfl, hp⟩
    exact ends_bind.mpr ⟨.commit a, v, hp, rfl, rfl⟩

/-- A committed attempt is an operation of the store. -/
theorem Job.commits_of_ends {job : Job} {env : Env} {r : Reply} {db v : Database}
    (h : Session.Ends env job.prog db (.commit r) v) : job.operation.Commits env db v := by
  cases job with
  | admission sha256 policy req =>
    obtain ⟨a, -, ha⟩ := ends_map.mp h
    exact ⟨a, ha⟩
  | claim policy id leaseID lease =>
    obtain ⟨a, -, ha⟩ := ends_map.mp h
    exact ⟨a, ha⟩

end GenerationGateway
