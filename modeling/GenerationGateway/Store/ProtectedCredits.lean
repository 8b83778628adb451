import GenerationGateway.Store.Admitted
import GenerationGateway.Store.Headcount
import GenerationGateway.Store.Oversell

/-!
# Protected credits

An account sets its protected credits aside for videos as long as what it has left
covers them; below that amount every task may spend what is left. So a task that is
no video leaves the protected credits whole exactly when they were whole before.
-/

namespace GenerationGateway

open Relational Effects Transitions

/-- A statement of a transaction with nothing running beside it. -/
def aloneStep (env : Env) (op : Statement) (db : Database) (r : op.Res) (db' : Database) : Prop :=
  op.run env db = .ok (r, db')

theorem Session.runs_alone {α : Type} {env : Env} {p : Session α} {a : α} {db db' : Database}
    (h : p.run env db = .ok (a, db')) : p.Runs (S := sql) (aloneStep env) db a db' := by
  induction p generalizing db with
  | ret b => exact pure_eq_ok.mp h
  | call op k ih =>
    obtain ⟨r, db₁, hop, hk⟩ := bind_eq_ok.mp h
    exact ⟨r, db₁, hop, ih r hk⟩

/-- What the account has left beside its holds. -/
def Database.available (db : Database) (a : Account) : ℤ := a.balance - heldTokens db a.id

/-- The query's estimate fits what the account may spend on its kind. -/
def RoutingQuery.Fits (q : RoutingQuery) (db : Database) (accountID : UUID) : Prop :=
  ∃ a, db.accounts.get? accountID = some a ∧
    (q.estimatedTokens : ℤ) ≤ a.spendable (heldTokens db accountID) q.kind

/-- What a reroute or an admission knows, by the rows it began with, and the kind of
the task it has written. -/
def FitFacts (db : Database) (c : Cell) : Phase → Prop
  | .estimated task _ => c.task = some task
  | .target _ q accountID | .moved _ q accountID | .reloaded _ q accountID _
  | .movedLeased _ q accountID | .inserting q accountID | .admitted q accountID =>
    q.Fits db accountID ∧ ∃ t, c.task = some t ∧ t.kind = q.kind
  | .counted _ accountID _ held => held = heldTokens db accountID
  | .limited _ accountID _ held limits => held = heldTokens db accountID ∧
    (db.accounts.get? accountID).map Account.limits = some limits
  | _ => True

theorem FitFacts.congr {db : Database} {c c' : Cell} {ph : Phase} (h : FitFacts db c ph)
    (htask : c'.task = c.task) : FitFacts db c' ph := by
  cases ph with
  | estimated | target | moved | reloaded | movedLeased | inserting | admitted =>
    simpa only [FitFacts, htask] using h
  | _ => exact h

theorem AccountLimits.fits_of_admits {a : Account} {limits : AccountLimits} {kind : Kind}
    {estimatedTokens count held : ℕ} (hlimits : a.limits = limits)
    (h : limits.admits kind estimatedTokens count held = true) :
    (estimatedTokens : ℤ) ≤ a.spendable held kind := by
  have hbalance : limits.balance = a.balance := by rw [← hlimits]; rfl
  have hprotected : limits.protectedTokens = a.protectedTokens := by rw [← hlimits]; rfl
  simp only [AccountLimits.admits, Bool.and_eq_true, decide_eq_true_eq] at h
  have hspendable := h.2
  rw [hbalance, hprotected] at hspendable
  simp only [Account.spendable]
  by_cases hset : kind ≠ .video ∧ (a.protectedTokens : ℤ) ≤ a.balance - held
  · rw [if_pos hset] at hspendable ⊢
    exact hspendable
  · rw [if_neg hset] at hspendable ⊢
    omega

theorem Account.spendable_of_accepts {policy : SchedulingPolicy} {snapshot : Database} {a : Account}
    {provider : ProviderID} {kind : Kind} {estimatedTokens : ℕ} {now : Time}
    (h : a.accepts policy snapshot provider kind estimatedTokens now = true) :
    (estimatedTokens : ℤ) ≤ a.spendable (heldTokens snapshot a.id) kind :=
  of_decide_eq_true ((Bool.and_eq_true _ _).mp h).2

/-- The state of a transaction that runs alone on the task `id`. -/
structure AloneFacts (id : UUID) (db : Database) (ph : Phase) (v : Database) : Prop where
  frame : Frame id db v
  wrote : ph.Wrote (db.cell id) (v.cell id)
  known : ph.Known
  fit : FitFacts db (v.cell id) ph

section Alone

variable {id : UUID} {env : Env} {db v w : Database} {ph : Phase} {op : Statement} {r : op.Res}

theorem AloneFacts.sees (h : AloneFacts id db ph v)
    (halike : Cell.Alike (db.cell id) (v.cell id)) (account : UUID) :
    heldTokens v account = heldTokens db account := by
  refine heldTokens_congr (fun k => ?_) account
  by_cases hk : k = id
  · rw [hk]
    exact halike.stake
  · exact (h.frame.others k hk).stake

/-- What a statement tells about the room of an account. -/
theorem AloneFacts.next_fit (h : AloneFacts id db ph v) (hallows : ph.allows id op)
    (hrun : op.run env v = .ok (r, w)) : FitFacts db (w.cell id) (ph.next op r) := by
  by_cases hneutral : op.neutral = true
  · rw [Statement.next_of_neutral hneutral]
    exact h.fit.congr ((Statement.quiet_of_neutral hneutral hrun).cells id).task
  have hfit := h.fit
  have hwrote := h.wrote
  cases op with
  | lockTask k =>
    obtain ⟨rfl, -⟩ := hallows
    cases r <;> trivial
  | readEstimatedTokens k =>
    obtain ⟨task, rfl, -⟩ := hallows
    obtain rfl := Statement.run_shared rfl hrun
    exact hwrote.1.task.trans hwrote.2
  | loadClaimAccount accountID lock =>
    obtain rfl := Statement.run_shared rfl hrun
    obtain ⟨task, estimatedTokens, rfl, -⟩ | ⟨task, q, rfl, rfl⟩ := hallows
    · cases lock
      · exact hfit
      · trivial
    · exact hfit
  | chooseTarget q old =>
    obtain ⟨task, rfl, hkind⟩ := hallows
    obtain rfl := Statement.run_shared rfl hrun
    cases r with
    | none => exact hfit
    | some target =>
      have hanswer : answer (fun db => .ok (q.target old env w db)) w = .ok (some target, w) := hrun
      obtain ⟨a, ha, haccepts, -⟩ := chooseAccount_spec (Except.ok.inj (answer_ok hanswer).1)
      simp only [Bool.and_eq_true] at haccepts
      have hid : a.id = target := Table.key_of_get? ha
      have hle := Account.spendable_of_accepts haccepts.1.1
      rw [hid, h.sees hwrote.1] at hle
      rw [h.frame.accounts] at ha
      exact ⟨⟨a, ha, hle⟩, task, hfit, hkind.symm⟩
  | moveReservation k target =>
    obtain ⟨task, q, rfl, rfl⟩ := hallows
    have hmoved := (Phase.wrote_moveReservation hrun hwrote).2.2.1
    obtain ⟨t, ht, hkind⟩ := hfit.2
    obtain rfl : task = t := Option.some.inj ((hwrote.1.task.trans hwrote.2).symm.trans ht)
    exact ⟨hfit.1, _, hmoved, hkind⟩
  | failUnpriced k =>
    obtain ⟨task, estimatedTokens, rfl, -⟩ := hallows
    trivial
  | releaseUnpriced k =>
    obtain ⟨task, rfl, -⟩ := hallows
    trivial
  | claimLease k leaseID expiresAt =>
    obtain ⟨task, rfl, -⟩ | ⟨task, accountID, state, rfl, -⟩ |
      ⟨task, q, accountID, state, rfl, rfl, -⟩ := hallows
    · trivial
    · trivial
    · have hid : task.id = id := Table.key_of_get? (t := db.tasks) hwrote.1
      obtain ⟨t, ht, hkind⟩ := hfit.2
      refine ⟨hfit.1, ?_⟩
      have hupdate : updateTask task.id _ (Task.claim env.now leaseID expiresAt) (fun _ => rfl) v =
        .ok (r, w) := hrun
      cases r with
      | none =>
        obtain rfl := updateTask_none hupdate
        exact ⟨t, ht, hkind⟩
      | some t' =>
        obtain ⟨t₁, ht₁, -, rfl, htouch, -⟩ := updateTask_some hupdate
        rw [hid] at ht₁ htouch
        obtain rfl : t = t₁ := Option.some.inj (ht.symm.trans ht₁)
        refine ⟨t.claim env.now leaseID expiresAt, ?_, hkind⟩
        rw [htouch.cell]
        exact congrArg (Option.map _) ht
  | chooseCandidate q excluded skipLocked =>
    obtain rfl := hallows
    cases r <;> trivial
  | reservedUsage accountID =>
    obtain ⟨q, rfl⟩ := hallows
    obtain rfl := Statement.run_shared rfl hrun
    have hanswer : answer (fun _ => .ok (reservationCount w accountID,
        heldTokens w accountID)) w = .ok (r, w) := hrun
    obtain rfl := Except.ok.inj (answer_ok hanswer).1
    exact h.sees hwrote accountID
  | accountLimits accountID =>
    obtain ⟨q, count, held, rfl⟩ := hallows
    obtain rfl := Statement.run_shared rfl hrun
    have hanswer : answer (fun _ => required ((w.accounts.get? accountID).map Account.limits)) w =
      .ok (r, w) := hrun
    have hlimits := required_ok (answer_ok hanswer).1
    rw [h.frame.accounts] at hlimits
    exact ⟨hfit, hlimits⟩
  | savepoint =>
    obtain rfl := hallows
    trivial
  | rollbackToSavepoint => trivial
  | insertTask row =>
    obtain ⟨q, accountID, count, held, limits, rfl, hadmits, hrow⟩ := hallows
    obtain ⟨hheld, hlimits⟩ := hfit
    obtain ⟨a, ha, hlimits⟩ := Option.map_eq_some_iff.mp hlimits
    obtain ⟨hid, hfresh⟩ := hrow env.now
    obtain ⟨x, u, hinsert, hpure⟩ := bind_eq_ok.mp hrun
    obtain ⟨-, rfl⟩ := pure_eq_ok.mp hpure
    obtain ⟨-, htouch, -⟩ := insertTaskRow_ok hinsert
    rw [hid] at htouch
    refine ⟨⟨a, ha, ?_⟩, row env.now, ?_, hfresh.kind⟩
    · rw [← hheld]
      exact AccountLimits.fits_of_admits hlimits hadmits
    · rw [htouch.cell]
  | insertReservation r =>
    obtain ⟨q, accountID, rfl, hid, -⟩ := hallows
    obtain ⟨-, htouch, -⟩ := insertReservationRow_ok hrun
    rw [hid] at htouch
    refine hfit.imp_right fun ⟨t, ht, hkind⟩ => ⟨t, ?_, hkind⟩
    rw [htouch.cell]
    exact ht
  | _ => exact absurd rfl hneutral

theorem AloneFacts.next (h : AloneFacts id db ph v) (hallows : ph.allows id op)
    (hrun : op.run env v = .ok (r, w)) : AloneFacts id db (ph.next op r) w := by
  have hid (t : Task) (ht : (db.cell id).task = some t) : t.id = id := Table.key_of_get? (t := db.tasks) ht
  have hknown := Phase.known_next hallows hrun (fun _ => rfl) h.wrote h.known
  by_cases hown : op.own = true
  · obtain ⟨hframe, hwrote⟩ := Phase.wrote_own hid hown hallows hrun h.wrote
    exact ⟨h.frame.trans hframe, hwrote, hknown, h.next_fit hallows hrun⟩
  · have hshared : op.own = false := by simpa using hown
    have hfit := h.next_fit hallows hrun
    obtain rfl := Statement.run_shared hshared hrun
    exact ⟨h.frame, Phase.wrote_shared hshared hallows h.wrote, hknown, hfit⟩

theorem AloneFacts.start (id : UUID) (db : Database) : AloneFacts id db .start db :=
  ⟨.refl _ _, .refl _, trivial, trivial⟩

/-- What a transaction that keeps to the discipline knows at its end. -/
theorem Session.Disciplined.alone {α : Type} {p : Session (Ending α)} {e : Ending α}
    (h : Session.Disciplined id p .start) (hrun : p.run env db = .ok (e, w)) :
    ∃ ph, AloneFacts id db ph w := by
  have hstep (ph : Phase) (op : Statement) (v : Database) (r : op.Res) (v' : Database)
      (hallows : ph.allows id op) (hop : aloneStep env op v r v') (hv : AloneFacts id db ph v) :
      AloneFacts id db (ph.next op r) v' := hv.next hallows hop
  obtain ⟨ph, -, hfacts⟩ := Prog.Obeys.runs (M := discipline id) hstep h (Session.runs_alone hrun)
    (AloneFacts.start id db)
  exact ⟨ph, hfacts⟩

end Alone

/-! ### Sequences of transactions -/

/-- Admissions and claims of tasks that are no videos; a claim may reroute its task. -/
def Operation.ordinary (db : Database) : Operation → Bool
  | .admission _ _ req => decide (req.kind ≠ .video)
  | .claim _ id _ _ => (db.tasks.get? id).all fun t => decide (t.kind ≠ .video)
  | _ => false

/-- Operations one after the other. -/
def alone : LTS Database Event := ⟨fun db e db' => db' = e.op.apply e.env db⟩

/-- The task is newly reserved on the account. -/
structure Database.Reserves (db db' : Database) (t : Task) (accountID : UUID) : Prop where
  task : db'.tasks.get? t.id = some t
  held : (db'.cell t.id).stake = some (accountID, t.estimatedTokens)
  fresh : ∀ s, (db.cell t.id).stake = some s → s.1 ≠ accountID

/-- An ordinary operation changes nothing, or it is a transaction about a task that is
no video. -/
theorem alone_facts {db db' : Database} {e : Event} (hordinary : e.op.ordinary db = true)
    (hstep : alone.step db e db') : db' = db ∨ ∃ id ph, AloneFacts id db ph db' ∧
      ∀ t, (db'.cell id).task = some t → t.kind ≠ .video := by
  obtain ⟨env, op⟩ := e
  obtain rfl : db' = op.apply env db := hstep
  cases op with
  | admission sha256 policy req =>
    rcases transaction_commits ((createReservedTaskForProviderOnce sha256 policy req).run env) db with
      hkept | ⟨⟨task, created⟩, hrun⟩
    · exact .inl hkept
    rcases createReservedTaskForProviderOnce_ends (Session.run_ends hrun) with
      ⟨-, hsame, -⟩ | ⟨-, accountID, hinserts⟩
    · exact .inl hsame
    obtain ⟨ph, hfacts⟩ := (createReservedTaskForProviderOnce_disciplined sha256 policy req).alone hrun
    refine .inr ⟨req.id, ph, hfacts, fun t ht => ?_⟩
    obtain rfl := Option.some.inj (ht.symm.trans hinserts.task)
    obtain ⟨deadline, rfl⟩ := hinserts.row
    exact of_decide_eq_true hordinary
  | claim policy id leaseID lease =>
    rcases transaction_commits ((claimTaskOnce policy id leaseID lease).run env) db with
      hkept | ⟨r, hrun⟩
    · exact .inl hkept
    obtain ⟨ph, hfacts⟩ := (claimTaskOnce_disciplined policy id leaseID lease).alone hrun
    refine .inr ⟨id, ph, hfacts, fun t ht => ?_⟩
    have hlives := claimTaskOnce_lives (Session.run_ends hrun)
    obtain ⟨t₀, ht₀, horigin⟩ := Lives.old hlives nofun ht
    rw [horigin.kind]
    have hget : db.tasks.get? id = some t₀ := ht₀
    simpa [Operation.ordinary, hget] using hordinary
  | _ => cases hordinary

/-- A new hold fits what the account could spend. -/
theorem AloneFacts.reserves {id accountID : UUID} {db v : Database} {ph : Phase} {estimate : ℕ}
    (h : AloneFacts id db ph v) (hheld : (v.cell id).stake = some (accountID, estimate))
    (hfresh : ∀ s, (db.cell id).stake = some s → s.1 ≠ accountID) :
    ∃ q : RoutingQuery, q.Fits db accountID ∧ q.estimatedTokens = estimate ∧
      ∃ t, (v.cell id).task = some t ∧ t.kind = q.kind := by
  have hwrote := h.wrote
  have hfit := h.fit
  have hknown := h.known
  have hkept (hstake : (v.cell id).stake = (db.cell id).stake) : False :=
    hfresh _ (hstake.symm.trans hheld) rfl
  have hmoved {task : Task} {q : RoutingQuery} {target : UUID} (ht : (db.cell id).task = some task)
      (hest : q.estimatedTokens = task.estimatedTokens)
      (hstake : (v.cell id).stake = (db.cell id).stake.map fun s => (target, s.2)) :
      target = accountID ∧ q.estimatedTokens = estimate := by
    rw [hheld] at hstake
    obtain ⟨s, hs, htarget⟩ := Option.map_eq_some_iff.mp hstake.symm
    obtain ⟨t, ht', -, hest'⟩ := Database.stake_identity hs
    obtain rfl : task = t := Option.some.inj (ht.symm.trans ht')
    obtain ⟨rfl, rfl⟩ := Prod.mk.inj htarget
    exact ⟨rfl, hest.trans hest'⟩
  cases ph with
  | start | candidate | counted | limited => exact (hkept (Cell.Alike.stake hwrote)).elim
  | locked | estimated | loaded | target => exact (hkept hwrote.1.stake).elim
  | moved task q target =>
    obtain ⟨rfl, hest⟩ := hmoved hwrote.1 hknown hwrote.2.2.2
    exact ⟨q, hfit.1, hest, hfit.2⟩
  | reloaded task q target state =>
    obtain ⟨rfl, hest⟩ := hmoved hwrote.1 hknown hwrote.2.2.2
    exact ⟨q, hfit.1, hest, hfit.2⟩
  | movedLeased task q target =>
    obtain ⟨rfl, hest⟩ := hmoved hwrote.1 hknown hwrote.2
    exact ⟨q, hfit.1, hest, hfit.2⟩
  | failing task =>
    obtain ⟨-, -, -, hstake | hstake⟩ := hwrote
    · exact (hkept hstake).elim
    · rw [hheld] at hstake
      cases hstake
  | resumed | leased => exact (hkept hwrote.2).elim
  | inserting q target => exact (hkept hwrote.2.1).elim
  | admitted q target =>
    obtain ⟨rfl, rfl⟩ := Prod.mk.inj (Option.some.inj (hheld.symm.trans hwrote.2.2.1))
    exact ⟨q, hfit.1, rfl, hfit.2⟩

/-- The holds of an account grow by the new one. -/
theorem AloneFacts.grows {id accountID : UUID} {db v : Database} {ph : Phase}
    {estimate : ℕ} (h : AloneFacts id db ph v)
    (hheld : (v.cell id).stake = some (accountID, estimate))
    (hfresh : ∀ s, (db.cell id).stake = some s → s.1 ≠ accountID) :
    heldTokens v accountID = heldTokens db accountID + estimate := by
  have hmove : v.share accountID (fun _ e => e) + (db.cell id).share accountID (fun _ e => e) =
      db.share accountID (fun _ e => e) + (v.cell id).share accountID (fun _ e => e) := by
    apply share_add_share
    intro k hk
    exact (h.frame.others k hk).share _ _
  have hbefore : (db.cell id).share accountID (fun _ e => e) = 0 := by
    rw [Cell.share_eq]
    cases hs : (db.cell id).stake with
    | none => rfl
    | some s => exact if_neg (hfresh s hs)
  have hafter : (v.cell id).share accountID (fun _ e => e) = estimate := by
    rw [Cell.share_eq, hheld]
    exact if_pos rfl
  rw [heldTokens_eq, heldTokens_eq]
  omega

/-- The law of one step. -/
theorem AloneFacts.protects {id : UUID} {db v : Database} {ph : Phase} {t : Task} {a : Account}
    {estimate : ℕ} (h : AloneFacts id db ph v) (ha : db.accounts.get? a.id = some a)
    (hheld : (v.cell id).stake = some (a.id, estimate))
    (hfresh : ∀ s, (db.cell id).stake = some s → s.1 ≠ a.id)
    (ht : (v.cell id).task = some t) (hkind : t.kind ≠ .video) :
    (estimate : ℤ) ≤ db.available a ∧ v.available a = db.available a - estimate ∧
      ((a.protectedTokens : ℤ) ≤ v.available a ↔ (a.protectedTokens : ℤ) ≤ db.available a) := by
  obtain ⟨q, ⟨a', ha', hle⟩, rfl, t', ht', hkind'⟩ := h.reserves hheld hfresh
  obtain rfl : a = a' := Option.some.inj (ha.symm.trans ha')
  obtain rfl : t = t' := Option.some.inj (ht.symm.trans ht')
  have hgrows := h.grows hheld hfresh
  have hnot : q.kind ≠ .video := by
    rw [← hkind']
    exact hkind
  simp only [Account.spendable, ne_eq, hnot, not_false_eq_true, true_and] at hle
  unfold Database.available
  rw [hgrows]
  split_ifs at hle <;> refine ⟨?_, ?_, ?_⟩ <;> push_cast <;> omega

/-- A hold that moves keeps its size. -/
theorem Phase.Wrote.estimate {ph : Phase} {c c' : Cell} (h : ph.Wrote c c') {s s' : UUID × ℕ}
    (hs : c.stake = some s) (hs' : c'.stake = some s') : s'.2 = s.2 := by
  have hkept (hstake : c'.stake = c.stake) : s'.2 = s.2 := by
    rw [hs, hs'] at hstake
    rw [Option.some.inj hstake]
  have hmoved {target : UUID} (hstake : c'.stake = c.stake.map fun s => (target, s.2)) :
      s'.2 = s.2 := by
    rw [hs, hs'] at hstake
    rw [Option.some.inj hstake]
  cases ph with
  | start | candidate | counted | limited => exact hkept (Cell.Alike.stake h)
  | locked | estimated | loaded | target => exact hkept h.1.stake
  | moved | reloaded => exact hmoved h.2.2.2
  | movedLeased => exact hmoved h.2
  | failing =>
    obtain ⟨-, -, -, hstake | hstake⟩ := h
    · exact hkept hstake
    · exact absurd (hs'.symm.trans hstake) (Option.some_ne_none s')
  | resumed | leased => exact hkept h.2
  | inserting => exact hkept h.2.1
  | admitted => exact absurd (hs.symm.trans h.2.1) (Option.some_ne_none s)

/-- The holds of an account that gains none do not grow. -/
theorem AloneFacts.held_le {id accountID : UUID} {db v : Database} {ph : Phase}
    (h : AloneFacts id db ph v) (hnone : ∀ estimate, (v.cell id).stake = some (accountID, estimate) →
      ∃ s, (db.cell id).stake = some s ∧ s.1 = accountID) :
    heldTokens v accountID ≤ heldTokens db accountID := by
  rw [heldTokens_eq, heldTokens_eq]
  apply share_le_share
  intro k
  by_cases hk : k = id
  · subst hk
    rw [Cell.share_eq, Cell.share_eq]
    cases hs' : (v.cell k).stake with
    | none => exact Nat.zero_le _
    | some s' =>
      by_cases hholder : s'.1 = accountID
      · subst hholder
        obtain ⟨s, hs, hsame⟩ := hnone s'.2 hs'
        rw [hs, stakeShare, stakeShare, if_pos rfl, if_pos hsame]
        exact (h.wrote.estimate hs hs').le
      · rw [stakeShare, if_neg hholder]
        exact Nat.zero_le _
  · exact ((h.frame.others k hk).share _ _).le

/-- An ordinary step keeps the accounts, and the protected credits of one that has them. -/
theorem available_step {db db' : Database} {e : Event} {a : Account}
    (hordinary : e.op.ordinary db = true) (hstep : alone.step db e db')
    (ha : db.accounts.get? a.id = some a) : db'.accounts.get? a.id = some a ∧
      ((a.protectedTokens : ℤ) ≤ db.available a → (a.protectedTokens : ℤ) ≤ db'.available a) := by
  rcases alone_facts hordinary hstep with rfl | ⟨id, ph, hfacts, hkind⟩
  · exact ⟨ha, fun h => h⟩
  refine ⟨by rwa [hfacts.frame.accounts], fun hbefore => ?_⟩
  by_cases hstake : ∃ estimate, (db'.cell id).stake = some (a.id, estimate) ∧
      ∀ s, (db.cell id).stake = some s → s.1 ≠ a.id
  · obtain ⟨estimate, hheld, hfresh⟩ := hstake
    obtain ⟨t, ht, -, -⟩ := Database.stake_identity hheld
    exact (hfacts.protects ha hheld hfresh ht (hkind t ht)).2.2.mpr hbefore
  · have hheld : heldTokens db' a.id ≤ heldTokens db a.id := by
      apply hfacts.held_le
      intro estimate hheld
      by_contra hno
      exact hstake ⟨estimate, hheld, fun s hs hholder => hno ⟨s, hs, hholder⟩⟩
    unfold Database.available at hbefore ⊢
    omega

/-- In every sequence of admissions and claims of tasks that are no videos, a task is
reserved on an account only within what the account has left, and it leaves the
protected credits whole exactly when they were whole before; so they stay whole. -/
theorem protected_credits {db₀ db : Database} {a : Account} (ha : a ∈ db₀.accounts.rows)
    (h : (alone.restrict fun db e => e.op.ordinary db = true).Reachable db₀ db) :
    ((a.protectedTokens : ℤ) ≤ db₀.available a → (a.protectedTokens : ℤ) ≤ db.available a) ∧
    ∀ e db' t, e.op.ordinary db = true → alone.step db e db' → db.Reserves db' t a.id →
      (t.estimatedTokens : ℤ) ≤ db.available a ∧
        db'.available a = db.available a - t.estimatedTokens ∧
        ((a.protectedTokens : ℤ) ≤ db'.available a ↔ (a.protectedTokens : ℤ) ≤ db.available a) := by
  have hkept : db.accounts.get? a.id = some a ∧
      ((a.protectedTokens : ℤ) ≤ db₀.available a → (a.protectedTokens : ℤ) ≤ db.available a) := by
    refine h.invariant (I := fun db => db.accounts.get? a.id = some a ∧
      ((a.protectedTokens : ℤ) ≤ db₀.available a → (a.protectedTokens : ℤ) ≤ db.available a)) ?_
      ⟨Table.get?_of_mem ha, fun hle => hle⟩
    rintro db₁ e db₂ ⟨hstep, hordinary⟩ ⟨hget, hle⟩
    obtain ⟨hget', hle'⟩ := available_step hordinary hstep hget
    exact ⟨hget', fun hbefore => hle' (hle hbefore)⟩
  refine ⟨hkept.2, fun e db' t hordinary hstep hreserves => ?_⟩
  rcases alone_facts hordinary hstep with rfl | ⟨id, ph, hfacts, hkind⟩
  · exact absurd rfl (hreserves.fresh _ hreserves.held)
  obtain rfl : t.id = id := by
    by_contra hne
    have hstake := (hfacts.frame.others t.id hne).stake
    exact hreserves.fresh _ (hstake.symm.trans hreserves.held) rfl
  exact hfacts.protects hkept.1 hreserves.held hreserves.fresh hreserves.task
    (hkind t hreserves.task)

/-- The small store, whose account protects this many of its 100 credits. -/
def protectingAccount (protectedTokens : ℕ) : Account :=
  { smallAccount with protectedTokens := protectedTokens }

def protectingStore (protectedTokens : ℕ) : Database :=
  (smallStore ⟨[protectingAccount protectedTokens], by simp⟩).db

def smallAdmission : Event := admitAt 0 (smallRequest 20 .image 5)

/-- The store after the admission of an image for five credits. -/
def protectingAfter (protectedTokens : ℕ) : Database :=
  smallAdmission.op.apply smallAdmission.env (protectingStore protectedTokens)

theorem protected_credits_smallAdmission :
    (protectingAfter 90).available (protectingAccount 90) = 95 ∧
      (90 ≤ (protectingStore 90).available (protectingAccount 90) →
        90 ≤ (protectingAfter 90).available (protectingAccount 90)) := by
  refine ⟨by decide +kernel, ?_⟩
  refine (protected_credits (a := protectingAccount 90) ?_ ?_).1
  · exact List.mem_singleton_self _
  · exact ⟨[smallAdmission], _, ⟨rfl, by decide +kernel⟩, rfl⟩

/-- An image is reserved on an account that has less left than it protects. -/
theorem protectedCredits_spent :
    ¬ ∀ (db db' : Database) (e : Event) (t : Task) (a : Account), e.op.ordinary db = true →
      alone.step db e db' → a ∈ db.accounts.rows → db.Reserves db' t a.id → t.kind ≠ .video →
      (a.protectedTokens : ℤ) ≤ db'.available a := by
  intro h
  obtain ⟨t, ht⟩ : ∃ t, (protectingAfter 200).tasks.get? 20 = some t :=
    Option.isSome_iff_exists.mp (by decide +kernel)
  have hkind : ((protectingAfter 200).tasks.get? 20).map Task.kind = some .image := by decide +kernel
  have hstake : ((protectingAfter 200).cell 20).stake = some (1, 5) := by decide +kernel
  have hfresh : ((protectingStore 200).cell 20).stake = none := by decide +kernel
  have hid : t.id = 20 := Table.key_of_get? ht
  obtain ⟨t', ht', -, hest⟩ := Database.stake_identity hstake
  obtain rfl : t = t' := Option.some.inj (ht.symm.trans ht')
  have himage : t.kind = .image := by simpa [ht] using hkind
  have hreserves : (protectingStore 200).Reserves (protectingAfter 200) t (protectingAccount 200).id := by
    refine ⟨by rw [hid]; exact ht, by rw [hid, hest]; exact hstake, fun s hs => ?_⟩
    rw [hid, hfresh] at hs
    cases hs
  have hle := h (protectingStore 200) (protectingAfter 200) smallAdmission t (protectingAccount 200)
    (by decide +kernel) rfl (List.mem_singleton_self _) hreserves (by rw [himage]; decide)
  exact absurd hle (by decide +kernel)

end GenerationGateway
