import GenerationGateway.Store.QueueOrder

/-!
# Why an admission is refused

An admission that finds no account asks a second, shorter query for the reason. With nothing
running beside it, the two queries see the same rows: what the answer says about the accounts of
the provider, and which account an admitted task gets.
-/

namespace GenerationGateway

open Effects Relational

/-! ### Errors of a session -/

section Errors

variable {α β : Type} {env : Env}

/-- The three errors that blame the accounts. -/
def StoreError.aboutAccounts : StoreError → Bool
  | .noHealthyAccount | .insufficientPoolBalance | .accountQueueCapacity => true
  | _ => false

/-- Run alone, the session never blames the accounts. -/
def SparesAccounts (env : Env) (p : Session α) : Prop :=
  ∀ db e, p.run env db = .error e → e.aboutAccounts = false

theorem bind_eq_error {x : Tx α} {f : α → Tx β} {db : Database} {e : StoreError}
    (h : (x >>= f) db = .error e) :
    x db = .error e ∨ ∃ a db₁, x db = .ok (a, db₁) ∧ f a db₁ = .error e := by
  cases hx : x db with
  | error e' =>
    simp only [bind, StateT.bind, hx, Except.bind, Except.error.injEq] at h
    exact .inl (h ▸ rfl)
  | ok r =>
    simp only [bind, StateT.bind, hx, Except.bind] at h
    exact .inr ⟨r.1, r.2, rfl, h⟩

theorem run_bind_error {p : Session α} {f : α → Session β} {db : Database} {e : StoreError}
    (h : (p >>= f).run env db = .error e) :
    p.run env db = .error e ∨
      ∃ a db₁, p.run env db = .ok (a, db₁) ∧ Session.run env (f a) db₁ = .error e := by
  induction p generalizing db with
  | ret a => exact .inr ⟨a, db, rfl, h⟩
  | call op k ih =>
    have hrun : Session.run env (.call op k) = op.run env >>= fun r => Session.run env (k r) := rfl
    rcases bind_eq_error h with hop | ⟨r, db₁, hop, hk⟩
    · left
      rw [hrun]
      simp [bind, StateT.bind, hop, Except.bind]
    · rcases ih r hk with hk | ⟨a, db₂, hk, hf⟩
      · exact .inl ((bind_of_ok hop).trans hk)
      · exact .inr ⟨a, db₂, (bind_of_ok hop).trans hk, hf⟩

theorem run_bind_ok {p : Session α} {f : α → Session β} {db db' : Database} {b : β}
    (h : (p >>= f).run env db = .ok (b, db')) :
    ∃ a db₁, p.run env db = .ok (a, db₁) ∧ Session.run env (f a) db₁ = .ok (b, db') := by
  induction p generalizing db with
  | ret a => exact ⟨a, db, rfl, h⟩
  | call op k ih =>
    obtain ⟨r, db₁, hop, hk⟩ := bind_eq_ok.mp h
    obtain ⟨a, db₂, hp, hf⟩ := ih r hk
    exact ⟨a, db₂, (bind_of_ok hop).trans hp, hf⟩

theorem SparesAccounts.ret (a : α) : SparesAccounts env (pure a : Session α) := by
  intro db e h
  cases h

theorem SparesAccounts.fail {e : StoreError} (he : e.aboutAccounts = false) :
    SparesAccounts env (fail e : Session α) := by
  intro db e' h
  cases h
  exact he

theorem SparesAccounts.bind {p : Session α} {f : α → Session β} (hp : SparesAccounts env p)
    (hf : ∀ a, SparesAccounts env (f a)) : SparesAccounts env (p >>= f) := by
  intro db e h
  rcases run_bind_error h with h | ⟨a, db₁, -, h⟩
  · exact hp db e h
  · exact hf a db₁ e h

theorem SparesAccounts.send {op : Statement} {f : op.Res → Session β}
    (hop : ∀ db e, op.run env db = .error e → e.aboutAccounts = false)
    (hf : ∀ r, SparesAccounts env (f r)) : SparesAccounts env (send op >>= f) := by
  intro db e h
  rcases bind_eq_error h with h | ⟨r, db₁, -, h⟩
  · exact hop db e h
  · exact hf r db₁ e h

theorem SparesAccounts.ite {c : Prop} [Decidable c] {p q : Session α} (hp : SparesAccounts env p)
    (hq : SparesAccounts env q) : SparesAccounts env (if c then p else q) := by
  split
  · exact hp
  · exact hq

theorem required_error {o : Option α} {e : StoreError} (h : required o = .error e) : e = .noRows := by
  cases o with
  | none => exact (Except.error.inj h).symm
  | some a => cases h

theorem answer_error {f : Database → Except StoreError α} {db : Database} {e : StoreError}
    (h : answer f db = .error e) : f db = .error e := by
  unfold answer at h
  split at h
  · cases h
  · next e' he =>
    rw [← Except.error.inj h]
    exact he

theorem insertRow_error {ρ κ : Type} [Keyed κ ρ] [DecidableEq κ] {t : Table ρ} {r : ρ}
    {e : StoreError} (h : insertRow t r = .error e) : e = .uniqueViolation := by
  unfold insertRow at h
  split at h
  · cases h
  · exact (Except.error.inj h).symm

theorem replace_error {db : Database} {tasks : Table Task} {reservations : Table Reservation}
    {e : StoreError} (h : db.replace tasks reservations = .error e) : e = .foreignKeyViolation := by
  unfold Database.replace at h
  split at h
  · cases h
  · exact (Except.error.inj h).symm

theorem insertTaskRow_error {t : Task} {db : Database} {e : StoreError}
    (h : insertTaskRow t db = .error e) : e.aboutAccounts = false := by
  unfold insertTaskRow at h
  split_ifs at h
  · cases h
    rfl
  cases hins : insertRow db.tasks t with
  | error e' =>
    obtain rfl : e' = e := by simpa [hins, bind, Except.bind] using h
    rw [insertRow_error hins]
    rfl
  | ok tasks =>
    cases hrep : db.replace tasks db.reservations with
    | error e' =>
      obtain rfl : e' = e := by simpa [hins, hrep, bind, Except.bind] using h
      rw [replace_error hrep]
      rfl
    | ok db₁ => simp [hins, hrep, bind, Except.bind] at h

theorem insertReservationRow_error {r : Reservation} {db : Database} {e : StoreError}
    (h : insertReservationRow r db = .error e) : e.aboutAccounts = false := by
  unfold insertReservationRow at h
  cases hins : insertRow db.reservations r with
  | error e' =>
    obtain rfl : e' = e := by simpa [hins, bind, Except.bind] using h
    rw [insertRow_error hins]
    rfl
  | ok reservations =>
    cases hrep : db.replace db.tasks reservations with
    | error e' =>
      obtain rfl : e' = e := by simpa [hins, hrep, bind, Except.bind] using h
      rw [replace_error hrep]
      rfl
    | ok db₁ => simp [hins, hrep, bind, Except.bind] at h

theorem insertOutboxRow_error {o : OutboxRow} {db : Database} {e : StoreError}
    (h : insertOutboxRow o db = .error e) : e.aboutAccounts = false := by
  unfold insertOutboxRow at h
  cases hins : insertRow db.outbox o with
  | error e' =>
    obtain rfl : e' = e := by simpa [hins, bind, Except.bind] using h
    rw [insertRow_error hins]
    rfl
  | ok outbox => simp [hins, bind, Except.bind] at h

/-- The locks and counts after the account. -/
theorem lockLimits_spares (policy : SchedulingPolicy) (keyID : UUID) :
    SparesAccounts env (lockLimits policy keyID) := by
  have hwatermarks : ∀ config queued, SparesAccounts env (checkWatermarks config queued) := by
    intro config queued
    unfold checkWatermarks
    refine .ite (.send (fun _ _ h => by cases h) fun _ => .fail rfl) (.ite ?_ (.ret _))
    exact .send (fun _ _ h => by cases h) fun _ => .fail rfl
  have hsystem : SparesAccounts env lockSystemAdmission := by
    unfold lockSystemAdmission
    refine .send (fun _ _ h => by cases h) fun (config : SystemCapacityConfig) =>
      .ite (.fail rfl) ?_
    refine .send (fun _ _ h => by cases h) fun (queued : ℕ) =>
      .ite (.ite (.fail rfl) ?_) (hwatermarks _ _)
    exact .send (fun _ _ h => by cases h) fun _ => hwatermarks _ _
  refine .send ?_ fun limit => .send (fun _ _ h => by cases h) fun n => .ite (.fail rfl) hsystem
  intro db e h
  have hanswer : answer (fun db => required (((db.apiKeys.get? keyID).filter fun k =>
      k.usable env.now).map APIKey.concurrencyLimit)) db = .error e := h
  rw [required_error (answer_error hanswer)]
  rfl

theorem insertAdmitted_spares (sha256 : String → String) (req : AdmissionRequest)
    (accountID : UUID) (config : SystemCapacityConfig) :
    SparesAccounts env (insertAdmitted sha256 req accountID config) := by
  refine .send (fun _ _ h => by cases h) fun wall => .send ?_ fun task => ?_
  · intro db e h
    rcases bind_eq_error h with h | ⟨u, db₁, -, h⟩
    · exact insertTaskRow_error h
    · cases h
  refine .send (fun _ _ h => by cases h) fun wall' => .send ?_ fun _ => .send ?_ fun _ => .ret _
  · intro db e h
    exact insertReservationRow_error h
  · intro db e h
    exact insertOutboxRow_error h

end Errors

/-! ### The choice of an account -/

section Choice

variable {env : Env} {db : Database} {q : RoutingQuery}

/-- The key of the ORDER BY. -/
def RoutingQuery.key (q : RoutingQuery) (db : Database) (a : Account) :
    ℕ ×ₗ ℚ ×ₗ ℚ ×ₗ Time ×ₗ ℤ ×ₗ ℕ ×ₗ UUID :=
  a.routingKey db q.kind q.estimatedTokens (if a.lastError = "" then 0 else 1)

/-- The order of the candidates: those whose rows are locked come last. -/
def RoutingQuery.rank (q : RoutingQuery) (env : Env) (db : Database) (a : Account) :
    Bool ×ₗ ℕ ×ₗ ℚ ×ₗ ℚ ×ₗ Time ×ₗ ℤ ×ₗ ℕ ×ₗ UUID :=
  toLex (env.lockedAccounts.contains a.id, q.key db a)

/-- The answer of the candidate query in an admission that runs alone. -/
def RoutingQuery.candidate (q : RoutingQuery) (env : Env) (db : Database) (skipLocked : Bool) :
    Option UUID :=
  chooseAccount db db (fun a => q.accepts db env.now a && !([] : List UUID).contains a.id) (q.key db)
    fun id => skipLocked && env.lockedAccounts.contains id

/-- The rows among which the query chooses. -/
def RoutingQuery.candidates (q : RoutingQuery) (env : Env) (db : Database) (skipLocked : Bool) :
    List Account :=
  db.accounts.rows.filter fun a =>
    q.accepts db env.now a && !(skipLocked && env.lockedAccounts.contains a.id)

theorem mem_candidates {skipLocked : Bool} {a : Account} :
    a ∈ q.candidates env db skipLocked ↔ a ∈ db.accounts.rows ∧ q.accepts db env.now a = true ∧
      (skipLocked && env.lockedAccounts.contains a.id) = false := by
  rw [RoutingQuery.candidates, List.mem_filter, Bool.and_eq_true, Bool.not_eq_true']

theorem candidate_eq (skipLocked : Bool) : q.candidate env db skipLocked =
    ((q.candidates env db skipLocked).argmin (q.key db)).map Account.id := by
  have hrows : (db.accounts.select fun a =>
      (q.accepts db env.now a && !([] : List UUID).contains a.id) &&
        !(skipLocked && env.lockedAccounts.contains a.id) && (db.accounts.get? a.id).any fun a =>
          q.accepts db env.now a && !([] : List UUID).contains a.id) =
      q.candidates env db skipLocked := by
    refine List.filter_congr fun a ha => ?_
    have hget : db.accounts.get? a.id = some a := Table.get?_of_mem ha
    rw [hget, Option.any_some]
    cases q.accepts db env.now a <;> cases skipLocked <;> simp
  rw [← hrows]
  rfl

/-- The skipping query comes first, and the other one when it finds nothing. -/
theorem candidate_or {id : UUID} (h : (q.candidate env db true).or (q.candidate env db false) = some id) :
    ∃ a ∈ db.accounts.rows, a.id = id ∧ q.accepts db env.now a = true ∧
      ∀ b ∈ db.accounts.rows, q.accepts db env.now b = true → q.rank env db a ≤ q.rank env db b := by
  have hbest {skipLocked : Bool} (h : q.candidate env db skipLocked = some id) :
      ∃ a ∈ q.candidates env db skipLocked, a.id = id ∧
        ∀ b ∈ q.candidates env db skipLocked, q.key db a ≤ q.key db b := by
    rw [candidate_eq, Option.map_eq_some_iff] at h
    obtain ⟨a, ha, rfl⟩ := h
    exact ⟨a, List.argmin_mem ha, rfl, fun b hb => List.le_of_mem_argmin hb ha⟩
  cases hskip : q.candidate env db true with
  | some id' =>
    obtain rfl : id' = id := by simpa [hskip] using h
    obtain ⟨a, ha, hid, hleast⟩ := hbest hskip
    obtain ⟨hrow, haccepts, hfree⟩ := mem_candidates.mp ha
    rw [Bool.true_and] at hfree
    refine ⟨a, hrow, hid, haccepts, fun b hb hbaccepts => ?_⟩
    rw [RoutingQuery.rank, RoutingQuery.rank, Prod.Lex.toLex_le_toLex, hfree]
    cases hlocked : env.lockedAccounts.contains b.id with
    | true => exact .inl Bool.false_lt_true
    | false => exact .inr ⟨rfl, hleast b (mem_candidates.mpr ⟨hb, hbaccepts, by simpa using hlocked⟩)⟩
  | none =>
    rw [hskip, Option.none_or] at h
    obtain ⟨a, ha, hid, hleast⟩ := hbest h
    obtain ⟨hrow, haccepts, -⟩ := mem_candidates.mp ha
    have hlocked : ∀ b ∈ db.accounts.rows, q.accepts db env.now b = true →
        env.lockedAccounts.contains b.id = true := by
      intro b hb hbaccepts
      by_contra hfree
      rw [candidate_eq, Option.map_eq_none_iff, List.argmin_eq_none] at hskip
      have hmem : b ∈ q.candidates env db true := mem_candidates.mpr ⟨hb, hbaccepts, by simpa using hfree⟩
      rw [hskip] at hmem
      cases hmem
    refine ⟨a, hrow, hid, haccepts, fun b hb hbaccepts => ?_⟩
    rw [RoutingQuery.rank, RoutingQuery.rank, Prod.Lex.toLex_le_toLex, hlocked a hrow haccepts,
      hlocked b hb hbaccepts]
    exact .inr ⟨rfl, hleast b (mem_candidates.mpr ⟨hb, hbaccepts, rfl⟩)⟩

theorem candidate_or_none (h : (q.candidate env db true).or (q.candidate env db false) = none) :
    ∀ a ∈ db.accounts.rows, q.accepts db env.now a = false := by
  intro a ha
  by_contra haccepts
  have hnone := (Option.or_eq_none_iff.mp h).2
  rw [candidate_eq, Option.map_eq_none_iff, List.argmin_eq_none] at hnone
  have hmem : a ∈ q.candidates env db false :=
    mem_candidates.mpr ⟨ha, by simpa using haccepts, rfl⟩
  rw [hnone] at hmem
  cases hmem

theorem pollCandidate_alone (attempts : ℕ) :
    (pollCandidate q [] (attempts + 1)).run env db = .ok (q.candidate env db true, db) := by
  have hsend : Statement.run env (.chooseCandidate q [] true) db =
    .ok (q.candidate env db true, db) := rfl
  induction attempts with
  | zero =>
    refine (run_send hsend).trans ?_
    cases q.candidate env db true <;> rfl
  | succ n ih =>
    refine (run_send hsend).trans ?_
    cases hc : q.candidate env db true with
    | some id => rfl
    | none =>
      rw [hc] at ih
      exact ih

theorem nextCandidate_alone : (nextCandidate q []).run env db =
    .ok ((q.candidate env db true).or (q.candidate env db false), db) := by
  refine (run_bind (pollCandidate_alone 9)).trans ?_
  cases q.candidate env db true <;> rfl

/-- The recheck under the lock finds what the query has found. -/
theorem Account.admits_of_accepts {a : Account} (h : q.accepts db env.now a = true) :
    a.limits.admits q.kind q.estimatedTokens (reservationCount db a.id) (heldTokens db a.id) = true := by
  simp only [RoutingQuery.accepts, Account.accepts, Bool.and_eq_true, decide_eq_true_eq] at h
  obtain ⟨⟨-, hcapacity⟩, hspendable⟩ := h
  simp only [Account.capacity, sub_ite, sub_zero] at hcapacity
  simp only [Account.spendable, sub_ite, sub_zero] at hspendable
  rw [AccountLimits.admits, Bool.and_eq_true, decide_eq_true_eq, decide_eq_true_eq]
  exact ⟨hcapacity, hspendable⟩

/-- Alone, the loop takes its first candidate. -/
theorem selectAccount_alone (attempts : ℕ) : (selectAccount q (attempts + 1) []).run env db =
    .ok ((q.candidate env db true).or (q.candidate env db false), db) := by
  have hsave : Statement.run env .savepoint db = .ok ((), db) := rfl
  refine (run_send hsave).trans ((run_bind nextCandidate_alone).trans ?_)
  cases hc : (q.candidate env db true).or (q.candidate env db false) with
  | none => rfl
  | some id =>
    obtain ⟨a, ha, rfl, haccepts, -⟩ := candidate_or hc
    have husage : Statement.run env (.reservedUsage a.id) db =
      .ok ((reservationCount db a.id, heldTokens db a.id), db) := rfl
    have hget : db.accounts.get? a.id = some a := Table.get?_of_mem ha
    have hlimits : Statement.run env (.accountLimits a.id) db = .ok (a.limits, db) := by
      simp only [Statement.run, Statement.execute, answer, required, hget]
      rfl
    refine (run_send husage).trans ((run_send hlimits).trans ?_)
    rw [if_pos (Account.admits_of_accepts haccepts)]
    rfl

end Choice

/-! ### The answer of an admission -/

section Answer

variable {env : Env} {db db' : Database} {sha256 : String → String} {policy : SchedulingPolicy}
  {req : AdmissionRequest}

/-- The task that answers to the key of the request. -/
def AdmissionRequest.existing (req : AdmissionRequest) (db : Database) : Option Task :=
  if req.idempotencyKey = "" then none
  else (db.tasks.select fun t => decide (t.apiKeyID = some req.keyID) &&
    decide (t.idempotencyKey = some req.idempotencyKey)).head?

/-- The price rule of the request is in force. -/
def AdmissionRequest.priced (req : AdmissionRequest) (db : Database) : Bool :=
  (db.costRules.get? req.pricingRuleID).any fun r =>
    decide (r.providerID = req.providerID) && r.active

/-- The request is new and comes as far as the choice of an account. -/
def AdmissionRequest.routed (req : AdmissionRequest) (policy : SchedulingPolicy) (db : Database) :
    Bool :=
  (req.existing db).isNone &&
    decide (uncertainOfProvider db req.providerID < policy.uncertainProviderLimit) && req.priced db

/-- What follows the choice. -/
def finishAdmission (sha256 : String → String) (policy : SchedulingPolicy) (req : AdmissionRequest) :
    Option UUID → Session (Ending (Task × Bool))
  | none => diagnoseFailure (req.query policy)
  | some accountID => do
    let config ← lockLimits policy req.keyID
    insertAdmitted sha256 req accountID config

theorem admitNew_chooses (hattempts : 0 < req.attempts) : (admitNew sha256 policy req).run env db =
    if policy.uncertainProviderLimit ≤ uncertainOfProvider db req.providerID then
      .error .submissionCircuitOpen
    else if req.priced db = false then .error .costRuleUnavailable
    else (finishAdmission sha256 policy req (((req.query policy).candidate env db true).or
      ((req.query policy).candidate env db false))).run env db := by
  have huncertain : Statement.run env (.providerUncertain req.providerID) db =
    .ok (uncertainOfProvider db req.providerID, db) := rfl
  have hcost : Statement.run env (.costRuleExists req.pricingRuleID req.providerID) db =
    .ok (req.priced db, db) := rfl
  obtain ⟨n, hn⟩ : ∃ n, req.attempts = n + 1 := ⟨req.attempts - 1, by omega⟩
  refine (run_send huncertain).trans ?_
  split_ifs with hlimit hexists
  · rfl
  · refine (run_send hcost).trans ?_
    rw [if_pos (by simpa using hexists)]
    rfl
  · refine (run_send hcost).trans ?_
    rw [if_neg (by simpa using hexists), hn]
    refine (run_bind (selectAccount_alone n)).trans ?_
    unfold finishAdmission
    cases ((req.query policy).candidate env db true).or ((req.query policy).candidate env db false)
    all_goals rfl

theorem createReserved_alone : (createReservedTaskForProviderOnce sha256 policy req).run env db =
    match req.existing db with
    | none => (admitNew sha256 policy req).run env db
    | some t => if t.requestHash ≠ req.hash sha256 then .error .idempotencyKeyReused
      else .ok (.commit (t, false), db) := by
  unfold createReservedTaskForProviderOnce AdmissionRequest.existing
  by_cases hkey : req.idempotencyKey = ""
  · rw [if_pos hkey, if_pos hkey]
  · rw [if_neg hkey, if_neg hkey]
    have hlock : Statement.run env (.advisoryLock (toString req.keyID ++ ":" ++ req.idempotencyKey))
        db = .ok ((), db) := rfl
    have hfind : Statement.run env (.findIdempotent req.keyID req.idempotencyKey) db =
        .ok ((db.tasks.select fun t => decide (t.apiKeyID = some req.keyID) &&
          decide (t.idempotencyKey = some req.idempotencyKey)).head?, db) := rfl
    refine (run_send hlock).trans ((run_send hfind).trans ?_)
    cases (db.tasks.select fun t => decide (t.apiKeyID = some req.keyID) &&
      decide (t.idempotencyKey = some req.idempotencyKey)).head? with
    | none => rfl
    | some t =>
      by_cases hhash : t.requestHash = req.hash sha256
      · simp only [hhash, ne_eq, not_true_eq_false, if_false]
        rfl
      · simp only [hhash, ne_eq, not_false_eq_true, if_true]
        rfl

theorem createReserved_routed (hattempts : 0 < req.attempts) (h : req.routed policy db = true) :
    (createReservedTaskForProviderOnce sha256 policy req).run env db =
      (finishAdmission sha256 policy req (((req.query policy).candidate env db true).or
        ((req.query policy).candidate env db false))).run env db := by
  simp only [AdmissionRequest.routed, Bool.and_eq_true, Option.isNone_iff_eq_none,
    decide_eq_true_eq] at h
  obtain ⟨⟨hnew, huncertain⟩, hpriced⟩ := h
  rw [createReserved_alone, hnew, admitNew_chooses hattempts, if_neg (not_le.mpr huncertain),
    if_neg (by simp [hpriced])]

variable (env sha256) in
theorem createReserved_not_routed (hattempts : 0 < req.attempts) (h : req.routed policy db = false) :
    (∃ e, (createReservedTaskForProviderOnce sha256 policy req).run env db = .error e ∧
      e.aboutAccounts = false) ∨
    ∃ t, (createReservedTaskForProviderOnce sha256 policy req).run env db =
      .ok (.commit (t, false), db) := by
  rw [createReserved_alone]
  cases hold : req.existing db with
  | some t =>
    by_cases hhash : t.requestHash = req.hash sha256
    · exact .inr ⟨t, if_neg (not_not.mpr hhash)⟩
    · exact .inl ⟨_, if_pos hhash, rfl⟩
  | none =>
    left
    rw [admitNew_chooses hattempts]
    split_ifs with hlimit hpriced
    · exact ⟨_, rfl, rfl⟩
    · exact ⟨_, rfl, rfl⟩
    · have hpriced : req.priced db = true := by simpa using hpriced
      simp [AdmissionRequest.routed, hold, not_le.mp hlimit, hpriced] at h

theorem insertAdmitted_account {accountID : UUID} {config : SystemCapacityConfig} {task : Task}
    {created : Bool} (h : (insertAdmitted sha256 req accountID config).run env db =
      .ok (.commit (task, created), db')) : task.accountID = some accountID := by
  obtain ⟨wall, db₁, -, h⟩ := bind_eq_ok.mp h
  obtain ⟨t, db₂, hinsert, h⟩ := bind_eq_ok.mp h
  obtain ⟨u, db₃, -, hreturn⟩ := bind_eq_ok.mp hinsert
  obtain ⟨wall', db₄, -, h⟩ := bind_eq_ok.mp h
  obtain ⟨v, db₅, -, h⟩ := bind_eq_ok.mp h
  obtain ⟨w, db₆, -, h⟩ := bind_eq_ok.mp h
  obtain ⟨hcommit, -⟩ := pure_eq_ok.mp h
  obtain ⟨rfl, -⟩ := pure_eq_ok.mp hreturn
  simp only [Ending.commit.injEq, Prod.mk.injEq] at hcommit
  rw [hcommit.1]
  rfl

theorem finishAdmission_spares (accountID : UUID) :
    SparesAccounts env (finishAdmission sha256 policy req (some accountID)) :=
  (lockLimits_spares policy req.keyID).bind fun config =>
    insertAdmitted_spares sha256 req accountID config

theorem finishAdmission_account {accountID : UUID} {task : Task} {created : Bool}
    (h : (finishAdmission sha256 policy req (some accountID)).run env db =
      .ok (.commit (task, created), db')) : task.accountID = some accountID := by
  obtain ⟨config, db₁, -, hinsert⟩ := run_bind_ok h
  exact insertAdmitted_account hinsert

/-- The account of the provider is healthy and could pay for the request. -/
def Account.pays (a : Account) (db : Database) (now : Time) (req : AdmissionRequest) : Bool :=
  a.healthy req.providerID now &&
    decide ((req.estimatedTokens : ℤ) ≤ a.spendable (heldTokens db a.id) req.kind)

/-- No task of this kind is put on the account any more, whatever it costs. -/
def Account.closed (a : Account) (db : Database) (policy : SchedulingPolicy)
    (req : AdmissionRequest) : Bool :=
  decide (a.capacity req.kind ≤ reservationCount db a.id) ||
    decide (policy.uncertainAccountLimit ≤ uncertainOfAccount db a.id) ||
    decide (policy.uncertainProxyLimit ≤ uncertainOfProxy db req.providerID a.proxyURL)

theorem accepts_eq (a : Account) :
    (req.query policy).accepts db env.now a = (a.pays db env.now req && !a.closed db policy req) := by
  rw [Bool.eq_iff_iff]
  simp only [RoutingQuery.accepts, Account.accepts, AdmissionRequest.query, Account.pays,
    Account.closed, Bool.and_eq_true, Bool.not_eq_true', Bool.or_eq_false_iff,
    decide_eq_false_iff_not, not_le]
  constructor
  · rintro ⟨⟨⟨⟨hhealthy, haccount⟩, hproxy⟩, hcapacity⟩, hpays⟩
    exact ⟨⟨hhealthy, hpays⟩, ⟨of_decide_eq_true hcapacity, of_decide_eq_true haccount⟩,
      of_decide_eq_true hproxy⟩
  · rintro ⟨⟨hhealthy, hpays⟩, ⟨hcapacity, haccount⟩, hproxy⟩
    exact ⟨⟨⟨⟨hhealthy, decide_eq_true haccount⟩, decide_eq_true hproxy⟩,
      decide_eq_true hcapacity⟩, hpays⟩

/-- What the diagnosis makes of the accounts. -/
def AdmissionRequest.reason (req : AdmissionRequest) (db : Database) (now : Time) : StoreError :=
  if ∀ a ∈ db.accounts.rows, a.healthy req.providerID now = false then .noHealthyAccount
  else if ∀ a ∈ db.accounts.rows, a.pays db now req = false then .insufficientPoolBalance
  else .accountQueueCapacity

theorem diagnoseFailure_alone {α : Type} : (diagnoseFailure (req.query policy) : Session α).run env db =
    .error (req.reason db env.now) := by
  have hsend : Statement.run env (.diagnose (req.query policy)) db =
    .ok (diagnoseAdmission env.now (req.query policy) db, db) := rfl
  refine (run_send hsend).trans ?_
  have hhealthy : (diagnoseAdmission env.now (req.query policy) db).1 = 0 ↔
      ∀ a ∈ db.accounts.rows, a.healthy req.providerID env.now = false := by
    simp [diagnoseAdmission, AdmissionRequest.query, Table.select, List.length_eq_zero_iff]
  have hpays : (!(diagnoseAdmission env.now (req.query policy) db).2) = true ↔
      ∀ a ∈ db.accounts.rows, a.pays db env.now req = false := by
    have hany : (diagnoseAdmission env.now (req.query policy) db).2 =
        db.accounts.rows.any fun a => a.pays db env.now req := List.any_filter
    simp [hany]
  simp only [hhealthy, hpays, AdmissionRequest.reason]
  split_ifs <;> rfl

/-- The accounts are blamed for the refusal of a new request that no account takes. -/
theorem createReserved_blames (hattempts : 0 < req.attempts) {e : StoreError}
    (he : e.aboutAccounts = true) :
    (createReservedTaskForProviderOnce sha256 policy req).run env db = .error e ↔
      req.routed policy db = true ∧
        (∀ a ∈ db.accounts.rows, a.pays db env.now req = true → a.closed db policy req = true) ∧
        req.reason db env.now = e := by
  cases hrouted : req.routed policy db with
  | false =>
    simp only [Bool.false_eq_true, false_and, iff_false]
    intro h
    rcases createReserved_not_routed env sha256 hattempts hrouted with
      ⟨e', he', hspares⟩ | ⟨t, ht⟩
    · rw [h, Except.error.injEq] at he'
      rw [he', hspares] at he
      cases he
    · rw [h] at ht
      cases ht
  | true =>
    rw [createReserved_routed hattempts hrouted]
    cases hchoice : ((req.query policy).candidate env db true).or
        ((req.query policy).candidate env db false) with
    | none =>
      have hclosed : ∀ a ∈ db.accounts.rows, a.pays db env.now req = true →
          a.closed db policy req = true := by
        intro a ha hpays
        have hrefused := candidate_or_none hchoice a ha
        simpa [accepts_eq, hpays] using hrefused
      rw [show finishAdmission sha256 policy req none = diagnoseFailure (req.query policy) from rfl,
        diagnoseFailure_alone, Except.error.injEq]
      exact ⟨fun h => ⟨rfl, hclosed, h⟩, fun h => h.2.2⟩
    | some accountID =>
      obtain ⟨a, ha, -, haccepts, -⟩ := candidate_or hchoice
      rw [accepts_eq, Bool.and_eq_true, Bool.not_eq_true'] at haccepts
      constructor
      · intro h
        rw [finishAdmission_spares accountID db e h] at he
        cases he
      · rintro ⟨-, hclosed, -⟩
        rw [hclosed a ha haccepts.1] at haccepts
        cases haccepts.2

/-- The account of an admitted task. -/
theorem createReserved_account (hattempts : 0 < req.attempts) {task : Task}
    (h : (createReservedTaskForProviderOnce sha256 policy req).run env db =
      .ok (.commit (task, true), db')) :
    ∃ a ∈ db.accounts.rows, task.accountID = some a.id ∧ a.pays db env.now req = true ∧
      a.closed db policy req = false ∧
      ∀ b ∈ db.accounts.rows, b.pays db env.now req = true → b.closed db policy req = false →
        (req.query policy).rank env db a ≤ (req.query policy).rank env db b := by
  cases hrouted : req.routed policy db with
  | false =>
    rcases createReserved_not_routed env sha256 hattempts hrouted with
      ⟨e, he, -⟩ | ⟨t, ht⟩
    · rw [h] at he
      cases he
    · rw [h] at ht
      simp at ht
  | true =>
    rw [createReserved_routed hattempts hrouted] at h
    cases hchoice : ((req.query policy).candidate env db true).or
        ((req.query policy).candidate env db false) with
    | none =>
      rw [hchoice] at h
      rw [show finishAdmission sha256 policy req none = diagnoseFailure (req.query policy) from rfl,
        diagnoseFailure_alone] at h
      cases h
    | some accountID =>
      rw [hchoice] at h
      obtain ⟨a, ha, rfl, haccepts, hleast⟩ := candidate_or hchoice
      rw [accepts_eq, Bool.and_eq_true, Bool.not_eq_true'] at haccepts
      refine ⟨a, ha, finishAdmission_account h, haccepts.1, haccepts.2, ?_⟩
      intro b hb hpays hopen
      exact hleast b hb (by simp [accepts_eq, hpays, hopen])

theorem pays_healthy {a : Account} {now : Time} (h : a.pays db now req = true) :
    a.healthy req.providerID now = true := by
  rw [Account.pays, Bool.and_eq_true] at h
  exact h.1

theorem reason_eq_noHealthyAccount {now : Time} : req.reason db now = .noHealthyAccount ↔
    ∀ a ∈ db.accounts.rows, a.healthy req.providerID now = false := by
  unfold AdmissionRequest.reason
  split_ifs with hhealthy hpays
  · exact ⟨fun _ => hhealthy, fun _ => rfl⟩
  · simp [hhealthy]
  · simp [hhealthy]

theorem reason_eq_insufficientPoolBalance {now : Time} :
    req.reason db now = .insufficientPoolBalance ↔
      (∃ a ∈ db.accounts.rows, a.healthy req.providerID now = true) ∧
        ∀ a ∈ db.accounts.rows, a.pays db now req = false := by
  unfold AdmissionRequest.reason
  split_ifs with hhealthy hpays
  · simpa using fun a ha h => absurd (hhealthy a ha) (by simp [h])
  · simp only [not_forall, Bool.not_eq_false] at hhealthy
    obtain ⟨a, ha, h⟩ := hhealthy
    exact ⟨fun _ => ⟨⟨a, ha, h⟩, hpays⟩, fun _ => rfl⟩
  · simp [hpays]

theorem reason_eq_accountQueueCapacity {now : Time} :
    req.reason db now = .accountQueueCapacity ↔
      ∃ a ∈ db.accounts.rows, a.pays db now req = true := by
  unfold AdmissionRequest.reason
  split_ifs with hhealthy hpays
  · simpa using fun a ha => Bool.eq_false_iff.mpr fun h =>
      absurd (pays_healthy h) (by simp [hhealthy a ha])
  · simpa using hpays
  · simpa using hpays

/-- An admission that runs alone blames the accounts for what is true of them, and otherwise takes
the first account in the order of the candidates. -/
theorem createReserved_reasons (hattempts : 0 < req.attempts) :
    ((createReservedTaskForProviderOnce sha256 policy req).run env db = .error .noHealthyAccount ↔
      req.routed policy db = true ∧
        ∀ a ∈ db.accounts.rows, a.healthy req.providerID env.now = false) ∧
    ((createReservedTaskForProviderOnce sha256 policy req).run env db =
        .error .insufficientPoolBalance ↔
      req.routed policy db = true ∧
        (∃ a ∈ db.accounts.rows, a.healthy req.providerID env.now = true) ∧
        ∀ a ∈ db.accounts.rows, a.pays db env.now req = false) ∧
    ((createReservedTaskForProviderOnce sha256 policy req).run env db =
        .error .accountQueueCapacity ↔
      req.routed policy db = true ∧ (∃ a ∈ db.accounts.rows, a.pays db env.now req = true) ∧
        ∀ a ∈ db.accounts.rows, a.pays db env.now req = true → a.closed db policy req = true) ∧
    ∀ task db', (createReservedTaskForProviderOnce sha256 policy req).run env db =
        .ok (.commit (task, true), db') →
      ∃ a ∈ db.accounts.rows, task.accountID = some a.id ∧ a.pays db env.now req = true ∧
        a.closed db policy req = false ∧
        ∀ b ∈ db.accounts.rows, b.pays db env.now req = true → b.closed db policy req = false →
          (req.query policy).rank env db a ≤ (req.query policy).rank env db b := by
  refine ⟨?_, ?_, ?_, fun task db' => createReserved_account hattempts⟩
  · rw [createReserved_blames hattempts rfl, reason_eq_noHealthyAccount]
    constructor
    · rintro ⟨hrouted, -, hhealthy⟩
      exact ⟨hrouted, hhealthy⟩
    · rintro ⟨hrouted, hhealthy⟩
      refine ⟨hrouted, fun a ha hpays => ?_, hhealthy⟩
      have hill := hhealthy a ha
      rw [pays_healthy hpays] at hill
      cases hill
  · rw [createReserved_blames hattempts rfl, reason_eq_insufficientPoolBalance]
    constructor
    · rintro ⟨hrouted, -, hreason⟩
      exact ⟨hrouted, hreason⟩
    · rintro ⟨hrouted, hhealthy, hpoor⟩
      refine ⟨hrouted, fun a ha hpays => ?_, hhealthy, hpoor⟩
      rw [hpoor a ha] at hpays
      cases hpays
  · rw [createReserved_blames hattempts rfl, reason_eq_accountQueueCapacity]
    constructor
    · rintro ⟨hrouted, hclosed, hpays⟩
      exact ⟨hrouted, hpays, hclosed⟩
    · rintro ⟨hrouted, hpays, hclosed⟩
      exact ⟨hrouted, hclosed, hpays⟩

/-- The only account has room and credits, and one submission whose outcome is unknown. -/
theorem createReserved_reasons_uncertain :
    (createReservedTaskForProviderOnce id defaultSchedulingPolicy (smallRequest 21 .image 5)).run
      (atTime (hours 2)) ((smallStore smallAccounts).after
        (smallLife.take 3 ++ [⟨atTime (hours 1), .recover⟩])).db = .error .accountQueueCapacity :=
  (createReserved_reasons (by decide)).2.2.1.mpr
    ⟨by decide +kernel, by decide +kernel, by decide +kernel⟩

end Answer

end GenerationGateway
