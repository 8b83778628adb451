import GenerationGateway.Store.ProtectedCredits

/-!
# The overload mode

An admission that finds the queue at a watermark turns the overload mode on and
fails, so its transaction is rolled back and the mode with it. Whether the next
admission is refused depends on the queue it finds and not on the refusal before.
-/

namespace GenerationGateway

open Relational Effects Transitions

/-- The statements that look for an account. -/
def Statement.routes : Statement → Bool
  | .raise _ | .savepoint | .rollbackToSavepoint | .releaseSavepoint | .chooseCandidate _ _ _
  | .reservedUsage _ | .accountLimits _ => true
  | _ => false

abbrev Session.Routes {α : Type} (p : Session α) : Prop := p.Sends (S := sql) fun op => op.routes = true

theorem routes_fail {α : Type} (e : StoreError) : (fail e : Session α).Routes := ⟨rfl, nofun⟩

theorem pollCandidate_routes (q : RoutingQuery) (excluded : List UUID) (attempts : ℕ) :
    (pollCandidate q excluded attempts).Routes := by
  induction attempts with
  | zero => trivial
  | succ attempts ih =>
    refine ⟨rfl, fun choice => ?_⟩
    cases choice with
    | none => exact ih
    | some accountID => trivial

theorem nextCandidate_routes (q : RoutingQuery) (excluded : List UUID) :
    (nextCandidate q excluded).Routes := by
  refine (pollCandidate_routes q excluded 10).bind fun choice => ?_
  cases choice with
  | none => exact ⟨rfl, fun _ => trivial⟩
  | some accountID => trivial

theorem selectAccount_routes (q : RoutingQuery) (attempts : ℕ) (excluded : List UUID) :
    (selectAccount q attempts excluded).Routes := by
  induction attempts generalizing excluded with
  | zero => exact routes_fail _
  | succ attempts ih =>
    refine ⟨rfl, fun _ => (nextCandidate_routes q excluded).bind fun choice => ?_⟩
    cases choice with
    | none => exact ⟨rfl, fun _ => trivial⟩
    | some accountID =>
      refine ⟨rfl, fun usage => ?_⟩
      obtain ⟨reservationCount, reserved⟩ := usage
      refine ⟨rfl, fun limits => ?_⟩
      change Session.Routes (if _ then _ else _)
      split
      · exact ⟨rfl, fun _ => trivial⟩
      · exact ⟨rfl, fun _ => ⟨rfl, fun _ => ih _⟩⟩

/-- The count of queued tasks that the answer tells. -/
def Statement.tellsQueued : (op : Statement) → op.Res → Option ℕ
  | .queued, n => some n
  | _, _ => none

/-- The count of queued tasks that a transaction reads when it runs alone; none if it
ends before. -/
def Session.queuedSeen {α : Type} (env : Env) : Session α → Database → Option ℕ
  | .ret _, _ => none
  | .call op k, db =>
    match Statement.run env op db with
    | .ok (r, db') => (op.tellsQueued r).or (Session.queuedSeen env (k r) db')
    | .error _ => none

section Seen

variable {α β : Type} {env : Env} {db db' : Database}

abbrev Session.Alone (env : Env) (p : Session α) (db : Database) (a : α) (db' : Database) : Prop :=
  p.Runs (S := sql) (aloneStep env) db a db'

theorem queuedSeen_bind {p : Session α} {f : α → Session β} {a : α} (h : p.Alone env db a db') :
    (p >>= f).queuedSeen env db = (p.queuedSeen env db).or ((f a).queuedSeen env db') := by
  induction p generalizing db with
  | ret b =>
    obtain ⟨rfl, rfl⟩ := h
    rfl
  | call op k ih =>
    obtain ⟨r, db₁, hop, hk⟩ := h
    have hrun : Statement.run env op db = .ok (r, db₁) := hop
    simp only [Prog.call_bind, Session.queuedSeen, hrun, ih r hk, Option.or_assoc]

theorem queuedSeen_of_routes {p : Session α} (h : p.Routes) : p.queuedSeen env db = none := by
  induction p generalizing db with
  | ret b => rfl
  | call op k ih =>
    unfold Session.queuedSeen
    split
    · next r db₁ hrun =>
      have hsilent : op.tellsQueued r = none := by
        cases op with
        | queued => cases h.1
        | _ => rfl
      rw [hsilent, ih r (h.2 r)]
      rfl
    · rfl

theorem queuedSeen_call {op : sql.Op} {k : sql.Res op → Session β} {r : sql.Res op}
    (h : Statement.run env op db = .ok (r, db')) : Session.queuedSeen env (.call op k) db =
      (Statement.tellsQueued op r).or (Session.queuedSeen env (k r) db') := by
  simp only [Session.queuedSeen]
  split
  · next r' db₁ hrun =>
    obtain ⟨rfl, rfl⟩ := Prod.mk.inj (Except.ok.inj (hrun.symm.trans h))
    rfl
  · next e hrun => cases hrun.symm.trans h

/-- A read alone. -/
theorem alone_shared (op : Statement) {f : op.Res → Session β} {b : β} (hown : op.own = false)
    (h : (send op >>= f).Alone env db b db') : ∃ r, op.run env db = .ok (r, db) ∧
      (f r).Alone env db b db' ∧ (send op >>= f).queuedSeen env db =
        (op.tellsQueued r).or ((f r).queuedSeen env db) := by
  obtain ⟨r, db₁, hop, hk⟩ := h
  have hrun : op.run env db = .ok (r, db₁) := hop
  obtain rfl := Statement.run_shared hown hrun
  exact ⟨r, hrun, hk, queuedSeen_call hrun⟩

/-- A read alone that does not count the queue. -/
theorem alone_silent (op : Statement) {f : op.Res → Session β} {b : β} (hown : op.own = false)
    (hsilent : ∀ r, op.tellsQueued r = none) (h : (send op >>= f).Alone env db b db') :
    ∃ r, op.run env db = .ok (r, db) ∧ (f r).Alone env db b db' ∧
      (send op >>= f).queuedSeen env db = (f r).queuedSeen env db := by
  obtain ⟨r, hrun, hk, hseen⟩ := alone_shared op hown h
  rw [hsilent r, Option.none_or] at hseen
  exact ⟨r, hrun, hk, hseen⟩

theorem alone_ends {p : Session α} {a : α} (h : p.Alone env db a db') :
    Session.Ends env p db a db' := by
  refine h.mono fun op s r s' hop => ?_
  have hrun : op.run env s = .ok (r, s') := hop
  unfold looseStep
  split
  · exact hrun
  · next hown => exact Statement.run_shared (by simpa using hown) hrun

theorem not_alone_fail {e : StoreError} {a : α} : ¬ (fail e : Session α).Alone env db a db' := by
  rintro ⟨r, -⟩
  exact nomatch r

end Seen

section Admission

variable {env : Env} {db db' : Database} {policy : SchedulingPolicy} {req : AdmissionRequest}

/-- The queue may grow: maintenance is off, and no watermark refuses the task. -/
structure SystemCapacityConfig.AdmitsQueued (config : SystemCapacityConfig) (queued : ℕ) : Prop where
  maintenance : config.maintenanceMode = false
  resumed : config.overloadActive = true → queued ≤ config.queueResumeWatermark
  below : queued < config.queueHighWatermark

theorem checkWatermarks_alone {config result : SystemCapacityConfig} {queued : ℕ}
    (h : (checkWatermarks config queued).Alone env db result db') :
    queued < config.queueHighWatermark := by
  unfold checkWatermarks at h
  split at h
  · obtain ⟨_, db₁, -, h⟩ := h
    exact absurd h not_alone_fail
  split at h
  · obtain ⟨_, db₁, -, h⟩ := h
    exact absurd h not_alone_fail
  · omega

/-- An admission that the system lets through has compared the queue with both
watermarks. -/
theorem lockSystemAdmission_alone {config : SystemCapacityConfig}
    (h : lockSystemAdmission.Alone env db config db') :
    lockSystemAdmission.queuedSeen env db = some (queuedTasks db) ∧
      db.capacity.AdmitsQueued (queuedTasks db) := by
  obtain ⟨stored, hstored, h, hseen⟩ := alone_silent .lockCapacity rfl (fun _ => rfl) h
  have hanswer : answer (fun db => .ok db.capacity) db = .ok (stored, db) := hstored
  obtain rfl := Except.ok.inj (answer_ok hanswer).1
  by_cases hmaintenance : db.capacity.maintenanceMode = true
  · rw [if_pos hmaintenance] at h
    exact absurd h not_alone_fail
  rw [if_neg hmaintenance] at h hseen
  obtain ⟨queued, hqueued, h, hcount⟩ := alone_shared .queued rfl h
  have hanswer : answer (fun _ => .ok (queuedTasks db)) db = .ok (queued, db) := hqueued
  obtain rfl := Except.ok.inj (answer_ok hanswer).1
  refine ⟨hseen.trans (hcount.trans (Option.some_or ..)), by simpa using hmaintenance, ?_, ?_⟩
  · intro hactive
    rw [if_pos hactive] at h
    by_contra hover
    rw [if_pos (not_le.mp hover)] at h
    exact absurd h not_alone_fail
  · by_cases hactive : db.capacity.overloadActive = true
    · rw [if_pos hactive] at h
      by_cases hover : db.capacity.queueResumeWatermark < queuedTasks db
      · rw [if_pos hover] at h
        exact absurd h not_alone_fail
      · rw [if_neg hover] at h
        obtain ⟨_, db₁, -, h⟩ := h
        exact checkWatermarks_alone h
    · rw [if_neg hactive] at h
      exact checkWatermarks_alone h

theorem lockLimits_alone {keyID : UUID} {config : SystemCapacityConfig}
    (h : (lockLimits policy keyID).Alone env db config db') :
    (lockLimits policy keyID).queuedSeen env db = some (queuedTasks db) ∧
      db.capacity.AdmitsQueued (queuedTasks db) := by
  obtain ⟨limit, -, h, hseen⟩ := alone_silent (.lockUsableKey keyID) rfl (fun _ => rfl) h
  obtain ⟨count, -, h, hseen'⟩ := alone_silent (.keyNonTerminal keyID) rfl (fun _ => rfl) h
  split at h
  · exact absurd h not_alone_fail
  next hbelow =>
  rw [if_neg hbelow] at hseen'
  obtain ⟨hcount, hadmits⟩ := lockSystemAdmission_alone h
  exact ⟨hseen.trans (hseen'.trans hcount), hadmits⟩

theorem not_alone_diagnoseFailure {α : Type} {q : RoutingQuery} {a : α} :
    ¬ (diagnoseFailure q).Alone env db a db' := by
  rintro ⟨⟨healthy, enough⟩, db₁, -, h⟩
  change Session.Alone env (if _ then _ else _) _ _ _ at h
  split at h
  · exact not_alone_fail h
  split at h <;> exact not_alone_fail h

theorem admitNew_alone {sha256 : String → String} {e : Ending (Task × Bool)}
    (h : (admitNew sha256 policy req).Alone env db e db') :
    (admitNew sha256 policy req).queuedSeen env db = some (queuedTasks db) ∧
      db.capacity.AdmitsQueued (queuedTasks db) := by
  obtain ⟨uncertain, -, h, hseen⟩ :=
    alone_silent (.providerUncertain req.providerID) rfl (fun _ => rfl) h
  split at h
  · exact absurd h not_alone_fail
  next hclosed =>
  rw [if_neg hclosed] at hseen
  obtain ⟨costRuleExists, -, h, hseen'⟩ :=
    alone_silent (.costRuleExists req.pricingRuleID req.providerID) rfl (fun _ => rfl) h
  split at h
  · exact absurd h not_alone_fail
  next hrule =>
  rw [if_neg hrule] at hseen'
  obtain ⟨choice, db₁, hselect, h⟩ := (Prog.runs_bind _).mp h
  obtain rfl := selectAccount_ends (alone_ends hselect)
  rw [queuedSeen_bind hselect, queuedSeen_of_routes (selectAccount_routes _ _ _),
    Option.none_or] at hseen'
  cases choice with
  | none => exact absurd h not_alone_diagnoseFailure
  | some accountID =>
    obtain ⟨config, db₂, hlimits, -⟩ := (Prog.runs_bind _).mp h
    obtain ⟨hcount, hadmits⟩ := lockLimits_alone hlimits
    have hlocked := queuedSeen_bind (f := insertAdmitted sha256 req accountID) hlimits
    rw [hcount, Option.some_or] at hlocked
    exact ⟨hseen.trans (hseen'.trans hlocked), hadmits⟩

/-- An attempt that does not find its task has counted the queue, and the watermarks
let it grow. -/
theorem createReservedTaskForProviderOnce_alone {sha256 : String → String}
    {e : Ending (Task × Bool)} (hcreated : ∀ task, e ≠ .commit (task, false))
    (h : (createReservedTaskForProviderOnce sha256 policy req).Alone env db e db') :
    (createReservedTaskForProviderOnce sha256 policy req).queuedSeen env db =
        some (queuedTasks db) ∧ db.capacity.AdmitsQueued (queuedTasks db) := by
  unfold createReservedTaskForProviderOnce at h ⊢
  by_cases hkey : req.idempotencyKey = ""
  · rw [if_pos hkey] at h ⊢
    exact admitNew_alone h
  rw [if_neg hkey] at h ⊢
  obtain ⟨_, -, h, hseen⟩ := alone_silent (.advisoryLock _) rfl (fun _ => rfl) h
  obtain ⟨existing, -, h, hseen'⟩ := alone_silent
    (.findIdempotent req.keyID req.idempotencyKey) rfl (fun _ => rfl) h
  cases existing with
  | none =>
    obtain ⟨hcount, hadmits⟩ := admitNew_alone h
    exact ⟨hseen.trans (hseen'.trans hcount), hadmits⟩
  | some found =>
    dsimp only at h
    split at h
    · exact absurd h not_alone_fail
    · exact absurd h.1 (hcreated found)

/-- The operation created a task. -/
def createdTask : Except StoreError (Task × Bool) → Bool
  | .ok (_, created) => created
  | .error _ => false

theorem createdTask_alone {sha256 : String → String}
    (h : createdTask (transaction
      ((createReservedTaskForProviderOnce sha256 policy req).run env) db).1 = true) :
    (createReservedTaskForProviderOnce sha256 policy req).queuedSeen env db =
        some (queuedTasks db) ∧ db.capacity.AdmitsQueued (queuedTasks db) := by
  unfold transaction at h
  split at h
  · next hbody =>
    apply createReservedTaskForProviderOnce_alone _ (Session.runs_alone hbody)
    rintro task ⟨⟩
    cases h
  · next hbody =>
    apply createReservedTaskForProviderOnce_alone _ (Session.runs_alone hbody)
    intro task hcommit
    cases hcommit
  · cases h

end Admission

/-! ### Runs across the watermarks -/

/-- The store with what its watermarks have told: whether the last word was a refusal,
and whether a task was created against it. -/
structure Hysteresis where
  db : Database
  overloaded : Bool
  ignored : Bool

/-- The attempt was refused and had counted a queue at the high watermark; the limit
`maxQueued` lies above it. -/
def SystemCapacityConfig.refused {α : Type} (config : SystemCapacityConfig) (seen : Option ℕ) :
    Except StoreError α → Bool
  | .error e => (decide (e = .systemOverloaded) || decide (e = .systemQueueCapacity)) &&
      seen.any fun n => decide (config.queueHighWatermark ≤ n)
  | .ok _ => false

def SystemCapacityConfig.resumes (config : SystemCapacityConfig) (seen : Option ℕ) : Bool :=
  seen.any fun n => decide (n ≤ config.queueResumeWatermark)

def Hysteresis.step (s : Hysteresis) (e : Event) : Option Hysteresis :=
  match e.op with
  | .admission sha256 policy req =>
    let attempt := createReservedTaskForProviderOnce sha256 policy req
    let seen := attempt.queuedSeen e.env s.db
    let after := transaction (attempt.run e.env) s.db
    let waiting := s.overloaded && !s.db.capacity.resumes seen
    some ⟨after.2, s.db.capacity.refused seen after.1 || waiting,
      s.ignored || waiting && createdTask after.1⟩
  | op => some { s with db := op.apply e.env s.db }

def hysteresis : LTS Hysteresis Event := LTS.ofStep Hysteresis.step

/-- After a refusal the queue is seen at a watermark or the stored mode still says so. -/
def Hysteresis.atWatermark (s : Hysteresis) (e : Event) : Bool :=
  match e.op with
  | .admission _ _ _ => !s.overloaded || s.db.capacity.maintenanceMode ||
      s.db.capacity.overloadActive ||
      decide (queuedTasks s.db ≤ s.db.capacity.queueResumeWatermark) ||
      decide (s.db.capacity.queueHighWatermark ≤ queuedTasks s.db)
  | _ => true

theorem Hysteresis.step_ignored {s s' : Hysteresis} {e : Event} (hstep : hysteresis.step s e s')
    (hcond : s.atWatermark e = true) (h : s.ignored = false) : s'.ignored = false := by
  obtain ⟨env, op⟩ := e
  cases op with
  | admission sha256 policy req =>
    obtain rfl := Option.some.inj hstep
    change (s.ignored || (s.overloaded && !SystemCapacityConfig.resumes _ _) && _) = false
    rw [h, Bool.false_or]
    by_contra hcreated
    simp only [Bool.not_eq_false, Bool.and_eq_true, Bool.not_eq_true'] at hcreated
    obtain ⟨⟨hoverloaded, hnot⟩, hcreated⟩ := hcreated
    obtain ⟨hseen, hadmits⟩ := createdTask_alone hcreated
    have hover : ¬ queuedTasks s.db ≤ s.db.capacity.queueResumeWatermark := by
      simpa [SystemCapacityConfig.resumes, hseen] using hnot
    have hmode : ¬ s.db.capacity.overloadActive = true := fun hactive => hover (hadmits.resumed hactive)
    have hbelow := hadmits.below
    simp [Hysteresis.atWatermark, hoverloaded, hadmits.maintenance, hmode, hover] at hcond
    omega
  | _ =>
    obtain rfl := Option.some.inj hstep
    exact h

/-- In a run in which every attempt after a refusal finds the queue at a watermark, or
the mode stored, no task is created until the queue is seen at the resume watermark. -/
theorem overload_hysteresis {db : Database} {s : Hysteresis}
    (h : (hysteresis.restrict fun s e => s.atWatermark e = true).Reachable ⟨db, false, false⟩ s) :
    s.ignored = false := by
  refine h.invariant (I := fun s => s.ignored = false) ?_ rfl
  rintro s₁ e s₂ ⟨hstep, hcond⟩ hs
  exact Hysteresis.step_ignored hstep hcond hs

/-- Three tasks fill the small store up to its high watermark, and a fourth is refused. -/
def refusedAtHigh : List Event :=
  [admitAt 0 (smallRequest 20 .image 5), admitAt 1 (smallRequest 21 .image 5),
    admitAt 2 (smallRequest 22 .image 5), admitAt 3 (smallRequest 23 .image 5)]

def smallHysteresis : Hysteresis := ⟨(smallStore smallAccounts).db, false, false⟩

/-- Two tasks are claimed before the next attempt. -/
def resumedQueue : List Event :=
  refusedAtHigh ++ [claimAt 4 20 900, claimAt 5 21 901, admitAt 6 (smallRequest 24 .image 5)]

theorem overload_hysteresis_resumedQueue :
    ∃ s : Hysteresis, queuedTasks s.db = 2 ∧ s.overloaded = false ∧ s.ignored = false := by
  have hrun : (LTS.follow Hysteresis.step Hysteresis.atWatermark smallHysteresis
      resumedQueue).map (fun s => (queuedTasks s.db, s.overloaded)) = some (2, false) := by
    decide +kernel
  obtain ⟨s, hs, hqueued⟩ := Option.map_eq_some_iff.mp hrun
  obtain ⟨hqueued, hoverloaded⟩ := Prod.mk.inj hqueued
  exact ⟨s, hqueued, hoverloaded, overload_hysteresis ⟨resumedQueue, LTS.run_of_follow hs⟩⟩

/-- One task is claimed after the refusal: two are still queued when the next is created. -/
theorem overload_forgotten :
    ¬ ∀ s, hysteresis.Reachable smallHysteresis s → s.ignored = false := by
  intro h
  have hrun : (LTS.follow Hysteresis.step (fun _ _ => true) smallHysteresis
      (refusedAtHigh ++ [claimAt 4 20 900, admitAt 5 (smallRequest 24 .image 5)])).map
        Hysteresis.ignored = some true := by
    decide +kernel
  obtain ⟨s, hs, hignored⟩ := Option.map_eq_some_iff.mp hrun
  have hkept := h s ⟨_, (LTS.run_of_follow hs).of_restrict⟩
  rw [hignored] at hkept
  cases hkept

end GenerationGateway
