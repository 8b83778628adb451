import GenerationGateway.Store.Threads

/-!
# What an admission commits

A committed admission has either found the task of its idempotency key and
written nothing, or it has written a new task with its held reservation and its
outbox row, and nothing about any other task.
-/

namespace GenerationGateway

open Relational Effects

/-- The rows of the task are inserted, and those of the other tasks stay. -/
structure AdmissionRequest.Inserts (sha256 : String → String) (req : AdmissionRequest) (env : Env)
    (accountID : UUID) (task : Task) (db db' : Database) : Prop where
  row : ∃ deadline, task = req.task sha256 accountID deadline env.now
  fresh : db.tasks.get? req.id = none
  unique : ∀ t ∈ db.tasks.rows, task.sameIdempotency t = false
  task : db'.tasks.get? req.id = some task
  reservation : ∃ expiresAt, db'.reservations.get? req.id = some (req.reservation accountID expiresAt)
  outbox : db'.outbox.get? req.id = some (OutboxRow.new env req.id req.kind)
  frame : ∀ k, k ≠ req.id → db'.cell k = db.cell k
  config : SameConfig db db'

section

variable {env : Env} {db db' : Database} {policy : SchedulingPolicy} {req : AdmissionRequest}

theorem setOverload_config {active : Bool} {u : Unit}
    (h : Session.Ends env (send (.setOverload active)) db u db') : SameConfig db db' := by
  have hrun : writeOverload active db = .ok (u, db') := ends_own rfl h
  cases hrun
  exact ⟨rfl, rfl, rfl⟩

theorem lockSystemAdmission_config {config : SystemCapacityConfig}
    (h : Session.Ends env lockSystemAdmission db config db') : SameConfig db db' := by
  obtain ⟨stored, db₁, h₁, h₂⟩ := ends_bind.mp h
  obtain rfl := ends_shared rfl h₁
  split at h₂
  · exact absurd h₂ not_ends_fail
  obtain ⟨queued, db₂, h₃, h₄⟩ := ends_bind.mp h₂
  obtain rfl := ends_shared rfl h₃
  split at h₄
  · split at h₄
    · exact absurd h₄ not_ends_fail
    · obtain ⟨_, db₃, h₅, h₆⟩ := ends_bind.mp h₄
      obtain rfl := checkWatermarks_ends h₆
      exact setOverload_config h₅
  · obtain rfl := checkWatermarks_ends h₄
    exact .refl _

theorem lockLimits_config {keyID : UUID} {config : SystemCapacityConfig}
    (h : Session.Ends env (lockLimits policy keyID) db config db') : SameConfig db db' := by
  obtain ⟨limit, db₁, h₁, h₂⟩ := ends_bind.mp h
  obtain rfl := ends_shared rfl h₁
  obtain ⟨nonTerminal, db₂, h₃, h₄⟩ := ends_bind.mp h₂
  obtain rfl := ends_shared rfl h₃
  split at h₄
  · exact absurd h₄ not_ends_fail
  · exact lockSystemAdmission_config h₄

/-- The unique index on the API key and the idempotency key. -/
theorem insertTaskRow_unique {t : Task} {u : Unit} (h : insertTaskRow t db = .ok (u, db')) :
    ∀ s ∈ db.tasks.rows, t.sameIdempotency s = false := by
  unfold insertTaskRow at h
  split_ifs at h with hany
  · cases h
  · intro s hs
    cases hsame : t.sameIdempotency s with
    | false => rfl
    | true => exact absurd (List.any_eq_true.mpr ⟨s, hs, hsame⟩) hany

variable {sha256 : String → String} {task : Task} {created : Bool}

theorem insertAdmitted_ends {accountID : UUID} {config : SystemCapacityConfig}
    (h : Session.Ends env (insertAdmitted sha256 req accountID config) db
      (.commit (task, created)) db') :
    created = true ∧ req.Inserts sha256 env accountID task db db' := by
  obtain ⟨wall, db₁, h₁, h₂⟩ := ends_bind.mp h
  obtain rfl := ends_shared rfl h₁
  obtain ⟨inserted, db₂, h₃, h₄⟩ := ends_bind.mp h₂
  obtain ⟨wall', db₃, h₅, h₆⟩ := ends_bind.mp h₄
  obtain rfl := ends_shared rfl h₅
  obtain ⟨_, db₄, h₇, h₈⟩ := ends_bind.mp h₆
  obtain ⟨_, db₅, h₉, h₁₀⟩ := ends_bind.mp h₈
  obtain ⟨hcommit, rfl⟩ := ends_pure.mp h₁₀
  cases hcommit
  obtain ⟨_, db₂', hrow, hpure⟩ := bind_eq_ok.mp (ends_own rfl h₃)
  obtain ⟨rfl, rfl⟩ := pure_eq_ok.mp hpure
  obtain ⟨hfresh, htouch, hshared⟩ := insertTaskRow_ok hrow
  obtain ⟨-, htouch', hshared'⟩ := insertReservationRow_ok (ends_own rfl h₇)
  obtain ⟨-, htouch'', hshared''⟩ := insertOutboxRow_ok (ends_own rfl h₉)
  have hall := (htouch.trans htouch').trans htouch''
  refine ⟨rfl, ?_⟩
  exact {
    row := ⟨_, rfl⟩
    fresh := hfresh
    unique := insertTaskRow_unique hrow
    task := congrArg Cell.task hall.cell
    reservation := ⟨_, congrArg Cell.reservation hall.cell⟩
    outbox := congrArg Cell.outbox hall.cell
    frame := hall.frame
    config := .of_shared ((hshared.trans hshared').trans hshared'') }

/-- The rows of the tasks are all that the limits leave alone. -/
theorem AdmissionRequest.Inserts.of_cells {accountID : UUID} {db₁ : Database}
    (hcells : ∀ k, db₁.cell k = db.cell k) (hconfig : SameConfig db db₁)
    (h : req.Inserts sha256 env accountID task db₁ db') :
    req.Inserts sha256 env accountID task db db' where
  row := h.row
  fresh := (congrArg Cell.task (hcells req.id)).symm.trans h.fresh
  unique t ht := by
    have hget : db₁.tasks.get? t.id = some t :=
      (congrArg Cell.task (hcells t.id)).trans (Table.get?_of_mem ht)
    exact h.unique t (Table.mem_of_get? hget)
  task := h.task
  reservation := h.reservation
  outbox := h.outbox
  frame k hk := (h.frame k hk).trans (hcells k)
  config := hconfig.trans h.config

theorem admitNew_ends
    (h : Session.Ends env (admitNew sha256 policy req) db (.commit (task, created)) db') :
    created = true ∧ ∃ accountID, req.Inserts sha256 env accountID task db db' := by
  obtain ⟨uncertain, db₁, h₁, h₂⟩ := ends_bind.mp h
  obtain rfl := ends_shared rfl h₁
  split at h₂
  · exact absurd h₂ not_ends_fail
  obtain ⟨costRuleExists, db₂, h₃, h₄⟩ := ends_bind.mp h₂
  obtain rfl := ends_shared rfl h₃
  split at h₄
  · exact absurd h₄ not_ends_fail
  obtain ⟨choice, db₃, h₅, h₆⟩ := ends_bind.mp h₄
  obtain rfl := selectAccount_ends h₅
  cases choice with
  | none =>
    obtain ⟨⟨healthy, enough⟩, db₄, h₇, h₈⟩ := ends_bind.mp h₆
    dsimp only at h₈
    split at h₈
    · exact absurd h₈ not_ends_fail
    split at h₈ <;> exact absurd h₈ not_ends_fail
  | some accountID =>
    obtain ⟨config, db₄, h₇, h₈⟩ := ends_bind.mp h₆
    obtain ⟨hcreated, hinserts⟩ := insertAdmitted_ends h₈
    exact ⟨hcreated, accountID, hinserts.of_cells (lockLimits_ends h₇) (lockLimits_config h₇)⟩

/-- A committed attempt names an old task of the same hash, or it inserts a new one. -/
theorem createReservedTaskForProviderOnce_ends
    (h : Session.Ends env (createReservedTaskForProviderOnce sha256 policy req) db
      (.commit (task, created)) db') :
    created = false ∧ db' = db ∧ req.idempotencyKey ≠ "" ∧ task.requestHash = req.hash sha256 ∨
      created = true ∧ ∃ accountID, req.Inserts sha256 env accountID task db db' := by
  unfold createReservedTaskForProviderOnce at h
  split at h
  · exact .inr (admitNew_ends h)
  next hkey =>
  obtain ⟨_, db₁, h₁, h₂⟩ := ends_bind.mp h
  obtain rfl := ends_shared rfl h₁
  obtain ⟨existing, db₂, h₃, h₄⟩ := ends_bind.mp h₂
  obtain rfl := ends_shared rfl h₃
  cases existing with
  | none => exact .inr (admitNew_ends h₄)
  | some found =>
    dsimp only at h₄
    split at h₄
    · exact absurd h₄ not_ends_fail
    · next hhash =>
      obtain ⟨hcommit, rfl⟩ := ends_pure.mp h₄
      cases hcommit
      exact .inl ⟨rfl, rfl, hkey, not_not.mp hhash⟩

end

end GenerationGateway
