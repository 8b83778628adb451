import GenerationGateway.Library.Checks
import GenerationGateway.Store.ExecutionLimit
import GenerationGateway.Store.ProtectedCredits
import GenerationGateway.Store.SystemLimits

/-!
# Limits that change

An administrator changes the limits of an account and of the system while tasks run and wait.
The update of an account is refused below what the account has taken on, so its limits bound its
tasks at every moment and not only from one update to the next.
-/

namespace GenerationGateway

open Relational Effects Transitions Checks

/-! ### The updates -/

/-- `count(*) FILTER (WHERE t.status='queued')` of the account's held reservations. -/
def waitingTasks (db : Database) (account : UUID) : ℕ :=
  db.reservations.count fun r =>
    r.holds account && (db.tasks.get? r.taskID).any fun t => decide (t.status = .queued)

/-- The patch of an administrator; a field that is missing keeps its value. -/
structure AccountConfigRequest where
  proxyURL : Option String := none
  imageConcurrency : Option ℤ := none
  queueCapacity : Option ℤ := none
  routingRole : Option String := none
  protectedTokens : Option ℤ := none
  videoReservedSlots : Option ℤ := none
  deriving DecidableEq

inductive AccountConfigError
  | notFound
  | capacityInUse (executingTasks queuedTasks : ℕ) (requestedConcurrency requestedQueue : ℤ)
  | check
  deriving DecidableEq

def RoutingRole.text : RoutingRole → String
  | general => "general"
  | videoReserved => "video_reserved"

def RoutingRole.ofText (text : String) : Option RoutingRole :=
  if text = "general" then some .general
  else if text = "video_reserved" then some .videoReserved
  else none

@[simp] theorem RoutingRole.ofText_text (role : RoutingRole) : ofText role.text = some role := by
  cases role with
  | general => rfl
  | videoReserved => simp [text, ofText]

/-- The columns that the UPDATE sets. -/
structure AccountConfig where
  proxyURL : String
  imageConcurrency : ℤ
  queueCapacity : ℤ
  routingRole : String
  protectedTokens : ℤ
  videoReservedSlots : ℤ

/-- The columns of the row with those of the patch over them. -/
def AccountConfigRequest.over (patch : AccountConfigRequest) (a : Account) : AccountConfig where
  proxyURL := patch.proxyURL.getD a.proxyURL
  imageConcurrency := patch.imageConcurrency.getD a.imageConcurrency
  queueCapacity := patch.queueCapacity.getD a.queueCapacity
  routingRole := patch.routingRole.getD a.routingRole.text
  protectedTokens := patch.protectedTokens.getD a.protectedTokens
  videoReservedSlots := patch.videoReservedSlots.getD a.videoReservedSlots

/-- The row after the UPDATE; none where a CHECK constraint refuses it. -/
def Account.configure (a : Account) (c : AccountConfig) : Option Account :=
  match RoutingRole.ofText c.routingRole with
  | none => none
  | some role =>
    if h : 0 < c.imageConcurrency ∧ 1 ≤ c.queueCapacity ∧ c.queueCapacity ≤ 1000 ∧
        0 ≤ c.protectedTokens ∧ 0 ≤ c.videoReservedSlots ∧
        c.videoReservedSlots ≤ c.imageConcurrency then
      some { a with
        proxyURL := c.proxyURL
        imageConcurrency := c.imageConcurrency.toNat
        queueCapacity := c.queueCapacity.toNat
        routingRole := role
        protectedTokens := c.protectedTokens.toNat
        videoReservedSlots := c.videoReservedSlots.toNat
        imageConcurrency_pos := by omega
        queueCapacity_pos := by omega
        queueCapacity_le := by omega
        videoReservedSlots_le := by omega }
    else none

theorem Account.configure_eq_some {a a' : Account} {c : AccountConfig}
    (h : a.configure c = some a') : a'.id = a.id ∧
      (a'.imageConcurrency : ℤ) = c.imageConcurrency ∧ (a'.queueCapacity : ℤ) = c.queueCapacity := by
  unfold Account.configure at h
  split at h
  · cases h
  · split_ifs at h with hchecks
    cases h
    refine ⟨rfl, ?_, ?_⟩
    · exact Int.toNat_of_nonneg hchecks.1.le
    · exact Int.toNat_of_nonneg (by omega)

/-- The CHECK constraints of the row. -/
theorem Account.configure_isSome {a : Account} {c : AccountConfig} :
    (a.configure c).isSome = true ↔ (RoutingRole.ofText c.routingRole).isSome = true ∧
      0 < c.imageConcurrency ∧ 1 ≤ c.queueCapacity ∧ c.queueCapacity ≤ 1000 ∧
      0 ≤ c.protectedTokens ∧ 0 ≤ c.videoReservedSlots ∧
      c.videoReservedSlots ≤ c.imageConcurrency := by
  unfold Account.configure
  cases RoutingRole.ofText c.routingRole with
  | none => simp
  | some role =>
    dsimp only
    split_ifs with hchecks
    · exact ⟨fun _ => ⟨rfl, hchecks⟩, fun _ => rfl⟩
    · exact ⟨fun h => absurd h Bool.false_ne_true, fun h => absurd h.2 hchecks⟩

theorem Account.configure_getD_id (a : Account) (c : AccountConfig) :
    ((a.configure c).getD a).id = a.id := by
  cases h : a.configure c with
  | none => rfl
  | some a' => exact (Account.configure_eq_some h).1

/-- The UPDATE of the account. -/
def Database.configure (db : Database) (id : UUID) (c : AccountConfig) : Database :=
  { db with
    accounts := db.accounts.modify id (fun a => (a.configure c).getD a)
      (key_of_account fun a => a.configure_getD_id c) }

/-- `UpdateAccountConfig`. -/
def updateAccountConfig (id : UUID) (patch : AccountConfigRequest) (db : Database) :
    Except AccountConfigError Database := do
  let a ← expect (db.accounts.get? id) .notFound
  let c := patch.over a
  let executing := activeTasks db id
  let queued := waitingTasks db id
  check (executing ≤ c.imageConcurrency && queued ≤ c.queueCapacity &&
      c.videoReservedSlots ≤ c.imageConcurrency)
    (.capacityInUse executing queued c.imageConcurrency c.queueCapacity)
  check (a.configure c).isSome .check
  return db.configure id c

structure CapacityRequest where
  maxExecuting : ℤ
  maxQueued : ℤ
  queueHighWatermark : ℤ
  queueResumeWatermark : ℤ
  queueTimeoutSeconds : ℤ
  maintenanceMode : Bool
  executionPaused : Bool
  deriving DecidableEq

namespace CapacityRequest

def validate (config : CapacityRequest) : Except String Unit := do
  check (1 ≤ config.maxExecuting && config.maxExecuting ≤ 10000)
    "max_executing must be between 1 and 10000"
  check (1 ≤ config.maxQueued && config.maxQueued ≤ 100000)
    "max_queued must be between 1 and 100000"
  check (1 ≤ config.queueHighWatermark && config.queueHighWatermark ≤ config.maxQueued)
    "queue_high_watermark must be between 1 and max_queued"
  check (0 ≤ config.queueResumeWatermark &&
      config.queueResumeWatermark < config.queueHighWatermark)
    "queue_resume_watermark must be lower than queue_high_watermark"
  check (60 ≤ config.queueTimeoutSeconds && config.queueTimeoutSeconds ≤ 86400)
    "queue_timeout_seconds must be between 60 and 86400"
  check (!config.executionPaused || config.maintenanceMode)
    "execution_paused requires maintenance_mode"

/-- What `validate` accepts. -/
structure Valid (config : CapacityRequest) : Prop where
  maxExecuting : 1 ≤ config.maxExecuting ∧ config.maxExecuting ≤ 10000
  maxQueued : 1 ≤ config.maxQueued ∧ config.maxQueued ≤ 100000
  queueHighWatermark : 1 ≤ config.queueHighWatermark ∧ config.queueHighWatermark ≤ config.maxQueued
  queueResumeWatermark : 0 ≤ config.queueResumeWatermark ∧
    config.queueResumeWatermark < config.queueHighWatermark
  queueTimeoutSeconds : 60 ≤ config.queueTimeoutSeconds ∧ config.queueTimeoutSeconds ≤ 86400
  executionPaused : config.executionPaused = true → config.maintenanceMode = true

theorem valid_of_validate {config : CapacityRequest} {u : Unit} (h : config.validate = .ok u) :
    config.Valid := by
  simp only [validate, check_bind_eq_ok, check_eq_ok, Bool.and_eq_true, decide_eq_true_eq,
    Bool.or_eq_true, Bool.not_eq_true'] at h
  obtain ⟨hexecuting, hqueued, hhigh, hresume, htimeout, hpaused⟩ := h
  refine ⟨hexecuting, hqueued, hhigh, hresume, htimeout, fun hpause => ?_⟩
  exact hpaused.resolve_left (by simp [hpause])

/-- The row that the UPDATE writes. -/
def config (next : CapacityRequest) (h : next.Valid) (overloaded : Bool) : SystemCapacityConfig where
  maxExecuting := next.maxExecuting.toNat
  maxQueued := next.maxQueued.toNat
  queueHighWatermark := next.queueHighWatermark.toNat
  queueResumeWatermark := next.queueResumeWatermark.toNat
  queueTimeoutSeconds := next.queueTimeoutSeconds.toNat
  maintenanceMode := next.maintenanceMode
  executionPaused := next.executionPaused
  overloadActive := overloaded
  maxExecuting_bounds := by have := h.maxExecuting; omega
  maxQueued_bounds := by have := h.maxQueued; omega
  queueHighWatermark_bounds := by have := h.queueHighWatermark; omega
  queueResumeWatermark_lt := by have := h.queueResumeWatermark; omega
  queueTimeoutSeconds_bounds := by have := h.queueTimeoutSeconds; omega
  executionPaused_maintenance := h.executionPaused

end CapacityRequest

/-- `UpdateSystemCapacity`. -/
def updateSystemCapacity (next : CapacityRequest) (db : Database) : Except String Database :=
  match h : next.validate with
  | .error err => .error err
  | .ok _ =>
    let queued : ℤ := queuedTasks db
    let overloaded :=
      if queued ≤ next.queueResumeWatermark then false
      else if next.queueHighWatermark ≤ queued then true
      else db.capacity.overloadActive
    .ok { db with capacity := next.config (CapacityRequest.valid_of_validate h) overloaded }

/-! ### What an account has taken on -/

/-- The tasks of the account that run or wait. -/
def openTasks (db : Database) (account : UUID) : ℕ :=
  db.reservations.count fun r => r.holds account && (db.tasks.get? r.taskID).any Task.isOpen

def countOpen (t : Option Task) (_ : ℕ) : ℕ := if t.any Task.isOpen then 1 else 0

theorem openTasks_eq (db : Database) (account : UUID) :
    openTasks db account = db.share account countOpen := by
  rw [openTasks, Table.count_eq_total, Database.share]
  congr
  funext r
  cases r.holds account <;> simp [countOpen]

theorem countOpen_le_one (t : Option Task) (estimate : ℕ) : countOpen t estimate ≤ 1 := by
  unfold countOpen
  split <;> omega

/-- A task that is open runs or waits. -/
theorem openTasks_split (db : Database) (account : UUID) :
    openTasks db account = activeTasks db account + waitingTasks db account := by
  have hsplit : openTasks db account = db.reservations.total fun r =>
      (if (r.holds account && (db.tasks.get? r.taskID).any fun t => t.status.executing) = true
        then 1 else 0) +
      if (r.holds account && (db.tasks.get? r.taskID).any fun t => decide (t.status = .queued)) = true
        then 1 else 0 := by
    rw [openTasks, Table.count_eq_total]
    congr
    funext r
    cases r.holds account with
    | false => rfl
    | true =>
      cases db.tasks.get? r.taskID with
      | none => rfl
      | some t => cases hstatus : t.status <;> simp [Task.isOpen, hstatus, TaskStatus.executing,
          TaskStatus.terminal]
  rw [hsplit, activeTasks, waitingTasks, Table.count_eq_total, Table.count_eq_total]
  simp only [Table.total, List.sum_map_add]

theorem openTasks_le_count (db : Database) (account : UUID) :
    openTasks db account ≤ reservationCount db account := by
  rw [openTasks, reservationCount, Table.count, Table.count]
  apply List.countP_mono_left
  intro r _ hr
  exact ((Bool.and_eq_true _ _).mp hr).1

/-- Outside admission and claim no task of an account opens. -/
theorem Steps.open_le {now : Time} {call : Call} {c c' : Cell} {account : UUID}
    (h : Steps now call c c') (hcall : call.session = false) :
    c'.share account countOpen ≤ c.share account countOpen := by
  induction h with
  | refl => exact le_rfl
  | tail _ hstep ih =>
    refine (hstep.share_le hcall fun t t' ht ht' estimate => ?_).trans ih
    rcases hstep.origin ht' with ⟨hadmission, -⟩ | ⟨t₀, ht₀, -, hend⟩
    · rw [hadmission] at hcall
      cases hcall
    obtain rfl : t = t₀ := Option.some.inj (ht.symm.trans ht₀)
    cases hterminal : t.status.terminal with
    | true => simp [countOpen, Task.isOpen, hterminal, hend hterminal]
    | false =>
      refine (countOpen_le_one _ _).trans ?_
      simp [countOpen, Task.isOpen, hterminal]

theorem Lives.openTasks_le {now : Time} {call : Call} {db db' : Database}
    (h : Lives now call db db') (hcall : call.session = false) (account : UUID) :
    openTasks db' account ≤ openTasks db account := by
  rw [openTasks_eq, openTasks_eq]
  exact share_le_share fun k => (h k).open_le hcall

/-- The writes of a phase open one task on one account at most. -/
theorem Phase.Wrote.open_le {ph : Phase} {db v : Database} {id : UUID}
    (hw : ph.Wrote (db.cell id) (v.cell id)) (hopen : ∀ task, ph.task? = some task → task.isOpen = true)
    (account : UUID) :
    (v.cell id).share account countOpen ≤
      (db.cell id).share account countOpen + added account (fun _ => 1) ph.reserves := by
  have hone (c : Cell) (hold : Option (UUID × ℕ)) (hsame : c.stake = hold) :
      c.share account countOpen ≤ added account (fun _ => 1) hold := by
    rw [Cell.share_eq, hsame]
    cases hold with
    | none => exact le_rfl
    | some s =>
      simp only [stakeShare, added, Option.elim_some]
      split
      · exact countOpen_le_one _ _
      · exact le_rfl
  have hkept {task : Task} (ht : (db.cell id).task = some task) (htask : task.isOpen = true)
      (hstake : (v.cell id).stake = (db.cell id).stake) :
      (v.cell id).share account countOpen ≤ (db.cell id).share account countOpen := by
    rw [Cell.share_eq (db.cell id), ht, ← hstake]
    refine (hone _ _ rfl).trans (le_of_eq ?_)
    cases (v.cell id).stake with
    | none => rfl
    | some s => simp [stakeShare, added, countOpen, htask]
  have hmoved {target : UUID} {q : RoutingQuery}
      (hstake : (v.cell id).stake = (db.cell id).stake.map fun s => (target, s.2)) :
      (v.cell id).share account countOpen ≤
        (db.cell id).share account countOpen +
          added account (fun _ => 1) (some (target, q.estimatedTokens)) := by
    refine (hone _ _ rfl).trans ?_
    rw [hstake]
    cases (db.cell id).stake with
    | none => exact Nat.zero_le _
    | some s => exact Nat.le_add_left _ _
  cases ph with
  | start | candidate | counted | limited => exact (Cell.Alike.share hw _ _).le
  | locked | estimated | loaded | target => exact (hw.1.share _ _).le
  | moved task q accountID => exact hmoved hw.2.2.2
  | reloaded task q accountID state => exact hmoved hw.2.2.2
  | movedLeased task q accountID => exact hmoved hw.2
  | failing task =>
    obtain ⟨htask, -, -, hstake | hstake⟩ := hw
    · exact hkept htask (hopen task rfl) hstake
    · exact (hone _ _ hstake).trans (Nat.zero_le _)
  | resumed task => exact hkept hw.1 (hopen task rfl) hw.2
  | leased task accountID => exact hkept hw.1 (hopen task rfl) hw.2
  | inserting q accountID =>
    have hnone : (db.cell id).stake = none := by
      cases hs : (db.cell id).stake with
      | none => rfl
      | some s =>
        obtain ⟨t, ht, -, -⟩ := Database.stake_identity hs
        rw [hw.1] at ht
        cases ht
    exact (hone _ _ (hw.2.1.trans hnone)).trans (Nat.zero_le _)
  | admitted q accountID => exact (hone _ _ hw.2.2.1).trans (Nat.le_add_left _ _)

/-! ### A transaction alone -/

/-- A slot of the account is free. -/
def Database.SlotFree (db : Database) (id : UUID) : Prop :=
  ∀ a, db.accounts.get? id = some a → activeTasks db id < a.imageConcurrency

/-- The account can take one more reservation. -/
def Database.PlaceFree (db : Database) (id : UUID) : Prop :=
  ∀ a, db.accounts.get? id = some a → reservationCount db id < a.imageConcurrency + a.queueCapacity

/-- What a claim or an admission has found out about its account, by the rows it began with. -/
def PlaceFacts (db : Database) : Phase → Prop
  | .loaded _ id state => state.slotFree → db.SlotFree id
  | .target _ _ id | .moved _ _ id | .inserting _ id | .admitted _ id => db.PlaceFree id
  | .reloaded _ _ id state => db.PlaceFree id ∧ (state.slotFree → db.SlotFree id)
  | .leased _ id => db.SlotFree id
  | .movedLeased _ _ id => db.PlaceFree id ∧ db.SlotFree id
  | .counted _ id count _ => count = reservationCount db id
  | .limited _ id count _ limits => count = reservationCount db id ∧
    (db.accounts.get? id).map Account.limits = some limits
  | _ => True

theorem Account.capacity_le (a : Account) (kind : Kind) :
    a.capacity kind ≤ a.imageConcurrency + a.queueCapacity := by
  unfold Account.capacity
  split <;> omega

theorem Account.count_of_accepts {policy : SchedulingPolicy} {snapshot : Database} {a : Account}
    {provider : ProviderID} {kind : Kind} {estimatedTokens : ℕ} {now : Time}
    (h : a.accepts policy snapshot provider kind estimatedTokens now = true) :
    (reservationCount snapshot a.id : ℤ) < a.capacity kind := by
  simp only [Account.accepts, Bool.and_eq_true, decide_eq_true_eq] at h
  exact h.1.2

theorem AccountLimits.place_of_admits {a : Account} {limits : AccountLimits} {kind : Kind}
    {estimatedTokens count held : ℕ} (hlimits : a.limits = limits)
    (h : limits.admits kind estimatedTokens count held = true) :
    count < a.imageConcurrency + a.queueCapacity := by
  subst hlimits
  simp only [AccountLimits.admits, Bool.and_eq_true, decide_eq_true_eq] at h
  have hcount := h.1
  by_cases hreserved : kind ≠ .video ∧ a.limits.routingRole = .videoReserved
  · rw [if_pos hreserved] at hcount
    change (count : ℤ) < a.imageConcurrency + a.queueCapacity - a.videoReservedSlots at hcount
    omega
  · rw [if_neg hreserved] at hcount
    change (count : ℤ) < a.imageConcurrency + a.queueCapacity at hcount
    omega

section Alone

variable {id : UUID} {env : Env} {db v w : Database} {ph : Phase} {op : Statement} {r : op.Res}

theorem AloneFacts.share_eq (h : AloneFacts id db ph v)
    (halike : Cell.Alike (db.cell id) (v.cell id)) (account : UUID) (g : Option Task → ℕ → ℕ) :
    v.share account g = db.share account g := by
  apply share_congr
  intro k
  by_cases hk : k = id
  · rw [hk]
    exact halike.share _ _
  · exact (h.frame.others k hk).share _ _

/-- A queued task does not count as executing. -/
theorem AloneFacts.activeTasks_le (h : AloneFacts id db ph v) {task : Task}
    (ht : (db.cell id).task = some task) (hq : task.status = .queued) (account : UUID) :
    activeTasks db account ≤ activeTasks v account := by
  rw [activeTasks_eq, activeTasks_eq]
  apply share_le_share
  intro k
  by_cases hk : k = id
  · rw [hk, Cell.share_eq, ht, stakeShare_of_not_executing]
    · exact Nat.zero_le _
    · rintro _ ⟨rfl⟩
      rw [hq]
      rfl
  · exact ((h.frame.others k hk).share _ _).ge

/-- What a statement tells about the limits of an account. -/
theorem AloneFacts.next_place (h : AloneFacts id db ph v) (hplace : PlaceFacts db ph)
    (hallows : ph.allows id op) (hrun : op.run env v = .ok (r, w)) :
    PlaceFacts db (ph.next op r) := by
  by_cases hneutral : op.neutral = true
  · rw [Statement.next_of_neutral hneutral]
    exact hplace
  have hwrote := h.wrote
  cases op with
  | lockTask k =>
    obtain ⟨rfl, -⟩ := hallows
    cases r <;> trivial
  | readEstimatedTokens k =>
    obtain ⟨task, rfl, -⟩ := hallows
    trivial
  | loadClaimAccount accountID lock =>
    obtain rfl := Statement.run_shared rfl hrun
    have hstate : ∃ a, db.accounts.get? accountID = some a ∧
        r = ⟨a, usage w accountID⟩ := by
      have hanswer : answer (fun db => required ((db.accounts.get? accountID).map fun a =>
        ClaimAccountState.mk a (usage w accountID))) w = .ok (r, w) := hrun
      obtain ⟨a, ha, hr⟩ := Option.map_eq_some_iff.mp (required_ok (answer_ok hanswer).1)
      rw [h.frame.accounts] at ha
      exact ⟨a, ha, hr.symm⟩
    obtain ⟨a, ha, rfl⟩ := hstate
    have hfree (hle : activeTasks db accountID ≤ activeTasks w accountID)
        (hslot : ClaimAccountState.slotFree ⟨a, usage w accountID⟩) : db.SlotFree accountID := by
      intro a' ha'
      obtain rfl : a = a' := Option.some.inj (ha.symm.trans ha')
      exact hle.trans_lt hslot
    obtain ⟨task, estimatedTokens, rfl, -⟩ | ⟨task, q, rfl, rfl⟩ := hallows
    · cases lock
      · trivial
      · refine hfree (le_of_eq ?_)
        rw [activeTasks_eq, activeTasks_eq, h.share_eq hwrote.1]
    · exact ⟨hplace, hfree (h.activeTasks_le hwrote.1 hwrote.2.2.1 accountID)⟩
  | chooseTarget q old =>
    obtain ⟨task, rfl, hkind⟩ := hallows
    obtain rfl := Statement.run_shared rfl hrun
    cases r with
    | none => trivial
    | some target =>
      have hanswer : answer (fun db => .ok (q.target old env w db)) w = .ok (some target, w) := hrun
      obtain ⟨a, ha, haccepts, -⟩ := chooseAccount_spec (Except.ok.inj (answer_ok hanswer).1)
      rw [Bool.and_eq_true, Bool.and_eq_true] at haccepts
      have hid : a.id = target := Table.key_of_get? ha
      have hcount := Account.count_of_accepts haccepts.1.1
      have hcapacity := a.capacity_le q.kind
      rw [hid, reservationCount_eq, h.share_eq hwrote.1, ← reservationCount_eq] at hcount
      intro a' ha'
      rw [h.frame.accounts] at ha
      obtain rfl : a = a' := Option.some.inj (ha.symm.trans ha')
      omega
  | moveReservation k target =>
    obtain ⟨task, q, rfl, rfl⟩ := hallows
    exact hplace
  | failUnpriced k =>
    obtain ⟨task, estimatedTokens, rfl, -⟩ := hallows
    trivial
  | releaseUnpriced k =>
    obtain ⟨task, rfl, -⟩ := hallows
    trivial
  | claimLease k leaseID expiresAt =>
    obtain ⟨task, rfl, -⟩ | ⟨task, accountID, state, rfl, -, -, hslot⟩ |
      ⟨task, q, accountID, state, rfl, -, hslot⟩ := hallows
    · trivial
    · exact hplace hslot
    · exact ⟨hplace.1, hplace.2 hslot⟩
  | chooseCandidate q excluded skipLocked =>
    obtain rfl := hallows
    cases r <;> trivial
  | reservedUsage accountID =>
    obtain ⟨q, rfl⟩ := hallows
    obtain rfl := Statement.run_shared rfl hrun
    have hanswer : answer (fun _ => .ok (reservationCount w accountID,
        heldTokens w accountID)) w = .ok (r, w) := hrun
    obtain rfl := Except.ok.inj (answer_ok hanswer).1
    change reservationCount w accountID = _
    rw [reservationCount_eq, h.share_eq hwrote, ← reservationCount_eq]
  | accountLimits accountID =>
    obtain ⟨q, count, held, rfl⟩ := hallows
    obtain rfl := Statement.run_shared rfl hrun
    have hanswer : answer (fun _ => required ((w.accounts.get? accountID).map Account.limits)) w =
      .ok (r, w) := hrun
    have hlimits := required_ok (answer_ok hanswer).1
    rw [h.frame.accounts] at hlimits
    exact ⟨hplace, hlimits⟩
  | savepoint =>
    obtain rfl := hallows
    trivial
  | rollbackToSavepoint => trivial
  | insertTask row =>
    obtain ⟨q, accountID, count, held, limits, rfl, hadmits, -⟩ := hallows
    obtain ⟨hcount, hlimits⟩ := hplace
    obtain ⟨a, ha, hlimits⟩ := Option.map_eq_some_iff.mp hlimits
    intro a' ha'
    obtain rfl : a = a' := Option.some.inj (ha.symm.trans ha')
    rw [← hcount]
    exact AccountLimits.place_of_admits hlimits hadmits
  | insertReservation r =>
    obtain ⟨q, accountID, rfl, -⟩ := hallows
    exact hplace
  | _ => exact absurd rfl hneutral

/-- What a transaction alone has found out, beside the rows. -/
structure SerialFacts (id : UUID) (db : Database) (ph : Phase) (x : Reads) (v : Database) :
    Prop where
  alone : AloneFacts id db ph v
  place : PlaceFacts db ph
  task : ph.task? = x.task
  status : ∀ task, x.task = some task → task.status = .queued ∨ task.status.executing = true
  leased : ph.leases = true → x.leased = true
  checked : x.leased = true → ∀ task, x.task = some task → task.status = .queued → x.SystemFree
  config : ∀ config, x.config = some config → config.maxExecuting = db.capacity.maxExecuting
  executing : ∀ n, x.executing = some n → otherExecuting db id ≤ n

theorem SerialFacts.start (id : UUID) (db : Database) : SerialFacts id db .start .start db where
  alone := .start id db
  place := trivial
  task := rfl
  status _ hx := absurd hx (Option.some_ne_none _).symm
  leased hph := absurd hph Bool.false_ne_true
  checked hx := absurd hx Bool.false_ne_true
  config _ hx := absurd hx (Option.some_ne_none _).symm
  executing _ hx := absurd hx (Option.some_ne_none _).symm

/-- A statement that the reads pass over. -/
theorem SerialFacts.next_unread {x : Reads} (h : SerialFacts id db ph x v)
    (hallows : ph.allows id op) (hrun : op.run env v = .ok (r, w)) (hlock : ∀ k, op ≠ .lockTask k)
    (hlease : ∀ k leaseID e, op ≠ .claimLease k leaseID e) :
    SerialFacts id db (ph.next op r) x w := by
  have hclaim := Phase.next_claim (r := r) hallows hlock hlease
  exact { h with
    alone := h.alone.next hallows hrun
    place := h.alone.next_place h.place hallows hrun
    task := hclaim.1.trans h.task
    leased := fun hph => h.leased (hclaim.2 hph) }

/-- The reads before a task is leased. -/
theorem SerialFacts.before {x : Reads} (h : SerialFacts id db ph x v) {x' : Reads}
    (htask : x'.task = x.task) (hleased : x.leased = false) (hleased' : x'.leased = x.leased)
    (hconfig : ∀ config, x'.config = some config →
      config.maxExecuting = db.capacity.maxExecuting)
    (hexecuting : ∀ n, x'.executing = some n → otherExecuting db id ≤ n) :
    SerialFacts id db ph x' v where
  alone := h.alone
  place := h.place
  task := h.task.trans htask.symm
  status := by
    rw [htask]
    exact h.status
  leased hph := by
    rw [hleased']
    exact h.leased hph
  checked hx := by
    rw [hleased', hleased] at hx
    cases hx
  config := hconfig
  executing := hexecuting

theorem SerialFacts.next {x : Reads} (h : SerialFacts id db ph x v) (hallows : ph.allows id op)
    (hreads : x.allows op) (hrun : op.run env v = .ok (r, w)) :
    SerialFacts id db (ph.next op r) (x.next op r) w := by
  have hframe := h.alone.frame
  by_cases hunread : op.unread = true
  · rw [Reads.next_of_unread hunread]
    apply h.next_unread hallows hrun
    · rintro k rfl
      cases hunread
    · rintro k leaseID e rfl
      cases hunread
  have hpassed (hlock : ∀ k, op ≠ .lockTask k) (hlease : ∀ k leaseID e, op ≠ .claimLease k leaseID e) :
      SerialFacts id db (ph.next op r) x w := h.next_unread hallows hrun hlock hlease
  cases op with
  | lockTask k =>
    have hanswer : answer (fun db => .ok (Task.lockedFor env.now v k db)) v = .ok (r, w) := hrun
    have hread := Except.ok.inj (answer_ok hanswer).1
    have hleased : x.leased = false := hreads
    have halone := h.alone.next hallows hrun
    have hplace := h.alone.next_place h.place hallows hrun
    obtain ⟨rfl, rfl⟩ := hallows
    cases r with
    | none => exact { h with alone := halone, place := hplace }
    | some task =>
      have hclaimable := (Option.filter_eq_some_iff.mp hread).2
      exact {
        alone := halone
        place := hplace
        task := rfl
        status := by
          rintro _ ⟨rfl⟩
          simp only [Bool.and_eq_true, Task.claimable, Bool.or_eq_true, decide_eq_true_eq]
            at hclaimable
          refine hclaimable.1.1.1.1.2.imp (fun h => h) fun hflight => ?_
          rcases (Task.inFlight_iff.mp hflight).1 with h | h <;> rw [h] <;> rfl
        leased := fun hph => absurd hph Bool.false_ne_true
        checked := fun hx => absurd (hleased.symm.trans hx) Bool.false_ne_true
        config := h.config
        executing := h.executing }
  | lockKeyConcurrency k =>
    exact (hpassed (by simp) (by simp)).before rfl hreads rfl h.config h.executing
  | lockUsableKey k =>
    exact (hpassed (by simp) (by simp)).before rfl hreads rfl h.config h.executing
  | keyActive k =>
    exact (hpassed (by simp) (by simp)).before rfl hreads.1 rfl h.config h.executing
  | keyNonTerminal k =>
    exact (hpassed (by simp) (by simp)).before rfl hreads.1 rfl h.config h.executing
  | lockCapacity =>
    have hanswer : answer (fun db => .ok db.capacity) v = .ok (r, w) := hrun
    obtain rfl := Except.ok.inj (answer_ok hanswer).1
    refine (hpassed (by simp) (by simp)).before rfl hreads rfl ?_ ?_
    · rintro _ ⟨rfl⟩
      exact hframe.maxExecuting
    · intro n hn
      cases hn
  | executing =>
    have hanswer : answer (fun _ => .ok (executingTasks v)) v = .ok (r, w) := hrun
    obtain rfl := Except.ok.inj (answer_ok hanswer).1
    refine (hpassed (by simp) (by simp)).before rfl hreads.1 rfl h.config ?_
    rintro _ ⟨rfl⟩
    rw [otherExecuting, ← hframe.besides]
    exact count_besides_le
  | rollbackToSavepoint =>
    refine (hpassed (by simp) (by simp)).before rfl hreads rfl ?_ ?_
    · intro config hx
      cases hx
    · intro n hn
      cases hn
  | claimLease k leaseID expiresAt =>
    obtain ⟨locked, hlocked, hchecked⟩ := hreads
    have htask : (ph.next (.claimLease k leaseID expiresAt) r).task? = ph.task? := by
      obtain ⟨task, rfl, -⟩ | ⟨task, accountID, state, rfl, -⟩ |
        ⟨task, q, accountID, state, rfl, -⟩ := hallows <;> rfl
    exact {
      alone := h.alone.next hallows hrun
      place := h.alone.next_place h.place hallows hrun
      task := htask.trans h.task
      status := h.status
      leased := fun _ => rfl
      checked := by
        intro _ task hx hq
        obtain rfl : locked = task := Option.some.inj (hlocked.symm.trans hx)
        exact (hchecked hq).2
      config := h.config
      executing := h.executing }
  | _ => exact absurd rfl hunread

/-- What a transaction knows at its end. -/
theorem Session.Disciplined.serial {α : Type} {p : Session (Ending α)} {e : Ending α}
    {Q : Ending α → Reads → Prop} (h : Session.Disciplined id p .start)
    (hreads : p.Obeys readsMonitor .start Q) (hrun : p.run env db = .ok (e, w)) :
    ∃ ph x, SerialFacts id db ph x w := by
  have hstep (s : Phase × Reads) (op : Statement) (v : Database) (r : op.Res) (v' : Database)
      (hallows : ((discipline id).both readsMonitor).allowed s op)
      (hop : aloneStep env op v r v') (hv : SerialFacts id db s.1 s.2 v) :
      SerialFacts id db (s.1.next op r) (s.2.next op r) v' := hv.next hallows.1 hallows.2 hop
  obtain ⟨s, -, hfacts⟩ := Prog.Obeys.runs (J := fun s v => SerialFacts id db s.1 s.2 v) hstep
    (Prog.Obeys.both h hreads) (Session.runs_alone hrun) (SerialFacts.start id db)
  exact ⟨s.1, s.2, hfacts⟩

/-! ### What a transaction leaves behind -/

theorem AloneFacts.share_le (h : AloneFacts id db ph v) {account : UUID} {g : Option Task → ℕ → ℕ}
    {grown : ℕ} (hown : (v.cell id).share account g ≤ (db.cell id).share account g + grown) :
    v.share account g ≤ db.share account g + grown := by
  have hmove : v.share account g + (db.cell id).share account g =
      db.share account g + (v.cell id).share account g := by
    apply share_add_share
    intro k hk
    exact (h.frame.others k hk).share _ _
  omega

/-- A commit starts the execution of its own task at most, and then after a count. -/
theorem SerialFacts.starts {x : Reads} (h : SerialFacts id db ph x v) {t' : Task}
    (ht' : (v.cell id).task = some t') (hexec : t'.status.executing = true) :
    ∃ t, (db.cell id).task = some t ∧ (t.status.executing = true ∨ x.SystemFree) := by
  have hw := h.alone.wrote
  have hqueued {t : Task} (ht : (v.cell id).task = some t) (hq : t.status = .queued) : False := by
    obtain rfl : t = t' := Option.some.inj (ht.symm.trans ht')
    rw [hq] at hexec
    cases hexec
  have hleased {task : Task} (htask : (db.cell id).task = some task) (hph : ph.task? = some task)
      (hleases : ph.leases = true) :
      ∃ t, (db.cell id).task = some t ∧ (t.status.executing = true ∨ x.SystemFree) := by
    have hx : x.task = some task := h.task.symm.trans hph
    refine ⟨task, htask, ?_⟩
    rcases h.status task hx with hq | hrunning
    · exact .inr (h.checked (h.leased hleases) task hx hq)
    · exact .inl hrunning
  cases ph with
  | start | candidate | counted | limited =>
    exact ⟨t', (Cell.Alike.task hw).symm.trans ht', .inl hexec⟩
  | locked | estimated | loaded | target => exact ⟨t', hw.1.task.symm.trans ht', .inl hexec⟩
  | moved task q accountID => exact (hqueued hw.2.1 hw.2.2.1).elim
  | reloaded task q accountID state => exact (hqueued hw.2.1 hw.2.2.1).elim
  | failing task =>
    obtain ⟨-, -, ⟨t, ht, hnot⟩, -⟩ := hw
    obtain rfl : t = t' := Option.some.inj (ht.symm.trans ht')
    exact absurd (hnot.symm.trans hexec) Bool.false_ne_true
  | resumed task => exact ⟨task, hw.1, .inl h.alone.known⟩
  | leased task accountID => exact hleased hw.1 rfl rfl
  | movedLeased task q accountID => exact hleased hw.1 rfl rfl
  | inserting q accountID =>
    obtain ⟨-, -, t, ht, hq⟩ := hw
    exact (hqueued ht hq).elim
  | admitted q accountID =>
    obtain ⟨-, -, -, t, ht, hq⟩ := hw
    exact (hqueued ht hq).elim

theorem SerialFacts.executingTasks_le {x : Reads} (h : SerialFacts id db ph x v) :
    executingTasks v ≤ max (executingTasks db) db.capacity.maxExecuting := by
  have hframe := h.alone.frame
  have hkept (hown : (v.cell id).counts Task.executes ≤ (db.cell id).counts Task.executes) :
      executingTasks v ≤ max (executingTasks db) db.capacity.maxExecuting :=
    (hframe.count_le hown).trans (Nat.le_max_left _ _)
  by_cases hany : (v.cell id).task.any Task.executes = true
  · obtain ⟨t', ht', hexec⟩ := (Option.any_eq_true _ _).mp hany
    obtain ⟨t, ht, hrunning | hfree⟩ := h.starts ht' hexec
    · apply hkept
      rw [Cell.counts, Cell.counts, if_pos hany, if_pos ((Option.any_eq_true _ _).mpr ⟨t, ht, hrunning⟩)]
    · obtain ⟨config, n, hconfig, hn, hlt⟩ := hfree
      have hmax := h.config config hconfig
      have hothers := h.executing n hn
      have hcount : executingTasks v ≤ v.tasks.count (Task.besides id Task.executes) + 1 :=
        count_le_besides
      rw [hframe.besides] at hcount
      unfold otherExecuting at hothers
      exact le_max_of_le_right (by omega)
  · apply hkept
    rw [Cell.counts, if_neg hany]
    exact Nat.zero_le _

/-- The account takes on more tasks than its slots only where it had a place. -/
theorem SerialFacts.within {x : Reads} (h : SerialFacts id db ph x v) {account : UUID} {a : Account}
    (ha : db.accounts.get? account = some a) :
    activeTasks v account ≤ max (activeTasks db account) a.imageConcurrency ∧
      openTasks v account ≤
        max (openTasks db account) (a.imageConcurrency + a.queueCapacity) := by
  have hwrote := h.alone.wrote
  have hplace := h.place
  have hopen (task : Task) (htask : ph.task? = some task) : task.isOpen = true := by
    rcases h.status task (h.task.symm.trans htask) with hq | hexec
    · simp [Task.isOpen, hq, TaskStatus.terminal]
    · cases hstatus : task.status <;> simp [hstatus, TaskStatus.executing] at hexec <;>
        simp [Task.isOpen, hstatus, TaskStatus.terminal]
  have hactive : activeTasks v account ≤
      activeTasks db account + if ph.executor = some account then 1 else 0 := by
    rw [activeTasks_eq, activeTasks_eq]
    exact h.alone.share_le (hwrote.executing_le h.alone.known account)
  have htaken : openTasks v account ≤
      openTasks db account + added account (fun _ => 1) ph.reserves := by
    rw [openTasks_eq, openTasks_eq]
    exact h.alone.share_le (hwrote.open_le hopen account)
  have hslot (hexec : ph.executor = some account) : db.SlotFree account := by
    cases ph with
    | leased task accountID =>
      cases hexec
      exact hplace
    | movedLeased task q accountID =>
      cases hexec
      exact hplace.2
    | _ => cases hexec
  have hroom {estimate : ℕ} (hres : ph.reserves = some (account, estimate)) :
      db.PlaceFree account := by
    cases ph with
    | moved | admitted =>
      cases hres
      exact hplace
    | reloaded | movedLeased =>
      cases hres
      exact hplace.1
    | _ => cases hres
  constructor
  · by_cases hexec : ph.executor = some account
    · have hfree := hslot hexec a ha
      rw [if_pos hexec] at hactive
      omega
    · rw [if_neg hexec] at hactive
      omega
  · by_cases hres : ∃ estimate, ph.reserves = some (account, estimate)
    · obtain ⟨estimate, hres⟩ := hres
      have hfree := hroom hres a ha
      have hle := openTasks_le_count db account
      have hone : added account (fun _ => 1) ph.reserves = 1 := by simp [added, hres]
      omega
    · have hnone : added account (fun _ => 1) ph.reserves = 0 := by
        cases hstake : ph.reserves with
        | none => rfl
        | some s =>
          have hother : s.1 ≠ account := by
            rintro rfl
            exact hres ⟨s.2, hstake⟩
          simp [added, hother]
      omega

end Alone

/-! ### Runs -/

/-- An operation changes nothing, or it is a transaction that counts, or one that takes on
nothing. -/
theorem Operation.apply_cases (env : Env) (op : Operation) (db : Database) :
    op.apply env db = db ∨ (∃ id ph x, SerialFacts id db ph x (op.apply env db)) ∨
      (op.atomic = true ∧ op.Commits env db (op.apply env db)) := by
  cases op with
  | admission sha256 policy req =>
    rcases transaction_commits ((createReservedTaskForProviderOnce sha256 policy req).run env) db with
      hkept | ⟨r, hrun⟩
    · exact .inl hkept
    · exact .inr (.inl ⟨req.id, (createReservedTaskForProviderOnce_disciplined sha256 policy req).serial
        (createReservedTaskForProviderOnce_reads sha256 policy req) hrun⟩)
  | claim policy id leaseID lease =>
    rcases transaction_commits ((claimTaskOnce policy id leaseID lease).run env) db with
      hkept | ⟨r, hrun⟩
    · exact .inl hkept
    · exact .inr (.inl ⟨id, (claimTaskOnce_disciplined policy id leaseID lease).serial
        (claimTaskOnce_reads policy id leaseID lease) hrun⟩)
  | administer => exact .inl rfl
  | _ => exact (Operation.apply_commits env _ db).imp_right fun hcommits => .inr ⟨rfl, hcommits⟩

/-- The limits of the accounts, and what they rest on. -/
structure Database.Bounded (db : Database) : Prop where
  attended : ∀ k, (db.cell k).Attended
  executing : ∀ id a, db.accounts.get? id = some a → activeTasks db id ≤ a.imageConcurrency
  taken : ∀ id a, db.accounts.get? id = some a →
    openTasks db id ≤ a.imageConcurrency + a.queueCapacity

theorem Operation.bounded (env : Env) (op : Operation) {db : Database} (h : db.Bounded) :
    (op.apply env db).Bounded := by
  have hattended (k : UUID) : ((op.apply env db).cell k).Attended := by
    rcases op.apply_commits env db with hsame | hcommits
    · rw [hsame]
      exact h.attended k
    · exact (hcommits.lives k).invariant (fun _ _ => Transition.attended) (h.attended k)
  rcases op.apply_cases env db with hsame | ⟨id, ph, x, hfacts⟩ | ⟨hatomic, hcommits⟩
  · rwa [hsame]
  · refine ⟨hattended, ?_, ?_⟩
    · intro account a ha
      rw [hfacts.alone.frame.accounts] at ha
      exact (hfacts.within ha).1.trans (max_le (h.executing account a ha) le_rfl)
    · intro account a ha
      rw [hfacts.alone.frame.accounts] at ha
      exact (hfacts.within ha).2.trans (max_le (h.taken account a ha) le_rfl)
  · have hsession := op.session_of_atomic hatomic
    refine ⟨hattended, ?_, ?_⟩
    · intro account a' ha'
      obtain ⟨a, ha, heases⟩ := (hcommits.eases hatomic).2.2 account a' ha'
      rw [heases.imageConcurrency]
      exact (hcommits.lives.activeTasks_le hsession h.attended account).trans (h.executing account a ha)
    · intro account a' ha'
      obtain ⟨a, ha, heases⟩ := (hcommits.eases hatomic).2.2 account a' ha'
      rw [heases.imageConcurrency, heases.queueCapacity]
      exact (hcommits.lives.openTasks_le hsession account).trans (h.taken account a ha)

theorem Operation.executingTasks_le (env : Env) (op : Operation) {db : Database}
    (h : ∀ k, (db.cell k).Attended) :
    executingTasks (op.apply env db) ≤ max (executingTasks db) db.capacity.maxExecuting := by
  rcases op.apply_cases env db with hsame | ⟨id, ph, x, hfacts⟩ | ⟨hatomic, hcommits⟩
  · rw [hsame]
    exact Nat.le_max_left _ _
  · exact hfacts.executingTasks_le
  · have hle : executingTasks (op.apply env db) ≤ executingTasks db :=
      hcommits.lives.count_le (op.session_of_atomic hatomic) h Task.executes_fades
    exact hle.trans (Nat.le_max_left _ _)

/-- The update sees the tasks that the account has. -/
theorem updateAccountConfig_ok {id : UUID} {patch : AccountConfigRequest} {db db' : Database}
    (h : updateAccountConfig id patch db = .ok db') : ∃ a a', db.accounts.get? id = some a ∧
      a.configure (patch.over a) = some a' ∧ activeTasks db id ≤ a'.imageConcurrency ∧
      waitingTasks db id ≤ a'.queueCapacity ∧
      db' = db.configure id (patch.over a) := by
  obtain ⟨a, ha, hrest⟩ := expect_bind_eq_ok.mp h
  simp only [check_bind_eq_ok, Bool.and_eq_true, decide_eq_true_eq] at hrest
  obtain ⟨⟨⟨hexecuting, hqueued⟩, -⟩, hsome, hdb'⟩ := hrest
  obtain ⟨a', ha'⟩ := Option.isSome_iff_exists.mp hsome
  obtain ⟨-, hconcurrency, hcapacity⟩ := Account.configure_eq_some ha'
  refine ⟨a, a', ha, ha', ?_, ?_, ?_⟩
  · omega
  · omega
  · exact (Except.ok.inj hdb').symm

theorem updateAccountConfig_bounded {id : UUID} {patch : AccountConfigRequest} {db db' : Database}
    (h : updateAccountConfig id patch db = .ok db') (hdb : db.Bounded) : db'.Bounded := by
  obtain ⟨a, a', ha, ha', hexecuting, hwaiting, rfl⟩ := updateAccountConfig_ok h
  have hupdated {account : UUID} {b : Account}
      (hb : (db.configure id (patch.over a)).accounts.get? account = some b) :
      account = id ∧ b = a' ∨ db.accounts.get? account = some b := by
    rw [Database.configure, Table.get?_modify] at hb
    split_ifs at hb with haccount
    · rw [haccount, ha, Option.map_some, ha', Option.getD_some] at hb
      exact .inl ⟨haccount, (Option.some.inj hb).symm⟩
    · exact .inr hb
  refine ⟨hdb.attended, ?_, ?_⟩
  · intro account b hb
    rcases hupdated hb with ⟨rfl, rfl⟩ | hold
    · exact hexecuting
    · exact hdb.executing account b hold
  · intro account b hb
    rcases hupdated hb with ⟨rfl, rfl⟩ | hold
    · have hsplit := openTasks_split db account
      change openTasks db account ≤ _
      omega
    · exact hdb.taken account b hold

theorem updateSystemCapacity_ok {next : CapacityRequest} {db db' : Database}
    (h : updateSystemCapacity next db = .ok db') :
    ∃ capacity, db' = { db with capacity := capacity } := by
  unfold updateSystemCapacity at h
  split at h
  · cases h
  · exact ⟨_, (Except.ok.inj h).symm⟩

/-- What changes the store: an operation, or an update of the limits, which may be refused. -/
inductive ConfigEvent
  | operation (e : Event)
  | accountConfig (id : UUID) (patch : AccountConfigRequest)
  | systemCapacity (next : CapacityRequest)

def ConfigEvent.apply : ConfigEvent → Database → Database
  | operation e, db => e.op.apply e.env db
  | accountConfig id patch, db => (updateAccountConfig id patch db).toOption.getD db
  | systemCapacity next, db => (updateSystemCapacity next db).toOption.getD db

/-- Operations and updates one after the other. -/
def configured : LTS Database ConfigEvent := ⟨fun db e db' => db' = e.apply db⟩

theorem ConfigEvent.bounded (e : ConfigEvent) {db : Database} (h : db.Bounded) :
    (e.apply db).Bounded := by
  cases e with
  | operation e => exact e.op.bounded e.env h
  | accountConfig id patch =>
    rw [ConfigEvent.apply]
    cases hupdate : updateAccountConfig id patch db with
    | error err => exact h
    | ok db' => exact updateAccountConfig_bounded hupdate h
  | systemCapacity next =>
    rw [ConfigEvent.apply]
    cases hupdate : updateSystemCapacity next db with
    | error err => exact h
    | ok db' =>
      obtain ⟨capacity, rfl⟩ := updateSystemCapacity_ok hupdate
      exact ⟨h.attended, h.executing, h.taken⟩

theorem ConfigEvent.executingTasks_le (e : ConfigEvent) {db : Database} (h : db.Bounded) :
    executingTasks (e.apply db) ≤ max (executingTasks db) db.capacity.maxExecuting := by
  cases e with
  | operation e => exact e.op.executingTasks_le e.env h.attended
  | accountConfig id patch =>
    rw [ConfigEvent.apply]
    cases hupdate : updateAccountConfig id patch db with
    | error err => exact Nat.le_max_left _ _
    | ok db' =>
      obtain ⟨a, a', -, -, -, -, rfl⟩ := updateAccountConfig_ok hupdate
      exact Nat.le_max_left _ _
  | systemCapacity next =>
    rw [ConfigEvent.apply]
    cases hupdate : updateSystemCapacity next db with
    | error err => exact Nat.le_max_left _ _
    | ok db' =>
      obtain ⟨capacity, rfl⟩ := updateSystemCapacity_ok hupdate
      exact Nat.le_max_left _ _

section Reconfigured

variable {accounts : Table Account} {apiKeys : Table APIKey} {costRules : Table CostRule}
variable {capacity : SystemCapacityConfig} {db : Database}

theorem configured_bounded
    (h : configured.Reachable (StoreState.initial accounts apiKeys costRules capacity).db db) :
    db.Bounded := by
  refine h.invariant (I := Database.Bounded) ?_ ⟨?_, ?_, ?_⟩
  · rintro s e s' rfl hs
    exact e.bounded hs
  · intro k t ht
    cases ht
  · intro id a ha
    exact Nat.zero_le _
  · intro id a ha
    exact Nat.zero_le _

/-- Whatever limits the administrator sets meanwhile, no account runs more tasks than its
concurrency or takes on more than that and its queue, and no step lets the executing tasks grow
beyond the limit of the system that stands before it. -/
theorem reconfigured_within
    (h : configured.Reachable (StoreState.initial accounts apiKeys costRules capacity).db db) :
    (∀ a ∈ db.accounts.rows, activeTasks db a.id ≤ a.imageConcurrency ∧
      openTasks db a.id ≤ a.imageConcurrency + a.queueCapacity) ∧
    ∀ e db', configured.step db e db' →
      executingTasks db' ≤ max (executingTasks db) db.capacity.maxExecuting := by
  have hbounded := configured_bounded h
  constructor
  · intro a ha
    have hget := Table.get?_of_mem ha
    exact ⟨hbounded.executing a.id a hget, hbounded.taken a.id a hget⟩
  · rintro e _ rfl
    exact e.executingTasks_le hbounded

/-- A patch that leaves the limits alone is refused where more tasks wait than the queue holds,
which an admission allows as long as slots are free. -/
theorem updateAccountConfig_accepts_iff
    (h : configured.Reachable (StoreState.initial accounts apiKeys costRules capacity).db db)
    {a : Account} (ha : a ∈ db.accounts.rows) (patch : AccountConfigRequest)
    (hlimits : patch.imageConcurrency = none ∧ patch.queueCapacity = none ∧
      patch.videoReservedSlots = none)
    (htokens : ∀ n, patch.protectedTokens = some n → 0 ≤ n)
    (hrole : ∀ role, patch.routingRole = some role → (RoutingRole.ofText role).isSome = true) :
    (∃ db', updateAccountConfig a.id patch db = .ok db') ↔
      waitingTasks db a.id ≤ a.queueCapacity := by
  obtain ⟨hconcurrency, hqueue, hslots⟩ := hlimits
  have hget := Table.get?_of_mem ha
  have hexecuting := (configured_bounded h).executing a.id a hget
  have hreserved := a.videoReservedSlots_le
  have hpositive := a.imageConcurrency_pos
  have hcapacity := a.queueCapacity_pos
  have hcapacity' := a.queueCapacity_le
  have hover : (patch.over a).imageConcurrency = a.imageConcurrency ∧
      (patch.over a).queueCapacity = a.queueCapacity ∧
      (patch.over a).videoReservedSlots = a.videoReservedSlots := by
    simp [AccountConfigRequest.over, hconcurrency, hqueue, hslots]
  constructor
  · rintro ⟨db', hdb'⟩
    obtain ⟨a₀, a', ha₀, ha', -, hwaiting, -⟩ := updateAccountConfig_ok hdb'
    obtain rfl : a = a₀ := Option.some.inj (hget.symm.trans ha₀)
    have hkept := (Account.configure_eq_some ha').2.2
    rw [hover.2.1] at hkept
    omega
  · intro hwaiting
    have hrole' : (RoutingRole.ofText (patch.over a).routingRole).isSome = true := by
      cases hset : patch.routingRole with
      | none => simp [AccountConfigRequest.over, hset]
      | some role => simpa [AccountConfigRequest.over, hset] using hrole role hset
    have htokens' : 0 ≤ (patch.over a).protectedTokens := by
      cases hset : patch.protectedTokens with
      | none => simp [AccountConfigRequest.over, hset]
      | some n => simpa [AccountConfigRequest.over, hset] using htokens n hset
    have hconfigured : (a.configure (patch.over a)).isSome = true := by
      refine Account.configure_isSome.mpr ⟨hrole', ?_⟩
      omega
    refine ⟨db.configure a.id (patch.over a), ?_⟩
    refine expect_bind_eq_ok.mpr ⟨a, hget, ?_⟩
    refine check_bind_eq_ok.mpr ⟨?_, check_bind_eq_ok.mpr ⟨hconfigured, rfl⟩⟩
    simp only [hover, Bool.and_eq_true, decide_eq_true_eq]
    omega

end Reconfigured

theorem configured_reachable (db : Database) (es : List ConfigEvent) :
    configured.Reachable db (es.foldl (fun db e => e.apply db) db) := by
  refine ⟨es, ?_⟩
  induction es generalizing db with
  | nil => rfl
  | cons e es ih => exact ⟨e.apply db, rfl, ih _⟩

/-- One of two tasks runs; the administrator takes the second slot away, then lets the system run
two tasks only. -/
def slotTaken : List ConfigEvent :=
  [.operation (admitAt 0 (smallRequest 20 .image 5)),
    .operation (admitAt 1 (smallRequest 21 .image 5)), .operation (claimAt 2 20 900),
    .accountConfig 1 { imageConcurrency := some 1 },
    .systemCapacity ⟨2, 10, 3, 1, 3600, false, false⟩]

def slotTakenStore : Database :=
  slotTaken.foldl (fun db e => e.apply db) (smallStore smallAccounts).db

theorem reconfigured_within_slotTaken :
    (slotTakenStore.accounts.rows.map Account.imageConcurrency = [1] ∧
      slotTakenStore.capacity.maxExecuting = 2) ∧
    executingTasks ((ConfigEvent.operation (claimAt 3 21 901)).apply slotTakenStore) ≤
      max (executingTasks slotTakenStore) slotTakenStore.capacity.maxExecuting := by
  have hreach : configured.Reachable (smallStore smallAccounts).db slotTakenStore :=
    configured_reachable _ _
  have hstep : configured.step slotTakenStore (.operation (claimAt 3 21 901))
      ((ConfigEvent.operation (claimAt 3 21 901)).apply slotTakenStore) := rfl
  refine ⟨by decide +kernel, ?_⟩
  exact (reconfigured_within hreach).2 _ _ hstep

/-- The small account with a queue of one. -/
def shortQueue : Account :=
  { smallAccount with
    queueCapacity := 1
    queueCapacity_pos := Nat.one_pos
    queueCapacity_le := Nat.succ_le_succ (Nat.zero_le 999) }

/-- Two tasks wait, as both slots are free. -/
def bothWaiting : List ConfigEvent :=
  [.operation (admitAt 0 (smallRequest 20 .image 5)),
    .operation (admitAt 1 (smallRequest 21 .image 5))]

def bothWaitingStore : Database :=
  bothWaiting.foldl (fun db e => e.apply db) (smallStore ⟨[shortQueue], by decide⟩).db

theorem updateAccountConfig_accepts_iff_bothWaiting :
    waitingTasks bothWaitingStore 1 = 2 ∧
      ¬ ∃ db', updateAccountConfig 1 { proxyURL := some "http://10.0.0.1" } bothWaitingStore =
        .ok db' := by
  have hreach : configured.Reachable (smallStore ⟨[shortQueue], by decide⟩).db bothWaitingStore :=
    configured_reachable _ _
  have hmem : shortQueue ∈ bothWaitingStore.accounts.rows := by decide +kernel
  have hwaiting : waitingTasks bothWaitingStore 1 = 2 := by decide +kernel
  refine ⟨hwaiting, fun haccepted => ?_⟩
  have hle : waitingTasks bothWaitingStore 1 ≤ 1 :=
    (updateAccountConfig_accepts_iff hreach hmem { proxyURL := some "http://10.0.0.1" }
      ⟨rfl, rfl, rfl⟩ (by simp) (by simp)).mp haccepted
  omega

end GenerationGateway
