import GenerationGateway.Store.Accounts
import GenerationGateway.Store.Admitted
import GenerationGateway.Store.Headcount
import GenerationGateway.Store.Reads

/-!
# The limits of the system and of the API keys

A task starts to execute, or is admitted, after a count that its transaction made
in a fresh statement under the lock of the API key or of the capacity. As long as
the lock is held no other transaction adds to that count, so the limits hold in
every reachable state.
-/

namespace GenerationGateway

open Relational Effects Transitions

/-- The limits, for a server whose policy has this multiplier. -/
structure Database.WithinLimits (multiplier : ℕ) (db : Database) : Prop where
  system : executingTasks db ≤ db.capacity.maxExecuting
  executing : ∀ k ∈ db.apiKeys.rows, 0 < k.concurrencyLimit →
    (executingOfKey db k.id : ℤ) ≤ k.concurrencyLimit
  nonTerminal : ∀ k ∈ db.apiKeys.rows,
    (nonTerminalOfKey db k.id : ℤ) ≤ max 1 k.concurrencyLimit * (1 + multiplier)

/-- Admissions run under the policy of the server. -/
def Act.follows (multiplier : ℕ) : Act → Bool
  | .begin _ (.admission _ policy _) => decide (policy.apiKeyQueueMultiplier = multiplier)
  | _ => true

theorem keyConcurrency_eq (limit : ℤ) : keyConcurrency limit = max 1 limit := by
  unfold keyConcurrency
  split <;> omega

/-- The task that a claim has locked. -/
def Phase.task? : Phase → Option Task
  | .locked task | .estimated task _ | .loaded task _ _ | .target task _ _ | .moved task _ _
  | .reloaded task _ _ _ | .failing task | .resumed task | .leased task _
  | .movedLeased task _ _ => some task
  | _ => none

/-- The transaction has leased its task on an account. -/
def Phase.leases : Phase → Bool
  | .leased _ _ | .movedLeased _ _ _ => true
  | _ => false

/-- Only `lockTask` and `claimLease` change the task or the lease of a phase. -/
theorem Phase.next_claim {id : UUID} {ph : Phase} {op : Statement} {r : op.Res}
    (hallows : ph.allows id op) (hlock : ∀ k, op ≠ .lockTask k)
    (hlease : ∀ k leaseID e, op ≠ .claimLease k leaseID e) :
    (ph.next op r).task? = ph.task? ∧ ((ph.next op r).leases = true → ph.leases = true) := by
  by_cases hneutral : op.neutral = true
  · rw [Statement.next_of_neutral hneutral]
    exact ⟨rfl, fun h => h⟩
  cases op with
  | lockTask k => exact absurd rfl (hlock k)
  | readEstimatedTokens k =>
    obtain ⟨task, rfl, -⟩ := hallows
    exact ⟨rfl, nofun⟩
  | loadClaimAccount accountID lock =>
    obtain ⟨task, estimatedTokens, rfl, -⟩ | ⟨task, q, rfl, -⟩ := hallows
    · cases lock <;> exact ⟨rfl, nofun⟩
    · exact ⟨rfl, nofun⟩
  | chooseTarget q old =>
    obtain ⟨task, rfl, -⟩ := hallows
    cases r <;> exact ⟨rfl, nofun⟩
  | moveReservation k target =>
    obtain ⟨task, q, rfl, -⟩ := hallows
    exact ⟨rfl, nofun⟩
  | failUnpriced k =>
    obtain ⟨task, estimatedTokens, rfl, -⟩ := hallows
    exact ⟨rfl, nofun⟩
  | releaseUnpriced k => exact ⟨rfl, fun h => h⟩
  | claimLease k leaseID expiresAt => exact absurd rfl (hlease k leaseID expiresAt)
  | chooseCandidate q excluded skipLocked =>
    obtain rfl := hallows
    cases r <;> exact ⟨rfl, nofun⟩
  | reservedUsage accountID =>
    obtain ⟨q, rfl⟩ := hallows
    exact ⟨rfl, nofun⟩
  | accountLimits accountID =>
    obtain ⟨q, reservationCount, reserved, rfl⟩ := hallows
    exact ⟨rfl, nofun⟩
  | savepoint => exact ⟨rfl, fun h => h⟩
  | rollbackToSavepoint =>
    obtain ⟨q, accountID, reservationCount, reserved, limits, rfl⟩ := hallows
    exact ⟨rfl, nofun⟩
  | insertTask row =>
    obtain ⟨q, accountID, reservationCount, reserved, limits, rfl, -⟩ := hallows
    exact ⟨rfl, nofun⟩
  | insertReservation r =>
    obtain ⟨q, accountID, rfl, -⟩ := hallows
    exact ⟨rfl, nofun⟩
  | _ => exact absurd rfl hneutral

/-- The tasks of a key that execute, and those that have not ended, but for one task. -/
def otherExecuting (db : Database) (own : UUID) : ℕ := db.tasks.count (Task.besides own Task.executes)

def otherExecutingOfKey (db : Database) (own key : UUID) : ℕ :=
  db.tasks.count (Task.besides own (Task.ofKey key Task.executes))

def otherNonTerminalOfKey (db : Database) (own key : UUID) : ℕ :=
  db.tasks.count (Task.besides own (Task.ofKey key Task.isOpen))

/-- What a transaction relies on: the limits it read are those of the rows while it
holds their locks, and its counts cover the tasks of all other transactions. -/
structure LimitFacts (multiplier : ℕ) (job : Job) (db : Database) (locks : List Lock) (ph : Phase)
    (x : Reads) : Prop where
  policy : ∀ sha256 policy req, job = .admission sha256 policy req →
    policy.apiKeyQueueMultiplier = multiplier
  task : ph.task? = x.task
  status : ∀ task, x.task = some task → task.status = .queued ∨ task.status.executing = true
  leased : ph.leases = true → x.leased = true
  checked : x.leased = true → ∀ task, x.task = some task → task.status = .queued →
    x.KeyFree task.apiKeyID ∧ x.SystemFree
  key : ∀ k limit, x.key = some (k, limit) → .key k ∈ locks ∧
    ∀ row, db.apiKeys.get? k = some row → row.concurrencyLimit = limit
  active : ∀ k limit n, x.key = some (k, limit) → x.active = some n →
    otherExecutingOfKey db job.taskID k ≤ n
  nonTerminal : ∀ k limit n, x.key = some (k, limit) → x.nonTerminal = some n →
    otherNonTerminalOfKey db job.taskID k ≤ n
  config : ∀ config, x.config = some config → .capacity ∈ locks ∧
    config.maxExecuting = db.capacity.maxExecuting
  executing : ∀ n, x.executing = some n → x.config ≠ none ∧ otherExecuting db job.taskID ≤ n

/-- The facts survive where the configuration stays and no count under a lock grows. -/
theorem LimitFacts.mono_rows {multiplier : ℕ} {job : Job} {db v : Database} {locks : List Lock}
    {ph : Phase} {x : Reads} (h : LimitFacts multiplier job db locks ph x)
    (hkeys : v.apiKeys = db.apiKeys)
    (hcapacity : v.capacity.maxExecuting = db.capacity.maxExecuting)
    (hkey : ∀ k, .key k ∈ locks →
      otherExecutingOfKey v job.taskID k ≤ otherExecutingOfKey db job.taskID k ∧
        otherNonTerminalOfKey v job.taskID k ≤ otherNonTerminalOfKey db job.taskID k)
    (hsystem : .capacity ∈ locks → otherExecuting v job.taskID ≤ otherExecuting db job.taskID) :
    LimitFacts multiplier job v locks ph x where
  policy := h.policy
  task := h.task
  status := h.status
  leased := h.leased
  checked := h.checked
  key k limit hx := by
    rw [hkeys]
    exact h.key k limit hx
  active k limit n hx hn := (hkey k (h.key k limit hx).1).1.trans (h.active k limit n hx hn)
  nonTerminal k limit n hx hn :=
    (hkey k (h.key k limit hx).1).2.trans (h.nonTerminal k limit n hx hn)
  config config hx := by
    rw [hcapacity]
    exact h.config config hx
  executing n hn := by
    obtain ⟨hconfig, hle⟩ := h.executing n hn
    obtain ⟨config, hx⟩ := Option.ne_none_iff_exists'.mp hconfig
    exact ⟨hconfig, (hsystem (h.config config hx).1).trans hle⟩

/-- The invariant of the committed rows. -/
structure Database.Limited (multiplier : ℕ) (db : Database) : Prop where
  attended : ∀ k, (db.cell k).Attended
  system : executingTasks db ≤ db.capacity.maxExecuting
  executing : ∀ k row, db.apiKeys.get? k = some row → 0 < row.concurrencyLimit →
    (executingOfKey db k : ℤ) ≤ row.concurrencyLimit
  nonTerminal : ∀ k row, db.apiKeys.get? k = some row →
    (nonTerminalOfKey db k : ℤ) ≤ keyConcurrency row.concurrencyLimit * (1 + multiplier)

section Answers

variable {m : Machine} {i : ℕ} {skip : List UUID} {th : Thread} {snapshot view : Database}

theorem lockKeyConcurrency_answers {id : UUID} {limit : ℤ}
    (h : m.Answers i skip th (.lockKeyConcurrency id) snapshot view limit) :
    ∃ row, view.apiKeys.get? id = some row ∧ row.concurrencyLimit = limit := by
  obtain ⟨w, hexec⟩ := h.executed
  have hanswer : answer (fun db => required ((db.apiKeys.get? id).map APIKey.concurrencyLimit))
      view = .ok (limit, w) := hexec
  exact Option.map_eq_some_iff.mp (required_ok (answer_ok hanswer).1)

theorem lockUsableKey_answers {id : UUID} {limit : ℤ}
    (h : m.Answers i skip th (.lockUsableKey id) snapshot view limit) :
    ∃ row, view.apiKeys.get? id = some row ∧ row.concurrencyLimit = limit := by
  obtain ⟨w, hexec⟩ := h.executed
  have hanswer : answer (fun db => required (((db.apiKeys.get? id).filter fun k =>
      k.usable th.env.now).map APIKey.concurrencyLimit)) view = .ok (limit, w) := hexec
  obtain ⟨row, hrow, hlimit⟩ := Option.map_eq_some_iff.mp (required_ok (answer_ok hanswer).1)
  exact ⟨row, (Option.filter_eq_some_iff.mp hrow).1, hlimit⟩

theorem keyActive_answers {id : UUID} {n : ℕ}
    (h : m.Answers i skip th (.keyActive id) snapshot view n) : n = executingOfKey snapshot id := by
  obtain ⟨w, hexec⟩ := h.executed
  have hanswer : answer (fun _ => .ok (executingOfKey snapshot id)) view = .ok (n, w) := hexec
  exact (Except.ok.inj (answer_ok hanswer).1).symm

theorem keyNonTerminal_answers {id : UUID} {n : ℕ}
    (h : m.Answers i skip th (.keyNonTerminal id) snapshot view n) :
    n = nonTerminalOfKey snapshot id := by
  obtain ⟨w, hexec⟩ := h.executed
  have hanswer : answer (fun _ => .ok (nonTerminalOfKey snapshot id)) view = .ok (n, w) := hexec
  exact (Except.ok.inj (answer_ok hanswer).1).symm

theorem executing_answers {n : ℕ} (h : m.Answers i skip th .executing snapshot view n) :
    n = executingTasks snapshot := by
  obtain ⟨w, hexec⟩ := h.executed
  have hanswer : answer (fun _ => .ok (executingTasks snapshot)) view = .ok (n, w) := hexec
  exact (Except.ok.inj (answer_ok hanswer).1).symm

theorem lockCapacity_answers {config : SystemCapacityConfig}
    (h : m.Answers i skip th .lockCapacity snapshot view config) : config = view.capacity := by
  obtain ⟨w, hexec⟩ := h.executed
  have hanswer : answer (fun db => .ok db.capacity) view = .ok (config, w) := hexec
  exact (Except.ok.inj (answer_ok hanswer).1).symm

theorem lockTask_answers {id : UUID} {task : Task}
    (h : m.Answers i skip th (.lockTask id) snapshot view (some task)) :
    task.status = .queued ∨ task.status.executing = true := by
  obtain ⟨w, hexec⟩ := h.executed
  have hanswer : answer (fun db => .ok (Task.lockedFor th.env.now snapshot id db)) view =
      .ok (some task, w) := hexec
  have hread := (answer_ok hanswer).1
  simp only [Task.lockedFor, Except.ok.injEq, Option.filter_eq_some_iff, Bool.and_eq_true,
    Task.claimable, Bool.or_eq_true, decide_eq_true_eq] at hread
  refine hread.2.1.1.1.1.2.imp (fun h => h) fun hflight => ?_
  rcases (Task.inFlight_iff.mp hflight).1 with h | h <;> rw [h] <;> rfl

end Answers

/-- The facts after an answer that the monitor passes over. -/
theorem LimitFacts.unread {multiplier : ℕ} {job : Job} {db : Database} {locks locks' : List Lock}
    {ph q : Phase} {x : Reads} (h : LimitFacts multiplier job db locks ph x)
    (hlocks : locks ⊆ locks') (htask : q.task? = ph.task?)
    (hleases : q.leases = true → ph.leases = true) :
    LimitFacts multiplier job db locks' q x where
  policy := h.policy
  task := htask.trans h.task
  status := h.status
  leased hph := h.leased (hleases hph)
  checked := h.checked
  key k limit hx := ⟨hlocks (h.key k limit hx).1, (h.key k limit hx).2⟩
  active := h.active
  nonTerminal := h.nonTerminal
  config config hx := ⟨hlocks (h.config config hx).1, (h.config config hx).2⟩
  executing := h.executing

/-- The facts after an answer. -/
theorem LimitFacts.answered {multiplier : ℕ} {m : Machine} {i : ℕ} {skip : List UUID} {th : Thread}
    {ph : Phase} {x : Reads} {op : Statement} {k : op.Res → Session (Ending Reply)}
    {snapshot view : Database} {r : op.Res} (hsound : th.Sound ph)
    (hfacts : LimitFacts multiplier th.job m.db th.locks ph x) (hallows : ph.allows th.job.taskID op)
    (hreads : x.allows op) (hanswers : m.Answers i skip th op snapshot view r) :
    LimitFacts multiplier th.job m.db (th.advance op k r).locks (ph.next op r) (x.next op r) := by
  have hframe := hsound.frame _ _ hanswers.viewed
  have hsub (hop : op ≠ .rollbackToSavepoint) : th.locks ⊆ (th.advance op k r).locks := by
    rw [Thread.locks_advance hop]
    exact List.subset_append_right _ _
  have hnew {l : Lock} (hop : op ≠ .rollbackToSavepoint) (h : l ∈ op.takes r) :
      l ∈ (th.advance op k r).locks := by
    rw [Thread.locks_advance hop]
    exact List.mem_append_left _ h
  have hlimit {id : UUID} {limit : ℤ} (h : ∃ row, view.apiKeys.get? id = some row ∧
      row.concurrencyLimit = limit) (row : APIKey) (hrow : m.db.apiKeys.get? id = some row) :
      row.concurrencyLimit = limit := by
    obtain ⟨row', hrow', rfl⟩ := h
    rw [hframe.apiKeys] at hrow'
    rw [Option.some.inj (hrow.symm.trans hrow')]
  by_cases hunread : op.unread = true
  · rw [Reads.next_of_unread hunread]
    have hclaim := Phase.next_claim (r := r) hallows (by rintro k rfl; cases hunread)
      (by rintro k leaseID e rfl; cases hunread)
    exact hfacts.unread (hsub (by rintro rfl; cases hunread)) hclaim.1 hclaim.2
  cases op with
  | lockTask id =>
    obtain ⟨rfl, rfl⟩ := hallows
    cases r with
    | none => exact hfacts.unread (hsub nofun) rfl fun h => h
    | some task =>
      have hleased : x.leased = false := hreads
      exact { hfacts.unread (q := .start) (hsub nofun) rfl (fun h => h) with
        task := rfl
        status := by
          rintro _ ⟨rfl⟩
          exact lockTask_answers hanswers
        leased := nofun
        checked := fun h => absurd (hleased.symm.trans h) Bool.false_ne_true }
  | lockKeyConcurrency id =>
    have hkept := hfacts.unread (q := ph) (hsub nofun) rfl fun h => h
    have hleased : x.leased = false := hreads
    exact { hkept with
      checked := fun h => absurd (hleased.symm.trans h) Bool.false_ne_true
      key := by
        rintro k limit ⟨rfl⟩
        exact ⟨hnew nofun (List.mem_singleton_self _), hlimit (lockKeyConcurrency_answers hanswers)⟩
      active := nofun
      nonTerminal := nofun }
  | lockUsableKey id =>
    have hkept := hfacts.unread (q := ph) (hsub nofun) rfl fun h => h
    have hleased : x.leased = false := hreads
    exact { hkept with
      checked := fun h => absurd (hleased.symm.trans h) Bool.false_ne_true
      key := by
        rintro k limit ⟨rfl⟩
        exact ⟨hnew nofun (List.mem_singleton_self _), hlimit (lockUsableKey_answers hanswers)⟩
      active := nofun
      nonTerminal := nofun }
  | keyActive id =>
    obtain ⟨hleased, limit, hkey⟩ := hreads
    obtain rfl := hanswers.snapshot_eq rfl
    obtain rfl := keyActive_answers hanswers
    exact { hfacts.unread (q := ph) (hsub nofun) rfl (fun h => h) with
      checked := fun h => absurd (hleased.symm.trans h) Bool.false_ne_true
      active := by
        rintro k limit' _ hx ⟨rfl⟩
        cases hkey.symm.trans hx
        rw [otherExecutingOfKey, ← hframe.besides]
        exact count_besides_le }
  | keyNonTerminal id =>
    obtain ⟨hleased, limit, hkey⟩ := hreads
    obtain rfl := hanswers.snapshot_eq rfl
    obtain rfl := keyNonTerminal_answers hanswers
    exact { hfacts.unread (q := ph) (hsub nofun) rfl (fun h => h) with
      checked := fun h => absurd (hleased.symm.trans h) Bool.false_ne_true
      nonTerminal := by
        rintro k limit' _ hx ⟨rfl⟩
        cases hkey.symm.trans hx
        rw [otherNonTerminalOfKey, ← hframe.besides]
        exact count_besides_le }
  | lockCapacity =>
    have hleased : x.leased = false := hreads
    obtain rfl := lockCapacity_answers hanswers
    exact { hfacts.unread (q := ph) (hsub nofun) rfl (fun h => h) with
      checked := fun h => absurd (hleased.symm.trans h) Bool.false_ne_true
      config := by
        rintro _ ⟨rfl⟩
        exact ⟨hnew nofun (List.mem_singleton_self _), hframe.maxExecuting⟩
      executing := nofun }
  | executing =>
    obtain ⟨hleased, hconfig⟩ := hreads
    obtain rfl := hanswers.snapshot_eq rfl
    obtain rfl := executing_answers hanswers
    exact { hfacts.unread (q := ph) (hsub nofun) rfl (fun h => h) with
      checked := fun h => absurd (hleased.symm.trans h) Bool.false_ne_true
      executing := by
        rintro _ ⟨rfl⟩
        refine ⟨hconfig, ?_⟩
        rw [otherExecuting, ← hframe.besides]
        exact count_besides_le }
  | rollbackToSavepoint =>
    have hleased : x.leased = false := hreads
    obtain ⟨q, accountID, reservationCount, reserved, limits, rfl⟩ := hallows
    exact {
      policy := hfacts.policy
      task := hfacts.task
      status := hfacts.status
      leased := nofun
      checked := fun h => absurd (hleased.symm.trans h) Bool.false_ne_true
      key := nofun
      active := nofun
      nonTerminal := nofun
      config := nofun
      executing := nofun }
  | claimLease id leaseID expiresAt =>
    obtain ⟨locked, hlocked, hchecked⟩ := hreads
    have htask : (ph.next (.claimLease id leaseID expiresAt) r).task? = ph.task? := by
      obtain ⟨task, rfl, -⟩ | ⟨task, accountID, state, rfl, -⟩ |
        ⟨task, q, accountID, state, rfl, -⟩ := hallows <;> rfl
    exact { hfacts.unread (q := ph) (hsub nofun) rfl (fun h => h) with
      task := htask.trans hfacts.task
      leased := fun _ => rfl
      checked := by
        intro _ task hx hq
        obtain rfl : locked = task := Option.some.inj (hlocked.symm.trans hx)
        exact hchecked hq }
  | _ => exact absurd rfl hunread

section Commit

variable {multiplier : ℕ} {th : Thread} {ph : Phase} {db v : Database} {locks : List Lock}
variable {x : Reads} {r : Reply}

/-- A commit starts the execution of its own task at most, and then after its counts. -/
theorem LimitFacts.starts {t' : Task} (hsound : th.Sound ph)
    (hfacts : LimitFacts multiplier th.job db locks ph x) (hview : th.view db = some v)
    (ht' : (v.cell th.job.taskID).task = some t') (hexec : t'.status.executing = true) :
    ∃ t, (db.cell th.job.taskID).task = some t ∧ (t.status.executing = true ∨
      x.KeyFree t.apiKeyID ∧ x.SystemFree) := by
  have hw := hsound.wrote db v hview
  have hqueued {t : Task} (ht : (v.cell th.job.taskID).task = some t) (hq : t.status = .queued) :
      False := by
    obtain rfl : t = t' := Option.some.inj (ht.symm.trans ht')
    rw [hq] at hexec
    cases hexec
  have hleased {task : Task} (htask : (db.cell th.job.taskID).task = some task)
      (hph : ph.task? = some task) (hleases : ph.leases = true) :
      ∃ t, (db.cell th.job.taskID).task = some t ∧ (t.status.executing = true ∨
        x.KeyFree t.apiKeyID ∧ x.SystemFree) := by
    have hx : x.task = some task := hfacts.task.symm.trans hph
    refine ⟨task, htask, ?_⟩
    rcases hfacts.status task hx with hq | hrunning
    · exact .inr (hfacts.checked (hfacts.leased hleases) task hx hq)
    · exact .inl hrunning
  cases ph with
  | start | candidate | counted | limited => exact ⟨t', (Cell.Alike.task hw).symm.trans ht', .inl hexec⟩
  | locked | estimated | loaded | target => exact ⟨t', hw.1.task.symm.trans ht', .inl hexec⟩
  | moved task q accountID => exact (hqueued hw.2.1 hw.2.2.1).elim
  | reloaded task q accountID state => exact (hqueued hw.2.1 hw.2.2.1).elim
  | failing task =>
    obtain ⟨-, -, ⟨t, ht, hnot⟩, -⟩ := hw
    obtain rfl : t = t' := Option.some.inj (ht.symm.trans ht')
    exact absurd (hnot.symm.trans hexec) Bool.false_ne_true
  | resumed task => exact ⟨task, hw.1, .inl hsound.known⟩
  | leased task accountID => exact hleased hw.1 rfl rfl
  | movedLeased task q accountID => exact hleased hw.1 rfl rfl
  | inserting q accountID =>
    obtain ⟨-, -, t, ht, hq⟩ := hw
    exact (hqueued ht hq).elim
  | admitted q accountID =>
    obtain ⟨-, -, -, t, ht, hq⟩ := hw
    exact (hqueued ht hq).elim

/-- What a commit adds to a count of executing tasks. -/
theorem LimitFacts.executes_le {p : Task → Bool} (hsound : th.Sound ph)
    (hfacts : LimitFacts multiplier th.job db locks ph x) (hview : th.view db = some v)
    (hends : Session.Ends th.env th.job.prog db (.commit r) v)
    (hp : ∀ t t', SameOrigin t t' → t.status.executing = true → p t' = true → p t = true)
    (hexec : ∀ t, p t = true → t.status.executing = true) :
    (v.cell th.job.taskID).counts p ≤ (db.cell th.job.taskID).counts p ∨
      ∃ t t', SameOrigin t t' ∧ p t' = true ∧ x.KeyFree t.apiKeyID ∧ x.SystemFree := by
  by_cases hany : (v.cell th.job.taskID).task.any p = true
  · obtain ⟨t', ht', hpt'⟩ := (Option.any_eq_true _ _).mp hany
    obtain ⟨t, ht, hrunning | hfree⟩ := hfacts.starts hsound hview ht' (hexec t' hpt')
    · obtain ⟨horigin, -⟩ := Steps.origin ((Job.commits_of_ends hends).lives _) ht ht'
      have hpt := hp t t' horigin hrunning hpt'
      have hany' : (db.cell th.job.taskID).task.any p = true :=
        (Option.any_eq_true _ _).mpr ⟨t, ht, hpt⟩
      left
      rw [Cell.counts, Cell.counts, if_pos hany, if_pos hany']
    · obtain ⟨horigin, -⟩ := Steps.origin ((Job.commits_of_ends hends).lives _) ht ht'
      exact .inr ⟨t, t', horigin, hpt', hfree⟩
  · left
    rw [Cell.counts, if_neg hany]
    exact Nat.zero_le _

/-- A commit makes a task open only by admitting it, after its count. -/
theorem LimitFacts.opens_le (key : UUID) (hends : Session.Ends th.env th.job.prog db (.commit r) v)
    (hfinal : th.job.Counted (.commit r) x) :
    (v.cell th.job.taskID).counts (Task.ofKey key Task.isOpen) ≤
        (db.cell th.job.taskID).counts (Task.ofKey key Task.isOpen) ∨
      ∃ sha256 policy req, th.job = .admission sha256 policy req ∧ req.keyID = key ∧
        x.KeyAdmits policy key := by
  by_cases hany : (v.cell th.job.taskID).task.any (Task.ofKey key Task.isOpen) = true
  · obtain ⟨t', ht', hopen⟩ := (Option.any_eq_true _ _).mp hany
    have hlives := (Job.commits_of_ends hends).lives th.job.taskID
    cases ht : (db.cell th.job.taskID).task with
    | some t =>
      obtain ⟨horigin, hend⟩ := Steps.origin hlives ht ht'
      have hopen' : Task.ofKey key Task.isOpen t = true := by
        obtain ⟨hkey, hnot⟩ := (Bool.and_eq_true _ _).mp hopen
        rw [horigin.apiKeyID] at hkey
        refine (Bool.and_eq_true _ _).mpr ⟨hkey, ?_⟩
        cases hterminal : t.status.terminal with
        | false => simp [Task.isOpen, hterminal]
        | true => simp [Task.isOpen, hend hterminal] at hnot
      left
      rw [Cell.counts, Cell.counts, if_pos hany,
        if_pos ((Option.any_eq_true _ _).mpr ⟨t, ht, hopen'⟩)]
    | none =>
      have hcreated : th.job.operation.call = .admission := by
        apply Steps.created hlives ht
        rw [ht']
        exact Option.some_ne_none t'
      cases hjob : th.job with
      | claim policy id leaseID lease =>
        rw [hjob] at hcreated
        cases hcreated
      | admission sha256 policy req =>
        rw [hjob] at hends ht' ht hfinal
        obtain ⟨⟨task, created⟩, rfl, hadmitted⟩ := ends_map.mp hends
        rcases createReservedTaskForProviderOnce_ends hadmitted with
          ⟨-, rfl, -⟩ | ⟨rfl, accountID, hinserts⟩
        · exact absurd (ht.symm.trans ht') (Option.some_ne_none t').symm
        · obtain ⟨deadline, rfl⟩ := hinserts.row
          obtain rfl : _ = t' := Option.some.inj (hinserts.task.symm.trans ht')
          have hkey : req.keyID = key :=
            Option.some.inj (of_decide_eq_true ((Bool.and_eq_true _ _).mp hopen).1)
          subst hkey
          exact .inr ⟨sha256, policy, req, rfl, rfl, hfinal⟩
  · left
    rw [Cell.counts, if_neg hany]
    exact Nat.zero_le _

/-- A key that is held is not one that another transaction may count on. -/
theorem LimitFacts.key_of_starts (hfacts : LimitFacts multiplier th.job db locks ph x) {key : UUID}
    {t t' : Task} (horigin : SameOrigin t t') (hp : Task.ofKey key Task.executes t' = true)
    (hfree : x.KeyFree t.apiKeyID) : .key key ∈ locks ∧ ∀ row, db.apiKeys.get? key = some row →
      0 < row.concurrencyLimit → (otherExecutingOfKey db th.job.taskID key : ℤ) <
        row.concurrencyLimit := by
  have hkey : t.apiKeyID = some key := by
    rw [← horigin.apiKeyID]
    exact of_decide_eq_true ((Bool.and_eq_true _ _).mp hp).1
  obtain ⟨limit, hx, hactive⟩ := hfree key hkey
  obtain ⟨hlock, hlimit⟩ := hfacts.key key limit hx
  refine ⟨hlock, fun row hrow hpos => ?_⟩
  rw [hlimit row hrow] at hpos ⊢
  obtain ⟨active, hx', hlt⟩ := hactive hpos
  have hle := hfacts.active key limit active hx hx'
  omega

theorem LimitFacts.system_of_starts (hfacts : LimitFacts multiplier th.job db locks ph x)
    (hfree : x.SystemFree) :
    .capacity ∈ locks ∧ otherExecuting db th.job.taskID < db.capacity.maxExecuting := by
  obtain ⟨config, executing, hconfig, hexecuting, hlt⟩ := hfree
  obtain ⟨hlock, hmax⟩ := hfacts.config config hconfig
  obtain ⟨-, hle⟩ := hfacts.executing executing hexecuting
  exact ⟨hlock, by omega⟩

theorem executes_origin {t t' : Task} (_ : SameOrigin t t') (h : t.status.executing = true)
    (_ : Task.executes t' = true) : Task.executes t = true := h

theorem ofKey_executes_origin {key : UUID} {t t' : Task} (horigin : SameOrigin t t')
    (h : t.status.executing = true) (hp : Task.ofKey key Task.executes t' = true) :
    Task.ofKey key Task.executes t = true := by
  obtain ⟨hkey, -⟩ := (Bool.and_eq_true _ _).mp hp
  rw [horigin.apiKeyID] at hkey
  exact (Bool.and_eq_true _ _).mpr ⟨hkey, h⟩

/-- The rows after a commit are within the limits. -/
theorem LimitFacts.commit_limited (hsound : th.Sound ph)
    (hfacts : LimitFacts multiplier th.job db th.locks ph x) (hrows : db.Limited multiplier)
    (hview : th.view db = some v) (hends : Session.Ends th.env th.job.prog db (.commit r) v)
    (hfinal : th.job.Counted (.commit r) x) : v.Limited multiplier := by
  have hframe := hsound.frame db v hview
  refine ⟨?_, ?_, ?_, ?_⟩
  · intro k
    exact ((Job.commits_of_ends hends).lives k).invariant (fun _ _ => Transition.attended)
      (hrows.attended k)
  · rw [hframe.maxExecuting]
    rcases hfacts.executes_le hsound hview hends (p := Task.executes)
      (fun _ _ => executes_origin) (fun _ h => h) with hle | ⟨t, t', -, -, -, hfree⟩
    · exact (hframe.count_le hle).trans hrows.system
    · have hlt := (hfacts.system_of_starts hfree).2
      have hcount : executingTasks v ≤ v.tasks.count (Task.besides th.job.taskID Task.executes) + 1 :=
        count_le_besides
      rw [hframe.besides] at hcount
      unfold otherExecuting at hlt
      omega
  · intro k row hrow hpos
    rw [hframe.apiKeys] at hrow
    rcases hfacts.executes_le hsound hview hends (p := Task.ofKey k Task.executes)
      (fun _ _ => ofKey_executes_origin) (fun _ h => ((Bool.and_eq_true _ _).mp h).2) with
      hle | ⟨t, t', horigin, hp, hfree, -⟩
    · have hkept : executingOfKey v k ≤ executingOfKey db k := hframe.count_le hle
      have hbound := hrows.executing k row hrow hpos
      omega
    · have hlt := (hfacts.key_of_starts horigin hp hfree).2 row hrow hpos
      have hcount : executingOfKey v k ≤
          v.tasks.count (Task.besides th.job.taskID (Task.ofKey k Task.executes)) + 1 :=
        count_le_besides
      rw [hframe.besides] at hcount
      unfold otherExecutingOfKey at hlt
      omega
  · intro k row hrow
    rw [hframe.apiKeys] at hrow
    rcases LimitFacts.opens_le k hends hfinal with hle | ⟨sha256, policy, req, hjob, -, hadmits⟩
    · have hkept : nonTerminalOfKey v k ≤ nonTerminalOfKey db k := hframe.count_le hle
      have hbound := hrows.nonTerminal k row hrow
      omega
    · obtain ⟨limit, nonTerminal, hx, hx', hlt⟩ := hadmits
      have hle := hfacts.nonTerminal k limit nonTerminal hx hx'
      rw [hfacts.policy sha256 policy req hjob, ← (hfacts.key k limit hx).2 row hrow] at hlt
      have hcount : nonTerminalOfKey v k ≤
          v.tasks.count (Task.besides th.job.taskID (Task.ofKey k Task.isOpen)) + 1 :=
        count_le_besides
      rw [hframe.besides] at hcount
      unfold otherNonTerminalOfKey at hle
      omega

/-- A commit adds nothing to the counts under the locks of another transaction. -/
theorem LimitFacts.commit_others {job : Job} {ph' : Phase} {x' : Reads} (hsound : th.Sound ph)
    (hfacts : LimitFacts multiplier th.job db th.locks ph x)
    (hview : th.view db = some v) (hends : Session.Ends th.env th.job.prog db (.commit r) v)
    (hfinal : th.job.Counted (.commit r) x) (hdisjoint : th.locks.Disjoint locks)
    (hother : LimitFacts multiplier job db locks ph' x') :
    LimitFacts multiplier job v locks ph' x' := by
  have hframe := hsound.frame db v hview
  refine hother.mono_rows hframe.apiKeys hframe.maxExecuting ?_ ?_
  · intro k hlock
    have hnot : .key k ∉ th.locks := fun hheld => hdisjoint hheld hlock
    constructor
    · rcases hfacts.executes_le hsound hview hends (p := Task.ofKey k Task.executes)
        (fun _ _ => ofKey_executes_origin) (fun _ h => ((Bool.and_eq_true _ _).mp h).2) with
        hle | ⟨t, t', horigin, hp, hfree, -⟩
      · exact hframe.count_besides_le hle
      · exact absurd (hfacts.key_of_starts horigin hp hfree).1 hnot
    · rcases LimitFacts.opens_le k hends hfinal with hle | ⟨sha256, policy, req, hjob, -, hadmits⟩
      · exact hframe.count_besides_le hle
      · obtain ⟨limit, nonTerminal, hx, -⟩ := hadmits
        exact absurd (hfacts.key k limit hx).1 hnot
  · intro hlock
    rcases hfacts.executes_le hsound hview hends (p := Task.executes)
      (fun _ _ => executes_origin) (fun _ h => h) with hle | ⟨t, t', -, -, -, hfree⟩
    · exact hframe.count_besides_le hle
    · exact absurd hlock (hdisjoint (hfacts.system_of_starts hfree).1)

end Commit

/-- A transaction that has read nothing relies on nothing. -/
theorem LimitFacts.start {multiplier : ℕ} {env : Env} {job : Job} {db : Database}
    (h : (Act.begin env job).follows multiplier = true) :
    LimitFacts multiplier job db [] .start .start where
  policy := by
    rintro sha256 policy req rfl
    exact of_decide_eq_true h
  task := rfl
  status _ hx := absurd hx (Option.some_ne_none _).symm
  leased hph := absurd hph Bool.false_ne_true
  checked hx := absurd hx Bool.false_ne_true
  key _ _ hx := absurd hx (Option.some_ne_none _).symm
  active _ _ _ hx := absurd hx (Option.some_ne_none _).symm
  nonTerminal _ _ _ hx := absurd hx (Option.some_ne_none _).symm
  config _ hx := absurd hx (Option.some_ne_none _).symm
  executing _ hx := absurd hx (Option.some_ne_none _).symm

/-- Claims and admissions rely on their counts. -/
theorem limits_reliable (multiplier : ℕ) :
    Reliance .reads (fun _ a => a.follows multiplier = true) (fun db _ => db.Limited multiplier)
      (fun job db locks _ ph x => LimitFacts multiplier job db locks ph x) where
  start hcond := .start hcond
  refused hrows _ _ _ _ := hrows
  answered _ _ _ _ hsound hfacts hallows hreads hanswers :=
    hfacts.answered hsound hallows hreads hanswers
  committed hrows hsound hfacts hfinal hview hends :=
    ⟨hfacts.commit_limited hsound hrows hview hends hfinal, fun _ _ _ _ _ hdisjoint hother =>
      hfacts.commit_others hsound hview hends hfinal hdisjoint hother⟩
  atomic {env op db db' replies} hatomic hrows hcommits := by
    have hsession : op.call.session = false := op.session_of_atomic hatomic
    obtain ⟨hkeys, hcapacity, -⟩ := hcommits.eases hatomic
    have hcount {p : Task → Bool} (hp : Task.Fades p) : db'.tasks.count p ≤ db.tasks.count p :=
      hcommits.lives.count_le hsession hrows.attended hp
    refine ⟨⟨?_, ?_, ?_, ?_⟩, ?_⟩
    · intro k
      exact (hcommits.lives k).invariant (fun _ _ => Transition.attended) (hrows.attended k)
    · rw [hcapacity]
      exact (hcount Task.executes_fades).trans hrows.system
    · intro k row hrow hpos
      rw [hkeys] at hrow
      have hle : executingOfKey db' k ≤ executingOfKey db k := hcount (Task.executes_fades.ofKey k)
      have hbound := hrows.executing k row hrow hpos
      omega
    · intro k row hrow
      rw [hkeys] at hrow
      have hle : nonTerminalOfKey db' k ≤ nonTerminalOfKey db k := hcount (Task.isOpen_fades.ofKey k)
      have hbound := hrows.nonTerminal k row hrow
      omega
    · intro job locks saved ph x hfacts
      refine hfacts.mono_rows hkeys (by rw [hcapacity]) (fun k _ => ⟨?_, ?_⟩) fun _ => ?_
      · exact hcount ((Task.executes_fades.ofKey k).besides _)
      · exact hcount ((Task.isOpen_fades.ofKey k).besides _)
      · exact hcount (Task.executes_fades.besides _)

/-- The executing tasks of the system and of each API key, and the open tasks of each
key, stay within their limits over every interleaving. -/
theorem within_limits {multiplier : ℕ} {accounts : Table Account} {apiKeys : Table APIKey}
    {costRules : Table CostRule} {capacity : SystemCapacityConfig} {m : Machine}
    (h : (readCommitted.restrict fun _ a => a.follows multiplier = true).Reachable
      (.initial accounts apiKeys costRules capacity) m) : m.db.WithinLimits multiplier := by
  have hlimited : m.db.Limited multiplier := by
    refine (limits_reliable multiplier).reachable ⟨?_, Nat.zero_le _, ?_, ?_⟩ h
    · intro k t ht
      cases ht
    · intro k row _ hpos
      exact hpos.le
    · intro k row _
      rw [keyConcurrency_eq]
      exact Int.mul_nonneg (by omega) (by omega)
  refine ⟨hlimited.system, ?_, ?_⟩
  · intro k hk hpos
    exact hlimited.executing k.id k (Table.get?_of_mem hk) hpos
  · intro k hk
    rw [← keyConcurrency_eq]
    exact hlimited.nonTerminal k.id k (Table.get?_of_mem hk)

/-- A task is admitted and claimed. -/
def oneExecution : List Act :=
  admitAlone 0 0 (smallRequest 20 .image 5) ++ beginClaim 1 20 900 :: statements 1 17 ++ [.commit 1]

theorem within_limits_oneExecution :
    ∃ m : Machine, executingOfKey m.db 7 = 1 ∧ m.db.WithinLimits 2 := by
  have hrun : ((smallMachine ⟨[smallAccount], by decide⟩).runWhile (fun _ a => a.follows 2)
      oneExecution).map (fun m => executingOfKey m.db 7) = some 1 := by
    decide +kernel
  obtain ⟨m, hm, hexecuting⟩ := Option.map_eq_some_iff.mp hrun
  exact ⟨m, hexecuting, within_limits ⟨oneExecution, readCommitted_runWhile hm⟩⟩

end GenerationGateway
