import GenerationGateway.Accounts.RefreshQueue

/-!
# Leases of refresh jobs

An account has one active job at most. A leased job changes under its token, when its
lease has run out, or because its account is archived; a pending one when it is enqueued
again, claimed or archived; a finished one never. A job succeeds at a moment when the
session is fresh and the balance was read after the lease began.
-/

namespace GenerationGateway

open Relational Transitions

/-- An account has at most one job that is pending or leased. -/
def SessionStore.SingleActive (s : SessionStore) : Prop :=
  ∀ j ∈ s.jobs.rows, ∀ l ∈ s.jobs.rows, j.active = true → l.active = true →
    j.accountID = l.accountID → j = l

section Insertion

variable {s : SessionStore} {j l : SessionRefreshJob} {accountID k : UUID}

theorem SessionStore.activeJob_eq_none :
    s.activeJob accountID = none ↔
      ∀ j ∈ s.jobs.rows, j.accountID = accountID → j.active = false := by
  simp [SessionStore.activeJob]

theorem SessionStore.activeJob_eq_some (h : s.activeJob accountID = some j) :
    j ∈ s.jobs.rows ∧ j.accountID = accountID ∧ j.active = true := by
  have hsome := List.find?_some h
  simp only [Bool.and_eq_true, decide_eq_true_eq] at hsome
  exact ⟨List.mem_of_find?_eq_some h, hsome⟩

theorem insertJob_cases (j : SessionRefreshJob) (s : SessionStore) :
    (insertJob j s).2 = s ∨ s.activeJob j.accountID = none ∧
      ∃ jobs, s.jobs.insert? j = some jobs ∧ (insertJob j s).2 = { s with jobs := jobs } := by
  unfold insertJob
  cases hactive : s.activeJob j.accountID with
  | some l => exact Or.inl rfl
  | none =>
    cases hinsert : s.jobs.insert? j with
    | none => exact Or.inl rfl
    | some jobs => exact Or.inr ⟨rfl, jobs, rfl, rfl⟩

theorem insertJob_keeps (h : s.jobs.get? k = some j) : (insertJob l s).2.jobs.get? k = some j := by
  rcases insertJob_cases l s with hsame | ⟨-, jobs, hinsert, hstore⟩
  · rw [hsame, h]
  · have hnone : s.jobs.get? l.id = none := (Table.insert?_eq_some hinsert).1
    have hne : k ≠ l.id := by
      rintro rfl
      cases hnone.symm.trans h
    rw [hstore]
    exact (Table.get?_insert? hinsert k).trans ((if_neg hne).trans h)

theorem insertJob_new (h : s.jobs.get? k = none) (h' : (insertJob l s).2.jobs.get? k = some j) :
    j = l := by
  rcases insertJob_cases l s with hsame | ⟨-, jobs, hinsert, hstore⟩
  · rw [hsame, h] at h'
    cases h'
  · rw [hstore, Table.get?_insert? hinsert] at h'
    split_ifs at h' with hk
    · exact (Option.some.inj h').symm
    · cases h.symm.trans h'

theorem SessionStore.SingleActive.insertJob (h : s.SingleActive) (l : SessionRefreshJob) :
    (GenerationGateway.insertJob l s).2.SingleActive := by
  rcases insertJob_cases l s with hsame | ⟨hfree, jobs, hinsert, hstore⟩
  · rwa [hsame]
  · have hrows : (GenerationGateway.insertJob l s).2.jobs.rows = s.jobs.rows ++ [l] := by
      rw [hstore]
      exact (Table.insert?_eq_some hinsert).2
    have hidle := SessionStore.activeJob_eq_none.mp hfree
    unfold SessionStore.SingleActive
    rw [hrows]
    intro j hj i hi hjactive hiactive hsame
    rw [List.mem_append, List.mem_singleton] at hj hi
    obtain hj | rfl := hj
    · obtain hi | rfl := hi
      · exact h j hj i hi hjactive hiactive hsame
      · simp [hidle j hj hsame] at hjactive
    · obtain hi | rfl := hi
      · simp [hidle i hi hsame.symm] at hiactive
      · rfl

/-- A function on the rows that makes no job active keeps it. -/
theorem SessionStore.SingleActive.of_rows {t : SessionStore} (h : s.SingleActive)
    (hrows : ∀ l, t.jobs.get? l.id = some l → l.active = true →
      ∃ j, s.jobs.get? l.id = some j ∧ j.accountID = l.accountID ∧ j.active = true) :
    t.SingleActive := by
  intro j hj l hl hjactive hlactive hsame
  have hj' : t.jobs.get? j.id = some j := Table.get?_of_mem hj
  have hl' : t.jobs.get? l.id = some l := Table.get?_of_mem hl
  obtain ⟨j₀, hj₀, hjaccount, hj₀active⟩ := hrows j hj' hjactive
  obtain ⟨l₀, hl₀, hlaccount, hl₀active⟩ := hrows l hl' hlactive
  have hrow : j₀ = l₀ := h j₀ (Table.mem_of_get? hj₀) l₀ (Table.mem_of_get? hl₀) hj₀active
    hl₀active (by rw [hjaccount, hlaccount, hsame])
  have hid : j.id = l.id := by
    rw [← id_of_get?_jobs hj₀, ← id_of_get?_jobs hl₀, hrow]
  rw [hid, hl'] at hj'
  exact (Option.some.inj hj').symm

end Insertion

namespace RefreshOperation

variable {s : SessionStore} {now : Time} {op : RefreshOperation}

/-! ### Operations that insert jobs -/

theorem forM_insertJob_induction {α : Type} {I : SessionStore → Prop} (f : α → SessionRefreshJob)
    (hstep : ∀ a t, I t → I (insertJob (f a) t).2) (l : List α) (t : SessionStore) (h : I t) :
    I (l.forM (fun a => insertJob (f a)) t).2 := by
  induction l generalizing t with
  | nil => exact h
  | cons a l ih => exact ih _ (hstep a t h)

theorem inserted_induction {I : SessionStore → Prop} {accountID newID : UUID} {priority : ℤ}
    {stage : RefreshStage}
    (hstep : I s → I (insertJob (.queued newID accountID stage priority now) s).2) (h : I s) :
    I (inserted now accountID priority stage newID s) := by
  unfold inserted
  split
  · exact hstep h
  · exact h

theorem raiseJob_active (priority : ℤ) (stage : RefreshStage) (j : SessionRefreshJob) :
    (raiseJob now priority stage j).active = j.active := by
  unfold raiseJob
  split <;> rfl

theorem raiseJob_status (priority : ℤ) (stage : RefreshStage) (j : SessionRefreshJob) :
    (raiseJob now priority stage j).status = j.status := by
  unfold raiseJob
  split <;> rfl

theorem raiseJob_accountID (priority : ℤ) (stage : RefreshStage) (j : SessionRefreshJob) :
    (raiseJob now priority stage j).accountID = j.accountID := by
  unfold raiseJob
  split <;> rfl

/-- An existing job is raised when it was the active one; a job that was just inserted is new. -/
theorem activeJob_inserted {accountID newID k : UUID} {priority : ℤ} {stage : RefreshStage}
    {j : SessionRefreshJob} (hj : s.jobs.get? k = some j) :
    ((inserted now accountID priority stage newID s).activeJob accountID).any
        (fun l => l.id = j.id) = (s.activeJob accountID).any fun l => l.id = j.id := by
  unfold inserted
  split
  · rcases insertJob_cases (.queued newID accountID stage priority now) s with
      hsame | ⟨hfree, jobs, hinsert, hstore⟩
    · rw [hsame]
    · have hidle : s.activeJob accountID = none := hfree
      have hrows : jobs.rows = s.jobs.rows ++ [.queued newID accountID stage priority now] :=
        (Table.insert?_eq_some hinsert).2
      have hnew : s.jobs.get? newID = none := (Table.insert?_eq_some hinsert).1
      rw [hidle, hstore, Option.any_none, Option.any_eq_false]
      intro job hjob
      obtain ⟨hmem, haccount, hactive⟩ := SessionStore.activeJob_eq_some hjob
      have hmem' : job ∈ jobs.rows := hmem
      rw [hrows, List.mem_append, List.mem_singleton] at hmem'
      rcases hmem' with hold | rfl
      · simp [SessionStore.activeJob_eq_none.mp hidle job hold haccount] at hactive
      · have hne : newID ≠ j.id := by
          rintro rfl
          rw [id_of_get?_jobs hj, hj] at hnew
          cases hnew
        simp [SessionRefreshJob.queued, hne]
  · rfl

theorem get?_enqueue {accountID newID k : UUID} {priority : ℤ} {stage : RefreshStage}
    {j : SessionRefreshJob} (hj : s.jobs.get? k = some j) :
    (enqueueSessionRefreshJob now accountID priority stage newID s).2.jobs.get? k =
      some (if hits now s j (.enqueue accountID priority stage newID) then
        j.raised now priority stage else j) := by
  have hkept : (inserted now accountID priority stage newID s).jobs.get? k = some j :=
    inserted_induction (I := fun t => t.jobs.get? k = some j) insertJob_keeps hj
  have hactive : ((inserted now accountID priority stage newID s).activeJob accountID).any
      (fun l => l.id = j.id) = (s.activeJob accountID).any fun l => l.id = j.id :=
    activeJob_inserted hj
  rw [enqueueSessionRefreshJob_snd]
  split
  · next hnone =>
    rw [hnone] at hactive
    simp [hits, ← hactive, hkept]
  · next job hjob =>
    rw [hjob] at hactive
    refine (Table.get?_modify _ _ _ (key_of_job (raiseJob_id now priority stage)) k).trans ?_
    have hkey : j.id = k := id_of_get?_jobs hj
    have hany : ((s.activeJob accountID).any fun l => l.id = k) = decide (job.id = k) := by
      rw [← hkey, ← hactive]
      rfl
    by_cases hid : job.id = k
    · by_cases hpending : j.status = .pending <;>
        simp [hits, hany, hkept, hkey, hid, hpending, raiseJob]
    · simp [hits, hany, hkept, hkey, hid, Ne.symm hid]

/-- What an operation does to a job that exists. -/
theorem get?_existing (op : RefreshOperation) {k : UUID} {j : SessionRefreshJob}
    (hj : s.jobs.get? k = some j) :
    (op.apply now s).jobs.get? k = some (if op.hits now s j then op.sets now s j else j) := by
  cases hop : op.enqueues with
  | false => rw [get?_jobs hop k, hj, Option.map_some]
  | true =>
    cases op with
    | enqueueDue due newID =>
      exact forM_insertJob_induction (I := fun t => t.jobs.get? k = some j) _
        (fun _ _ => insertJob_keeps) _ s hj
    | enqueue => exact get?_enqueue hj
    | _ => cases hop

/-- A new job is pending. -/
theorem pending_of_new (op : RefreshOperation) {k : UUID} {j : SessionRefreshJob}
    (hnone : s.jobs.get? k = none) (hj : (op.apply now s).jobs.get? k = some j) :
    j.status = .pending := by
  cases hop : op.enqueues with
  | false =>
    rw [get?_jobs hop k, hnone] at hj
    cases hj
  | true =>
    let Pending (t : SessionStore) : Prop := ∀ l, t.jobs.get? k = some l → l.status = .pending
    have hinsert (l : SessionRefreshJob) (t : SessionStore) (hl : l.status = .pending)
        (ht : Pending t) : Pending (insertJob l t).2 := by
      intro i hi
      cases hread : t.jobs.get? k with
      | none =>
        rw [insertJob_new hread hi]
        exact hl
      | some i' =>
        cases (insertJob_keeps hread).symm.trans hi
        exact ht i hread
    have hstart : Pending s := fun l hl => by cases hnone.symm.trans hl
    cases op with
    | enqueueDue due newID =>
      exact forM_insertJob_induction (I := Pending) (fun a : SessionAccount =>
        SessionRefreshJob.queued (newID a.id) a.id .cookie 0 now)
        (fun _ t ht => hinsert _ t rfl ht) _ s hstart j hj
    | enqueue accountID priority stage newID =>
      have hpending : Pending (inserted now accountID priority stage newID s) :=
        inserted_induction (hinsert _ s rfl) hstart
      rw [apply, enqueueSessionRefreshJob_snd] at hj
      split at hj
      · exact hpending j hj
      · next job _ =>
        have hmodify : (if k = job.id then
            ((inserted now accountID priority stage newID s).jobs.get? k).map
              (raiseJob now priority stage)
            else (inserted now accountID priority stage newID s).jobs.get? k) = some j :=
          (Table.get?_modify _ job.id _ (key_of_job (raiseJob_id now priority stage)) k).symm.trans hj
        split_ifs at hmodify
        · obtain ⟨l, hl, rfl⟩ := Option.map_eq_some_iff.mp hmodify
          rw [raiseJob_status]
          exact hpending l hl
        · exact hpending j hmodify
    | _ => cases hop

/-! ### Who changes a job -/

/-- The operations that may change a job. -/
inductive Entitled (now : Time) (j : SessionRefreshJob) : RefreshOperation → Prop
  | token {op : RefreshOperation} {leaseToken : UUID} (hleased : j.status = .leased)
      (htoken : j.leaseToken = some leaseToken) (hpresents : op.presents = some (j.id, leaseToken)) :
      Entitled now j op
  | expired (h : j.leaseExpired now = true) : Entitled now j .recoverExpired
  | archived (h : j.active = true) (inUse : Bool) : Entitled now j (.archive j.accountID inUse)
  | enqueued (h : j.status = .pending) (priority : ℤ) (stage : RefreshStage) (newID : UUID) :
      Entitled now j (.enqueue j.accountID priority stage newID)
  | claimed (h : j.status = .pending) (stage : RefreshStage) (owner workerGroup : String)
      (lease : Time) (leaseToken : UUID) (skip : UUID → Bool) :
      Entitled now j (.claim stage owner workerGroup lease leaseToken skip)

variable {j : SessionRefreshJob} {k : UUID}

theorem leasedTo_iff {leaseToken : UUID} :
    j.leasedTo leaseToken = true ↔ j.status = .leased ∧ j.leaseToken = some leaseToken := by
  simp [SessionRefreshJob.leasedTo]

theorem Entitled.of_leasedTo {id leaseToken : UUID} (h : decide (j.id = id) && j.leasedTo leaseToken)
    (hpresents : op.presents = some (id, leaseToken)) : Entitled now j op := by
  rw [Bool.and_eq_true, decide_eq_true_eq, leasedTo_iff] at h
  exact .token h.2.1 h.2.2 (h.1 ▸ hpresents)

theorem Entitled.active (h : Entitled now j op) : j.active = true := by
  cases h with
  | token hleased => simp [SessionRefreshJob.active, hleased]
  | expired h =>
    have hleased : j.status = .leased := by
      simp only [SessionRefreshJob.leaseExpired, Bool.and_eq_true, decide_eq_true_eq] at h
      exact h.1
    simp [SessionRefreshJob.active, hleased]
  | archived h => exact h
  | enqueued h => simp [SessionRefreshJob.active, h]
  | claimed h => simp [SessionRefreshJob.active, h]

/-- The job that is claimed is a row that meets the WHERE. -/
theorem claimCandidate_spec {stage : RefreshStage} {workerGroup : String} {skip : UUID → Bool}
    {c : SessionRefreshJob} (h : s.claimCandidate now stage workerGroup skip = some c) :
    c ∈ s.jobs.rows ∧ s.claimable now stage workerGroup skip c = true :=
  List.mem_filter.mp (List.mem_of_find?_eq_some h)

theorem entitled_of_hits (hj : s.jobs.get? k = some j) (h : op.hits now s j = true) :
    Entitled now j op := by
  have hrow (l : SessionRefreshJob) (hl : l ∈ s.jobs.rows) (hid : l.id = j.id) : l = j := by
    have hl' : s.jobs.get? l.id = some l := Table.get?_of_mem hl
    rw [hid, id_of_get?_jobs hj, hj] at hl'
    exact (Option.some.inj hl').symm
  cases op with
  | enqueue accountID priority stage newID =>
    simp only [hits, Bool.and_eq_true, decide_eq_true_eq, Option.any_eq_true] at h
    obtain ⟨hpending, l, hl, hid⟩ := h
    obtain ⟨hmem, haccount, -⟩ := SessionStore.activeJob_eq_some hl
    rw [hrow l hmem hid] at haccount
    exact haccount ▸ .enqueued hpending priority stage newID
  | recoverExpired => exact .expired h
  | claim stage owner workerGroup lease leaseToken skip =>
    simp only [hits, Option.any_eq_true, decide_eq_true_eq] at h
    obtain ⟨c, hc, hid⟩ := h
    obtain ⟨hmem, hclaimable⟩ := claimCandidate_spec hc
    rw [hrow c hmem hid] at hclaimable
    simp only [SessionStore.claimable, Bool.and_eq_true, decide_eq_true_eq] at hclaimable
    exact .claimed hclaimable.1.1.1.1 stage owner workerGroup lease leaseToken skip
  | extend id leaseToken lease => exact .of_leasedTo (Bool.and_elim_left h) rfl
  | requireBrowser id leaseToken message => exact .of_leasedTo h rfl
  | complete id leaseToken minFresh =>
    exact .of_leasedTo (Bool.and_elim_left (Bool.and_elim_left h)) rfl
  | defer id leaseToken retryAfter message => exact .of_leasedTo h rfl
  | archive id inUse =>
    simp only [hits, Bool.and_eq_true, decide_eq_true_eq] at h
    obtain ⟨⟨⟨rfl, hactive⟩, -⟩, -⟩ := h
    exact .archived hactive inUse
  | account op direct =>
    cases op with
    | failRefresh id leaseToken retryAfter message => exact .of_leasedTo h rfl
    | terminalFailRefresh id leaseToken message attemptedFingerprint =>
      exact .of_leasedTo (Bool.and_elim_left h) rfl
    | _ => cases h
  | _ => cases h

theorem completed_accountID (now minFresh tokenExpiresAt leaseStartedAt : Time)
    (a : SessionAccount) (j : SessionRefreshJob) :
    (j.completed now minFresh tokenExpiresAt leaseStartedAt a).accountID = j.accountID := by
  unfold SessionRefreshJob.completed
  split_ifs <;> rfl

theorem sets_accountID (op : RefreshOperation) (j : SessionRefreshJob) :
    (op.sets now s j).accountID = j.accountID := by
  cases op with
  | complete id leaseToken minFresh =>
    simp only [sets]
    split
    · exact completed_accountID _ _ _ _ _ _
    · rfl
  | account op direct =>
    cases op with
    | terminalFailRefresh =>
      simp only [sets]
      split <;> rfl
    | _ => rfl
  | _ => rfl

/-- An active job after an operation was active before. -/
theorem active_before (hj : s.jobs.get? k = some j)
    (h : (if op.hits now s j then op.sets now s j else j).active = true) : j.active = true := by
  by_cases hhits : op.hits now s j = true
  · exact (entitled_of_hits hj hhits).active
  · simpa [hhits] using h

theorem singleActive_apply (op : RefreshOperation) (h : s.SingleActive) :
    (op.apply now s).SingleActive := by
  cases hop : op.enqueues with
  | false =>
    refine h.of_rows fun l hl hactive => ?_
    rw [get?_jobs hop] at hl
    obtain ⟨j, hj, hset⟩ := Option.map_eq_some_iff.mp hl
    have hbefore : (if op.hits now s j then op.sets now s j else j).active = true := by
      rw [hset]
      exact hactive
    refine ⟨j, hj, ?_, active_before hj hbefore⟩
    rw [← hset]
    split
    · exact (sets_accountID op j).symm
    · rfl
  | true =>
    cases op with
    | enqueueDue due newID =>
      exact forM_insertJob_induction _ (fun _ _ ht => ht.insertJob _) _ s h
    | enqueue accountID priority stage newID =>
      have hinserted : (inserted now accountID priority stage newID s).SingleActive :=
        inserted_induction (fun ht => ht.insertJob _) h
      rw [apply, enqueueSessionRefreshJob_snd]
      split
      · exact hinserted
      · next job _ =>
        refine hinserted.of_rows fun l hl hactive => ?_
        have hmodify : (if l.id = job.id then
            ((inserted now accountID priority stage newID s).jobs.get? l.id).map
              (raiseJob now priority stage)
            else (inserted now accountID priority stage newID s).jobs.get? l.id) = some l :=
          (Table.get?_modify _ job.id _ (key_of_job (raiseJob_id now priority stage)) _).symm.trans hl
        split_ifs at hmodify
        · obtain ⟨j, hj, hset⟩ := Option.map_eq_some_iff.mp hmodify
          refine ⟨j, hj, ?_, ?_⟩
          · rw [← hset, raiseJob_accountID]
          · rwa [← hset, raiseJob_active] at hactive
        · exact ⟨l, hmodify, rfl, hactive⟩
    | _ => cases hop

/-- Without the lease that the token names nothing changes. -/
theorem apply_of_no_lease {id leaseToken : UUID} (hpresents : op.presents = some (id, leaseToken))
    (hnone : s.leasedJob id leaseToken = none) : op.apply now s = s := by
  have hupdate (f : SessionRefreshJob → SessionRefreshJob) (hf : ∀ j, (f j).id = j.id) :
      (updateLeasedJob id leaseToken f hf s).2 = s := by
    rw [updateLeasedJob, read_store, hnone]
    rfl
  cases op with
  | extend id' leaseToken' lease =>
    cases hpresents
    change (Prod.snd ((if (s.leasedJob id leaseToken).any fun j =>
      j.leaseExpiresAt.any fun e => now < e then _ else _ : StateM SessionStore Bool) s)) = s
    rw [hnone]
    rfl
  | requireBrowser =>
    cases hpresents
    exact hupdate _ _
  | defer =>
    cases hpresents
    exact hupdate _ _
  | complete id' leaseToken' minFresh =>
    cases hpresents
    rw [apply, completeSessionRefreshJob, read_store, hnone]
    rfl
  | account op direct =>
    cases op with
    | failRefresh =>
      cases hpresents
      rw [apply, AccountOperation.apply, failSessionRefreshJob, read_store, hnone]
      rfl
    | terminalFailRefresh =>
      cases hpresents
      rw [apply, AccountOperation.apply, terminalFailSessionRefreshJob, read_store, hnone]
      rfl
    | _ => cases hpresents
  | _ => cases hpresents

/-! ### Jobs that succeed -/

theorem completed_not_leased {minFresh tokenExpiresAt leaseStartedAt : Time} {a : SessionAccount} :
    (j.completed now minFresh tokenExpiresAt leaseStartedAt a).status ≠ .leased := by
  unfold SessionRefreshJob.completed
  intro h
  split at h
  · cases h
  · split at h
    · cases h
    · split at h <;> cases h

theorem completed_succeeded {minFresh tokenExpiresAt leaseStartedAt : Time} {a : SessionAccount}
    (h : (j.completed now minFresh tokenExpiresAt leaseStartedAt a).status = .succeeded) :
    a.pendingCookieJSON = "" ∧ now + minFresh < tokenExpiresAt ∧
      ∃ t, a.lastCheckedAt = some t ∧ leaseStartedAt ≤ t := by
  unfold SessionRefreshJob.completed at h
  split at h
  · cases h
  · next hpending =>
    split at h
    · cases h
    · next hrotation =>
      split at h
      · next hchecked =>
        obtain ⟨t, ht, hle⟩ := (Option.any_eq_true _ _).mp hchecked
        exact ⟨not_not.mp hpending, lt_of_not_ge hrotation, t, ht, of_decide_eq_true hle⟩
      · cases h

/-- The state in which a job succeeds. -/
structure Succeeds (now : Time) (s : SessionStore) (j : SessionRefreshJob)
    (op : RefreshOperation) (a : SessionAccount) (expiry started checked : Time) : Prop where
  completes : ∃ leaseToken minFresh, op = .complete j.id leaseToken minFresh ∧
    j.leasedTo leaseToken = true ∧ now + minFresh < expiry
  account : s.accounts.get? j.accountID = some a
  accessTokenExpiresAt : a.accessTokenExpiresAt = some expiry
  pendingCookieJSON : a.pendingCookieJSON = ""
  leaseStartedAt : j.leaseStartedAt = some started
  lastCheckedAt : a.lastCheckedAt = some checked
  refreshed : started ≤ checked

theorem sets_succeeded (hhits : op.hits now s j = true)
    (h : (op.sets now s j).status = .succeeded) (hbefore : j.status ≠ .succeeded) :
    ∃ a expiry started checked, Succeeds now s j op a expiry started checked := by
  cases op with
  | complete id leaseToken minFresh =>
    simp only [hits, Bool.and_eq_true, decide_eq_true_eq, Option.any_eq_true,
      Option.isSome_iff_exists] at hhits
    obtain ⟨⟨⟨rfl, hleased⟩, started, hstarted⟩, a, haccount, expiry, hexpiry, -⟩ := hhits
    simp only [sets, haccount, hstarted, hexpiry, Option.getD_some] at h
    obtain ⟨hpending, hlate, checked, hchecked, hle⟩ := completed_succeeded h
    exact ⟨a, expiry, started, checked, ⟨leaseToken, minFresh, rfl, hleased, hlate⟩, haccount, hexpiry,
      hpending, hstarted, hchecked, hle⟩
  | account op direct =>
    cases op with
    | terminalFailRefresh =>
      simp only [sets] at h
      split at h <;> cases h
    | failRefresh => cases h
    | _ => exact absurd h hbefore
  | enqueue | extend => exact absurd h hbefore
  | recoverExpired | claim | requireBrowser | defer | archive => cases h
  | _ => exact absurd h hbefore

/-! ### When the balance was stored, and when the lease began -/

/-- The operation stores a balance of the account. -/
def storesBalance (s : SessionStore) (id : UUID) : RefreshOperation → Bool
  | account (.updateTokens k version _ _) _ | account (.updateSession k version _ _ _ _) _ =>
    decide (k = id) && (s.accounts.get? id).any fun a => a.balanceRefreshVersion = version
  | _ => false

theorem setsAccount_lastCheckedAt {id : UUID} {a : SessionAccount}
    (ha : s.accounts.get? id = some a) :
    (op.setsAccount now s a).lastCheckedAt = a.lastCheckedAt ∨
      op.storesBalance s id = true ∧ (op.setsAccount now s a).lastCheckedAt = some now := by
  have hid : a.id = id := id_of_get?_accounts ha
  cases op with
  | account op direct =>
    cases op with
    | updateTokens k version startedAt credits =>
      simp only [setsAccount]
      split
      · next hhits =>
        simp only [AccountOperation.hits, Bool.and_eq_true, decide_eq_true_eq] at hhits
        have hk : k = id := hhits.1.symm.trans hid
        exact Or.inr ⟨by simp [storesBalance, hk, ha, hhits.2], rfl⟩
      · exact Or.inl rfl
    | updateSession k version expiry startedAt credits lastErr =>
      simp only [setsAccount]
      split
      · next hhits =>
        simp only [AccountOperation.hits, decide_eq_true_eq] at hhits
        have hk : k = id := hhits.symm.trans hid
        by_cases hfresh : a.balanceRefreshVersion = version
        · exact Or.inr ⟨by simp [storesBalance, hk, ha, hfresh],
            by simp [AccountOperation.sets, SessionAccount.withSession, hfresh]⟩
        · exact Or.inl (by simp [AccountOperation.sets, SessionAccount.withSession, hfresh])
      · exact Or.inl rfl
    | updateSessionCredentials => cases direct
    | _ =>
      simp only [setsAccount]
      split <;> exact Or.inl rfl
  | importCookies =>
    refine Or.inl ?_
    simp only [setsAccount]
    split
    · split <;> rfl
    · rfl
  | complete | archive | importSession | storeCookies =>
    refine Or.inl ?_
    simp only [setsAccount]
    split <;> rfl
  | _ => exact Or.inl rfl

theorem lastCheckedAt_apply {id : UUID} {a' : SessionAccount} {t : Time}
    (h : (op.apply now s).accounts.get? id = some a') (ht : a'.lastCheckedAt = some t) :
    (∃ a, s.accounts.get? id = some a ∧ a.lastCheckedAt = some t) ∨
      op.storesBalance s id = true ∧ t = now := by
  cases hop : op.creates with
  | false =>
    rw [get?_accounts hop id] at h
    obtain ⟨a, ha, rfl⟩ := Option.map_eq_some_iff.mp h
    have hcases : (op.setsAccount now s a).lastCheckedAt = a.lastCheckedAt ∨
        op.storesBalance s id = true ∧ (op.setsAccount now s a).lastCheckedAt = some now :=
      setsAccount_lastCheckedAt ha
    rcases hcases with hsame | ⟨hstores, hnow⟩
    · exact Or.inl ⟨a, ha, hsame ▸ ht⟩
    · rw [hnow] at ht
      exact Or.inr ⟨hstores, (Option.some.inj ht).symm⟩
  | true =>
    cases op with
    | createAccount b =>
      change (createProviderAccount b s).2.accounts.get? id = some a' at h
      unfold createProviderAccount at h
      split at h
      · next accounts hinsert =>
        have hrow := (Table.get?_insert? hinsert id).symm.trans h
        split_ifs at hrow
        · cases hrow
          cases ht
        · exact Or.inl ⟨a', hrow, ht⟩
      · exact Or.inl ⟨a', h, ht⟩
    | _ => cases hop

/-- A lease after an operation is a new one, or began when it began before. -/
theorem lease_before {j' : SessionRefreshJob}
    (hj' : (if op.hits now s j then op.sets now s j else j) = j') (hleased : j'.status = .leased) :
    j.status = .leased ∧ j'.leaseToken = j.leaseToken ∧ j'.leaseStartedAt = j.leaseStartedAt ∨
      ∃ stage owner workerGroup lease leaseToken skip,
        op = .claim stage owner workerGroup lease leaseToken skip ∧
          j'.leaseToken = some leaseToken ∧ j'.leaseStartedAt = some now := by
  subst hj'
  split at hleased
  · next hhits =>
    rw [if_pos hhits]
    cases op with
    | claim stage owner workerGroup lease leaseToken skip =>
      exact Or.inr ⟨stage, owner, workerGroup, lease, leaseToken, skip, rfl, rfl, rfl⟩
    | complete id leaseToken minFresh =>
      simp only [hits, Bool.and_eq_true, Option.any_eq_true, Option.isSome_iff_exists] at hhits
      obtain ⟨⟨-, started, hstarted⟩, a, haccount, -⟩ := hhits
      simp only [sets, haccount, hstarted] at hleased
      exact absurd hleased completed_not_leased
    | enqueue | extend => exact Or.inl ⟨hleased, rfl, rfl⟩
    | account op direct =>
      cases op with
      | terminalFailRefresh =>
        simp only [sets] at hleased
        split at hleased <;> cases hleased
      | failRefresh => cases hleased
      | _ => exact Or.inl ⟨hleased, rfl, rfl⟩
    | recoverExpired | requireBrowser | defer | archive => cases hleased
    | _ => exact Or.inl ⟨hleased, rfl, rfl⟩
  · next hmiss =>
    rw [if_neg hmiss]
    exact Or.inl ⟨hleased, rfl, rfl⟩

end RefreshOperation

end GenerationGateway
