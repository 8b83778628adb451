import GenerationGateway.Accounts.RefreshJobs

/-!
# What an operation does to the refresh jobs and to the accounts

Any number of workers, schedulers and administrators take turns on the queue. An existing
job is changed as a function of its row, and only by the operations that hit it; a new job
is pending, and its account had no active one.
-/

namespace GenerationGateway

open Relational Transitions

/-- The update that only `ImportBrowserSession` makes. -/
def AccountOperation.imports : AccountOperation → Bool
  | updateSessionCredentials _ _ _ _ _ _ => true
  | _ => false

inductive RefreshOperation
  | createAccount (a : SessionAccount)
  | enqueueDue (due : SessionAccount → Bool) (newID : UUID → UUID)
  | enqueue (accountID : UUID) (priority : ℤ) (stage : RefreshStage) (newID : UUID)
  | recoverExpired
  | claim (stage : RefreshStage) (owner workerGroup : String) (lease : Time) (leaseToken : UUID)
    (skip : UUID → Bool)
  | extend (id leaseToken : UUID) (lease : Time)
  | requireBrowser (id leaseToken : UUID) (message : String)
  | complete (id leaseToken : UUID) (minFresh : Time)
  | defer (id leaseToken : UUID) (retryAfter : Time) (message : String)
  | archive (id : UUID) (inUse : Bool)
  | importCookies (id : UUID) (document : CookieDocument)
  | importSession (id : UUID) (session : BrowserSession)
  | storeCookies (id : UUID) (ciphertext : String)
  /-- The other automatic updates; a failed refresh is one of them. -/
  | account (op : AccountOperation) (direct : op.imports = false)

/-- `INSERT INTO accounts`, under a key that is free. -/
def createProviderAccount (a : SessionAccount) : StateM SessionStore Unit := fun s =>
  match s.accounts.insert? a.created with
  | some accounts => ((), { s with accounts := accounts })
  | none => ((), s)

namespace RefreshOperation

def apply (now : Time) : RefreshOperation → SessionStore → SessionStore
  | createAccount a, s => (createProviderAccount a s).2
  | enqueueDue due newID, s => (enqueueDueSessionRefreshJobs now due newID s).2
  | enqueue accountID priority stage newID, s =>
    (enqueueSessionRefreshJob now accountID priority stage newID s).2
  | recoverExpired, s => (recoverExpiredSessionRefreshJobs now s).2
  | claim stage owner workerGroup lease leaseToken skip, s =>
    (claimSessionRefreshJob now stage owner workerGroup lease leaseToken skip s).2
  | extend id leaseToken lease, s => (extendSessionRefreshLease now id leaseToken lease s).2
  | requireBrowser id leaseToken message, s =>
    (requireBrowserSessionRefresh now id leaseToken message s).2
  | complete id leaseToken minFresh, s => (completeSessionRefreshJob now id leaseToken minFresh s).2
  | defer id leaseToken retryAfter message, s =>
    (deferSessionRefreshJob now id leaseToken retryAfter message s).2
  | archive id inUse, s => (SessionStore.archiveAccount now id inUse s).2
  | importCookies id document, s => (importAccountCookieJSON id document s).2
  | importSession id session, s => (importBrowserSession now id session s).2
  | storeCookies id ciphertext, s => (storeCreativeFabricaCookies id ciphertext s).2
  | account op _, s => op.apply now s

/-- The job and the lease token that the caller presents. -/
def presents : RefreshOperation → Option (UUID × UUID)
  | extend id leaseToken _ | requireBrowser id leaseToken _ | complete id leaseToken _
  | defer id leaseToken _ _ | account (.failRefresh id leaseToken _ _) _
  | account (.terminalFailRefresh id leaseToken _ _) _ => some (id, leaseToken)
  | _ => none

/-- The operations that may insert a job. -/
def enqueues : RefreshOperation → Bool
  | enqueueDue _ _ | enqueue _ _ _ _ => true
  | _ => false

/-- The operation updates the job. -/
def hits (now : Time) (s : SessionStore) (j : SessionRefreshJob) : RefreshOperation → Bool
  | enqueue accountID _ _ _ =>
    decide (j.status = .pending) && (s.activeJob accountID).any fun k => k.id = j.id
  | recoverExpired => j.leaseExpired now
  | claim stage _ workerGroup _ _ skip =>
    (s.claimCandidate now stage workerGroup skip).any fun k => k.id = j.id
  | extend id leaseToken _ =>
    decide (j.id = id) && j.leasedTo leaseToken && j.leaseExpiresAt.any fun e => now < e
  | requireBrowser id leaseToken _ | defer id leaseToken _ _
  | account (.failRefresh id leaseToken _ _) _ => decide (j.id = id) && j.leasedTo leaseToken
  | complete id leaseToken _ =>
    decide (j.id = id) && j.leasedTo leaseToken && j.leaseStartedAt.isSome &&
      (s.accounts.get? j.accountID).any fun a => a.accessTokenExpiresAt.any fun e => now < e
  | account (.terminalFailRefresh id leaseToken _ _) _ =>
    decide (j.id = id) && j.leasedTo leaseToken && (s.accounts.get? j.accountID).isSome
  | archive id inUse =>
    decide (j.accountID = id) && j.active && !inUse &&
      (s.accounts.get? id).any fun a => a.archivedAt.isNone
  | _ => false

/-- What the operation makes of such a job. -/
def sets (now : Time) (s : SessionStore) (j : SessionRefreshJob) :
    RefreshOperation → SessionRefreshJob
  | enqueue _ priority stage _ => j.raised now priority stage
  | recoverExpired => j.recovered now
  | claim _ owner _ lease leaseToken _ => j.leased now owner leaseToken lease
  | extend _ _ lease => { j with leaseExpiresAt := some (now + lease) }
  | requireBrowser _ _ message => j.browserRequired now (truncateRefreshError message)
  | defer _ _ retryAfter message =>
    j.deferred now (if retryAfter < seconds 1 then seconds 1 else retryAfter)
      (truncateRefreshError message)
  | account (.failRefresh _ _ retryAfter message) _ =>
    j.failed now (refreshRetry retryAfter) (truncateRefreshError message)
  | complete _ _ minFresh =>
    match s.accounts.get? j.accountID, j.leaseStartedAt with
    | some a, some leaseStartedAt =>
      j.completed now minFresh (a.accessTokenExpiresAt.getD 0) leaseStartedAt a
    | _, _ => j
  | account (.terminalFailRefresh _ _ message attemptedFingerprint) _ =>
    if (s.accounts.get? j.accountID).any fun a => a.untriedCookies attemptedFingerprint then
      j.tryCookies now
    else j.failedForGood now (truncateRefreshError message)
  | archive _ _ => j.archived now
  | _ => j

end RefreshOperation

namespace BrowserSession

/-- The session passes the checks before the statement and meets its WHERE. -/
def applies (now : Time) (a : SessionAccount) (session : BrowserSession) : Bool :=
  decide (now < session.accessTokenExpiry) &&
    (!session.promoteCookieJSON || decide (session.cookieJSONFingerprint ≠ "") &&
      decide (a.pendingFingerprint = session.cookieJSONFingerprint))

end BrowserSession

namespace RefreshOperation

/-- What the operation makes of an account that exists. -/
def setsAccount (now : Time) (s : SessionStore) (a : SessionAccount) :
    RefreshOperation → SessionAccount
  | complete id leaseToken minFresh =>
    if (s.jobs.get? id).any fun j =>
        hits now s j (.complete id leaseToken minFresh) && decide (j.accountID = a.id) then
      a.refreshSucceeded
    else a
  | archive id inUse =>
    if decide (a.id = id) && !inUse && a.archivedAt.isNone then a.archived now else a
  | importCookies id document =>
    if a.id = id then
      if a.providerID.importsDirectly then a.withCookies document.ciphertext
      else a.withPendingCookies document
    else a
  | importSession id session =>
    if decide (a.id = id) && session.applies now a then
      a.withCredentials now session.cookieJSON session.persistCookieJSON session.promoteCookieJSON
        session.accessTokenExpiry
    else a
  | storeCookies id ciphertext =>
    if decide (a.id = id) && decide (a.providerID = .creativefabrica) then a.withCookies ciphertext
    else a
  | account op _ => if op.hits now s a then op.sets now a else a
  | _ => a

/-- The operation that inserts an account. -/
def creates : RefreshOperation → Bool
  | createAccount _ => true
  | _ => false

end RefreshOperation

/-! ### The existing jobs -/

section Jobs

variable {s : SessionStore} {now : Time} {j job : SessionRefreshJob} {id leaseToken k : UUID}
  {f : SessionRefreshJob → SessionRefreshJob} {p : SessionRefreshJob → Bool}

theorem key_of_job (hf : ∀ j, (f j).id = j.id) (j : SessionRefreshJob) :
    Keyed.key (f j) = Keyed.key j := hf j

theorem get?_updateJobs (hf : ∀ j, (f j).id = j.id) :
    (s.jobs.updateWhere p f (key_of_job hf)).get? k =
      (s.jobs.get? k).map fun j => if p j then f j else j :=
  Table.get?_updateWhere _ _ _ _ _

theorem id_of_get?_jobs (h : s.jobs.get? k = some j) : j.id = k := Table.key_of_get? h

theorem SessionStore.leasedJob_eq_some_iff :
    s.leasedJob id leaseToken = some job ↔
      s.jobs.get? id = some job ∧ job.leasedTo leaseToken = true :=
  Option.filter_eq_some_iff

/-- Only the leased job is modified. -/
theorem get?_modify_leased {g : SessionRefreshJob → SessionRefreshJob} (hf : ∀ j, (f j).id = j.id)
    (h : s.leasedJob id leaseToken = some job) (hg : f job = g job) (hp : p job = true) :
    (s.jobs.modify id f hf).get? k = (s.jobs.get? k).map fun j =>
      if decide (j.id = id) && j.leasedTo leaseToken && p j then g j else j := by
  obtain ⟨hjob, hleased⟩ := SessionStore.leasedJob_eq_some_iff.mp h
  rw [Table.modify, Table.get?_updateWhere]
  apply Option.map_congr
  intro j hj
  by_cases hid : j.id = id
  · rw [← hid, id_of_get?_jobs hj, hj] at hjob
    cases hjob
    simp [hid, hleased, hp, hg, Keyed.key]
  · simp [hid, Keyed.key]

/-- No job that meets `p` is leased under the token. -/
theorem get?_of_not_leased (f : SessionRefreshJob → SessionRefreshJob)
    (h : ∀ job, s.leasedJob id leaseToken = some job → p job = false) :
    s.jobs.get? k = (s.jobs.get? k).map fun j =>
      if decide (j.id = id) && j.leasedTo leaseToken && p j then f j else j := by
  apply AccountOperation.map_of_none
  intro j hj
  by_cases hleased : j.id = id ∧ j.leasedTo leaseToken = true
  · have hkey : j.id = k := id_of_get?_jobs hj
    have hp := h j (SessionStore.leasedJob_eq_some_iff.mpr ⟨hleased.1 ▸ hkey ▸ hj, hleased.2⟩)
    simp [hp]
  · simpa using fun hid htoken => absurd ⟨hid, htoken⟩ hleased

theorem get?_modify_leasedJob (hf : ∀ j, (f j).id = j.id)
    (h : s.leasedJob id leaseToken = some job) :
    (s.jobs.modify id f hf).get? k = (s.jobs.get? k).map fun j =>
      if decide (j.id = id) && j.leasedTo leaseToken then f j else j := by
  simpa using get?_modify_leased (g := f) (p := fun _ => true) (k := k) hf h rfl rfl

theorem get?_of_no_lease (f : SessionRefreshJob → SessionRefreshJob)
    (h : s.leasedJob id leaseToken = none) :
    s.jobs.get? k = (s.jobs.get? k).map fun j =>
      if decide (j.id = id) && j.leasedTo leaseToken then f j else j := by
  simpa using get?_of_not_leased (p := fun _ => true) (k := k) f fun job hjob => by
    cases h.symm.trans hjob

theorem get?_updateLeasedJob (hf : ∀ j, (f j).id = j.id) :
    (updateLeasedJob id leaseToken f hf s).2.jobs.get? k = (s.jobs.get? k).map fun j =>
      if decide (j.id = id) && j.leasedTo leaseToken then f j else j := by
  rw [updateLeasedJob, read_store]
  cases hjob : s.leasedJob id leaseToken with
  | none => exact get?_of_no_lease f hjob
  | some job => exact get?_modify_leasedJob hf hjob

theorem get?_extendSessionRefreshLease {lease : Time} :
    (extendSessionRefreshLease now id leaseToken lease s).2.jobs.get? k =
      (s.jobs.get? k).map fun j =>
        if decide (j.id = id) && j.leasedTo leaseToken && j.leaseExpiresAt.any fun e => now < e then
          { j with leaseExpiresAt := some (now + lease) } else j := by
  let live (j : SessionRefreshJob) : Bool := j.leaseExpiresAt.any fun e => now < e
  let extended (j : SessionRefreshJob) : SessionRefreshJob :=
    { j with leaseExpiresAt := some (now + lease) }
  change (Prod.snd ((if (s.leasedJob id leaseToken).any live then _ else _ :
    StateM SessionStore Bool) s)).jobs.get? k = _
  split
  · next hlive =>
    obtain ⟨job, hjob, hexpiry⟩ := (Option.any_eq_true _ _).mp hlive
    exact get?_modify_leased (f := extended) (g := extended) (p := live) (fun _ => rfl) hjob rfl
      hexpiry
  · next hdead =>
    refine get?_of_not_leased (s := s) (p := live) extended fun job hjob => ?_
    simpa [hjob] using hdead

theorem get?_failSessionRefreshJob_jobs {retryAfter : Time} {message : String} :
    (failSessionRefreshJob now id leaseToken retryAfter message s).2.jobs.get? k =
      (s.jobs.get? k).map fun j => if decide (j.id = id) && j.leasedTo leaseToken then
        j.failed now (refreshRetry retryAfter) (truncateRefreshError message) else j := by
  let failed := SessionRefreshJob.failed now (refreshRetry retryAfter) (truncateRefreshError message)
  rw [failSessionRefreshJob, read_store]
  cases hjob : s.leasedJob id leaseToken with
  | none => exact get?_of_no_lease failed hjob
  | some job => exact get?_modify_leasedJob (f := failed) (fun _ => rfl) hjob

theorem get?_terminalFailSessionRefreshJob_jobs {message attemptedFingerprint : String} :
    (terminalFailSessionRefreshJob now id leaseToken message attemptedFingerprint s).2.jobs.get? k =
      (s.jobs.get? k).map fun j =>
        if decide (j.id = id) && j.leasedTo leaseToken && (s.accounts.get? j.accountID).isSome then
          if (s.accounts.get? j.accountID).any fun a => a.untriedCookies attemptedFingerprint then
            j.tryCookies now
          else j.failedForGood now (truncateRefreshError message)
        else j := by
  let found (j : SessionRefreshJob) : Bool := (s.accounts.get? j.accountID).isSome
  let ended (j : SessionRefreshJob) : SessionRefreshJob :=
    if (s.accounts.get? j.accountID).any fun a => a.untriedCookies attemptedFingerprint then
      j.tryCookies now
    else j.failedForGood now (truncateRefreshError message)
  rw [terminalFailSessionRefreshJob, read_store]
  cases hjob : s.leasedJob id leaseToken with
  | none =>
    refine get?_of_not_leased (s := s) (p := found) ended fun job h => ?_
    cases hjob.symm.trans h
  | some job =>
    dsimp only
    cases haccount : s.accounts.get? job.accountID with
    | none =>
      refine get?_of_not_leased (s := s) (p := found) ended fun job' h => ?_
      cases hjob.symm.trans h
      simp [found, haccount]
    | some a =>
      have hfound : found job = true := by simp [found, haccount]
      by_cases huntried : a.untriedCookies attemptedFingerprint = true
      · simp only [huntried, if_true]
        exact get?_modify_leased (f := SessionRefreshJob.tryCookies now) (g := ended) (p := found)
          (fun _ => rfl) hjob (by simp [ended, haccount, huntried]) hfound
      · simp only [huntried]
        exact get?_modify_leased
          (f := SessionRefreshJob.failedForGood now (truncateRefreshError message)) (g := ended)
          (p := found) (fun _ => rfl) hjob (by simp [ended, haccount, huntried]) hfound

theorem get?_completeSessionRefreshJob_jobs {minFresh : Time} :
    (completeSessionRefreshJob now id leaseToken minFresh s).2.jobs.get? k =
      (s.jobs.get? k).map fun j =>
        if RefreshOperation.hits now s j (.complete id leaseToken minFresh) then
          RefreshOperation.sets now s j (.complete id leaseToken minFresh) else j := by
  let fresh (j : SessionRefreshJob) : Bool := j.leaseStartedAt.isSome &&
    (s.accounts.get? j.accountID).any fun a => a.accessTokenExpiresAt.any fun e => now < e
  let ended (j : SessionRefreshJob) : SessionRefreshJob :=
    RefreshOperation.sets now s j (.complete id leaseToken minFresh)
  have hhits : (fun j => if RefreshOperation.hits now s j (.complete id leaseToken minFresh) then
      ended j else j) =
      fun j => if decide (j.id = id) && j.leasedTo leaseToken && fresh j then ended j else j := by
    funext j
    simp only [RefreshOperation.hits, fresh, Bool.and_assoc]
  refine Eq.trans ?_ (congrArg (Option.map · (s.jobs.get? k)) hhits.symm)
  rw [completeSessionRefreshJob, read_store]
  cases hjob : s.leasedJob id leaseToken with
  | none =>
    refine get?_of_not_leased (s := s) (p := fresh) ended fun job h => ?_
    cases hjob.symm.trans h
  | some job =>
    have hstale (h : fresh job = false) : s.jobs.get? k = (s.jobs.get? k).map fun j =>
        if decide (j.id = id) && j.leasedTo leaseToken && fresh j then ended j else j := by
      refine get?_of_not_leased (p := fresh) ended fun job' h' => ?_
      cases hjob.symm.trans h'
      exact h
    dsimp only
    cases haccount : s.accounts.get? job.accountID with
    | none => exact hstale (by simp [fresh, haccount])
    | some a =>
      dsimp only
      cases hexpiry : a.accessTokenExpiresAt with
      | none => exact hstale (by simp [fresh, haccount, hexpiry])
      | some e =>
        cases hstart : job.leaseStartedAt with
        | none => exact hstale (by simp [fresh, hstart])
        | some l =>
          by_cases hlate : e ≤ now
          · simp only [hlate, if_true]
            exact hstale (by simp [fresh, haccount, hexpiry, hlate])
          · simp only [hlate, if_false]
            exact get?_modify_leased (p := fresh) (g := ended)
              (SessionRefreshJob.completed_id now minFresh e l a) hjob
              (by simp [ended, RefreshOperation.sets, haccount, hexpiry, hstart])
              (by simpa [fresh, haccount, hexpiry, hstart] using hlate)

theorem get?_claimSessionRefreshJob {stage : RefreshStage} {owner workerGroup : String}
    {lease : Time} {skip : UUID → Bool} :
    (claimSessionRefreshJob now stage owner workerGroup lease leaseToken skip s).2.jobs.get? k =
      (s.jobs.get? k).map fun j =>
        if (s.claimCandidate now stage workerGroup skip).any fun c => c.id = j.id then
          j.leased now owner leaseToken lease else j := by
  rw [claimSessionRefreshJob, read_store]
  cases hcandidate : s.claimCandidate now stage workerGroup skip with
  | none => exact Option.map_id_apply.symm
  | some candidate =>
    change (s.jobs.modify candidate.id (SessionRefreshJob.leased now owner leaseToken lease)
      fun _ => rfl).get? k = _
    refine (get?_updateJobs (f := SessionRefreshJob.leased now owner leaseToken lease)
      fun _ => rfl).trans (Option.map_congr ?_)
    intro j hj
    simp [Keyed.key, eq_comm]

theorem get?_archiveAccount_jobs {inUse : Bool} :
    (SessionStore.archiveAccount now id inUse s).2.jobs.get? k = (s.jobs.get? k).map fun j =>
      if decide (j.accountID = id) && j.active && !inUse &&
          (s.accounts.get? id).any fun a => a.archivedAt.isNone then
        j.archived now else j := by
  rw [SessionStore.archiveAccount, read_store]
  cases haccount : s.accounts.get? id with
  | none => exact AccountOperation.map_of_none _ fun j _ => by simp
  | some a =>
    by_cases hrefused : (a.archivedAt.isSome || inUse) = true
    · simp only [hrefused, if_true]
      apply AccountOperation.map_of_none
      intro j hj
      cases harchived : a.archivedAt with
      | none => simp_all
      | some t => simp [harchived]
    · simp only [hrefused]
      refine (get?_updateJobs (p := fun j => decide (j.accountID = id) && j.active)
        (f := SessionRefreshJob.archived now) fun _ => rfl).trans (Option.map_congr ?_)
      intro j hj
      simp_all

end Jobs

namespace RefreshOperation

variable {s : SessionStore} {now : Time}

/-- Without an insertion an operation is a function on each job. -/
theorem get?_jobs {op : RefreshOperation} (h : op.enqueues = false) (k : UUID) :
    (op.apply now s).jobs.get? k =
      (s.jobs.get? k).map fun j => if op.hits now s j then op.sets now s j else j := by
  have hsame : s.jobs.get? k = (s.jobs.get? k).map fun j =>
      if false then op.sets now s j else j := Option.map_id_apply.symm
  cases op with
  | enqueueDue | enqueue => cases h
  | recoverExpired => exact get?_updateJobs (f := SessionRefreshJob.recovered now) fun _ => rfl
  | claim => exact get?_claimSessionRefreshJob
  | extend => exact get?_extendSessionRefreshLease
  | requireBrowser id leaseToken message =>
    exact get?_updateLeasedJob
      (f := SessionRefreshJob.browserRequired now (truncateRefreshError message)) fun _ => rfl
  | defer id leaseToken retryAfter message =>
    exact get?_updateLeasedJob (f := SessionRefreshJob.deferred now
      (if retryAfter < seconds 1 then seconds 1 else retryAfter) (truncateRefreshError message))
      fun _ => rfl
  | complete => exact get?_completeSessionRefreshJob_jobs
  | archive => exact get?_archiveAccount_jobs
  | createAccount a =>
    refine Eq.trans (congrArg (Table.get? · k) ?_) hsame
    change (createProviderAccount a s).2.jobs = s.jobs
    unfold createProviderAccount
    split <;> rfl
  | importCookies id document =>
    refine Eq.trans (congrArg (Table.get? · k) ?_) hsame
    rw [apply, importAccountCookieJSON, read_store]
    cases s.accounts.get? id with
    | none => rfl
    | some a =>
      dsimp only
      split <;> rfl
  | importSession id session =>
    refine Eq.trans (congrArg (Table.get? · k) ?_) hsame
    change (importBrowserSession now id session s).2.jobs = s.jobs
    unfold importBrowserSession
    split
    · rfl
    · split <;> rfl
  | storeCookies id ciphertext =>
    refine Eq.trans (congrArg (Table.get? · k) ?_) hsame
    change (Prod.snd ((if (s.accounts.get? id).any fun a => a.providerID = .creativefabrica then _
      else return () : StateM SessionStore Unit) s)).jobs = s.jobs
    split <;> rfl
  | account op direct =>
    cases op with
    | updateSessionCredentials => cases direct
    | failRefresh => exact get?_failSessionRefreshJob_jobs
    | terminalFailRefresh => exact get?_terminalFailSessionRefreshJob_jobs
    | _ => exact hsame

/-! ### The accounts -/

theorem insertJob_accounts (j : SessionRefreshJob) (s : SessionStore) :
    (insertJob j s).2.accounts = s.accounts := by
  unfold insertJob
  split <;> rfl

theorem forM_insertJob_accounts {α : Type} (f : α → SessionRefreshJob) (l : List α)
    (s : SessionStore) :
    (l.forM (fun a => insertJob (f a)) s).2.accounts = s.accounts := by
  induction l generalizing s with
  | nil => rfl
  | cons a l ih => exact (ih _).trans (insertJob_accounts _ _)

/-- The store after the INSERT of `enqueueSessionRefreshJob`. -/
def inserted (now : Time) (accountID : UUID) (priority : ℤ) (stage : RefreshStage) (newID : UUID)
    (s : SessionStore) : SessionStore :=
  if (s.accounts.get? accountID).any SessionAccount.refreshable then
    (insertJob (.queued newID accountID stage priority now) s).2
  else s

/-- The UPDATE of `enqueueSessionRefreshJob`. -/
def raiseJob (now : Time) (priority : ℤ) (stage : RefreshStage) (j : SessionRefreshJob) :
    SessionRefreshJob :=
  if j.status = .pending then j.raised now priority stage else j

theorem raiseJob_id (now : Time) (priority : ℤ) (stage : RefreshStage) (j : SessionRefreshJob) :
    (raiseJob now priority stage j).id = j.id := by
  unfold raiseJob
  split <;> rfl

theorem enqueueSessionRefreshJob_snd (now : Time) (accountID : UUID) (priority : ℤ)
    (stage : RefreshStage) (newID : UUID) (s : SessionStore) :
    (enqueueSessionRefreshJob now accountID priority stage newID s).2 =
      match (inserted now accountID priority stage newID s).activeJob accountID with
      | none => inserted now accountID priority stage newID s
      | some job => (updateJob job.id (raiseJob now priority stage)
          (raiseJob_id now priority stage) (inserted now accountID priority stage newID s)).2 := by
  change Prod.snd ((if (s.accounts.get? accountID).any SessionAccount.refreshable then _ else _ :
    StateM SessionStore (Option SessionRefreshJob)) s) = _
  unfold inserted
  split
  · let t := (insertJob (.queued newID accountID stage priority now) s).2
    change Prod.snd ((match t.activeJob accountID with
      | none => return none
      | some job => _ : StateM SessionStore (Option SessionRefreshJob)) t) = _
    cases t.activeJob accountID <;> rfl
  · change Prod.snd ((match s.activeJob accountID with
      | none => return none
      | some job => _ : StateM SessionStore (Option SessionRefreshJob)) s) = _
    cases s.activeJob accountID <;> rfl

theorem id_of_get?_accounts {k : UUID} {a : SessionAccount} (h : s.accounts.get? k = some a) :
    a.id = k := Table.key_of_get? h

theorem updateLeasedJob_accounts {id leaseToken : UUID}
    {f : SessionRefreshJob → SessionRefreshJob} (hf : ∀ j, (f j).id = j.id) :
    (updateLeasedJob id leaseToken f hf s).2.accounts = s.accounts := by
  rw [updateLeasedJob, read_store]
  cases s.leasedJob id leaseToken <;> rfl

theorem get?_completeSessionRefreshJob_accounts (id leaseToken k : UUID) (minFresh : Time) :
    (completeSessionRefreshJob now id leaseToken minFresh s).2.accounts.get? k =
      (s.accounts.get? k).map fun a => setsAccount now s a (.complete id leaseToken minFresh) := by
  let ends (j : SessionRefreshJob) : Bool := hits now s j (.complete id leaseToken minFresh)
  -- without a hit no account changes
  have hstale (h : ∀ job, s.jobs.get? id = some job → ends job = false) : s.accounts.get? k =
      (s.accounts.get? k).map fun a => setsAccount now s a (.complete id leaseToken minFresh) := by
    refine AccountOperation.map_of_none _ fun a _ => ?_
    cases hrow : s.jobs.get? id with
    | none => rfl
    | some job =>
      have := h job hrow
      simp_all [ends]
  rw [completeSessionRefreshJob, read_store]
  cases hjob : s.leasedJob id leaseToken with
  | none =>
    refine hstale fun job hrow => ?_
    by_contra hends
    have hleased : job.leasedTo leaseToken = true := by simp_all [ends, hits]
    cases hjob.symm.trans (SessionStore.leasedJob_eq_some_iff.mpr ⟨hrow, hleased⟩)
  | some job =>
    obtain ⟨hrow, hleased⟩ := SessionStore.leasedJob_eq_some_iff.mp hjob
    have hid : job.id = id := id_of_get?_jobs hrow
    have hstale' (h : ends job = false) := hstale fun job' hrow' => by
      cases hrow.symm.trans hrow'
      exact h
    dsimp only
    cases haccount : s.accounts.get? job.accountID with
    | none => exact hstale' (by simp [ends, hits, haccount])
    | some b =>
      dsimp only
      cases hexpiry : b.accessTokenExpiresAt with
      | none => exact hstale' (by simp [ends, hits, haccount, hexpiry])
      | some e =>
        cases hstart : job.leaseStartedAt with
        | none => exact hstale' (by simp [ends, hits, hstart])
        | some l =>
          by_cases hlate : e ≤ now
          · simp only [hlate, if_true]
            exact hstale' (by simp [ends, hits, haccount, hexpiry, hlate])
          · simp only [hlate, if_false]
            refine (AccountOperation.get?_updateAccounts k).trans (Option.map_congr fun a _ => ?_)
            simp [setsAccount, hits, hrow, hid, hleased, haccount, hexpiry, hstart,
              lt_of_not_ge hlate, eq_comm]

theorem get?_importBrowserSession (id k : UUID) (session : BrowserSession) :
    (importBrowserSession now id session s).2.accounts.get? k =
      (s.accounts.get? k).map fun a => setsAccount now s a (.importSession id session) := by
  unfold importBrowserSession
  split
  · next hexpired =>
    refine AccountOperation.map_of_none _ fun a _ => ?_
    simp [BrowserSession.applies, hexpired]
  · next hfresh =>
    split
    · next hnone =>
      refine AccountOperation.map_of_none _ fun a _ => ?_
      simp_all [BrowserSession.applies]
    · next hsome =>
      refine (AccountOperation.get?_updateAccounts k).trans (Option.map_congr fun a _ => ?_)
      by_cases hpromote : session.promoteCookieJSON = true
      · have hfingerprint : session.cookieJSONFingerprint ≠ "" := by simpa [hpromote] using hsome
        simp [setsAccount, BrowserSession.applies, hpromote, hfingerprint, lt_of_not_ge hfresh]
      · simp [setsAccount, BrowserSession.applies, hpromote, lt_of_not_ge hfresh]

/-- An operation that fixes every account. -/
theorem get?_of_fixed {op : RefreshOperation} {k : UUID}
    (h : ∀ a, s.accounts.get? k = some a → op.setsAccount now s a = a) :
    s.accounts.get? k = (s.accounts.get? k).map fun a => op.setsAccount now s a := by
  cases hread : s.accounts.get? k with
  | none => rfl
  | some a => simp [h a hread]

theorem get?_archiveAccount_accounts (id k : UUID) (inUse : Bool) :
    (SessionStore.archiveAccount now id inUse s).2.accounts.get? k =
      (s.accounts.get? k).map fun a => setsAccount now s a (.archive id inUse) := by
  rw [SessionStore.archiveAccount, read_store]
  cases hread : s.accounts.get? id with
  | none =>
    refine get?_of_fixed (s := s) fun a ha => ?_
    have hne : a.id ≠ id := by
      intro hid
      rw [← hid, id_of_get?_accounts ha, ha] at hread
      cases hread
    simp [setsAccount, hne]
  | some b =>
    have hrow (a : SessionAccount) (ha : s.accounts.get? k = some a) (hid : a.id = id) : a = b := by
      rw [← hid, id_of_get?_accounts ha, ha] at hread
      exact Option.some.inj hread
    by_cases hrefused : (b.archivedAt.isSome || inUse) = true
    · simp only [hrefused, if_true]
      refine get?_of_fixed (s := s) fun a ha => ?_
      by_cases hid : a.id = id
      · rw [hrow a ha hid]
        cases harchived : b.archivedAt <;> simp_all [setsAccount]
      · simp [setsAccount, hid]
    · simp only [hrefused]
      refine (Table.get?_updateWhere s.accounts (fun a => a.id = id) (SessionAccount.archived now)
        (fun _ => rfl) k).trans (Option.map_congr fun a ha => ?_)
      by_cases hid : a.id = id
      · rw [hrow a ha hid]
        simp_all [setsAccount]
      · simp [setsAccount, hid]

theorem get?_importAccountCookieJSON (id k : UUID) (document : CookieDocument) :
    (importAccountCookieJSON id document s).2.accounts.get? k =
      (s.accounts.get? k).map fun a => setsAccount now s a (.importCookies id document) := by
  rw [importAccountCookieJSON, read_store]
  cases hread : s.accounts.get? id with
  | none =>
    refine get?_of_fixed (s := s) fun a ha => ?_
    have hne : a.id ≠ id := by
      intro hid
      rw [← hid, id_of_get?_accounts ha, ha] at hread
      cases hread
    simp [setsAccount, hne]
  | some b =>
    have hrow (a : SessionAccount) (ha : s.accounts.get? k = some a) (hid : a.id = id) : a = b := by
      rw [← hid, id_of_get?_accounts ha, ha] at hread
      exact Option.some.inj hread
    by_cases hdirect : b.providerID.importsDirectly = true
    · simp only [hdirect, if_true]
      refine (AccountOperation.get?_updateAccounts k).trans (Option.map_congr fun a ha => ?_)
      by_cases hid : a.id = id
      · simp [setsAccount, hrow a ha hid, hdirect]
      · simp [setsAccount, hid]
    · simp only [hdirect]
      refine (AccountOperation.get?_updateAccounts k).trans (Option.map_congr fun a ha => ?_)
      by_cases hid : a.id = id
      · simp [setsAccount, hrow a ha hid, hdirect]
      · simp [setsAccount, hid]

theorem get?_storeCreativeFabricaCookies (id k : UUID) (ciphertext : String) :
    (storeCreativeFabricaCookies id ciphertext s).2.accounts.get? k =
      (s.accounts.get? k).map fun a => setsAccount now s a (.storeCookies id ciphertext) := by
  let ours (a : SessionAccount) : Bool := a.providerID = .creativefabrica
  change (Prod.snd ((if (s.accounts.get? id).any ours then _
    else return () : StateM SessionStore Unit) s)).accounts.get? k = _
  have hours (a : SessionAccount) (ha : s.accounts.get? k = some a) (hid : a.id = id) :
      (s.accounts.get? id).any ours = ours a := by
    rw [← hid, id_of_get?_accounts ha, ha]
    rfl
  split
  · next hcf =>
    refine (AccountOperation.get?_updateAccounts k).trans (Option.map_congr fun a ha => ?_)
    by_cases hid : a.id = id
    · have hcf' : ours a = true := (hours a ha hid).symm.trans hcf
      simp_all [setsAccount, ours]
    · simp [setsAccount, hid]
  · next hcf =>
    refine get?_of_fixed (s := s) fun a ha => ?_
    by_cases hid : a.id = id
    · have hcf' : ¬ ours a = true := fun h => hcf ((hours a ha hid).trans h)
      simp_all [setsAccount, ours]
    · simp [setsAccount, hid]

theorem get?_accounts {op : RefreshOperation} (h : op.creates = false) (k : UUID) :
    (op.apply now s).accounts.get? k =
      (s.accounts.get? k).map fun a => op.setsAccount now s a := by
  have hsame (t : SessionStore) (h : t.accounts = s.accounts) :
      t.accounts.get? k = (s.accounts.get? k).map fun a => a :=
    (congrArg (Table.get? · k) h).trans Option.map_id_apply.symm
  cases op with
  | createAccount => cases h
  | enqueueDue due newID =>
    exact hsame _ (forM_insertJob_accounts (fun a : SessionAccount =>
      SessionRefreshJob.queued (newID a.id) a.id .cookie 0 now) (s.dueAccounts now due) s)
  | enqueue accountID priority stage newID =>
    refine hsame _ ?_
    have hinserted : (inserted now accountID priority stage newID s).accounts = s.accounts := by
      unfold inserted
      split
      · exact insertJob_accounts _ _
      · rfl
    rw [apply, enqueueSessionRefreshJob_snd]
    split <;> exact hinserted
  | recoverExpired => exact hsame _ rfl
  | claim stage owner workerGroup lease leaseToken skip =>
    refine hsame _ ?_
    rw [apply, claimSessionRefreshJob, read_store]
    cases s.claimCandidate now stage workerGroup skip <;> rfl
  | extend id leaseToken lease =>
    refine hsame _ ?_
    change (Prod.snd ((if (s.leasedJob id leaseToken).any fun j =>
      j.leaseExpiresAt.any fun e => now < e then _ else _ : StateM SessionStore Bool) s)).accounts = _
    split <;> rfl
  | requireBrowser => exact hsame _ (updateLeasedJob_accounts _)
  | defer => exact hsame _ (updateLeasedJob_accounts _)
  | complete id leaseToken minFresh =>
    exact get?_completeSessionRefreshJob_accounts id leaseToken k minFresh
  | archive id inUse => exact get?_archiveAccount_accounts id k inUse
  | importCookies id document => exact get?_importAccountCookieJSON id k document
  | importSession id session => exact get?_importBrowserSession id k session
  | storeCookies id ciphertext => exact get?_storeCreativeFabricaCookies id k ciphertext
  | account op direct => exact op.get?_apply now s k

end RefreshOperation

end GenerationGateway
