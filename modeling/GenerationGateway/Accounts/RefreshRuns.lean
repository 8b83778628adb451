import GenerationGateway.Accounts.RefreshLeases

/-!
# Runs of the refresh queue

From an empty store on, any number of workers, schedulers and administrators take turns
with each other and with everything else that changes an account.
-/

namespace GenerationGateway

open Relational Transitions

/-- The columns of an account that decide about the refresh of its session. -/
structure SessionAccount.SessionColumns where
  providerID : ProviderID
  accessTokenExpiresAt : Option Time
  lastCheckedAt : Option Time
  cookieJSON : String
  pendingCookieJSON : String
  pendingFingerprint : String

def SessionAccount.session (a : SessionAccount) : SessionAccount.SessionColumns :=
  ⟨a.providerID, a.accessTokenExpiresAt, a.lastCheckedAt, a.cookieJSON, a.pendingCookieJSON,
    a.pendingFingerprint⟩

inductive RefreshAct
  | operation (now : Time) (op : RefreshOperation)
  /-- Settings, charges and whatever else leaves the jobs and the sessions alone. -/
  | other (now : Time)

def RefreshStep (s : AccountState) : RefreshAct → AccountState → Prop
  | .operation now op, s' => s.clock ≤ now ∧ s' = ⟨op.apply now s.store, now⟩
  | .other now, s' => s.clock ≤ now ∧ s'.clock = now ∧ s'.store.jobs = s.store.jobs ∧
    ∀ id, (s'.store.accounts.get? id).map SessionAccount.session =
      (s.store.accounts.get? id).map SessionAccount.session

def sessionRefresh : LTS AccountState RefreshAct := ⟨RefreshStep⟩

/-- No account and no job. -/
def AccountState.fresh (clock : Time) : AccountState := ⟨⟨.empty, .empty⟩, clock⟩

/-- Among the acts, run from the start, is an operation at the time `t` that meets `p` in
the store it finds. -/
def Happened (clock : Time) (acts : List RefreshAct) (t : Time)
    (p : SessionStore → RefreshOperation → Prop) : Prop :=
  ∃ earlier s op later, acts = earlier ++ .operation t op :: later ∧
    sessionRefresh.Run (.fresh clock) earlier s ∧ p s.store op

section Runs

variable {clock t : Time} {acts : List RefreshAct} {s s' : AccountState} {act : RefreshAct}

theorem Happened.snoc {p : SessionStore → RefreshOperation → Prop} (h : Happened clock acts t p)
    (act : RefreshAct) : Happened clock (acts ++ [act]) t p := by
  obtain ⟨earlier, s, op, later, rfl, hrun, hp⟩ := h
  exact ⟨earlier, s, op, later ++ [act], by simp, hrun, hp⟩

theorem Happened.last {op : RefreshOperation} {p : SessionStore → RefreshOperation → Prop}
    (hrun : sessionRefresh.Run (.fresh clock) acts s) (hp : p s.store op) :
    Happened clock (acts ++ [.operation t op]) t p :=
  ⟨acts, s, op, [], rfl, hrun, hp⟩

/-- What the rows say about the acts so far. -/
structure RefreshHistory (clock : Time) (acts : List RefreshAct) (s : AccountState) : Prop where
  checked : ∀ id a t, s.store.accounts.get? id = some a → a.lastCheckedAt = some t →
    Happened clock acts t fun store op => op.storesBalance store id = true
  leased : ∀ k j, s.store.jobs.get? k = some j → j.status = .leased →
    ∃ started leaseToken, j.leaseStartedAt = some started ∧ j.leaseToken = some leaseToken ∧
      Happened clock acts started fun _ op => ∃ stage owner workerGroup lease skip,
        op = .claim stage owner workerGroup lease leaseToken skip

theorem RefreshHistory.operation {now : Time} {op : RefreshOperation}
    (hrun : sessionRefresh.Run (.fresh clock) acts s) (h : RefreshHistory clock acts s) :
    RefreshHistory clock (acts ++ [.operation now op]) ⟨op.apply now s.store, now⟩ := by
  refine ⟨?_, ?_⟩
  · intro id a t ha ht
    rcases RefreshOperation.lastCheckedAt_apply ha ht with ⟨b, hb, hbefore⟩ | ⟨hstores, rfl⟩
    · exact (h.checked id b t hb hbefore).snoc _
    · exact .last hrun hstores
  · intro k j' hj' hleased
    cases hj : s.store.jobs.get? k with
    | none =>
      cases (RefreshOperation.pending_of_new op hj hj').symm.trans hleased
    | some j =>
      have hrow := Option.some.inj ((RefreshOperation.get?_existing op hj).symm.trans hj')
      rcases RefreshOperation.lease_before hrow hleased with
        ⟨hbefore, htoken, hstart⟩ | ⟨stage, owner, workerGroup, lease, leaseToken, skip, rfl, htoken, hstart⟩
      · obtain ⟨started, leaseToken, hstarted, htoken', hclaimed⟩ := h.leased k j hj hbefore
        exact ⟨started, leaseToken, hstart.trans hstarted, htoken.trans htoken', hclaimed.snoc _⟩
      · exact ⟨now, leaseToken, hstart, htoken,
          .last hrun ⟨stage, owner, workerGroup, lease, skip, rfl⟩⟩

theorem RefreshHistory.other (h : RefreshHistory clock acts s)
    (hstep : sessionRefresh.step s (.other t) s') :
    RefreshHistory clock (acts ++ [.other t]) s' := by
  obtain ⟨-, -, hjobs, haccounts⟩ := hstep
  refine ⟨?_, ?_⟩
  · intro id a t ha ht
    have hsession := haccounts id
    rw [ha] at hsession
    obtain ⟨b, hb, hcolumns⟩ := Option.map_eq_some_iff.mp hsession.symm
    have hchecked : b.lastCheckedAt = a.lastCheckedAt :=
      congrArg SessionAccount.SessionColumns.lastCheckedAt hcolumns
    exact (h.checked id b t hb (hchecked.trans ht)).snoc _
  · intro k j hj hleased
    rw [hjobs] at hj
    obtain ⟨started, leaseToken, hstarted, htoken, hclaimed⟩ := h.leased k j hj hleased
    exact ⟨started, leaseToken, hstarted, htoken, hclaimed.snoc _⟩

theorem refreshHistory (hrun : sessionRefresh.Run (.fresh clock) acts s) :
    RefreshHistory clock acts s := by
  refine hrun.invariant_history (I := RefreshHistory clock) ?_ ⟨?_, ?_⟩
  · intro acts u act u' hrun hstep h
    cases act with
    | operation now op =>
      obtain ⟨-, rfl⟩ := hstep
      exact h.operation hrun
    | other now => exact h.other hstep
  · intro id a t ha
    cases ha
  · intro k j hj
    cases hj

theorem singleActive_of_run (hrun : sessionRefresh.Run (.fresh clock) acts s) :
    s.store.SingleActive := by
  refine hrun.invariant (I := fun s => s.store.SingleActive) ?_ ?_
  · intro u act u' hstep h
    cases act with
    | operation now op =>
      obtain ⟨-, rfl⟩ := hstep
      exact RefreshOperation.singleActive_apply op h
    | other now =>
      obtain ⟨-, -, hjobs, -⟩ := hstep
      unfold SessionStore.SingleActive
      rw [hjobs]
      exact h
  · intro j hj
    cases hj

/-- The operations on the queue that name no lease. -/
def RefreshOperation.schedules : RefreshOperation → Bool
  | enqueueDue _ _ | enqueue _ _ _ _ | recoverExpired | claim _ _ _ _ _ _ => true
  | _ => false

theorem RefreshOperation.accounts_of_schedules {now : Time} {op : RefreshOperation}
    {store : SessionStore} (h : op.schedules = true) (id : UUID) :
    (op.apply now store).accounts.get? id = store.accounts.get? id := by
  cases op with
  | enqueueDue | enqueue | recoverExpired | claim =>
    exact (get?_accounts rfl id).trans Option.map_id_apply
  | _ => cases h

/-- What the next step of a run may do to the jobs, and through them to the accounts. -/
structure LeaseLaw (clock : Time) (acts : List RefreshAct) (s : AccountState) (act : RefreshAct)
    (s' : AccountState) : Prop where
  entitled : ∀ k j, s.store.jobs.get? k = some j → s'.store.jobs.get? k ≠ some j →
    ∃ now op, act = .operation now op ∧ RefreshOperation.Entitled now j op
  powerless : ∀ now op id leaseToken, act = .operation now op →
    op.presents = some (id, leaseToken) → s.store.leasedJob id leaseToken = none →
    s'.store = s.store
  spared : ∀ now op, act = .operation now op → op.schedules = true →
    ∀ id, s'.store.accounts.get? id = s.store.accounts.get? id
  succeeded : ∀ k j', s'.store.jobs.get? k = some j' → j'.status = .succeeded →
    s.store.jobs.get? k ≠ some j' →
    ∃ now op j a expiry started checked, act = .operation now op ∧ s.store.jobs.get? k = some j ∧
      op.Succeeds now s.store j a expiry started checked ∧
      Happened clock acts checked (fun store op => op.storesBalance store j.accountID = true) ∧
      Happened clock acts started fun _ op => ∃ stage owner workerGroup lease leaseToken skip,
        j.leaseToken = some leaseToken ∧
          op = .claim stage owner workerGroup lease leaseToken skip

theorem leaseLaw_operation {now : Time} {op : RefreshOperation}
    (hrun : sessionRefresh.Run (.fresh clock) acts s) :
    LeaseLaw clock acts s (.operation now op) ⟨op.apply now s.store, now⟩ := by
  refine ⟨?_, ?_, ?_, ?_⟩
  · intro k j hj hchanged
    refine ⟨now, op, rfl, RefreshOperation.entitled_of_hits hj ?_⟩
    by_contra hmiss
    apply hchanged
    rw [RefreshOperation.get?_existing op hj, if_neg hmiss]
  · intro now' op' id leaseToken hact hpresents hnone
    cases hact
    exact RefreshOperation.apply_of_no_lease hpresents hnone
  · intro now' op' hact hschedules id
    cases hact
    exact RefreshOperation.accounts_of_schedules hschedules id
  · intro k j' hj' hstatus hchanged
    cases hj : s.store.jobs.get? k with
    | none => cases (RefreshOperation.pending_of_new op hj hj').symm.trans hstatus
    | some j =>
      have hrow := Option.some.inj ((RefreshOperation.get?_existing op hj).symm.trans hj')
      by_cases hhits : op.hits now s.store j = true
      · rw [if_pos hhits] at hrow
        have hactive := (RefreshOperation.entitled_of_hits hj hhits).active
        have hbefore : j.status ≠ .succeeded := by
          intro h
          simp [SessionRefreshJob.active, h] at hactive
        obtain ⟨a, expiry, started, checked, h⟩ :=
          RefreshOperation.sets_succeeded hhits (hrow ▸ hstatus) hbefore
        obtain ⟨leaseToken, -, -, hleased, -⟩ := h.completes
        obtain ⟨hleased, htoken⟩ := RefreshOperation.leasedTo_iff.mp hleased
        obtain ⟨hchecked, hclaims⟩ := refreshHistory hrun
        obtain ⟨started', leaseToken', hstarted, htoken', stored⟩ := hclaims k j hj hleased
        refine ⟨now, op, j, a, expiry, started, checked, rfl, rfl, h,
          hchecked _ a checked h.account h.lastCheckedAt, ?_⟩
        cases h.leaseStartedAt.symm.trans hstarted
        obtain ⟨earlier, u, claim, later, hacts, hearlier, stage, owner, workerGroup, lease, skip,
          hclaim⟩ := stored
        exact ⟨earlier, u, claim, later, hacts, hearlier, stage, owner, workerGroup, lease,
          leaseToken', skip, htoken', hclaim⟩
      · rw [if_neg hhits] at hrow
        exact absurd (hrow ▸ hj) hchanged

theorem leaseLaw_other (hstep : sessionRefresh.step s (.other t) s') :
    LeaseLaw clock acts s (.other t) s' := by
  obtain ⟨-, -, hjobs, -⟩ := hstep
  refine ⟨?_, ?_, ?_, ?_⟩
  · intro k j hj hchanged
    exact absurd (hjobs ▸ hj) hchanged
  · intro now op id leaseToken hact
    cases hact
  · intro now op hact
    cases hact
  · intro k j' hj' _ hchanged
    exact absurd (hjobs ▸ hj') hchanged

/-- In every run an account has one active job at most, only the operations that are
entitled to change a job, and a job succeeds only with a fresh session. -/
theorem refreshJobs_leased (hrun : sessionRefresh.Run (.fresh clock) acts s) :
    s.store.SingleActive ∧
      ∀ act s', sessionRefresh.step s act s' → LeaseLaw clock acts s act s' := by
  refine ⟨singleActive_of_run hrun, ?_⟩
  intro act s' hstep
  cases act with
  | operation now op =>
    obtain ⟨-, rfl⟩ := hstep
    exact leaseLaw_operation hrun
  | other now => exact leaseLaw_other hstep

end Runs

/-! ### Runs of operations -/

/-- The step that an operation means. -/
def AccountState.proceed (s : AccountState) : RefreshAct → Option AccountState
  | .operation now op => if s.clock ≤ now then some ⟨op.apply now s.store, now⟩ else none
  | .other _ => none

theorem restrict_run_of_proceed {cond : AccountState → RefreshAct → Bool} {s s' : AccountState}
    {acts : List RefreshAct} (h : LTS.follow AccountState.proceed cond s acts = some s') :
    (sessionRefresh.restrict fun s act => cond s act = true).Run s acts s' := by
  refine (LTS.run_of_follow h).mono ?_
  rintro t act t' ⟨hstep, hcond⟩
  refine ⟨?_, hcond⟩
  cases act with
  | operation now op =>
    obtain ⟨hle, rfl⟩ : t.clock ≤ now ∧ ⟨op.apply now t.store, now⟩ = t' := by
      simpa [LTS.ofStep, AccountState.proceed] using hstep
    exact ⟨hle, rfl⟩
  | other now => cases hstep

theorem run_of_proceed {s s' : AccountState} {acts : List RefreshAct}
    (h : LTS.follow AccountState.proceed (fun _ _ => true) s acts = some s') :
    sessionRefresh.Run s acts s' :=
  (restrict_run_of_proceed h).of_restrict

/-- An account that a browser refreshes. -/
def browserAccount : SessionAccount := { disabledAccount with providerID := .leonardo }

/-- Its job is leased, its session and balance are stored, and the job is completed. -/
def refreshedActs : List RefreshAct :=
  [.operation 0 (.createAccount browserAccount), .operation 0 (.enqueue 1 0 .browser 7),
    .operation 1 (.claim .browser "worker" "default" (minutes 5) 9 fun _ => false),
    .operation 2 (.account (.updateSession 1 0 (hours 2) 1 ⟨10, 0, 0⟩ "") rfl),
    .operation 3 (.complete 7 9 (hours 1))]

theorem refreshJobs_leased_completed : ∃ s, sessionRefresh.Run (.fresh 0) refreshedActs s ∧
    (s.store.jobs.get? 7).map SessionRefreshJob.status = some .succeeded ∧
    s.store.SingleActive := by
  have hrun : (LTS.follow AccountState.proceed (fun _ _ => true) (.fresh 0) refreshedActs).map
      (fun s => (s.store.jobs.get? 7).map SessionRefreshJob.status) = some (some .succeeded) := by
    decide +kernel
  obtain ⟨s, hs, hstatus⟩ := Option.map_eq_some_iff.mp hrun
  exact ⟨s, run_of_proceed hs, hstatus, (refreshJobs_leased (run_of_proceed hs)).1⟩

/-- A lease that has run out is taken away without its token. -/
theorem expiredLease_recovered : ¬ ∀ (clock : Time) (acts : List RefreshAct) (s s' : AccountState)
    (act : RefreshAct) (k : UUID) (j : SessionRefreshJob),
    sessionRefresh.Run (.fresh clock) acts s → sessionRefresh.step s act s' →
    s.store.jobs.get? k = some j → j.status = .leased → s'.store.jobs.get? k ≠ some j →
    ∃ now op leaseToken, act = .operation now op ∧ op.presents = some (k, leaseToken) ∧
      j.leaseToken = some leaseToken := by
  intro h
  let acts := refreshedActs.take 3
  have hrun : (LTS.follow AccountState.proceed (fun _ _ => true) (.fresh 0) acts).map
      (fun s => (s.clock, (s.store.jobs.get? 7).map SessionRefreshJob.status,
        ((RefreshOperation.recoverExpired.apply (minutes 6) s.store).jobs.get? 7).map
          SessionRefreshJob.status)) = some (1, some .leased, some .pending) := by
    decide +kernel
  obtain ⟨s, hs, hrows⟩ := Option.map_eq_some_iff.mp hrun
  simp only [Prod.mk.injEq, Option.map_eq_some_iff] at hrows
  obtain ⟨hclock, ⟨j, hj, hleased⟩, j', hj', hpending⟩ := hrows
  have hstep : sessionRefresh.step s (.operation (minutes 6) .recoverExpired)
      ⟨RefreshOperation.recoverExpired.apply (minutes 6) s.store, minutes 6⟩ :=
    ⟨hclock ▸ by decide, rfl⟩
  have hchanged : (RefreshOperation.recoverExpired.apply (minutes 6) s.store).jobs.get? 7 ≠
      some j := by
    rw [hj']
    rintro ⟨⟩
    cases hleased.symm.trans hpending
  obtain ⟨now, op, leaseToken, hact, hpresents, -⟩ :=
    h 0 acts s _ _ 7 j (run_of_proceed hs) hstep hj hleased hchanged
  cases hact
  cases hpresents

end GenerationGateway
