import GenerationGateway.Accounts.Session

/-!
# Accounts that are out of traffic

A disabled, an invalid and a rate limited account stay as they are through every
automatic operation but a few: an update that writes the status without looking at the
old one, a failed refresh that turns another state into a cooldown, and a limit that is
overwritten. In the runs without these the three laws hold.
-/

namespace GenerationGateway

open Relational Transitions

namespace AccountOperation

/-- The job of a failed refresh is leased, and about this account. -/
def refreshes (s : SessionStore) (job leaseToken : UUID) (a : SessionAccount) : Bool :=
  (s.leasedJob job leaseToken).any fun j => j.accountID = a.id

/-- The operation updates the account. -/
def hits (now : Time) (s : SessionStore) (a : SessionAccount) : AccountOperation → Bool
  | updateSessionCredentials id _ _ promote fingerprint _ =>
    decide (a.id = id) && (!promote || decide (a.pendingFingerprint = fingerprint))
  | updateSession id _ _ _ _ _ => decide (a.id = id)
  | updateTokens id version _ _ => decide (a.id = id) && decide (a.balanceRefreshVersion = version)
  | failRefresh job leaseToken _ _ => refreshes s job leaseToken a
  | terminalFailRefresh job leaseToken _ attemptedFingerprint =>
    refreshes s job leaseToken a && !a.untriedCookies attemptedFingerprint
  | setError id _ _ _ => decide (a.id = id)
  | setPermission id _ _ => decide (a.id = id)
  | activateExpired => a.cooldownOver now

/-- What the operation makes of such an account. -/
def sets (now : Time) (a : SessionAccount) : AccountOperation → SessionAccount
  | updateSessionCredentials _ cookieJSON persist promote _ expiry =>
    a.withCredentials now cookieJSON persist promote expiry
  | updateSession _ balanceVersion expiry snapshotStartedAt credits lastErr =>
    a.withSession now balanceVersion expiry snapshotStartedAt credits lastErr
  | updateTokens _ version snapshotStartedAt credits =>
    a.withTokens now version snapshotStartedAt credits
  | failRefresh _ _ retryAfter message =>
    a.refreshFailed now (refreshRetry retryAfter) (truncateRefreshError message)
  | terminalFailRefresh _ _ message _ => a.refreshFailedForGood now (truncateRefreshError message)
  | setError _ fault message cooldown => a.withError now fault.status message cooldown
  | setPermission _ permission message => a.withPermission permission message
  | activateExpired => a.activated

theorem get?_updateAccounts {p : SessionAccount → Bool} {f : SessionAccount → SessionAccount}
    {hf : ∀ a, (f a).id = a.id} {s : SessionStore} (k : UUID) :
    (updateAccounts p f hf s).2.accounts.get? k =
      (s.accounts.get? k).map fun a => if p a then f a else a := by
  simp [updateAccounts]

theorem map_of_none {α : Type} {x : Option α} {p : α → Bool} (f : α → α)
    (h : ∀ a, x = some a → p a = false) : x = x.map fun a => if p a then f a else a := by
  cases x with
  | none => rfl
  | some a => simp [h a rfl]

theorem get?_failSessionRefreshJob {now retryAfter : Time} {job leaseToken : UUID}
    {message : String} {s : SessionStore} (k : UUID) :
    (failSessionRefreshJob now job leaseToken retryAfter message s).2.accounts.get? k =
      (s.accounts.get? k).map fun a => if refreshes s job leaseToken a then
        a.refreshFailed now (refreshRetry retryAfter) (truncateRefreshError message) else a := by
  rw [failSessionRefreshJob, read_store]
  cases hjob : s.leasedJob job leaseToken with
  | none =>
    apply map_of_none
    intro a ha
    simp [refreshes, hjob]
  | some j =>
    refine (get?_updateAccounts k).trans ?_
    simp [refreshes, hjob, eq_comm]

theorem get?_terminalFailSessionRefreshJob {now : Time} {job leaseToken : UUID}
    {message attemptedFingerprint : String} {s : SessionStore} (k : UUID) :
    (terminalFailSessionRefreshJob now job leaseToken message attemptedFingerprint s).2.accounts.get? k =
      (s.accounts.get? k).map fun a =>
        if refreshes s job leaseToken a && !a.untriedCookies attemptedFingerprint then
          a.refreshFailedForGood now (truncateRefreshError message) else a := by
  rw [terminalFailSessionRefreshJob, read_store]
  cases hjob : s.leasedJob job leaseToken with
  | none =>
    apply map_of_none
    intro a ha
    simp [refreshes, hjob]
  | some j =>
    -- only the account of the job can be hit, and its row is the one that was read
    have hmiss (h : s.accounts.get? j.accountID = none ∨ ∃ b, s.accounts.get? j.accountID = some b ∧
        b.untriedCookies attemptedFingerprint = true) (a : SessionAccount)
        (ha : s.accounts.get? k = some a) :
        (refreshes s job leaseToken a && !a.untriedCookies attemptedFingerprint) = false := by
      by_cases hid : j.accountID = a.id
      · have hkey : a.id = k := Table.key_of_get? ha
        rw [hid, hkey, ha] at h
        obtain h | ⟨b, hb, huntried⟩ := h
        · cases h
        · cases hb
          simp [huntried]
      · simp [refreshes, hjob, hid]
    dsimp only
    cases hread : s.accounts.get? j.accountID with
    | none => exact map_of_none _ (hmiss (.inl hread))
    | some b =>
      by_cases huntried : b.untriedCookies attemptedFingerprint = true
      · simp only [huntried, if_true]
        exact map_of_none _ (hmiss (.inr ⟨b, hread, huntried⟩))
      · simp only [huntried]
        refine (get?_updateAccounts k).trans ?_
        change (s.accounts.get? k).map _ = _
        cases ha : s.accounts.get? k with
        | none => rfl
        | some a =>
          have hkey : a.id = k := Table.key_of_get? ha
          by_cases hid : j.accountID = a.id
          · rw [hid, hkey, ha] at hread
            cases hread
            simp [refreshes, hjob, hid, huntried]
          · simp [refreshes, hjob, hid, Ne.symm hid]

/-- An operation is a function on each row. -/
theorem get?_apply (now : Time) (op : AccountOperation) (s : SessionStore) (k : UUID) :
    (op.apply now s).accounts.get? k =
      (s.accounts.get? k).map fun a => if op.hits now s a then op.sets now a else a := by
  cases op with
  | failRefresh job leaseToken retryAfter message => exact get?_failSessionRefreshJob k
  | terminalFailRefresh job leaseToken message attemptedFingerprint =>
    exact get?_terminalFailSessionRefreshJob k
  | _ => exact get?_updateAccounts k

/-! ### What an operation keeps -/

/-- The operation records a new login of the account, or a verified permission. -/
def relogs (id : UUID) : AccountOperation → Bool
  | updateSessionCredentials k _ _ _ _ _ => decide (k = id)
  | updateSession k _ _ _ _ lastErr => decide (k = id) && decide (lastErr = "")
  | setPermission k permission _ => decide (k = id) && decide (permission = .verified)
  | _ => false

/-- The recorded exceptions: a new session after a checkpoint, and a permission that is
verified or blocked. -/
def lifts (s : SessionStore) (id : UUID) : AccountOperation → Bool
  | updateSessionCredentials k _ _ _ _ _ => decide (k = id) &&
    (s.accounts.get? id).any fun a => a.lastError = SessionAccount.checkpointError
  | setPermission k permission _ => decide (k = id) &&
    (decide (permission = .verified) || decide (permission = .blocked))
  | _ => false

/-- The update does not overwrite a state that has to stay: a session is not recorded on
a disabled account or under a limit, a failed refresh cools neither an invalid nor a
limited account, and no limited account is made invalid. -/
def spares (now : Time) (a : SessionAccount) : AccountOperation → Bool
  | updateSession _ _ _ _ _ _ => decide (a.status ≠ .disabled) && !a.cooling now
  | updateSessionCredentials _ _ _ _ _ _ =>
    decide (a.generationPermissionStatus ≠ .blocked) || !a.cooling now
  | failRefresh _ _ _ _ => !a.tokenExpired now || (decide (a.status ≠ .invalid) && !a.cooling now)
  | terminalFailRefresh _ _ _ _ => !a.tokenExpired now || !a.cooling now
  | setError _ fault _ _ => decide (fault ≠ .invalid) || !a.cooling now
  | _ => true

section Rows

variable {now : Time} {s : SessionStore} {a : SessionAccount} {op : AccountOperation}

theorem sets_disabled (hspares : op.spares now a = true) (hits : op.hits now s a = true)
    (h : a.status = .disabled) : (op.sets now a).status = .disabled := by
  cases op with
  | updateSession => simp [spares, h] at hspares
  | activateExpired => simp [AccountOperation.hits, SessionAccount.cooldownOver, h] at hits
  | updateSessionCredentials => simp [sets, SessionAccount.withCredentials, h]
  | updateTokens => simp [sets, SessionAccount.withTokens, SessionAccount.keepsState, h]
  | failRefresh => simp [sets, SessionAccount.refreshFailed, h]
  | terminalFailRefresh => simp [sets, SessionAccount.refreshFailedForGood, h]
  | setError => simp [sets, SessionAccount.withError, h]
  | setPermission => simp [sets, SessionAccount.withPermission, h]

theorem sets_invalid (hspares : op.spares now a = true) (hits : op.hits now s a = true)
    (hrelogs : op.relogs a.id = false) (h : a.status = .invalid) :
    (op.sets now a).status = .invalid := by
  cases op with
  | updateSessionCredentials k cookieJSON persist promote fingerprint expiry =>
    simp_all [AccountOperation.hits, relogs]
  | updateSession k balanceVersion expiry started credits lastErr =>
    simp_all [AccountOperation.hits, relogs, sets, SessionAccount.withSession]
  | updateTokens => simp [sets, SessionAccount.withTokens, SessionAccount.keepsState, h]
  | failRefresh => simp_all [sets, SessionAccount.refreshFailed, spares]
  | terminalFailRefresh => simp [sets, SessionAccount.refreshFailedForGood, h]
  | setError => simp [sets, SessionAccount.withError, h]
  | setPermission k permission message =>
    simp_all [AccountOperation.hits, relogs, sets, SessionAccount.withPermission]
  | activateExpired => simp [AccountOperation.hits, SessionAccount.cooldownOver, h] at hits

/-- The account is rate limited until `limit` or later. -/
def Limited (limit : Time) (a : SessionAccount) : Prop :=
  a.status = .rateLimited ∧ ∃ c, a.cooldownUntil = some c ∧ limit ≤ c

theorem Limited.cooling {limit : Time} (h : Limited limit a) (hnow : now < limit) :
    a.cooling now = true := by
  obtain ⟨hstatus, c, hc, hle⟩ := h
  simp [SessionAccount.cooling, hstatus, hc, hnow.trans_le hle]

theorem sets_limited {limit : Time} (hspares : op.spares now a = true)
    (hits : op.hits now s a = true) (hread : s.accounts.get? a.id = some a)
    (hlifts : op.lifts s a.id = false) (hnow : now < limit) (h : Limited limit a) :
    Limited limit (op.sets now a) := by
  have hcooling := h.cooling hnow
  obtain ⟨hstatus, c, hc, hle⟩ := h
  have hlater : now < c := hnow.trans_le hle
  cases op with
  | updateSessionCredentials k cookieJSON persist promote fingerprint expiry =>
    have hkeeps : a.keepsLimit now = true := by
      simp_all [AccountOperation.hits, lifts, SessionAccount.keepsLimit]
    have hblocked : a.generationPermissionStatus ≠ .blocked := by
      simpa [spares, hcooling] using hspares
    exact ⟨by simp [sets, SessionAccount.withCredentials, hstatus, hblocked, hkeeps],
      c, by simp [sets, SessionAccount.withCredentials, hstatus, hblocked, hkeeps, hc], hle⟩
  | updateSession => simp [spares, hcooling] at hspares
  | updateTokens =>
    have hkeeps : a.keepsState now = true := by
      simp [SessionAccount.keepsState, hstatus, hc, hlater]
    exact ⟨by simp [sets, SessionAccount.withTokens, hkeeps, hstatus],
      c, by simp [sets, SessionAccount.withTokens, hkeeps, hc], hle⟩
  | failRefresh =>
    have hexpired : a.tokenExpired now = false := by simpa [spares, hcooling] using hspares
    exact ⟨by simp [sets, SessionAccount.refreshFailed, hexpired, hstatus],
      c, by simp [sets, SessionAccount.refreshFailed, hexpired, hc], hle⟩
  | terminalFailRefresh =>
    have hexpired : a.tokenExpired now = false := by simpa [spares, hcooling] using hspares
    exact ⟨by simp [sets, SessionAccount.refreshFailedForGood, hexpired, hstatus],
      c, by simp [sets, SessionAccount.refreshFailedForGood, hexpired, hc], hle⟩
  | setError k fault message cooldown =>
    have hfault : fault ≠ .invalid := by simpa [spares, hcooling] using hspares
    refine ⟨?_, ?_⟩
    · cases fault with
      | invalid => exact absurd rfl hfault
      | rateLimited => simp [sets, SessionAccount.withError, hstatus, AccountFault.status]
      | cooldown => simp [sets, SessionAccount.withError, hstatus, hcooling, AccountFault.status]
    · have hset : (a.withError now fault.status message cooldown).cooldownUntil =
          a.laterCooldown cooldown := by
        simp [SessionAccount.withError, hstatus]
      change ∃ c', (a.withError now fault.status message cooldown).cooldownUntil = some c' ∧ _
      rw [hset]
      cases cooldown with
      | none => exact ⟨c, by simp [SessionAccount.laterCooldown, hc], hle⟩
      | some d =>
        exact ⟨max c d, by simp [SessionAccount.laterCooldown, hc], hle.trans (le_max_left c d)⟩
  | setPermission k permission message =>
    have hkeeps : permission ≠ .blocked := by
      simp_all [AccountOperation.hits, lifts]
    exact ⟨by simp [sets, SessionAccount.withPermission, hstatus, hkeeps],
      c, by simp [sets, SessionAccount.withPermission, hkeeps, hc], hle⟩
  | activateExpired =>
    simp [AccountOperation.hits, SessionAccount.cooldownOver, hc, not_le.mpr hlater] at hits

end Rows

end AccountOperation

/-! ### Runs -/

namespace AccountState

def account (s : AccountState) (id : UUID) : Option SessionAccount := s.store.accounts.get? id

end AccountState

namespace AccountEvent

/-- The event is a login of the account or a verified permission. -/
def relogs (id : UUID) : AccountEvent → Bool
  | operation _ op => op.relogs id
  | housekeeping _ => false

/-- The event lifts a limit of the account by one of the recorded exceptions. -/
def lifts (id : UUID) (s : AccountState) : AccountEvent → Bool
  | operation _ op => op.lifts s.store id
  | housekeeping _ => false

/-- The event overwrites no state that has to stay. -/
def spares (s : AccountState) : AccountEvent → Bool
  | operation now op => s.store.accounts.rows.all fun a => !op.hits now s.store a || op.spares now a
  | housekeeping _ => true

end AccountEvent

/-- The three laws for the runs of a system, from any state. -/
structure StaysOut (M : LTS AccountState AccountEvent) (id : UUID) : Prop where
  disabled : ∀ s s' es a a', M.Run s es s' → s.account id = some a → a.status = .disabled →
    s'.account id = some a' → a'.status ≠ .active
  invalid : ∀ s s' es a a', (M.restrict fun _ e => e.relogs id = false).Run s es s' →
    s.account id = some a → a.status = .invalid → s'.account id = some a' → a'.status ≠ .active
  limited : ∀ s s' es a a' limit, (M.restrict fun s e => e.lifts id s = false).Run s es s' →
    s.account id = some a → a.status = .rateLimited → a.cooldownUntil = some limit →
    s'.clock < limit → s'.account id = some a' →
    a'.status ≠ .active ∧ ∃ c, a'.cooldownUntil = some c ∧ limit ≤ c

/-- The automatic operations, as long as each spares the states that have to stay. -/
def sparing : LTS AccountState AccountEvent := automatic.restrict fun s e => e.spares s = true

section Steps

variable {s s' : AccountState} {e : AccountEvent} {id : UUID} {a' : SessionAccount}

/-- A row after a step: updated by an operation that spares it, or with the same
standing. -/
theorem sparing_step (h : sparing.step s e s') (ha' : s'.account id = some a') :
    s.clock ≤ s'.clock ∧ ∃ a, s.account id = some a ∧ a.id = id ∧
      ((∃ op, e = .operation s'.clock op ∧ op.hits s'.clock s.store a = true ∧
        op.spares s'.clock a = true ∧ a' = op.sets s'.clock a) ∨
      a'.standing = a.standing) := by
  obtain ⟨hstep, hspares⟩ := h
  cases e with
  | operation now op =>
    obtain ⟨hclock, rfl⟩ := hstep
    have hget : (op.apply now s.store).accounts.get? id = some a' := ha'
    rw [AccountOperation.get?_apply] at hget
    obtain ⟨a, ha, hset⟩ := Option.map_eq_some_iff.mp hget
    refine ⟨hclock, a, ha, Table.key_of_get? ha, ?_⟩
    by_cases hhits : op.hits now s.store a = true
    · rw [if_pos hhits] at hset
      have hall := List.all_eq_true.mp hspares a (Table.mem_of_get? ha)
      rw [hhits] at hall
      exact .inl ⟨op, rfl, hhits, hall, hset.symm⟩
    · rw [if_neg hhits] at hset
      exact .inr (by rw [hset])
  | housekeeping now =>
    obtain ⟨hclock, rfl, hsame⟩ := hstep
    have hget := hsame id
    have hrow : s'.store.accounts.get? id = some a' := ha'
    rw [hrow, Option.map_some] at hget
    obtain ⟨a, ha, hstanding⟩ := Option.map_eq_some_iff.mp hget.symm
    exact ⟨hclock, a, ha, Table.key_of_get? ha, .inr hstanding.symm⟩

theorem status_of_standing {a b : SessionAccount} (h : b.standing = a.standing) :
    b.status = a.status ∧ b.cooldownUntil = a.cooldownUntil :=
  ⟨congrArg SessionAccount.Standing.status h, congrArg SessionAccount.Standing.cooldownUntil h⟩

theorem sparing_disabled (h : sparing.step s e s')
    (hs : ∀ a, s.account id = some a → a.status = .disabled) (ha' : s'.account id = some a') :
    a'.status = .disabled := by
  obtain ⟨-, a, ha, -, ⟨op, -, hhits, hspares, rfl⟩ | hsame⟩ := sparing_step h ha'
  · exact AccountOperation.sets_disabled hspares hhits (hs a ha)
  · rw [(status_of_standing hsame).1]
    exact hs a ha

theorem sparing_invalid (h : sparing.step s e s') (hrelogs : e.relogs id = false)
    (hs : ∀ a, s.account id = some a → a.status = .invalid) (ha' : s'.account id = some a') :
    a'.status = .invalid := by
  obtain ⟨-, a, ha, rfl, ⟨op, rfl, hhits, hspares, rfl⟩ | hsame⟩ := sparing_step h ha'
  · exact AccountOperation.sets_invalid hspares hhits hrelogs (hs a ha)
  · rw [(status_of_standing hsame).1]
    exact hs a ha

/-- A limit stays until its time. -/
theorem sparing_limited {limit : Time} (h : sparing.step s e s') (hlifts : e.lifts id s = false)
    (hs : s.clock < limit → ∀ a, s.account id = some a → AccountOperation.Limited limit a)
    (hclock : s'.clock < limit) (ha' : s'.account id = some a') :
    AccountOperation.Limited limit a' := by
  obtain ⟨hle, a, ha, rfl, ⟨op, rfl, hhits, hspares, rfl⟩ | hsame⟩ := sparing_step h ha'
  · exact AccountOperation.sets_limited hspares hhits ha hlifts hclock
      (hs (hle.trans_lt hclock) a ha)
  · obtain ⟨hstatus, c, hc, hlimit⟩ := hs (hle.trans_lt hclock) a ha
    obtain ⟨hstatus', hcooldown⟩ := status_of_standing hsame
    exact ⟨hstatus'.trans hstatus, c, hcooldown.trans hc, hlimit⟩

end Steps

/-- In a run whose updates spare the states that have to stay, no disabled, invalid or
limited account comes back into traffic. -/
theorem sparing_staysOut (id : UUID) : StaysOut sparing id where
  disabled s s' es a a' hrun ha hstatus ha' := by
    have hkept : ∀ b, s'.account id = some b → b.status = .disabled := by
      refine hrun.invariant (I := fun s => ∀ b, s.account id = some b → b.status = .disabled) ?_ ?_
      · intro s e s' hstep hs b hb
        exact sparing_disabled hstep hs hb
      · intro b hb
        rwa [← Option.some.inj (ha.symm.trans hb)]
    rw [hkept a' ha']
    decide
  invalid s s' es a a' hrun ha hstatus ha' := by
    have hkept : ∀ b, s'.account id = some b → b.status = .invalid := by
      refine hrun.invariant (I := fun s => ∀ b, s.account id = some b → b.status = .invalid) ?_ ?_
      · rintro s e s' ⟨hstep, hrelogs⟩ hs b hb
        exact sparing_invalid hstep hrelogs hs hb
      · intro b hb
        rwa [← Option.some.inj (ha.symm.trans hb)]
    rw [hkept a' ha']
    decide
  limited s s' es a a' limit hrun ha hstatus hlimit hclock ha' := by
    have hkept : s'.clock < limit → ∀ b, s'.account id = some b →
        AccountOperation.Limited limit b := by
      refine hrun.invariant (I := fun s => s.clock < limit → ∀ b, s.account id = some b →
        AccountOperation.Limited limit b) ?_ ?_
      · rintro s e s' ⟨hstep, hlifts⟩ hs hlt b hb
        exact sparing_limited hstep hlifts hs hlt hb
      · intro _ b hb
        obtain rfl := Option.some.inj (ha.symm.trans hb)
        exact ⟨hstatus, limit, hlimit, le_rfl⟩
    obtain ⟨hkeeps, hcooldown⟩ := hkept hclock a' ha'
    refine ⟨?_, hcooldown⟩
    rw [hkeeps]
    decide

/-- A disabled account. -/
def disabledAccount : SessionAccount where
  id := 1
  providerID := .creativefabrica
  status := .disabled
  generationPermissionStatus := .unknown
  cooldownUntil := none
  accessTokenExpiresAt := none
  lastCheckedAt := none
  subscriptionTokens := 0
  rolloverTokens := 0
  paidTokens := 0
  imageConcurrency := 1
  queueCapacity := 1
  routingRole := .general
  protectedTokens := 0
  videoReservedSlots := 0
  proxyURL := ""
  lastError := ""
  lastSubmittedAt := none
  archivedAt := none
  imageConcurrency_pos := by decide
  queueCapacity_pos := by decide
  queueCapacity_le := by decide
  videoReservedSlots_le := by decide
  sessionRefreshEnabled := true
  browserWorkerGroup := "default"
  cookieJSON := ""
  pendingCookieJSON := ""
  pendingFingerprint := ""
  balanceRefreshVersion := 1
  balanceSnapshotVersion := 0
  balanceSnapshotStartedAt := none
  sessionRefreshFailures := 0
  sessionRefreshNotBefore := none

/-- A refreshed session brings it back into traffic. -/
theorem disabledAccount_refreshed : ¬ ∀ id, StaysOut automatic id := by
  intro h
  let op : AccountOperation := .updateSession 1 1 (hours 1) 0 ⟨10, 0, 0⟩ ""
  let s : AccountState := ⟨⟨⟨[disabledAccount], by decide⟩, .empty⟩, 0⟩
  have hrun : automatic.Run s [.operation 1 op] ⟨op.apply 1 s.store, 1⟩ :=
    ⟨_, ⟨by decide, rfl⟩, rfl⟩
  have hafter : AccountState.account ⟨op.apply 1 s.store, 1⟩ 1 =
      some (disabledAccount.withSession 1 1 (hours 1) 0 ⟨10, 0, 0⟩ "") := rfl
  exact (h 1).disabled s _ _ disabledAccount _ hrun rfl rfl hafter rfl

end GenerationGateway
