import GenerationGateway.Accounts.Writes
import GenerationGateway.Workers.Submission

/-!
# The claim and the worker look at one account

`ClaimTask` keeps a queued task on its account by one predicate, and the worker that was
given the task sends its request by another. Only the second looks at the permission of an
account of another provider than Leonardo. Every automatic write keeps a blocked account
out of traffic or its token expired, so the two agree until an administrator activates one.
-/

namespace GenerationGateway

open Relational Transitions

/-- The account as `loadClaimAccount` reads it. -/
def Database.claimAccount (db : Database) (id : UUID) : Option ClaimAccountState :=
  (db.accounts.get? id).map fun a => ⟨a, usage db id⟩

/-- The account as `GetAccount` returns it. -/
def Database.workerAccount (db : Database) (id : UUID) : Option WorkerAccount :=
  (db.accounts.get? id).map fun a =>
    { id := a.id
      providerID := a.providerID
      status := a.status
      generationPermissionStatus := a.generationPermissionStatus
      cooldownUntil := a.cooldownUntil
      accessTokenExpiresAt := a.accessTokenExpiresAt
      lastCheckedAt := a.lastCheckedAt
      totalTokens := a.balance
      reservedTokens := heldTokens db id
      proxyURL := a.proxyURL }

/-- A claim at this time keeps its task on the account; the foreign key of the tasks gives
both one provider. -/
def Database.claimKeeps (db : Database) (id : UUID) (now : Time) : Bool :=
  (db.claimAccount id).any fun s => s.routeable s.account.providerID now

/-- A worker at this time does not give a task of the account back. -/
def Database.workerKeeps (db : Database) (id : UUID) (now : Time) : Bool :=
  (db.workerAccount id).any (submissionAccountRouteable now)

/-- An account that may not generate is out of traffic, or its token has expired. -/
def SessionAccount.Withheld (now : Time) (a : SessionAccount) : Prop :=
  a.providerID ≠ .leonardo → a.generationPermissionStatus = .blocked →
    a.status = .disabled ∨ a.status = .invalid ∨ a.tokenExpired now = true

/-- The write activates no account that may not generate but has a token. -/
def AccountWrite.spares (now : Time) (s : SessionStore) : AccountWrite → Bool
  | setStatus id .active => (s.accounts.get? id).all fun a => a.archivedAt.isSome ||
      decide (a.providerID = .leonardo) || decide (a.generationPermissionStatus ≠ .blocked) ||
      a.tokenExpired now
  | _ => true

/-! ### What a write leaves -/

namespace SessionAccount

variable {now t : Time} {a b : SessionAccount}

theorem tokenExpired_mono (h : a.tokenExpired t = true) (hle : t ≤ now) :
    a.tokenExpired now = true := by
  unfold tokenExpired at h ⊢
  cases hexpiry : a.accessTokenExpiresAt with
  | none => rfl
  | some e =>
    rw [hexpiry] at h
    simp only [Option.all_some, decide_eq_true_eq] at h ⊢
    exact h.trans hle

theorem Withheld.later (h : a.Withheld t) (hle : t ≤ now) : a.Withheld now := by
  intro hprovider hblocked
  rcases h hprovider hblocked with hdisabled | hinvalid | hexpired
  · exact Or.inl hdisabled
  · exact Or.inr (Or.inl hinvalid)
  · exact Or.inr (Or.inr (tokenExpired_mono hexpired hle))

theorem Withheld.of_standing (h : a.Withheld now) (hprovider : b.providerID = a.providerID)
    (hstanding : b.standing = a.standing) : b.Withheld now := by
  simp only [standing, Standing.mk.injEq] at hstanding
  obtain ⟨hstatus, hpermission, -, hexpiry, -⟩ := hstanding
  unfold Withheld tokenExpired
  rw [hprovider, hstatus, hpermission, hexpiry]
  exact h

/-- A write that lets the permission and the token be, and activates nothing but an
account in a cooldown. -/
theorem Withheld.of_status (h : a.Withheld now) (hprovider : b.providerID = a.providerID)
    (hpermission : b.generationPermissionStatus = a.generationPermissionStatus)
    (hexpiry : b.accessTokenExpiresAt = a.accessTokenExpiresAt)
    (hstatus : b.status = a.status ∨ b.status = .disabled ∨ b.status = .invalid ∨
      (a.status ≠ .disabled ∧ a.status ≠ .invalid)) : b.Withheld now := by
  intro hother hblocked
  rw [hprovider] at hother
  rw [hpermission] at hblocked
  unfold tokenExpired
  rw [hexpiry]
  rcases hstatus with hsame | hdisabled | hinvalid | ⟨hnd, hni⟩
  · rw [hsame]
    exact h hother hblocked
  · exact Or.inl hdisabled
  · exact Or.inr (Or.inl hinvalid)
  · rcases h hother hblocked with hd | hi | hexpired
    · exact absurd hd hnd
    · exact absurd hi hni
    · exact Or.inr (Or.inr hexpired)

theorem withheld_created (b : SessionAccount) : b.created.Withheld now := by
  intro _ hblocked
  cases hblocked

theorem withheld_withCredentials (cookieJSON : String) (persist promote : Bool) (expiry : Time) :
    (a.withCredentials t cookieJSON persist promote expiry).Withheld now := by
  intro _ hblocked
  change a.generationPermissionStatus = .blocked at hblocked
  by_cases hdisabled : a.status = .disabled
  · left
    simp [withCredentials, hdisabled]
  · right
    left
    simp [withCredentials, hdisabled, hblocked]

theorem withheld_withSession (version : ℤ) (expiry startedAt : Time) (credits : Credits)
    (lastErr : String) : (a.withSession t version expiry startedAt credits lastErr).Withheld now := by
  intro _ hblocked
  change a.generationPermissionStatus = .blocked at hblocked
  right
  left
  simp [withSession, hblocked]

theorem withheld_withPermission (permission : GenerationPermission)
    (message : String) : (a.withPermission permission message).Withheld now := by
  intro hother hblocked
  change permission = .blocked at hblocked
  by_cases hdisabled : a.status = .disabled
  · left
    simp [withPermission, hdisabled]
  · right
    left
    simp [withPermission, hdisabled, hblocked]

theorem withheld_withTokens (h : a.Withheld now) (version : ℤ) (startedAt : Time)
    (credits : Credits) : (a.withTokens t version startedAt credits).Withheld now := by
  by_cases hkeeps : a.keepsState t = true
  · exact h.of_status rfl rfl rfl (Or.inl (by simp [withTokens, hkeeps]))
  · intro _ hblocked
    change a.generationPermissionStatus = .blocked at hblocked
    simp [keepsState, hblocked] at hkeeps

theorem withheld_refreshFailed (h : a.Withheld now) (retryAfter : Time) (message : String) :
    (a.refreshFailed now retryAfter message).Withheld now := by
  by_cases hexpired : a.tokenExpired now = true
  · intro _ _
    exact Or.inr (Or.inr hexpired)
  · exact h.of_status rfl rfl rfl (Or.inl (by simp [refreshFailed, hexpired]))

theorem withheld_refreshFailedForGood (h : a.Withheld now) (message : String) :
    (a.refreshFailedForGood now message).Withheld now := by
  by_cases hexpired : a.tokenExpired now = true
  · intro _ _
    exact Or.inr (Or.inr hexpired)
  · exact h.of_status rfl rfl rfl (Or.inl (by simp [refreshFailedForGood, hexpired]))

theorem withheld_withError (h : a.Withheld now) (status : AccountStatus) (message : String)
    (cooldown : Option Time) : (a.withError now status message cooldown).Withheld now := by
  by_cases hfinal : a.status = .disabled ∨ a.status = .invalid
  · exact h.of_status rfl rfl rfl (Or.inl (by simp [withError, hfinal]))
  · exact h.of_status rfl rfl rfl (Or.inr (Or.inr (Or.inr (not_or.mp hfinal))))

theorem withheld_paused (h : a.Withheld now) (delay : Time) (message : String) :
    (a.paused now delay message).Withheld now := by
  unfold paused
  split
  · next hpausable =>
    simp only [pausable, Bool.and_eq_true, decide_eq_true_eq] at hpausable
    exact h.of_status rfl rfl rfl (Or.inr (Or.inr (Or.inr hpausable.1)))
  · exact h

theorem withheld_reconciled (h : a.Withheld now) (outcome : ReconciliationOutcome) :
    (a.reconciled now outcome).Withheld now := by
  cases outcome with
  | drift expected observed => exact withheld_paused h _ _
  | pending expected observed unresolved => exact withheld_paused h _ _
  | settled =>
    simp only [reconciled]
    split
    · next hpaused =>
      simp only [pausedByReconciliation, Bool.and_eq_true, decide_eq_true_eq] at hpaused
      refine h.of_status rfl rfl rfl (Or.inr (Or.inr (Or.inr ?_)))
      rw [hpaused.1]
      decide
    · exact h

end SessionAccount

section Writes

open SessionAccount

variable {now : Time} {s : SessionStore} {a : SessionAccount} {k : UUID}

theorem AccountOperation.withheld_sets (op : AccountOperation) (h : a.Withheld now)
    (hhits : op.hits now s a = true) : (op.sets now a).Withheld now := by
  cases op with
  | updateSessionCredentials => exact withheld_withCredentials _ _ _ _
  | updateSession => exact withheld_withSession _ _ _ _ _
  | updateTokens => exact withheld_withTokens h _ _ _
  | failRefresh => exact withheld_refreshFailed h _ _
  | terminalFailRefresh => exact withheld_refreshFailedForGood h _
  | setError => exact withheld_withError h _ _ _
  | setPermission => exact withheld_withPermission _ _
  | activateExpired =>
    refine h.of_status rfl rfl rfl (Or.inr (Or.inr (Or.inr ?_)))
    simp only [AccountOperation.hits, cooldownOver, Bool.and_eq_true, Bool.or_eq_true,
      decide_eq_true_eq] at hhits
    rcases hhits.1.2 with hstatus | hstatus <;> simp [hstatus]

theorem RefreshOperation.withheld_setsAccount (op : RefreshOperation) (h : a.Withheld now) :
    (op.setsAccount now s a).Withheld now := by
  cases op with
  | complete | storeCookies =>
    simp only [setsAccount]
    split
    · exact h.of_standing rfl rfl
    · exact h
  | archive =>
    simp only [setsAccount]
    split
    · exact h.of_status rfl rfl rfl (Or.inr (Or.inl rfl))
    · exact h
  | importCookies =>
    simp only [setsAccount]
    split
    · split <;> exact h.of_standing rfl rfl
    · exact h
  | importSession =>
    simp only [setsAccount]
    split
    · exact withheld_withCredentials _ _ _ _
    · exact h
  | account op direct =>
    simp only [setsAccount]
    split
    · next hhits => exact op.withheld_sets h hhits
    · exact h
  | _ => exact h

theorem AccountWrite.withheld_sets (write : AccountWrite) (ha : s.accounts.get? k = some a)
    (h : a.Withheld now) (hspares : write.spares now s = true) : (write.sets now s a).Withheld now := by
  cases write with
  | refresh op => exact op.withheld_setsAccount h
  | setStatus id status =>
    simp only [sets]
    split
    · next hhit =>
      simp only [Bool.and_eq_true, decide_eq_true_eq, Option.isNone_iff_eq_none] at hhit
      cases status with
      | disabled => exact h.of_status rfl rfl rfl (Or.inr (Or.inl rfl))
      | active =>
        -- the only write that activates an account whatever its permission
        have hread : s.accounts.get? id = some a := by
          rw [← hhit.1, RefreshOperation.id_of_get?_accounts ha, ha]
        intro hother hblocked
        change a.providerID ≠ .leonardo at hother
        change a.generationPermissionStatus = .blocked at hblocked
        have hexpired : a.tokenExpired now = true := by
          simpa [spares, hread, hhit.2, hother, hblocked] using hspares
        exact Or.inr (Or.inr hexpired)
    · exact h
  | updateConfig id executingTasks queuedTasks patch =>
    simp only [sets]
    split
    · have hsame := (a.withConfig_eq executingTasks queuedTasks patch).2
      exact h.of_standing hsame.1 hsame.2
    · exact h
  | reconcile id outcome =>
    simp only [sets]
    split
    · exact withheld_reconciled h outcome
    · exact h
  | delete => exact h
  | _ =>
    simp only [sets]
    split
    · exact h.of_standing rfl rfl
    · exact h

/-- No account of a store is in traffic without its provider's permission. -/
def AccountState.Withheld (s : AccountState) : Prop :=
  ∀ k a, s.store.accounts.get? k = some a → a.Withheld s.clock

theorem AccountState.Withheld.step {s s' : AccountState} {act : AccountAct} (h : s.Withheld)
    (hstep : accountWrites.step s act s') (hspares : act.write.spares act.now s.store = true) :
    s'.Withheld := by
  obtain ⟨hclock, rfl⟩ := AccountState.write_eq_some hstep
  intro k b hb
  cases ha : s.store.accounts.get? k with
  | none =>
    obtain ⟨c, rfl⟩ := act.write.created_of_new ha hb
    exact withheld_created c
  | some a =>
    rw [act.write.get?_existing ha hb]
    exact act.write.withheld_sets ha ((h k a ha).later hclock) hspares

end Writes

/-! ### The two predicates -/

/-- What both predicates ask for beside the permission. -/
def Account.inTraffic (a : Account) (held : ℕ) (now : Time) : Bool :=
  decide (a.status = .active) && (a.cooldownUntil.all fun c => c ≤ now) &&
    (a.accessTokenExpiresAt.any fun e => now < e) && a.lastCheckedAt.isSome &&
    decide ((held : ℤ) ≤ a.balance)

section Predicates

variable {db : Database} {id : UUID} {now t₁ t₂ t₃ : Time} {a : Account}

theorem claimKeeps_eq (ha : db.accounts.get? id = some a) :
    db.claimKeeps id now = ((decide (a.providerID ≠ .leonardo) ||
      decide (a.generationPermissionStatus = .verified)) && a.inTraffic (heldTokens db id) now) := by
  rw [Bool.eq_iff_iff]
  simp only [Database.claimKeeps, Database.claimAccount, ha, Option.map_some, Option.any_some,
    ClaimAccountState.routeable, Account.inTraffic, usage, Bool.and_eq_true, decide_eq_true_eq]
  tauto

theorem workerKeeps_eq (ha : db.accounts.get? id = some a) :
    db.workerKeeps id now = ((if a.providerID = .leonardo then
      decide (a.generationPermissionStatus = .verified)
        else decide (a.generationPermissionStatus ≠ .blocked)) &&
      a.inTraffic (heldTokens db id) now) := by
  rw [Bool.eq_iff_iff]
  simp only [Database.workerKeeps, Database.workerAccount, ha, Option.map_some, Option.any_some,
    submissionAccountRouteable, Account.inTraffic, Bool.and_eq_true, decide_eq_true_eq]
  tauto

theorem Account.inTraffic_between {held : ℕ} (h₁ : a.inTraffic held t₁ = true)
    (h₃ : a.inTraffic held t₃ = true) (hle : t₁ ≤ t₂) (hle' : t₂ ≤ t₃) :
    a.inTraffic held t₂ = true := by
  simp only [inTraffic, Bool.and_eq_true, Option.all_eq_true, Option.any_eq_true,
    decide_eq_true_eq] at h₁ h₃ ⊢
  obtain ⟨⟨⟨⟨hstatus, hcooldown⟩, -⟩, hchecked⟩, hheld⟩ := h₁
  obtain ⟨⟨⟨-, e, he, hexpiry⟩, -⟩, -⟩ := h₃
  refine ⟨⟨⟨⟨hstatus, ?_⟩, e, he, lt_of_le_of_lt hle' hexpiry⟩, hchecked⟩, hheld⟩
  intro c hc
  exact (hcooldown c hc).trans hle

/-- On an account that stays as it is, the times at which a claim keeps its task are an
interval. -/
theorem claimKeeps_between (h₁ : db.claimKeeps id t₁ = true) (h₃ : db.claimKeeps id t₃ = true)
    (hle : t₁ ≤ t₂) (hle' : t₂ ≤ t₃) : db.claimKeeps id t₂ = true := by
  cases ha : db.accounts.get? id with
  | none => simp [Database.claimKeeps, Database.claimAccount, ha] at h₁
  | some a =>
    rw [claimKeeps_eq ha, Bool.and_eq_true] at h₁ h₃ ⊢
    exact ⟨h₁.1, Account.inTraffic_between h₁.2 h₃.2 hle hle'⟩

end Predicates

section Agreement

variable {db : Database} {id : UUID} {now : Time} {a : SessionAccount}

theorem SessionAccount.Withheld.not_inTraffic (h : a.Withheld now)
    (hprovider : a.providerID ≠ .leonardo) (hblocked : a.generationPermissionStatus = .blocked)
    (held : ℕ) : a.toAccount.inTraffic held now = false := by
  rcases h hprovider hblocked with hstatus | hstatus | hexpired
  · simp [Account.inTraffic, hstatus]
  · simp [Account.inTraffic, hstatus]
  · have hnone : (a.accessTokenExpiresAt.any fun e => now < e) = false := by
      cases hexpiry : a.accessTokenExpiresAt with
      | none => rfl
      | some e => simpa [SessionAccount.tokenExpired, hexpiry] using hexpired
    simp [Account.inTraffic, hnone]

theorem SessionAccount.Withheld.keeps (h : a.Withheld now)
    (ha : db.accounts.get? id = some a.toAccount) : db.claimKeeps id now = db.workerKeeps id now := by
  rw [claimKeeps_eq ha, workerKeeps_eq ha]
  by_cases hprovider : a.providerID = .leonardo
  · simp [hprovider]
  · by_cases hblocked : a.generationPermissionStatus = .blocked
    · simp [h.not_inTraffic hprovider hblocked]
    · simp [hprovider, hblocked]

theorem get?_database (s : SessionStore) (db : Database) (id : UUID) :
    (s.database db).accounts.get? id = (s.accounts.get? id).map SessionAccount.toAccount :=
  Table.get?_mapRows s.accounts SessionAccount.toAccount SessionAccount.toAccount_key id

/-- From now on the claim and the worker agree about an account, and do not hand its tasks
back and forth. -/
structure AccountState.Agrees (s : AccountState) (db : Database) (id : UUID) : Prop where
  keeps : ∀ now, s.clock ≤ now →
    (s.store.database db).claimKeeps id now = (s.store.database db).workerKeeps id now
  settles : ∀ t₁ t₂ t₃, s.clock ≤ t₁ → t₁ ≤ t₂ → t₂ ≤ t₃ →
    (s.store.database db).claimKeeps id t₁ = true →
    (s.store.database db).workerKeeps id t₂ = false →
    (s.store.database db).claimKeeps id t₃ = false

variable {clock : Time} {acts : List AccountAct} {s : AccountState}

/-- In every run in which no administrator activates a blocked account of another provider
than Leonardo while its token is good, the two agree about every account, whatever it
holds. -/
theorem routeability_agrees
    (hrun : (accountWrites.restrict fun s act => act.write.spares act.now s.store = true).Run
      (.fresh clock) acts s) (db : Database) (id : UUID) : s.Agrees db id := by
  have hwithheld : s.Withheld := by
    refine hrun.invariant (I := AccountState.Withheld) ?_ fun k a ha => ?_
    · intro s act s' hstep h
      exact h.step hstep.1 hstep.2
    · cases ha
  have hagree (now : Time) (hle : s.clock ≤ now) :
      (s.store.database db).claimKeeps id now = (s.store.database db).workerKeeps id now := by
    cases ha : s.store.accounts.get? id with
    | none =>
      simp [Database.claimKeeps, Database.claimAccount, Database.workerKeeps,
        Database.workerAccount, get?_database, ha]
    | some a =>
      refine ((hwithheld id a ha).later hle).keeps ?_
      rw [get?_database, ha, Option.map_some]
  refine ⟨hagree, ?_⟩
  intro t₁ t₂ t₃ hclock hle hle' hclaim hyield
  by_contra hagain
  have hbetween := claimKeeps_between hclaim (Bool.eq_true_of_not_eq_false hagain) hle hle'
  rw [hagree t₂ (hclock.trans hle), hyield] at hbetween
  cases hbetween

end Agreement

/-! ### An account that may not generate -/

/-- An account gets its session, and its provider then refuses to generate. -/
def refusedActs : List AccountAct :=
  [⟨0, .refresh (.createAccount disabledAccount)⟩,
    ⟨1, .refresh (.account (.updateSession 1 0 (hours 1) 0 ⟨10, 0, 0⟩ "") rfl)⟩,
    ⟨2, .refresh (.account (.setPermission 1 .blocked "") rfl)⟩]

theorem routeability_agrees_refused : ∃ s : AccountState,
    ((s.store.accounts.get? 1).map fun a => a.generationPermissionStatus) = some .blocked ∧
      s.Agrees (smallStore .empty).db 1 := by
  have hrun : (LTS.follow AccountState.write (fun s act => act.write.spares act.now s.store)
      (.fresh 0) refusedActs).map
      (fun s => (s.store.accounts.get? 1).map fun a => a.generationPermissionStatus) =
      some (some .blocked) := by
    decide +kernel
  obtain ⟨s, hs, hblocked⟩ := Option.map_eq_some_iff.mp hrun
  exact ⟨s, hblocked, routeability_agrees (LTS.run_of_follow hs) _ _⟩

/-- An administrator activates the account: every claim keeps its tasks, and every worker
gives them back. -/
theorem refused_activated : ¬ ∀ (clock : Time) (acts : List AccountAct) (s : AccountState),
    accountWrites.Run (.fresh clock) acts s → ∀ (db : Database) (id : UUID), s.Agrees db id := by
  intro h
  have hrun : (LTS.follow AccountState.write (fun _ _ => true) (.fresh 0)
      (refusedActs ++ [⟨3, .setStatus 1 .active⟩])).map
      (fun s => (s.clock, (s.store.database (smallStore .empty).db).claimKeeps 1 3,
        (s.store.database (smallStore .empty).db).workerKeeps 1 3)) = some (3, true, false) := by
    decide +kernel
  obtain ⟨s, hs, hkeeps⟩ := Option.map_eq_some_iff.mp hrun
  simp only [Prod.mk.injEq] at hkeeps
  obtain ⟨hclock, hclaim, hworker⟩ := hkeeps
  have hagree := (h 0 _ s (LTS.run_of_follow hs).of_restrict (smallStore .empty).db 1).keeps 3
    (le_of_eq hclock)
  rw [hclaim, hworker] at hagree
  cases hagree

end GenerationGateway
