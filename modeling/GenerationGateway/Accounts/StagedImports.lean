import GenerationGateway.Accounts.RefreshRuns

/-!
# Staged cookie documents

A document that is imported for an account with a browser session stays pending until an
attempt with its fingerprint is promoted. No job ends while another document is pending, so
an import that arrives during an older attempt leaves a job that will try it.
-/

namespace GenerationGateway

open Relational Transitions

theorem BrowserSession.persist_of_promote {session : BrowserSession}
    (h : session.promoteCookieJSON = true) : session.persistCookieJSON = true := by
  simp [persistCookieJSON, of_decide_eq_true h]

namespace RefreshOperation

variable {s : SessionStore} {now : Time} {op : RefreshOperation} {a : SessionAccount}
  {j : SessionRefreshJob} {id k : UUID}

/-- What an operation does to an account that exists. -/
theorem get?_existingAccount (op : RefreshOperation) (ha : s.accounts.get? id = some a) :
    (op.apply now s).accounts.get? id = some (op.setsAccount now s a) := by
  cases hop : op.creates with
  | false => rw [get?_accounts hop id, ha, Option.map_some]
  | true =>
    cases op with
    | createAccount b =>
      change (createProviderAccount b s).2.accounts.get? id = some a
      unfold createProviderAccount
      split
      · next accounts hinsert =>
        have hnone : s.accounts.get? b.id = none := (Table.insert?_eq_some hinsert).1
        have hne : id ≠ b.id := by
          rintro rfl
          cases hnone.symm.trans ha
        exact (Table.get?_insert? hinsert id).trans ((if_neg hne).trans ha)
      · exact ha
    | _ => cases hop

/-- A new account has the defaults. -/
theorem created_of_new (hnone : s.accounts.get? id = none)
    (ha : (op.apply now s).accounts.get? id = some a) : ∃ b : SessionAccount, a = b.created := by
  cases hop : op.creates with
  | false =>
    rw [get?_accounts hop id, hnone] at ha
    cases ha
  | true =>
    cases op with
    | createAccount b =>
      change (createProviderAccount b s).2.accounts.get? id = some a at ha
      unfold createProviderAccount at ha
      split at ha
      · next accounts hinsert =>
        have hrow := (Table.get?_insert? hinsert id).symm.trans ha
        split_ifs at hrow
        · exact ⟨b, (Option.some.inj hrow).symm⟩
        · cases hnone.symm.trans hrow
      · cases hnone.symm.trans ha
    | _ => cases hop

/-- A new account has no pending document. -/
theorem noPending_of_new (hnone : s.accounts.get? id = none)
    (ha : (op.apply now s).accounts.get? id = some a) : a.pendingCookieJSON = "" := by
  obtain ⟨b, rfl⟩ := created_of_new hnone ha
  rfl

theorem setsAccount_providerID (op : RefreshOperation) (a : SessionAccount) :
    (op.setsAccount now s a).providerID = a.providerID := by
  cases op with
  | importCookies =>
    simp only [setsAccount]
    split
    · split <;> rfl
    · rfl
  | complete | archive | importSession | storeCookies =>
    simp only [setsAccount]
    split <;> rfl
  | account op direct =>
    simp only [setsAccount]
    split
    · cases op <;> rfl
    · rfl
  | _ => rfl

/-- A pending document changes with a new import, and with the promotion of the very
document. -/
theorem pending_setsAccount (hprovider : a.pendingCookieJSON ≠ "" →
      a.providerID.importsDirectly = false) (hpending : a.pendingCookieJSON ≠ "") :
    ((op.setsAccount now s a).pendingCookieJSON = a.pendingCookieJSON ∧
        (op.setsAccount now s a).pendingFingerprint = a.pendingFingerprint) ∨
      (∃ document, op = .importCookies a.id document ∧
        op.setsAccount now s a = a.withPendingCookies document) ∨
      ∃ session : BrowserSession, op = .importSession a.id session ∧
        session.promoteCookieJSON = true ∧ session.cookieJSONFingerprint = a.pendingFingerprint ∧
        session.cookieJSON ≠ "" ∧ (op.setsAccount now s a).cookieJSON = session.cookieJSON ∧
        (op.setsAccount now s a).pendingCookieJSON = "" := by
  have hstaged := hprovider hpending
  cases op with
  | importCookies id document =>
    by_cases hid : a.id = id
    · exact Or.inr (Or.inl ⟨document, hid ▸ rfl, by simp [setsAccount, hid, hstaged]⟩)
    · exact Or.inl (by simp [setsAccount, hid])
  | importSession id session =>
    by_cases happlies : (decide (a.id = id) && session.applies now a) = true
    · have hset : setsAccount now s a (.importSession id session) =
          a.withCredentials now session.cookieJSON session.persistCookieJSON
            session.promoteCookieJSON session.accessTokenExpiry := if_pos happlies
      rw [hset]
      by_cases hpromotes : session.promoteCookieJSON = true ∧ session.cookieJSON ≠ ""
      · obtain ⟨hpromote, hcookies⟩ := hpromotes
        simp only [BrowserSession.applies, hpromote, Bool.not_true, Bool.false_or, Bool.and_eq_true,
          decide_eq_true_eq] at happlies
        obtain ⟨hid, -, -, hfingerprint⟩ := happlies
        refine Or.inr (Or.inr ⟨session, hid ▸ rfl, hpromote, hfingerprint.symm, hcookies, ?_, ?_⟩)
        · simp [SessionAccount.withCredentials, BrowserSession.persist_of_promote hpromote, hcookies]
        · simp [SessionAccount.withCredentials, hpromote, hcookies]
      · have hkeeps : (session.promoteCookieJSON && decide (session.cookieJSON ≠ "")) = false := by
          simpa using hpromotes
        simp only [SessionAccount.withCredentials, hkeeps]
        exact Or.inl ⟨rfl, rfl⟩
    · exact Or.inl (by simp [setsAccount, happlies])
  | storeCookies id ciphertext =>
    refine Or.inl ?_
    have hne : a.providerID ≠ .creativefabrica := by
      intro h
      simp [h, ProviderID.importsDirectly] at hstaged
    simp [setsAccount, hne]
  | complete | archive =>
    refine Or.inl ?_
    simp only [setsAccount]
    split <;> exact ⟨rfl, rfl⟩
  | account op direct =>
    refine Or.inl ?_
    simp only [setsAccount]
    split
    · cases op with
      | updateSessionCredentials => cases direct
      | _ => exact ⟨rfl, rfl⟩
    · exact ⟨rfl, rfl⟩
  | _ => exact Or.inl ⟨rfl, rfl⟩

/-- Only an account with a browser session gets a pending document. -/
theorem staged_setsAccount (h : (op.setsAccount now s a).pendingCookieJSON ≠ "") :
    a.pendingCookieJSON ≠ "" ∨ a.providerID.importsDirectly = false := by
  by_contra hnot
  obtain ⟨hempty, hdirect⟩ : a.pendingCookieJSON = "" ∧ a.providerID.importsDirectly = true := by
    simpa using hnot
  apply h
  cases op with
  | importCookies id document =>
    by_cases hid : a.id = id
    · simp [setsAccount, hid, hdirect, SessionAccount.withCookies]
    · simp [setsAccount, hid, hempty]
  | importSession id session =>
    simp only [setsAccount]
    split
    · simp [SessionAccount.withCredentials, hempty]
    · exact hempty
  | storeCookies id ciphertext =>
    simp only [setsAccount]
    split
    · rfl
    · exact hempty
  | complete | archive =>
    simp only [setsAccount]
    split <;> exact hempty
  | account op direct =>
    simp only [setsAccount]
    split
    · cases op with
      | updateSessionCredentials => cases direct
      | _ => exact hempty
    · exact hempty
  | _ => exact hempty

/-! ### Jobs that end -/

/-- The operation reports an attempt with the fingerprint on the account. -/
def attempts (s : SessionStore) (id : UUID) (fingerprint : String) : RefreshOperation → Bool
  | importSession k session => decide (k = id) && session.promoteCookieJSON &&
    decide (session.cookieJSONFingerprint = fingerprint)
  | account (.terminalFailRefresh job _ _ attempted) _ =>
    decide (attempted = fingerprint) && (s.jobs.get? job).any fun j => j.accountID = id
  | _ => false

/-- The operation replaces the pending document, or archives the account. -/
def replaces (id : UUID) : RefreshOperation → Bool
  | importCookies k _ | archive k _ => k = id
  | _ => false

/-- A job that ends while a document is pending was tried with that document, or its account
is archived. -/
theorem active_of_pending (hj : s.jobs.get? k = some j) (ha : s.accounts.get? j.accountID = some a)
    (hpending : a.pendingCookieJSON ≠ "") (hhits : op.hits now s j = true) :
    (op.sets now s j).active = true ∨ (∃ inUse, op = .archive j.accountID inUse) ∨
      ∃ leaseToken message attempted direct,
        op = .account (.terminalFailRefresh k leaseToken message attempted) direct ∧
          attempted ≠ "" ∧ a.pendingFingerprint = attempted := by
  cases op with
  | archive id inUse =>
    cases entitled_of_hits hj hhits with
    | archived => exact Or.inr (Or.inl ⟨inUse, rfl⟩)
    | token _ _ hpresents => cases hpresents
  | enqueue accountID priority stage newID => exact Or.inl (entitled_of_hits hj hhits).active
  | extend id leaseToken lease => exact Or.inl (entitled_of_hits hj hhits).active
  | complete id leaseToken minFresh =>
    simp only [hits, Bool.and_eq_true, Option.isSome_iff_exists] at hhits
    obtain ⟨⟨-, started, hstarted⟩, -⟩ := hhits
    refine Or.inl ?_
    simp only [sets, ha, hstarted, SessionRefreshJob.completed, if_pos hpending]
    rfl
  | recoverExpired | claim | requireBrowser | defer => exact Or.inl rfl
  | account op direct =>
    cases op with
    | failRefresh => exact Or.inl rfl
    | terminalFailRefresh id leaseToken message attempted =>
      by_cases huntried : a.untriedCookies attempted = true
      · refine Or.inl ?_
        simp only [sets, ha, Option.any_some, huntried, if_true]
        rfl
      · have hid : id = k := by
          simp only [hits, Bool.and_eq_true, decide_eq_true_eq] at hhits
          rw [← hhits.1.1, id_of_get?_jobs hj]
        have htried : attempted ≠ "" ∧ a.pendingFingerprint = attempted := by
          simpa [SessionAccount.untriedCookies, hpending] using huntried
        exact Or.inr (Or.inr ⟨leaseToken, message, attempted, direct, hid ▸ rfl, htried⟩)
    | _ => cases hhits
  | _ => cases hhits

end RefreshOperation

/-! ### Runs -/

/-- The pending documents are those of accounts with a browser session. -/
def SessionStore.StagedForBrowser (s : SessionStore) : Prop :=
  ∀ id a, s.accounts.get? id = some a → a.pendingCookieJSON ≠ "" →
    a.providerID.importsDirectly = false

/-- The document is pending, and a job is left to try it. -/
def SessionStore.Staged (s : SessionStore) (id : UUID) (document : CookieDocument) : Prop :=
  (∃ a, s.accounts.get? id = some a ∧ a.providerID.importsDirectly = false ∧
      a.pendingCookieJSON = document.ciphertext ∧ a.pendingFingerprint = document.fingerprint) ∧
    ∃ j ∈ s.jobs.rows, j.accountID = id ∧ j.active = true

/-- The steps that neither try the document nor replace it. -/
def spares (id : UUID) (document : CookieDocument) (s : AccountState) : RefreshAct → Bool
  | .operation _ op => !op.attempts s.store id document.fingerprint && !op.replaces id
  | .other _ => true

/-- What the next step of a run may do to a pending document, and to the jobs of its account. -/
structure ImportLaw (s : AccountState) (act : RefreshAct) (s' : AccountState) : Prop where
  cleared : ∀ id a a', s.store.accounts.get? id = some a → a.pendingCookieJSON ≠ "" →
    s'.store.accounts.get? id = some a' →
    (a'.pendingCookieJSON = a.pendingCookieJSON ∧ a'.pendingFingerprint = a.pendingFingerprint) ∨
    (∃ now document, act = .operation now (.importCookies id document) ∧
      a'.pendingCookieJSON = document.ciphertext ∧ a'.pendingFingerprint = document.fingerprint) ∨
    ∃ now, ∃ session : BrowserSession, act = .operation now (.importSession id session) ∧
      session.promoteCookieJSON = true ∧ session.cookieJSONFingerprint = a.pendingFingerprint ∧
      session.cookieJSON ≠ "" ∧ a'.cookieJSON = session.cookieJSON ∧ a'.pendingCookieJSON = ""
  ended : ∀ k j', s'.store.jobs.get? k = some j' → j'.status = .succeeded ∨ j'.status = .failed →
    s.store.jobs.get? k ≠ some j' →
    ∃ now op j, act = .operation now op ∧ s.store.jobs.get? k = some j ∧
      ∀ a, s.store.accounts.get? j.accountID = some a → a.pendingCookieJSON = "" ∨
        ∃ leaseToken message attempted direct,
          op = .account (.terminalFailRefresh k leaseToken message attempted) direct ∧
            attempted ≠ "" ∧ a.pendingFingerprint = attempted

section Runs

variable {clock t now : Time} {acts : List RefreshAct} {s s' : AccountState} {act : RefreshAct}
  {op : RefreshOperation} {id : UUID} {document : CookieDocument} {a' : SessionAccount}

/-- Other changes leave the session of an account alone. -/
theorem session_of_other (hstep : sessionRefresh.step s (.other t) s')
    (ha : s'.store.accounts.get? id = some a') :
    ∃ a, s.store.accounts.get? id = some a ∧ a.session = a'.session := by
  obtain ⟨-, -, -, haccounts⟩ := hstep
  have hsession := haccounts id
  rw [ha] at hsession
  exact Option.map_eq_some_iff.mp hsession.symm

theorem stagedForBrowser_operation (h : s.store.StagedForBrowser) :
    (op.apply now s.store).StagedForBrowser := by
  intro id a' ha' hpending
  cases ha : s.store.accounts.get? id with
  | none => exact absurd (RefreshOperation.noPending_of_new ha ha') hpending
  | some a =>
    have hset := Option.some.inj ((RefreshOperation.get?_existingAccount op ha).symm.trans ha')
    subst hset
    rw [RefreshOperation.setsAccount_providerID]
    rcases RefreshOperation.staged_setsAccount hpending with hbefore | hstaged
    · exact h id a ha hbefore
    · exact hstaged

theorem stagedForBrowser_of_run (hrun : sessionRefresh.Run (.fresh clock) acts s) :
    s.store.StagedForBrowser := by
  refine hrun.invariant (I := fun s => s.store.StagedForBrowser) ?_ ?_
  · intro u act u' hstep h
    cases act with
    | operation now op =>
      obtain ⟨-, rfl⟩ := hstep
      exact stagedForBrowser_operation h
    | other now =>
      intro id a' ha' hpending
      obtain ⟨a, ha, hsession⟩ := session_of_other hstep ha'
      simp only [SessionAccount.session, SessionAccount.SessionColumns.mk.injEq] at hsession
      obtain ⟨hprovider, -, -, -, hcookies, -⟩ := hsession
      rw [← hprovider]
      exact h id a ha (hcookies ▸ hpending)
  · intro id a ha
    cases ha

theorem importLaw_operation (h : s.store.StagedForBrowser) :
    ImportLaw s (.operation now op) ⟨op.apply now s.store, now⟩ := by
  refine ⟨?_, ?_⟩
  · intro id a a' ha hpending ha'
    have hid : a.id = id := RefreshOperation.id_of_get?_accounts ha
    have hset := Option.some.inj ((RefreshOperation.get?_existingAccount op ha).symm.trans ha')
    subst hset
    rcases @RefreshOperation.pending_setsAccount s.store now op a (h id a ha) hpending with hkept | ⟨document, rfl, hset⟩ | ⟨session, rfl, hpromotes⟩
    · exact Or.inl hkept
    · exact Or.inr (Or.inl ⟨now, document, hid ▸ rfl, by rw [hset]; exact ⟨rfl, rfl⟩⟩)
    · exact Or.inr (Or.inr ⟨now, session, hid ▸ rfl, hpromotes⟩)
  · intro k j' hj' hended hchanged
    cases hj : s.store.jobs.get? k with
    | none =>
      have hnew := RefreshOperation.pending_of_new op hj hj'
      simp [hnew] at hended
    | some j =>
      have hrow := Option.some.inj ((RefreshOperation.get?_existing op hj).symm.trans hj')
      by_cases hhits : op.hits now s.store j = true
      · rw [if_pos hhits] at hrow
        subst hrow
        refine ⟨now, op, j, rfl, rfl, fun a ha => ?_⟩
        by_cases hpending : a.pendingCookieJSON = ""
        · exact Or.inl hpending
        · rcases RefreshOperation.active_of_pending hj ha hpending hhits with
            hactive | ⟨inUse, rfl⟩ | htried
          · rcases hended with h | h <;> simp [SessionRefreshJob.active, h] at hactive
          · rcases hended with h | h <;> cases h
          · exact Or.inr htried
      · rw [if_neg hhits] at hrow
        exact absurd (hrow ▸ hj) hchanged

theorem importLaw_other (hstep : sessionRefresh.step s (.other t) s') :
    ImportLaw s (.other t) s' := by
  refine ⟨?_, ?_⟩
  · intro id a a' ha hpending ha'
    obtain ⟨b, hb, hsession⟩ := session_of_other hstep ha'
    cases ha.symm.trans hb
    simp only [SessionAccount.session, SessionAccount.SessionColumns.mk.injEq] at hsession
    exact Or.inl ⟨hsession.2.2.2.2.1.symm, hsession.2.2.2.2.2.symm⟩
  · intro k j' hj' _ hchanged
    obtain ⟨-, -, hjobs, -⟩ := hstep
    exact absurd (hjobs ▸ hj') hchanged

/-- An operation that spares the document leaves it pending, with a job. -/
theorem staged_operation (h : s.store.Staged id document)
    (hspares : spares id document s (.operation now op) = true) :
    (op.apply now s.store).Staged id document := by
  obtain ⟨⟨a, ha, hprovider, hcookies, hfingerprint⟩, j, hmem, haccount, hactive⟩ := h
  obtain ⟨hattempts, hreplaces⟩ : op.attempts s.store id document.fingerprint = false ∧
      op.replaces id = false := by simpa [spares] using hspares
  have hid : a.id = id := RefreshOperation.id_of_get?_accounts ha
  have hpending : a.pendingCookieJSON ≠ "" := hcookies ▸ document.ciphertext_ne
  have hj : s.store.jobs.get? j.id = some j := Table.get?_of_mem hmem
  refine ⟨⟨op.setsAccount now s.store a, RefreshOperation.get?_existingAccount op ha, ?_⟩, ?_⟩
  · rcases @RefreshOperation.pending_setsAccount s.store now op a (fun _ => hprovider) hpending with
      ⟨hkept, hkept'⟩ | ⟨document', rfl, -⟩ | ⟨session, rfl, hpromote, hsame, -⟩
    · rw [RefreshOperation.setsAccount_providerID]
      exact ⟨hprovider, hkept.trans hcookies, hkept'.trans hfingerprint⟩
    · simp [RefreshOperation.replaces, hid] at hreplaces
    · simp [RefreshOperation.attempts, hid, hpromote, hsame, hfingerprint] at hattempts
  · have hrow : (op.apply now s.store).jobs.get? j.id =
        some (if op.hits now s.store j then op.sets now s.store j else j) :=
      RefreshOperation.get?_existing op hj
    refine ⟨_, Table.mem_of_get? hrow, ?_⟩
    by_cases hhits : op.hits now s.store j = true
    · rw [if_pos hhits]
      refine ⟨(RefreshOperation.sets_accountID op j).trans haccount, ?_⟩
      rcases RefreshOperation.active_of_pending hj (haccount ▸ ha) hpending hhits with
        hsets | ⟨inUse, rfl⟩ | ⟨leaseToken, message, attempted, direct, rfl, -, hsame⟩
      · exact hsets
      · simp [RefreshOperation.replaces, haccount] at hreplaces
      · simp [RefreshOperation.attempts, hj, haccount, ← hsame, hfingerprint] at hattempts
    · rw [if_neg hhits]
      exact ⟨haccount, hactive⟩

theorem staged_other (hstep : sessionRefresh.step s (.other t) s') (h : s.store.Staged id document) :
    s'.store.Staged id document := by
  obtain ⟨-, -, hjobs, haccounts⟩ := hstep
  obtain ⟨⟨a, ha, hprovider, hcookies, hfingerprint⟩, hjob⟩ := h
  have hsession := haccounts id
  rw [ha] at hsession
  obtain ⟨b, hb, hcolumns⟩ := Option.map_eq_some_iff.mp hsession
  simp only [SessionAccount.session, SessionAccount.SessionColumns.mk.injEq] at hcolumns
  obtain ⟨hprovider', -, -, -, hcookies', hfingerprint'⟩ := hcolumns
  exact ⟨⟨b, hb, hprovider'.symm ▸ hprovider, hcookies'.trans hcookies,
    hfingerprint'.trans hfingerprint⟩, hjobs ▸ hjob⟩

/-- The import stages the document; the job of the older attempt is still there. -/
theorem staged_import {a : SessionAccount} {j : SessionRefreshJob}
    (ha : s.store.accounts.get? id = some a) (hprovider : a.providerID.importsDirectly = false)
    (hmem : j ∈ s.store.jobs.rows) (haccount : j.accountID = id) (hactive : j.active = true) :
    ((RefreshOperation.importCookies id document).apply now s.store).Staged id document := by
  have hid : a.id = id := RefreshOperation.id_of_get?_accounts ha
  have hj : s.store.jobs.get? j.id = some j := Table.get?_of_mem hmem
  have hset : RefreshOperation.setsAccount now s.store a (.importCookies id document) =
      a.withPendingCookies document := by
    simp [RefreshOperation.setsAccount, hid, hprovider]
  have hrow : ((RefreshOperation.importCookies id document).apply now s.store).jobs.get? j.id = some
      (if RefreshOperation.hits now s.store j (.importCookies id document) then
        RefreshOperation.sets now s.store j (.importCookies id document) else j) :=
    RefreshOperation.get?_existing (.importCookies id document) hj
  exact ⟨⟨_, RefreshOperation.get?_existingAccount _ ha, by rw [hset]; exact ⟨hprovider, rfl, rfl⟩⟩,
    j, Table.mem_of_get? hrow, haccount, hactive⟩

/-- A pending document is cleared only by its own promotion, no job ends while a document is
pending that it was not tried with, and an import during an older attempt stays pending with
a job left, whatever that attempt and other operations do. -/
theorem stagedImports_kept (hrun : sessionRefresh.Run (.fresh clock) acts s) :
    (∀ act s', sessionRefresh.step s act s' → ImportLaw s act s') ∧
    ∀ (id : UUID) (a : SessionAccount) (j : SessionRefreshJob) (document : CookieDocument)
      (now : Time) (later : List RefreshAct) (s' s'' : AccountState),
      s.store.accounts.get? id = some a → a.providerID.importsDirectly = false →
      j ∈ s.store.jobs.rows → j.accountID = id → j.active = true →
      sessionRefresh.step s (.operation now (.importCookies id document)) s' →
      (sessionRefresh.restrict fun t act => spares id document t act = true).Run s' later s'' →
      s''.store.Staged id document := by
  refine ⟨?_, ?_⟩
  · intro act s' hstep
    cases act with
    | operation now op =>
      obtain ⟨-, rfl⟩ := hstep
      exact importLaw_operation (stagedForBrowser_of_run hrun)
    | other now => exact importLaw_other hstep
  · intro id a j document now later s' s'' ha hprovider hmem haccount hactive hstep hlater
    obtain ⟨-, rfl⟩ := hstep
    have hstaged : ((RefreshOperation.importCookies id document).apply now s.store).Staged id
        document := staged_import ha hprovider hmem haccount hactive
    refine hlater.invariant (I := fun t => t.store.Staged id document) ?_ hstaged
    intro u act u' hstep h
    obtain ⟨hstep, hspares⟩ := hstep
    cases act with
    | operation now op =>
      obtain ⟨-, rfl⟩ := hstep
      exact staged_operation h hspares
    | other now => exact staged_other hstep h

end Runs

/-! ### An import during an older attempt -/

def firstDocument : CookieDocument := ⟨"first", "1", by decide, by decide⟩
def secondDocument : CookieDocument := ⟨"second", "2", by decide, by decide⟩

/-- A document is staged and a browser leases the job that tries it. -/
def attemptActs : List RefreshAct :=
  [.operation 0 (.createAccount browserAccount), .operation 0 (.importCookies 1 firstDocument),
    .operation 0 (.enqueue 1 1000 .browser 7),
    .operation 1 (.claim .browser "worker" "default" (minutes 5) 9 fun _ => false)]

/-- The attempt reports the first document while the second is pending. -/
def olderAttempt : List RefreshAct :=
  [.operation 3 (.importSession 1 ⟨"jar", "pending", "1", hours 2⟩),
    .operation 3 (.importSession 1 ⟨"jar", "active", "", hours 2⟩),
    .operation 4 (.complete 7 9 (hours 1))]

theorem stagedImports_kept_second : ∃ s s'', sessionRefresh.Run (.fresh 0) attemptActs s ∧
    sessionRefresh.Run s (.operation 2 (.importCookies 1 secondDocument) :: olderAttempt) s'' ∧
    s''.store.Staged 1 secondDocument := by
  let staged (s : AccountState) : AccountState :=
    ⟨(RefreshOperation.importCookies 1 secondDocument).apply 2 s.store, 2⟩
  have hrun : (LTS.follow AccountState.proceed (fun _ _ => true) (.fresh 0) attemptActs).map
      (fun s => (s.clock, (s.store.accounts.get? 1).map fun a => a.providerID,
        (s.store.jobs.get? 7).map fun j => (j.accountID, j.active),
        (LTS.follow AccountState.proceed (spares 1 secondDocument) (staged s) olderAttempt).isSome)) =
      some (1, some .leonardo, some (1, true), true) := by
    decide +kernel
  obtain ⟨s, hs, hrows⟩ := Option.map_eq_some_iff.mp hrun
  simp only [Prod.mk.injEq, Option.map_eq_some_iff, Option.isSome_iff_exists] at hrows
  obtain ⟨hclock, ⟨a, ha, hprovider⟩, ⟨j, hj, haccount, hactive⟩, s'', hs''⟩ := hrows
  have hstep : sessionRefresh.step s (.operation 2 (.importCookies 1 secondDocument)) (staged s) :=
    ⟨hclock ▸ by decide, rfl⟩
  have hlater := restrict_run_of_proceed hs''
  refine ⟨s, s'', run_of_proceed hs, ⟨_, hstep, hlater.of_restrict⟩, ?_⟩
  exact (stagedImports_kept (run_of_proceed hs)).2 1 a j secondDocument 2 olderAttempt (staged s) s''
    ha (by rw [hprovider]; rfl) (Table.mem_of_get? hj) haccount hactive hstep hlater

end GenerationGateway
