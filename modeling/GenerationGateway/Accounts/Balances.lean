import GenerationGateway.Accounts.BalanceOrder
import GenerationGateway.Accounts.BalanceRows
import GenerationGateway.Store.System

/-!
# Balance refreshes beside each other and beside the ledger

Any number of refreshes of one account take turns, call by call, with each other, with
completed tasks that charge the account, and with everything that leaves its balance
alone. A statement may commit although its answer is lost. Beside the rows the state keeps
a history: when the latest version was issued, what was charged, and where the stored
balance comes from.
-/

namespace GenerationGateway.Refresh

open Relational Transitions Effects

/-- Where a stored balance comes from. -/
structure Origin where
  version : ℤ
  /-- When the version was issued. -/
  issuedAt : ℕ
  /-- When the provider was asked. -/
  readAt : ℕ
  /-- What the provider answered. -/
  credits : Option SessionAccount.Credits
  /-- What had been charged when the provider answered. -/
  chargedBefore : ℕ
  /-- The charges since the balance was stored, the latest first. -/
  charges : List ℕ

def Origin.charge (tokens : ℕ) (o : Origin) : Origin :=
  if 0 < tokens then { o with charges := tokens :: o.charges } else o

structure RefreshRun where
  path : RefreshPath
  notes : Notes
  issuedAt : ℕ
  readAt : ℕ
  chargedBefore : ℕ
  rest : Prog refreshes (Except RefreshError Unit)

structure Balances where
  store : SessionStore
  db : Database
  clock : ℕ
  begunAt : ℕ
  charged : ℕ
  stored : Option Origin
  runs : ℕ → Option RefreshRun

/-- The version under which a statement writes the balance. -/
def RefreshCall.writes : RefreshCall → Option ℤ
  | updateAccountTokens version _ _ | updateAccountSession version _ _ _ _ => some version
  | _ => none

def RefreshRun.start (path : RefreshPath) : RefreshRun :=
  ⟨path, .initial, 0, 0, 0, path.program.run⟩

/-- The run after a call and its answer. -/
def RefreshRun.after (s : Balances) (run : RefreshRun) :
    (op : RefreshCall) → op.Res → Prog refreshes (Except RefreshError Unit) → RefreshRun
  | .beginAccountBalanceRefresh, .ok version, rest =>
    { run with notes := run.notes.begin (.ok version), issuedAt := s.clock, rest := rest }
  | .readBalance _, .ok credits, rest =>
    { run with
      notes := run.notes.readBalance run.path (.ok credits)
      readAt := s.clock
      chargedBefore := s.charged
      rest := rest }
  | op, r, rest => { run with notes := run.notes.after run.path op r, rest := rest }

/-- No error, or an error in its place. -/
def Reports {α : Type} (r : Answer α) : Option α → Prop
  | some a => r = .ok a ∨ ∃ err, r = .error err
  | none => ∃ err, r = .error err

/-- The answers that a call may get, with its effect on the accounts. The statements outside
the balance protocol leave the balance columns of the account alone. -/
def AnsweredBy (id : UUID) (now : Time) (committed : Bool) (s s' : SessionStore) :
    (op : RefreshCall) → op.Res → Prop
  | .beginAccountBalanceRefresh, r =>
    if committed then
      s' = (beginAccountBalanceRefresh id s).2 ∧ Reports r (beginAccountBalanceRefresh id s).1
    else s' = s ∧ Reports r none
  | .updateAccountTokens version startedAt credits, r =>
    if committed then
      s' = (updateAccountTokens now id version startedAt credits s).2 ∧
        Reports r (some (updateAccountTokens now id version startedAt credits s).1)
    else s' = s ∧ Reports r none
  | .updateAccountSession version _ expiry startedAt credits, r =>
    if committed then
      s' = (updateAccountSession now id version expiry startedAt credits "" s).2 ∧
        Reports r (updateAccountSession now id version expiry startedAt credits "" s).1
    else s' = s ∧ Reports r none
  | .setAccountCookieJSON _, _ | .setAccountCookieCiphertext _, _
  | .setAccountCredentialCiphertext _ _, _ | .setAccountError _, _ => s'.fence id = s.fence id
  | _, _ => s' = s

inductive BalanceAct
  | start (i : ℕ) (path : RefreshPath)
  /-- The next call of a run. -/
  | call (i : ℕ) (committed : Bool) (now : Time)
  | stop (i : ℕ)
  | complete (env : Env) (taskID leaseID accountID : UUID) (generationID : String) (result : JSON)
    (tokensAfter : Option ℤ)
  | other

namespace Balances

variable (id : UUID) (s : Balances)

def fence : Option Fence := s.store.fence id

/-- A statement with the version that it writes finds the version current. -/
def current (version : ℤ) : Bool := (s.fence id).any fun f => f.refreshVersion = version

/-- Where the stored balance comes from after a call of a run. -/
def originAfter (run : RefreshRun) (committed : Bool) (op : RefreshCall) : Option Origin :=
  match op.writes with
  | some version =>
    if committed && s.current id version then
      some ⟨version, run.issuedAt, run.readAt, run.notes.credits, run.chargedBefore, []⟩
    else s.stored
  | none => s.stored

def begunAfter (committed : Bool) : RefreshCall → ℕ
  | .beginAccountBalanceRefresh => if committed then s.clock else s.begunAt
  | _ => s.begunAt

def afterCall (i : ℕ) (run : RefreshRun) (committed : Bool) (op : RefreshCall) (r : op.Res)
    (rest : Prog refreshes (Except RefreshError Unit)) (store : SessionStore) : Balances :=
  { s with
    store := store
    clock := s.clock + 1
    begunAt := s.begunAfter committed op
    stored := s.originAfter id run committed op
    runs := Function.update s.runs i (some (run.after s op r rest)) }

/-- What a completed task charges the account. -/
def chargeOf (taskID accountID : UUID) : ℕ :=
  if id = accountID then s.db.heldFor taskID accountID else 0

def afterCharge (tokens : ℕ) (db : Database) (store : SessionStore) : Balances :=
  { s with
    store := store
    db := db
    clock := s.clock + 1
    charged := s.charged + tokens
    stored := s.stored.map (Origin.charge tokens) }

@[simp] theorem afterCharge_begunAt (tokens : ℕ) (db : Database) (store : SessionStore) :
    (s.afterCharge tokens db store).begunAt = s.begunAt := rfl

end Balances

inductive BalanceStep (id : UUID) : Balances → BalanceAct → Balances → Prop
  | start {s : Balances} (i : ℕ) (path : RefreshPath) (hfree : s.runs i = none) :
      BalanceStep id s (.start i path)
        { s with clock := s.clock + 1, runs := Function.update s.runs i (some (.start path)) }
  | call {s : Balances} {run : RefreshRun} {op : RefreshCall}
      {k : op.Res → Prog refreshes (Except RefreshError Unit)} (i : ℕ) (committed : Bool)
      (now : Time) (r : op.Res) (store : SessionStore) (hrun : s.runs i = some run)
      (hrest : run.rest = .call op k) (hanswer : AnsweredBy id now committed s.store store op r) :
      BalanceStep id s (.call i committed now) (s.afterCall id i run committed op r (k r) store)
  | stop {s : Balances} (i : ℕ) :
      BalanceStep id s (.stop i)
        { s with clock := s.clock + 1, runs := Function.update s.runs i none }
  | complete {s : Balances} {db : Database} {b : Bool} (env : Env) (taskID leaseID accountID : UUID)
      (generationID : String) (result : JSON) (tokensAfter : Option ℤ)
      (h : completeTaskOwned env taskID leaseID accountID generationID result tokensAfter
        (s.store.database s.db) = .ok (.commit b, db)) :
      BalanceStep id s
        (.complete env taskID leaseID accountID generationID result tokensAfter)
        (s.afterCharge (s.chargeOf id taskID accountID) db (s.store.adopt db.accounts))
  | other {s : Balances} (store : SessionStore) (db : Database)
      (hfence : store.fence id = s.store.fence id) :
      BalanceStep id s .other { s with store := store, db := db, clock := s.clock + 1 }

def balances (id : UUID) : LTS Balances BalanceAct := ⟨BalanceStep id⟩

/-- No refresh has run yet. -/
structure Balances.Initial (id : UUID) (s : Balances) : Prop where
  runs : ∀ i, s.runs i = none
  stored : s.stored = none
  begun : s.begunAt < s.clock
  snapshot : ∀ f, s.fence id = some f → f.columns.snapshotVersion ≤ f.refreshVersion

/-! ### What a call does to the fence -/

section Effects

/-- The effect of a statement on the fence. -/
def RefreshCall.onFence (committed : Bool) (now : Time) (op : RefreshCall) (f : Fence) : Fence :=
  match op with
  | .beginAccountBalanceRefresh => if committed then f.next else f
  | .updateAccountTokens version startedAt credits
  | .updateAccountSession version _ _ startedAt credits =>
    if committed then f.write now version startedAt credits else f
  | _ => f

variable {id : UUID} {now : Time} {committed : Bool} {s s' : SessionStore}

theorem AnsweredBy.fence {op : RefreshCall} {r : op.Res}
    (h : AnsweredBy id now committed s s' op r) :
    s'.fence id = (s.fence id).map (op.onFence committed now) := by
  cases op with
  | beginAccountBalanceRefresh =>
    cases committed with
    | true =>
      obtain ⟨rfl, -⟩ := h
      exact beginAccountBalanceRefresh_fence.1
    | false =>
      obtain ⟨rfl, -⟩ := h
      exact Option.map_id_apply.symm
  | updateAccountTokens version startedAt credits =>
    cases committed with
    | true =>
      obtain ⟨rfl, -⟩ := h
      exact updateAccountTokens_fence now version startedAt credits
    | false =>
      obtain ⟨rfl, -⟩ := h
      exact Option.map_id_apply.symm
  | updateAccountSession version token expiry startedAt credits =>
    cases committed with
    | true =>
      obtain ⟨rfl, -⟩ := h
      exact updateAccountSession_fence now version expiry startedAt credits
    | false =>
      obtain ⟨rfl, -⟩ := h
      exact Option.map_id_apply.symm
  | setAccountCookieJSON => exact h.trans Option.map_id_apply.symm
  | setAccountCookieCiphertext => exact h.trans Option.map_id_apply.symm
  | setAccountCredentialCiphertext => exact h.trans Option.map_id_apply.symm
  | setAccountError => exact h.trans Option.map_id_apply.symm
  | _ =>
    cases h
    exact Option.map_id_apply.symm

/-- A version that a refresh learns is the version it has just taken. -/
theorem AnsweredBy.begun {r : Answer ℤ}
    (h : AnsweredBy id now committed s s' .beginAccountBalanceRefresh r) {version : ℤ}
    (hr : r = .ok version) :
    committed = true ∧ ∃ f, s.fence id = some f ∧ version = f.refreshVersion + 1 := by
  subst hr
  cases committed with
  | false =>
    obtain ⟨-, err, herr⟩ := h
    cases herr
  | true =>
    obtain ⟨-, hreports⟩ := h
    obtain ⟨hfence, hresult⟩ := @beginAccountBalanceRefresh_fence s id
    rw [hresult, hfence] at hreports
    cases hf : s.fence id with
    | none =>
      rw [hf] at hreports
      obtain ⟨err, herr⟩ := hreports
      cases herr
    | some f =>
      rw [hf] at hreports
      rcases hreports with h | ⟨err, herr⟩
      · cases h
        exact ⟨rfl, f, rfl, rfl⟩
      · cases herr

end Effects

/-! ### Steps without lost answers -/

section Schedule

variable (id : UUID) (w : Prog.Answers refreshes)

def answerRow {α : Type} : Option α → Answer α
  | some a => .ok a
  | none => .error .notFound

theorem reports_answerRow {α : Type} (x : Option α) : Reports (answerRow x) x := by
  cases x with
  | some a => exact Or.inl rfl
  | none => exact ⟨_, rfl⟩

/-- The answer to a call whose statement commits, with the accounts after it. The calls that
are not statements of the balance protocol are answered by `w`. -/
def answerCall (n : ℕ) (s : SessionStore) : (op : RefreshCall) → op.Res × SessionStore
  | .beginAccountBalanceRefresh =>
    (answerRow (beginAccountBalanceRefresh id s).1, (beginAccountBalanceRefresh id s).2)
  | .updateAccountTokens version startedAt credits =>
    (.ok (updateAccountTokens 0 id version startedAt credits s).1,
      (updateAccountTokens 0 id version startedAt credits s).2)
  | .updateAccountSession version _ expiry startedAt credits =>
    (answerRow (updateAccountSession 0 id version expiry startedAt credits "" s).1,
      (updateAccountSession 0 id version expiry startedAt credits "" s).2)
  | op => (w n op, s)

theorem answeredBy_answerCall (n : ℕ) (s : SessionStore) (op : RefreshCall) :
    AnsweredBy id 0 true s (answerCall id w n s op).2 op (answerCall id w n s op).1 := by
  cases op with
  | beginAccountBalanceRefresh => exact ⟨rfl, reports_answerRow _⟩
  | updateAccountTokens => exact ⟨rfl, Or.inl rfl⟩
  | updateAccountSession => exact ⟨rfl, reports_answerRow _⟩
  | _ => rfl

/-- The step that an act means where no answer is lost. -/
def Balances.proceed (s : Balances) : BalanceAct → Option Balances
  | .start i path =>
    match s.runs i with
    | none => some { s with
        clock := s.clock + 1, runs := Function.update s.runs i (some (.start path)) }
    | some _ => none
  | .call i true 0 =>
    match s.runs i with
    | some run =>
      match run.rest with
      | .call op k =>
        let (r, store) := answerCall id w s.clock s.store op
        some (s.afterCall id i run true op r (k r) store)
      | .ret _ => none
    | none => none
  | .complete env taskID leaseID accountID generationID result tokensAfter =>
    match completeTaskOwned env taskID leaseID accountID generationID result tokensAfter
      (s.store.database s.db) with
    | .ok (.commit _, db) =>
      some (s.afterCharge (s.chargeOf id taskID accountID) db (s.store.adopt db.accounts))
    | _ => none
  | _ => none

theorem Balances.proceed_step {s s' : Balances} {act : BalanceAct}
    (h : s.proceed id w act = some s') : BalanceStep id s act s' := by
  unfold Balances.proceed at h
  split at h
  · split at h
    · next hfree =>
      cases h
      exact .start _ _ hfree
    · cases h
  · split at h
    · next run hrun =>
      split at h
      · next op k hrest =>
        cases h
        exact .call _ true 0 _ _ hrun hrest (answeredBy_answerCall id w _ _ _)
      · cases h
    · cases h
  · split at h
    · next hcomplete =>
      cases h
      exact .complete _ _ _ _ _ _ _ hcomplete
    · cases h
  · cases h

/-- Acts that follow one another without a lost answer, under a condition on the steps. -/
theorem Balances.run_of_proceed {cond : Balances → BalanceAct → Bool} {s s' : Balances}
    {acts : List BalanceAct}
    (h : LTS.follow (fun s act => s.proceed id w act) cond s acts = some s') :
    ((balances id).restrict fun s act => cond s act = true).Run s acts s' := by
  refine (LTS.run_of_follow h).mono ?_
  intro t act t' hstep
  exact ⟨Balances.proceed_step id w hstep.1, hstep.2⟩

end Schedule

/-! ### A small account -/

def smallSession : SessionAccount where
  toAccount := smallAccount
  sessionRefreshEnabled := true
  browserWorkerGroup := "default"
  cookieJSON := ""
  pendingCookieJSON := ""
  pendingFingerprint := ""
  balanceRefreshVersion := 0
  balanceSnapshotVersion := 0
  balanceSnapshotStartedAt := none
  sessionRefreshFailures := 0
  sessionRefreshNotBefore := none

def smallBalances (db : Database) : Balances where
  store := ⟨⟨[smallSession], by decide⟩, ⟨[], by decide⟩⟩
  db := db
  clock := 1
  begunAt := 0
  charged := 0
  stored := none
  runs := fun _ => none

theorem smallBalances_initial (db : Database) : (smallBalances db).Initial 1 := by
  refine ⟨fun _ => rfl, rfl, Nat.zero_lt_one, ?_⟩
  intro f hf
  cases hf
  decide

def signedInAdobe : AccountView := ⟨.adobe, "token", some (hours 100), "", ""⟩

/-- A provider that answers everything, and the balance as it is at the time. -/
def openProvider (balance : ℕ → ℤ) : Prog.Answers refreshes := fun n op =>
  match op with
  | .getAccount => .ok signedInAdobe
  | .credentials => .ok ⟨"", "", "", "", "", none, none, none⟩
  | .beginAccountBalanceRefresh => .ok 0
  | .updateAccountTokens _ _ _ | .updateAccountSession _ _ _ _ _ => .ok true
  | .setAccountCookieJSON _ | .setAccountCookieCiphertext _ | .setAccountCredentialCiphertext _ _
  | .setAccountError _ | .prepare | .acquireProxyControl | .encryptEnvelope _ => .ok ()
  | .timeNow => (0 : Time)
  | .decrypt text | .encrypt text | .normalizeCookieJSON text | .cookieHeaderFromJSON text
  | .mergeCookieJSON _ text => .ok text
  | .tokenExpiresAt _ => none
  | .parseAccessToken _ => .ok (hours 100)
  | .readBalance _ => .ok ⟨balance n, 0, 0⟩
  | .getSession _ => .ok ⟨"token", hours 100⟩
  | .refreshAccessToken _ | .queryUserToken _ => .ok "token"
  | .profile _ => .ok ""
  | .login _ _ => .ok ⟨"token", none, "", ""⟩

end GenerationGateway.Refresh
