import GenerationGateway.Store.Threads

/-!
# What the operations do to the configuration

No operation but the administrator's touches API keys or the capacity, and of the
accounts only the time of the last submission changes, apart from the credits that a
completion charges: at most what its reservation held. So the credits left over the
holds never shrink outside admission and claim.
-/

namespace GenerationGateway

open Relational

/-- The account but for its last submission. -/
def Account.terms (a : Account) : Account := { a with lastSubmittedAt := none }

/-- The configuration is as before. -/
structure Database.SameTerms (db db' : Database) : Prop where
  accounts : ∀ id, (db'.accounts.get? id).map Account.terms = (db.accounts.get? id).map Account.terms
  apiKeys : db'.apiKeys = db.apiKeys
  capacity : db'.capacity = db.capacity

namespace Database.SameTerms

variable {a b c : Database}

theorem refl (db : Database) : db.SameTerms db := ⟨fun _ => rfl, rfl, rfl⟩

theorem trans (h : a.SameTerms b) (h' : b.SameTerms c) : a.SameTerms c :=
  ⟨fun id => (h'.accounts id).trans (h.accounts id), h'.apiKeys.trans h.apiKeys,
    h'.capacity.trans h.capacity⟩

theorem of_shared (h : a.SameShared b) : a.SameTerms b :=
  ⟨fun id => by rw [h.accounts], h.apiKeys, h.capacity⟩

/-- The row of an account before. -/
theorem account (h : a.SameTerms b) {id : UUID} {account' : Account}
    (h' : b.accounts.get? id = some account') :
    ∃ account, a.accounts.get? id = some account ∧ account'.terms = account.terms := by
  have hsame := h.accounts id
  rw [h', Option.map_some] at hsame
  obtain ⟨account, haccount, hterms⟩ := Option.map_eq_some_iff.mp hsame.symm
  exact ⟨account, haccount, hterms.symm⟩

end Database.SameTerms

/-- The transaction leaves the configuration alone. -/
def Tx.KeepsTerms {α : Type} (x : Tx α) : Prop :=
  ∀ db a db', x db = .ok (a, db') → db.SameTerms db'

section Rules

variable {α β : Type} {env : Env}

theorem keepsTerms_pure (a : α) : Tx.KeepsTerms (pure a) := by
  intro db b db' h
  obtain ⟨-, rfl⟩ := pure_eq_ok.mp h
  exact .refl _

theorem Tx.KeepsTerms.bind {x : Tx α} {f : α → Tx β} (hx : x.KeepsTerms)
    (hf : ∀ a, (f a).KeepsTerms) : (x >>= f).KeepsTerms := by
  intro db b db' h
  obtain ⟨a, db₁, h₁, h₂⟩ := bind_eq_ok.mp h
  exact (hx db a db₁ h₁).trans (hf a db₁ b db' h₂)

theorem keepsTerms_get : Tx.KeepsTerms (get : Tx Database) := by
  intro db a db' h
  obtain ⟨-, rfl⟩ := get_eq_ok.mp h
  exact .refl _

theorem keepsTerms_updateTask {id : UUID} {guard : Task → Bool} {f : Task → Task}
    {hf : ∀ t, (f t).id = t.id} : (updateTask id guard f hf).KeepsTerms := by
  intro db x db' h
  cases x with
  | none =>
    obtain rfl := updateTask_none h
    exact .refl _
  | some t =>
    obtain ⟨-, -, -, -, -, hshared⟩ := updateTask_some h
    exact .of_shared hshared

theorem keepsTerms_updateTasks {p : Database → Task → Bool} {f : Task → Task}
    {hf : ∀ t, (f t).id = t.id} : (updateTasks p f hf).KeepsTerms :=
  fun _ _ _ h => .of_shared (updateTasks_ok h).2.2

theorem keepsTerms_release {id : UUID} {reason : String} :
    (releaseReservation env id reason).KeepsTerms :=
  fun _ _ _ h => .of_shared (releaseReservation_ok h).2

theorem keepsTerms_extend {id : UUID} {g : Time → Time} :
    (extendReservation id g).KeepsTerms :=
  fun _ _ _ h => .of_shared (extendReservation_ok h).2

theorem keepsTerms_updateOutbox {p : OutboxRow → Bool} {f : OutboxRow → OutboxRow}
    {hf : ∀ o, (f o).taskID = o.taskID} : (updateOutbox p f hf).KeepsTerms :=
  fun _ _ _ h => .of_shared (updateOutbox_ok h).2

theorem keepsTerms_upsertOutbox {row : OutboxRow} {f : OutboxRow → OutboxRow}
    {hf : ∀ o, (f o).taskID = o.taskID} : (upsertOutbox row f hf).KeepsTerms :=
  fun _ _ _ h => .of_shared (upsertOutbox_ok h).2

theorem keepsTerms_wake {accountID : UUID} {apiKeyID : Option UUID} :
    (wakeQueuedTasksTx env accountID apiKeyID).KeepsTerms :=
  fun _ _ _ h => .of_shared (wakeQueuedTasksTx_ok h).shared

theorem keepsTerms_wakeAccount {accountID apiKeyID : Option UUID} :
    (wakeAccount env accountID apiKeyID).KeepsTerms :=
  fun _ _ _ h => .of_shared (wakeAccount_ok h).shared

theorem keepsTerms_onRow {row : Tx (Option Task)} {rest : Task → Tx (Ending Bool)}
    (hrow : row.KeepsTerms) (hrest : ∀ t, (rest t).KeepsTerms) :
    (onRow row rest).KeepsTerms := by
  refine hrow.bind fun x => ?_
  cases x with
  | none => exact keepsTerms_pure _
  | some t => exact hrest t

theorem keepsTerms_scanAccount {t : Task} {rest : UUID → Tx α}
    (hrest : ∀ account, (rest account).KeepsTerms) : (scanAccount t rest).KeepsTerms := by
  intro db a db' h
  obtain ⟨account, -, h⟩ := scanAccount_ok h
  exact hrest account db a db' h

theorem keepsTerms_forM {rows : List Task} {body : Task → Tx Unit}
    (hbody : ∀ t, (body t).KeepsTerms) : Tx.KeepsTerms (rows.forM body) := by
  induction rows with
  | nil => exact keepsTerms_pure ()
  | cons t rest ih => exact (hbody t).bind fun _ => ih

theorem keepsTerms_markSubmitted {u : TaskUpdate} : (markSubmitted env u).KeepsTerms := by
  unfold markSubmitted
  cases u.accountID with
  | none => exact keepsTerms_pure ()
  | some account =>
    dsimp only
    split
    · intro db x db' h
      cases h
      refine ⟨fun id => ?_, rfl, rfl⟩
      rw [Table.get?_modify]
      split
      · rw [Option.map_map]
        rfl
      · rfl
    · exact keepsTerms_pure ()

end Rules

def OwnedCall.charges : OwnedCall → Bool
  | complete _ _ _ _ => true
  | _ => false

/-- Every operation of a lease holder but the completion. -/
theorem OwnedCall.keepsTerms {env : Env} {id leaseID : UUID} {call : OwnedCall}
    (hcall : call.charges = false) : (call.body env id leaseID).KeepsTerms := by
  have hupdate (u : TaskUpdate) : (updateTaskOwned env id leaseID u).KeepsTerms := by
    refine keepsTerms_get.bind fun db => keepsTerms_onRow keepsTerms_updateTask fun t => ?_
    refine keepsTerms_markSubmitted.bind fun _ => ?_
    split
    · refine keepsTerms_updateOutbox.bind fun _ => ?_
      exact keepsTerms_wakeAccount.bind fun _ => keepsTerms_pure _
    · exact keepsTerms_pure _
  cases call with
  | renew lease =>
    refine keepsTerms_onRow keepsTerms_updateTask fun t => ?_
    exact keepsTerms_extend.bind fun _ => keepsTerms_pure _
  | yield retryAt =>
    refine keepsTerms_onRow keepsTerms_updateTask fun t => ?_
    refine keepsTerms_extend.bind fun _ => keepsTerms_upsertOutbox.bind fun _ => ?_
    exact keepsTerms_wakeAccount.bind fun _ => keepsTerms_pure _
  | update u issued => exact hupdate u
  | prepare accountID request deadline => exact hupdate _
  | updateTokens before after =>
    exact keepsTerms_onRow keepsTerms_updateTask fun t => keepsTerms_pure _
  | recordSubmission accountID generationID cost =>
    change (recordTaskSubmissionOwned env id leaseID accountID generationID cost).KeepsTerms
    unfold recordTaskSubmissionOwned
    split
    · intro db b db' h
      cases h
    · exact keepsTerms_onRow keepsTerms_updateTask fun t => keepsTerms_pure _
  | recordUpstreamStatus known =>
    exact keepsTerms_onRow keepsTerms_updateTask fun t => keepsTerms_pure _
  | complete accountID generationID result tokensAfter =>
    cases hcall
  | fail code message details tokensAfter =>
    refine keepsTerms_onRow keepsTerms_updateTask fun t => ?_
    refine keepsTerms_release.bind fun _ => keepsTerms_updateOutbox.bind fun _ => ?_
    exact keepsTerms_wakeAccount.bind fun _ => keepsTerms_pure _
  | failSubmitted code message details =>
    refine keepsTerms_onRow keepsTerms_updateTask fun t => keepsTerms_scanAccount fun account => ?_
    refine keepsTerms_release.bind fun _ => keepsTerms_updateOutbox.bind fun _ => ?_
    exact keepsTerms_wake.bind fun _ => keepsTerms_pure _

theorem recoverStaleTasks_keepsTerms (env : Env) : (recoverStaleTasks env).KeepsTerms := by
  have hrequeue (rows : List Task) : (requeue env rows).KeepsTerms := by
    refine Tx.KeepsTerms.bind (keepsTerms_forM fun t => ?_) fun _ => keepsTerms_pure _
    exact keepsTerms_extend.bind fun _ => keepsTerms_upsertOutbox
  have hqueued : (failExpiredQueued env).KeepsTerms := by
    refine keepsTerms_updateTasks.bind fun rows => ?_
    refine Tx.KeepsTerms.bind (keepsTerms_forM fun t => ?_) fun _ => keepsTerms_pure _
    refine keepsTerms_scanAccount fun account => keepsTerms_release.bind fun _ => ?_
    exact keepsTerms_updateOutbox.bind fun _ => keepsTerms_wake
  have hupstream : (expireUpstream env).KeepsTerms := by
    refine keepsTerms_updateTasks.bind fun rows => ?_
    refine Tx.KeepsTerms.bind (keepsTerms_forM fun t => ?_) fun _ => keepsTerms_pure _
    refine keepsTerms_scanAccount fun account => ?_
    exact keepsTerms_updateOutbox.bind fun _ => keepsTerms_wake
  have huncertain : (markUncertain env).KeepsTerms := by
    refine keepsTerms_updateTasks.bind fun _ => keepsTerms_get.bind fun db => ?_
    exact keepsTerms_updateOutbox
  have hreservations : (failExpiredReservations env).KeepsTerms := by
    refine keepsTerms_updateTasks.bind fun rows => ?_
    refine Tx.KeepsTerms.bind (keepsTerms_forM fun t => ?_) fun _ => keepsTerms_pure _
    exact keepsTerms_release.bind fun _ => keepsTerms_updateOutbox
  refine hqueued.bind fun _ => hupstream.bind fun _ => ?_
  refine (keepsTerms_updateTasks.bind hrequeue).bind fun _ => huncertain.bind fun _ => ?_
  refine (keepsTerms_updateTasks.bind hrequeue).bind fun _ => hreservations.bind fun _ => ?_
  exact keepsTerms_pure _

theorem cancelQueuedTaskAndRelease_keepsTerms (env : Env) (id keyID : UUID) :
    (cancelQueuedTaskAndRelease env id keyID).KeepsTerms := by
  refine keepsTerms_onRow keepsTerms_updateTask fun t => keepsTerms_scanAccount fun account => ?_
  refine keepsTerms_release.bind fun _ => keepsTerms_updateOutbox.bind fun _ => ?_
  exact keepsTerms_wake.bind fun _ => keepsTerms_pure _

theorem confirmSubmissionNotCreated_keepsTerms (env : Env) (id : UUID) :
    (confirmSubmissionNotCreated env id).KeepsTerms := by
  refine keepsTerms_onRow keepsTerms_updateTask fun t => ?_
  refine keepsTerms_release.bind fun _ => keepsTerms_updateOutbox.bind fun _ => ?_
  exact keepsTerms_wakeAccount.bind fun _ => keepsTerms_pure _

theorem claimDispatchableOutbox_keepsTerms (env : Env) (locked : List UUID) (limit : ℤ) :
    (claimDispatchableOutbox env locked limit).KeepsTerms := by
  refine keepsTerms_get.bind fun db => ?_
  exact keepsTerms_updateOutbox.bind fun _ => keepsTerms_pure _

/-! ### Completion -/

theorem Account.charge_balance (tokens : ℕ) (a : Account) :
    a.balance - tokens ≤ (a.charge tokens).balance := by
  simp only [Account.balance, Account.charge]
  omega

/-- An account before and after an operation that reserves nothing. -/
structure Database.Eases (db db' : Database) (id : UUID) (a a' : Account) : Prop where
  imageConcurrency : a'.imageConcurrency = a.imageConcurrency
  queueCapacity : a'.queueCapacity = a.queueCapacity
  archivedAt : a'.archivedAt = a.archivedAt
  credits : a.balance + heldTokens db' id ≤ a'.balance + heldTokens db id

theorem Database.Eases.of_terms {db db' : Database} {id : UUID} {a a' : Account}
    (hterms : a'.terms = a.terms) (hheld : heldTokens db' id ≤ heldTokens db id) :
    db.Eases db' id a a' := by
  have hsame {α : Type} (f : Account → α) : f a'.terms = f a.terms := by rw [hterms]
  have hbalance : a'.balance = a.balance := hsame Account.balance
  refine ⟨hsame Account.imageConcurrency, hsame Account.queueCapacity, hsame Account.archivedAt, ?_⟩
  omega

theorem heldTokens_congr {db db' : Database} (h : ∀ k, (db'.cell k).stake = (db.cell k).stake)
    (id : UUID) : heldTokens db' id = heldTokens db id := by
  rw [heldTokens_eq, heldTokens_eq]
  apply share_congr
  intro k
  rw [Cell.share_eq, Cell.share_eq, h]
  rfl

/-- A hold that is settled no longer counts. -/
theorem settleReservation_heldTokens {taskID accountID : UUID} {s : Reservation → Settlement}
    {reason : String} {x : Option Reservation} {db db' : Database}
    (h : settleReservation taskID (fun r => r.accountID = accountID) s reason db = .ok (x, db'))
    (id : UUID) :
    heldTokens db' id + (x.elim 0 fun r => if id = accountID then r.estimatedTokens else 0) =
      heldTokens db id := by
  obtain ⟨htouch, -⟩ := settleReservation_ok h
  have hmove : heldTokens db' id + (db.cell taskID).share id (fun _ e => e) =
      heldTokens db id + (db'.cell taskID).share id (fun _ e => e) := by
    rw [heldTokens_eq, heldTokens_eq]
    apply share_add_share
    intro k hk
    rw [htouch.frame k hk]
  rcases updateReservation_ok h with ⟨rfl, rfl, -⟩ | ⟨r, db₁, hr, hg, rfl, -, -⟩
  · rfl
  · simp only [Bool.and_eq_true, decide_eq_true_eq] at hg
    obtain ⟨t, ht, -, -⟩ := Database.identity_of_get? hr
    have hafter : (db'.cell taskID).share id (fun _ e => e) = 0 := by
      have hsettled : (r.settle (s r) reason).held = false := rfl
      rw [htouch.cell]
      simp [Cell.settle, Database.cell, ht, hr, hg.1, hg.2, Cell.share, Reservation.holds, hsettled]
    have hbefore : (db.cell taskID).share id (fun _ e => e) =
        if id = accountID then r.estimatedTokens else 0 := by
      simp [Cell.share, Database.cell, hr, Reservation.holds, hg.1, hg.2, eq_comm]
    rw [hafter, hbefore] at hmove
    exact hmove

/-- What a consumed hold held is charged. -/
theorem consumeReservation_eases {env : Env} {taskID accountID : UUID} {u : Unit}
    {db db' : Database} (h : consumeReservation env taskID accountID db = .ok (u, db')) :
    db'.apiKeys = db.apiKeys ∧ db'.capacity = db.capacity ∧
      ∀ id a', db'.accounts.get? id = some a' →
        ∃ a, db.accounts.get? id = some a ∧ db.Eases db' id a a' := by
  obtain ⟨x, db₁, hsettle, hrest⟩ := bind_eq_ok.mp h
  have hheld := settleReservation_heldTokens hsettle
  have hshared := (settleReservation_ok hsettle).2
  have hkept (h₁ : db' = db₁) : db'.apiKeys = db.apiKeys ∧ db'.capacity = db.capacity ∧
      ∀ id a', db'.accounts.get? id = some a' →
        ∃ a, db.accounts.get? id = some a ∧ db.Eases db' id a a' := by
    subst h₁
    refine ⟨hshared.apiKeys, hshared.capacity, fun id a' ha' => ⟨a', ?_, ?_⟩⟩
    · rw [← ha', hshared.accounts]
    · have hid := hheld id
      exact .of_terms rfl (by omega)
  cases x with
  | none => exact hkept (pure_eq_ok.mp hrest).2
  | some r =>
    by_cases hpos : 0 < r.estimatedTokens
    · simp only [if_pos hpos] at hrest
      have hheld' (id : UUID) : heldTokens db' id = heldTokens db₁ id := by
        apply heldTokens_congr
        intro k
        rw [updateAccount_cell hrest k]
      have hrows : db'.apiKeys = db₁.apiKeys ∧ db'.capacity = db₁.capacity ∧
          db'.accounts = db₁.accounts.modify accountID (Account.charge r.estimatedTokens)
            (key_of_account fun _ => rfl) := by
        cases hrest
        exact ⟨rfl, rfl, rfl⟩
      obtain ⟨hkeys, hcapacity, haccounts⟩ := hrows
      refine ⟨hkeys.trans hshared.apiKeys, hcapacity.trans hshared.capacity, ?_⟩
      intro id a' ha'
      rw [haccounts, Table.get?_modify] at ha'
      have hid := hheld id
      simp only [Option.elim_some] at hid
      split_ifs at ha' with heq
      · obtain ⟨a, ha, rfl⟩ := Option.map_eq_some_iff.mp ha'
        have hcharge := Account.charge_balance r.estimatedTokens a
        rw [if_pos heq] at hid
        refine ⟨a, by rw [← ha, hshared.accounts], rfl, rfl, rfl, ?_⟩
        rw [hheld']
        omega
      · refine ⟨a', by rw [← ha', hshared.accounts], .of_terms rfl ?_⟩
        rw [hheld']
        omega
    · simp only [if_neg hpos] at hrest
      exact hkept (pure_eq_ok.mp hrest).2

theorem completeTaskOwned_eases {env : Env} {id leaseID accountID : UUID} {generationID : String}
    {result : JSON} {tokensAfter : Option ℤ} {db db' : Database} {b : Bool}
    (h : completeTaskOwned env id leaseID accountID generationID result tokensAfter db =
      .ok (.commit b, db')) :
    db'.apiKeys = db.apiKeys ∧ db'.capacity = db.capacity ∧
      ∀ k a', db'.accounts.get? k = some a' →
        ∃ a, db.accounts.get? k = some a ∧ db.Eases db' k a a' := by
  obtain ⟨t', db₁, h₁, h₂⟩ := onRow_commit h
  obtain ⟨t, ht, hg, rfl, htouch, hshared⟩ := updateTask_some h₁
  obtain ⟨x, db₂, h₃, h₄⟩ := bind_eq_ok.mp h₂
  obtain ⟨y, db₃, h₅, h₆⟩ := bind_eq_ok.mp h₄
  obtain ⟨z, db₄, h₇, h₈⟩ := bind_eq_ok.mp h₆
  obtain ⟨-, rfl⟩ := pure_eq_ok.mp h₈
  obtain ⟨hdeliver, hshared'⟩ := deliverOutbox_ok h₅
  have hwakes := wakeQueuedTasksTx_ok h₇
  have hrest := hshared'.trans hwakes.shared
  obtain ⟨hkeys, hcapacity, haccounts⟩ := consumeReservation_eases h₃
  have hbefore (k : UUID) : heldTokens db₁ k = heldTokens db k := by
    apply heldTokens_congr
    intro j
    by_cases hj : j = id
    · rw [hj, htouch.cell]
      rfl
    · rw [htouch.frame j hj]
  have hafter (k : UUID) : heldTokens db' k = heldTokens db₂ k := by
    apply heldTokens_congr
    intro j
    rw [(Cell.Alike.of_woken (hwakes.cell j)).stake]
    by_cases hj : j = id
    · rw [hj, hdeliver.cell]
      rfl
    · rw [hdeliver.frame j hj]
  refine ⟨(hrest.apiKeys.trans hkeys).trans hshared.apiKeys,
    (hrest.capacity.trans hcapacity).trans hshared.capacity, fun k a' ha' => ?_⟩
  rw [hrest.accounts] at ha'
  obtain ⟨a, ha, heases⟩ := haccounts k a' ha'
  rw [hshared.accounts] at ha
  have hcredits := heases.credits
  exact ⟨a, ha, heases.imageConcurrency, heases.queueCapacity, heases.archivedAt, by
    rwa [hafter, ← hbefore]⟩

theorem Operation.session_of_atomic {op : Operation} (h : op.atomic = true) :
    op.call.session = false := by
  cases op with
  | admission | claim => cases h
  | _ => rfl

/-- Outside claim, admission and configuration the keys and the capacity stay, and an
account never loses room. -/
theorem Operation.Commits.eases {env : Env} {op : Operation} {db db' : Database}
    (h : op.Commits env db db') (hatomic : op.atomic = true) :
    db'.apiKeys = db.apiKeys ∧ db'.capacity = db.capacity ∧
      ∀ id a', db'.accounts.get? id = some a' →
        ∃ a, db.accounts.get? id = some a ∧ db.Eases db' id a a' := by
  have hheld := fun id => (h.lives.share_le (op.session_of_atomic hatomic) id).1
  have hkept (hsame : db.SameTerms db') :
      db'.apiKeys = db.apiKeys ∧ db'.capacity = db.capacity ∧
        ∀ id a', db'.accounts.get? id = some a' →
          ∃ a, db.accounts.get? id = some a ∧ db.Eases db' id a a' := by
    refine ⟨hsame.apiKeys, hsame.capacity, fun id a' ha' => ?_⟩
    obtain ⟨a, ha, hterms⟩ := hsame.account ha'
    exact ⟨a, ha, .of_terms hterms (hheld id)⟩
  cases op with
  | admission => cases hatomic
  | claim => cases hatomic
  | administer => cases hatomic
  | owned taskID leaseID call =>
    obtain ⟨b, h⟩ := h
    cases call with
    | complete accountID generationID result tokensAfter => exact completeTaskOwned_eases h
    | _ => exact hkept (OwnedCall.keepsTerms rfl _ _ _ h)
  | recover =>
    obtain ⟨tasks, h⟩ := h
    exact hkept (recoverStaleTasks_keepsTerms env _ _ _ h)
  | cancel taskID keyID =>
    obtain ⟨b, h⟩ := h
    exact hkept (cancelQueuedTaskAndRelease_keepsTerms env taskID keyID _ _ _ h)
  | confirm taskID =>
    obtain ⟨b, h⟩ := h
    exact hkept (confirmSubmissionNotCreated_keepsTerms env taskID _ _ _ h)
  | release taskID reason =>
    have hkeeps : (releaseReservationOnce env taskID reason).KeepsTerms :=
      keepsTerms_release.bind fun _ => keepsTerms_pure _
    exact hkept (hkeeps _ _ _ h.2)
  | dispatch locked limit =>
    obtain ⟨messages, h⟩ := h
    exact hkept (claimDispatchableOutbox_keepsTerms env locked limit _ _ _ h)
  | outboxError taskID message retryAfter =>
    have hkeeps : (recordOutboxError env taskID message retryAfter).KeepsTerms :=
      keepsTerms_updateOutbox.bind fun _ => keepsTerms_pure _
    exact hkept (hkeeps _ _ _ h)

end GenerationGateway
