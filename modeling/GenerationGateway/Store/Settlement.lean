import GenerationGateway.Accounts.BalanceRows
import GenerationGateway.Library.Waterfall
import GenerationGateway.Store.System

/-!
# Settling charges

The statement that charges a completed task drains the three buckets of the account in
order. What several completed tasks leave of them is what one charge of all they held
would leave, so the order of their settlements does not matter.
-/

namespace GenerationGateway

open Relational Transitions

namespace Account

def buckets (a : Account) : List ℤ := [a.subscriptionTokens, a.rolloverTokens, a.paidTokens]

/-- No bucket is overdrawn. -/
def Solvent (a : Account) : Prop := ∀ b ∈ a.buckets, 0 ≤ b

theorem solvent_iff {a : Account} :
    a.Solvent ↔ 0 ≤ a.subscriptionTokens ∧ 0 ≤ a.rolloverTokens ∧ 0 ≤ a.paidTokens := by
  simp [Solvent, buckets]

theorem buckets_sum (a : Account) : a.buckets.sum = a.balance := by
  simp [buckets, balance]
  ring

/-- The nested `GREATEST` of the charge drain the buckets. -/
theorem buckets_charge {a : Account} (h : a.Solvent) (tokens : ℕ) :
    (a.charge tokens).buckets = Waterfall.drain a.buckets tokens := by
  obtain ⟨hsub, hroll, hpaid⟩ := solvent_iff.mp h
  simp only [buckets, charge, Waterfall.drain, List.cons.injEq, and_true]
  refine ⟨?_, ?_, ?_⟩ <;> omega

theorem solvent_charge {a : Account} (h : a.Solvent) (tokens : ℕ) : (a.charge tokens).Solvent := by
  rw [Solvent, buckets_charge h]
  exact Waterfall.drain_nonneg h (Int.natCast_nonneg tokens)

/-- Two charges in a row leave what one charge of their sum leaves. -/
theorem charge_charge {a : Account} (h : a.Solvent) (tokens tokens' : ℕ) :
    ((a.charge tokens).charge tokens').buckets = (a.charge (tokens + tokens')).buckets := by
  rw [buckets_charge (solvent_charge h tokens), buckets_charge h, buckets_charge h, Nat.cast_add]
  exact Waterfall.drain_drain h (Int.natCast_nonneg tokens) (Int.natCast_nonneg tokens')

/-- `a'` is `a` after a debit that spends subscription credits first, then rollover
credits, then paid ones. -/
structure Debited (a : Account) (tokens : ℕ) (a' : Account) : Prop where
  solvent : a'.Solvent
  shrinks : List.Forall₂ (· ≤ ·) a'.buckets a.buckets
  rollover : a'.rolloverTokens < a.rolloverTokens → a'.subscriptionTokens = 0
  paid : a'.paidTokens < a.paidTokens → a'.subscriptionTokens = 0 ∧ a'.rolloverTokens = 0
  total : a'.balance = a.balance - min (tokens : ℤ) a.balance

theorem debited_of_buckets {a a' : Account} (h : a.Solvent) {tokens : ℕ}
    (hbuckets : a'.buckets = (a.charge tokens).buckets) : a.Debited tokens a' := by
  have hdrain : a'.buckets = Waterfall.drain a.buckets tokens := hbuckets.trans (buckets_charge h tokens)
  have htokens : (0 : ℤ) ≤ tokens := Int.natCast_nonneg tokens
  obtain ⟨hsub, hroll, hpaid⟩ := solvent_iff.mp h
  simp only [buckets, charge, List.cons.injEq, and_true] at hbuckets
  obtain ⟨hsub', hroll', hpaid'⟩ := hbuckets
  refine ⟨?_, ?_, ?_, ?_, ?_⟩
  · rw [Solvent, hdrain]
    exact Waterfall.drain_nonneg h htokens
  · rw [hdrain]
    exact Waterfall.drain_le h htokens
  · omega
  · omega
  · rw [← buckets_sum, ← buckets_sum, hdrain]
    exact Waterfall.drain_sum h htokens

end Account

/-! ### Completed tasks -/

/-- A call of `CompleteTaskOwned` on some account. -/
structure Completion where
  env : Env
  id : UUID
  leaseID : UUID
  generationID : String
  result : JSON
  tokensAfter : Option ℤ

/-- The database after a completion on the account that commits. -/
def settle (accountID : UUID) (db : Database) (c : Completion) : Option Database :=
  match completeTaskOwned c.env c.id c.leaseID accountID c.generationID c.result c.tokensAfter db with
  | .ok (.commit _, db') => some db'
  | _ => none

theorem settle_eq_some {accountID : UUID} {db db' : Database} {c : Completion}
    (h : settle accountID db c = some db') :
    ∃ b, completeTaskOwned c.env c.id c.leaseID accountID c.generationID c.result c.tokensAfter db =
      .ok (.commit b, db') := by
  unfold settle at h
  split at h
  · next b db₁ hcommit =>
    cases h
    exact ⟨b, hcommit⟩
  · cases h

/-- The completions of tasks on an account that commit, one after the other. -/
def settlements (accountID : UUID) : LTS Database Completion := .ofStep (settle accountID)

/-- What the tasks hold on the account together. -/
def Database.heldForAll (db : Database) (ids : List UUID) (accountID : UUID) : ℕ :=
  ∑ id ∈ ids.toFinset, db.heldFor id accountID

section Held

variable {env : Env} {id leaseID accountID : UUID} {db db' : Database}

theorem heldFor_congr {k : UUID} (h : (db'.cell k).reservation = (db.cell k).reservation) :
    db'.heldFor k accountID = db.heldFor k accountID := by
  have hget : db'.reservations.get? k = db.reservations.get? k := h
  rw [Database.heldFor, Database.heldFor, hget]

/-- The statement settles what the task holds on the account, and nothing else. -/
theorem consumeReservation_heldFor {u : Unit}
    (h : consumeReservation env id accountID db = .ok (u, db')) (k : UUID) :
    db'.heldFor k accountID = if k = id then 0 else db.heldFor k accountID := by
  have htouch := consumeReservation_ok h
  split_ifs with hk
  · subst hk
    have hcell : db'.reservations.get? k = (Cell.settle (fun r => r.accountID = accountID)
        (consumedAt env.now) "local_ledger_consumed" (db.cell k)).reservation :=
      congrArg Cell.reservation htouch.cell
    cases hr : db.reservations.get? k with
    | none => simp [Database.heldFor, hcell, Cell.settle, Database.cell, hr]
    | some r =>
      obtain ⟨t, ht, -⟩ := Database.identity_of_get? hr
      by_cases hg : (r.held && decide (r.accountID = accountID)) = true
      · have hheld : r.settlement = none ∧ r.accountID = accountID := by
          simpa [Reservation.held] using hg
        simp [Database.heldFor, hcell, Cell.settle, Database.cell, hr, ht, Reservation.settle,
          Reservation.held, hheld]
      · simp [Database.heldFor, hcell, Cell.settle, Database.cell, hr, ht, hg]
  · exact heldFor_congr (congrArg Cell.reservation (htouch.frame k hk))

theorem completeTaskOwned_heldFor {generationID : String} {result : JSON} {tokensAfter : Option ℤ}
    {b : Bool} (h : completeTaskOwned env id leaseID accountID generationID result tokensAfter db =
      .ok (.commit b, db')) (k : UUID) :
    db'.heldFor k accountID = if k = id then 0 else db.heldFor k accountID := by
  obtain ⟨t', db₁, h₁, h₂⟩ := onRow_commit h
  obtain ⟨t, -, -, -, htouch, -⟩ := updateTask_some h₁
  obtain ⟨x, db₂, h₃, h₄⟩ := bind_eq_ok.mp h₂
  obtain ⟨y, db₃, h₅, h₆⟩ := bind_eq_ok.mp h₄
  obtain ⟨z, db₄, h₇, h₈⟩ := bind_eq_ok.mp h₆
  obtain ⟨-, rfl⟩ := pure_eq_ok.mp h₈
  have hbefore : db₁.heldFor k accountID = db.heldFor k accountID := by
    refine heldFor_congr ?_
    by_cases hk : k = id
    · rw [hk, htouch.cell]
      rfl
    · rw [htouch.frame k hk]
  have hafter : db'.heldFor k accountID = db₂.heldFor k accountID := by
    refine heldFor_congr ?_
    have hwoken := (wakeQueuedTasksTx_ok h₇).cell k
    have hdelivered : (db₃.cell k).reservation = (db₂.cell k).reservation := by
      by_cases hk : k = id
      · rw [hk, (deliverOutbox_ok h₅).1.cell]
        rfl
      · rw [(deliverOutbox_ok h₅).1.frame k hk]
    rcases hwoken with heq | ⟨-, heq⟩
    · rw [heq, hdelivered]
    · rw [heq]
      exact hdelivered
  rw [hafter, consumeReservation_heldFor h₃, hbefore]

/-- What is left to settle after the first of the tasks. -/
theorem heldForAll_step {c : Completion} {ids : List UUID} (h : (settlements accountID).step db c db') :
    db.heldFor c.id accountID + db'.heldForAll ids accountID = db.heldForAll (c.id :: ids) accountID := by
  obtain ⟨b, hcomplete⟩ := settle_eq_some h
  have hrest : db'.heldForAll ids accountID = ∑ id ∈ ids.toFinset.erase c.id, db.heldFor id accountID := by
    rw [Database.heldForAll]
    simp only [completeTaskOwned_heldFor hcomplete]
    rw [Finset.sum_ite, Finset.sum_const_zero, zero_add]
    refine Finset.sum_congr ?_ fun _ _ => rfl
    ext id
    simp [and_comm]
  rw [hrest, Database.heldForAll, List.toFinset_cons, ← Finset.erase_insert_eq_erase]
  exact Finset.add_sum_erase _ (fun id => db.heldFor id accountID)
    (Finset.mem_insert_self c.id ids.toFinset)

/-- A completion charges what its task holds. -/
theorem settlements_step {c : Completion} {a : Account} (h : (settlements accountID).step db c db')
    (ha : db.accounts.get? accountID = some a) (hsolvent : a.Solvent) :
    ∃ a', db'.accounts.get? accountID = some a' ∧
      a'.buckets = (a.charge (db.heldFor c.id accountID)).buckets := by
  obtain ⟨b, hcomplete⟩ := settle_eq_some h
  have hrow := completeTaskOwned_accounts hcomplete accountID
  by_cases hpos : 0 < db.heldFor c.id accountID
  · exact ⟨_, by rw [hrow, if_pos ⟨rfl, hpos⟩, ha, Option.map_some], rfl⟩
  · refine ⟨a, by rw [hrow, if_neg fun h => hpos h.2, ha], ?_⟩
    rw [Nat.eq_zero_of_not_pos hpos, Account.buckets_charge hsolvent]
    exact (Waterfall.drain_zero hsolvent).symm

theorem charge_congr {a a' : Account} (h : a'.buckets = a.buckets) (tokens : ℕ) :
    (a'.charge tokens).buckets = (a.charge tokens).buckets := by
  simp only [Account.buckets, List.cons.injEq, and_true] at h
  obtain ⟨hsub, hroll, hpaid⟩ := h
  simp only [Account.buckets, Account.charge, hsub, hroll, hpaid]

/-- A run of completions charges what the tasks hold together. -/
theorem settlements_run {cs : List Completion} {a : Account}
    (hrun : (settlements accountID).Run db cs db') (ha : db.accounts.get? accountID = some a)
    (hsolvent : a.Solvent) :
    ∃ a', db'.accounts.get? accountID = some a' ∧
      a'.buckets = (a.charge (db.heldForAll (cs.map Completion.id) accountID)).buckets := by
  induction cs generalizing db a with
  | nil =>
    subst hrun
    refine ⟨a, ha, ?_⟩
    rw [Account.buckets_charge hsolvent]
    exact (Waterfall.drain_zero hsolvent).symm
  | cons c cs ih =>
    obtain ⟨db₁, hstep, hrest⟩ := hrun
    obtain ⟨a₁, ha₁, hbuckets⟩ := settlements_step hstep ha hsolvent
    have hsolvent₁ : a₁.Solvent := by
      rw [Account.Solvent, hbuckets]
      exact Account.solvent_charge hsolvent _
    obtain ⟨a', ha', hbuckets'⟩ := ih hrest ha₁ hsolvent₁
    refine ⟨a', ha', ?_⟩
    rw [hbuckets', charge_congr hbuckets, Account.charge_charge hsolvent, List.map_cons,
      ← heldForAll_step hstep]

end Held

/-- Completed tasks debit the buckets in order, by all that the tasks held on the account,
and in whatever order they are settled, the same is left. -/
theorem settlement_waterfall {accountID : UUID} {db db' : Database} {cs : List Completion}
    {a : Account} (hrun : (settlements accountID).Run db cs db')
    (ha : db.accounts.get? accountID = some a) (hsolvent : a.Solvent) :
    ∃ a', db'.accounts.get? accountID = some a' ∧
      a.Debited (db.heldForAll (cs.map Completion.id) accountID) a' ∧
      a'.buckets = (a.charge (db.heldForAll (cs.map Completion.id) accountID)).buckets ∧
      ∀ (cs' : List Completion) (db'' : Database),
        (cs'.map Completion.id).Perm (cs.map Completion.id) →
        (settlements accountID).Run db cs' db'' →
        (db''.accounts.get? accountID).map Account.buckets = some a'.buckets := by
  obtain ⟨a', ha', hbuckets⟩ := settlements_run hrun ha hsolvent
  refine ⟨a', ha', Account.debited_of_buckets hsolvent hbuckets, hbuckets, ?_⟩
  intro cs' db'' hperm hrun'
  obtain ⟨a'', ha'', hbuckets'⟩ := settlements_run hrun' ha hsolvent
  have hids : (cs'.map Completion.id).toFinset = (cs.map Completion.id).toFinset :=
    List.toFinset_eq_of_perm _ _ hperm
  rw [ha'', Option.map_some, hbuckets', hbuckets, Database.heldForAll, Database.heldForAll, hids]

/-- Three subscription credits, four rollover credits and a hundred paid ones. -/
def threeBuckets : Account :=
  { smallAccount with subscriptionTokens := 3, rolloverTokens := 4, paidTokens := 100 }

/-- The tasks 20 and 21 hold five and six credits, and their jobs are known. -/
def twoSubmitted : Database :=
  ((smallStore ⟨[threeBuckets], by decide⟩).after
    [admitAt 0 (smallRequest 20 .image 5), admitAt 0 (smallRequest 21 .image 6), claimAt 1 20 900,
      claimAt 1 21 901, ⟨atTime 2, .owned 20 900 (.prepare 1 none (hours 1))⟩,
      ⟨atTime 2, .owned 21 901 (.prepare 1 none (hours 1))⟩,
      ⟨atTime 3, .owned 20 900 (.recordSubmission 1 "g" none)⟩,
      ⟨atTime 3, .owned 21 901 (.recordSubmission 1 "h" none)⟩]).db

def bothCompleted : List Completion :=
  [⟨atTime 4, 20, 900, "", "r", none⟩, ⟨atTime 5, 21, 901, "", "r", none⟩]

theorem settlement_waterfall_both :
    ∃ (db' : Database) (a a' : Account), twoSubmitted.accounts.get? 1 = some a ∧
      a.buckets = [3, 4, 100] ∧ db'.accounts.get? 1 = some a' ∧ a.Debited 11 a' ∧
      a'.buckets = [0, 0, 96] := by
  have hrun : (LTS.follow (settle 1) (fun _ _ => true) twoSubmitted bothCompleted).isSome := by
    decide +kernel
  have hbefore : (twoSubmitted.accounts.get? 1).map Account.buckets = some [3, 4, 100] := by
    decide +kernel
  have hheld : twoSubmitted.heldForAll (bothCompleted.map Completion.id) 1 = 11 := by decide +kernel
  obtain ⟨db', hdb'⟩ := Option.isSome_iff_exists.mp hrun
  obtain ⟨a, ha, hbuckets⟩ := Option.map_eq_some_iff.mp hbefore
  obtain ⟨a', ha', hdebited, hbuckets', -⟩ := settlement_waterfall
    (LTS.Run.of_restrict (LTS.run_of_follow hdb')) ha (by simp [Account.Solvent, hbuckets])
  rw [hheld] at hdebited hbuckets'
  have hcharged : (a.charge 11).buckets = (threeBuckets.charge 11).buckets :=
    charge_congr hbuckets 11
  exact ⟨db', a, a', ha, hbuckets, ha', hdebited, hbuckets'.trans hcharged⟩

end GenerationGateway
