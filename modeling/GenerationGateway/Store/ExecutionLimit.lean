import GenerationGateway.Store.Accounts
import GenerationGateway.Store.Interleaving

/-!
# The execution limit of an account

A claim counts the executing tasks of the account in the statement that locks the
account row, so its count is as old as the request for the lock. While the count
leaves a slot free only if the committed rows do, the limit holds in every
reachable state; two claims that ask for the lock at the same time break it.
-/

namespace GenerationGateway

open Relational Effects Transitions

/-- No account runs more tasks than its concurrency. -/
def Database.WithinConcurrency (db : Database) : Prop :=
  ∀ a ∈ db.accounts.rows, activeTasks db a.id ≤ a.imageConcurrency

instance (db : Database) : Decidable db.WithinConcurrency :=
  inferInstanceAs (Decidable (∀ a ∈ db.accounts.rows, _))

/-- If the pending `loadClaimAccount … FOR UPDATE` counts a free slot in its snapshot,
then there is one by the committed rows as well. -/
def Thread.slotStillFree (db : Database) (th : Thread) : Bool :=
  match th.pending, th.snapshot with
  | some (.loadClaimAccount id true), some snapshot =>
    (db.accounts.get? id).all fun a => decide (a.imageConcurrency ≤ activeTasks snapshot id) ||
      decide (activeTasks db id < a.imageConcurrency)
  | _, _ => true

def Machine.slotStillFree (m : Machine) : Act → Bool
  | .answer i _ => (m.thread i).all (Thread.slotStillFree m.db)
  | _ => true

/-- What a claim relies on until it commits: the locked account keeps the slot that
the claim has read as free. -/
def SlotFacts (db : Database) (locks : List Lock) : Phase → Prop
  | .target _ _ accountID | .moved _ _ accountID => .account accountID ∈ locks
  | .loaded _ accountID state | .reloaded _ _ accountID state => .account accountID ∈ locks ∧
    (state.slotFree → ∀ a, db.accounts.get? accountID = some a →
      activeTasks db accountID < a.imageConcurrency)
  | .leased _ accountID | .movedLeased _ _ accountID => .account accountID ∈ locks ∧
    ∀ a, db.accounts.get? accountID = some a → activeTasks db accountID < a.imageConcurrency
  | _ => True

/-- The account on which a commit in the phase starts an execution. -/
def Phase.executor : Phase → Option UUID
  | .leased _ accountID | .movedLeased _ _ accountID => some accountID
  | _ => none

section Count

variable {account : UUID} {t : Option Task} {stake : Option (UUID × ℕ)}

theorem stakeShare_of_not_executing (h : ∀ task, t = some task → task.status.executing = false) :
    stakeShare account countExecuting t stake = 0 := by
  have hzero (estimate : ℕ) : countExecuting t estimate = 0 := by
    cases t with
    | none => rfl
    | some task => simp [countExecuting, h task rfl]
  cases stake with
  | none => rfl
  | some s => simp [stakeShare, hzero]

theorem stakeShare_le_one : stakeShare account countExecuting t stake ≤ 1 := by
  cases stake with
  | none => exact Nat.zero_le _
  | some s =>
    simp only [stakeShare, countExecuting]
    split
    · split <;> omega
    · omega

theorem stakeShare_of_holder {holder : UUID} {estimate : ℕ} {g : Option Task → ℕ → ℕ}
    (h : holder ≠ account) : stakeShare account g t (some (holder, estimate)) = 0 :=
  if_neg h

end Count

/-- The writes of a phase add an execution on one account at most. -/
theorem Phase.Wrote.executing_le {ph : Phase} {db v : Database} {id : UUID}
    (hw : ph.Wrote (db.cell id) (v.cell id)) (hknown : ph.Known) (account : UUID) :
    (v.cell id).share account countExecuting ≤ (db.cell id).share account countExecuting +
      if ph.executor = some account then 1 else 0 := by
  have hnot {t : Task} (ht : (v.cell id).task = some t) (h : t.status.executing = false) :
      (v.cell id).share account countExecuting = 0 := by
    rw [Cell.share_eq]
    apply stakeShare_of_not_executing
    rintro _ htask
    obtain rfl : t = _ := Option.some.inj (ht.symm.trans htask)
    exact h
  have hqueued {t : Task} (ht : (v.cell id).task = some t) (h : t.status = .queued) :
      (v.cell id).share account countExecuting = 0 := hnot ht (by rw [h]; rfl)
  cases ph with
  | start | candidate | counted | limited => exact (Cell.Alike.share hw _ _).le.trans (by omega)
  | locked | estimated | loaded | target => exact (hw.1.share _ _).le.trans (by omega)
  | moved task q accountID =>
    obtain ⟨-, ht, hq, -⟩ := hw
    rw [hqueued ht hq]
    omega
  | reloaded task q accountID state =>
    obtain ⟨-, ht, hq, -⟩ := hw
    rw [hqueued ht hq]
    omega
  | failing task =>
    obtain ⟨-, -, ⟨t, ht, hexec⟩, -⟩ := hw
    rw [hnot ht hexec]
    omega
  | resumed task =>
    obtain ⟨ht, hstake⟩ := hw
    rw [Cell.share_eq, Cell.share_eq, hstake, ht]
    have hexec : task.status.executing = true := hknown
    cases (db.cell id).stake with
    | none => exact Nat.zero_le _
    | some s =>
      by_cases hacc : s.1 = account
      · have hone : stakeShare account countExecuting (some task) (some s) = 1 := by
          simp [stakeShare, countExecuting, hacc, hexec]
        rw [hone]
        exact stakeShare_le_one.trans (by omega)
      · rw [stakeShare_of_holder hacc]
        exact Nat.zero_le _
  | leased task accountID =>
    obtain ⟨ht, hstake⟩ := hw
    by_cases hacc : accountID = account
    · rw [hacc, Phase.executor, if_pos rfl, Cell.share_eq]
      exact stakeShare_le_one.trans (by omega)
    · rw [Cell.share_eq, hstake]
      cases hs : (db.cell id).stake with
      | none => exact Nat.zero_le _
      | some s =>
        obtain ⟨t, ht', hholder, -⟩ := Database.stake_identity hs
        obtain rfl : task = t := Option.some.inj (ht.symm.trans ht')
        have hsame : s.1 = accountID := Option.some.inj (hholder.symm.trans hknown)
        rw [stakeShare_of_holder (by rwa [hsame])]
        exact Nat.zero_le _
  | movedLeased task q accountID =>
    obtain ⟨-, hstake⟩ := hw
    by_cases hacc : accountID = account
    · rw [hacc, Phase.executor, if_pos rfl, Cell.share_eq]
      exact stakeShare_le_one.trans (by omega)
    · rw [Cell.share_eq, hstake]
      cases (db.cell id).stake with
      | none => exact Nat.zero_le _
      | some s =>
        rw [Option.map_some, stakeShare_of_holder hacc]
        exact Nat.zero_le _
  | inserting q accountID =>
    obtain ⟨-, -, t, ht, hq⟩ := hw
    rw [hqueued ht hq]
    omega
  | admitted q accountID =>
    obtain ⟨-, -, -, t, ht, hq⟩ := hw
    rw [hqueued ht hq]
    omega

section Commit

variable {th : Thread} {ph : Phase} {db v : Database}

theorem Thread.Sound.activeTasks_le (hth : th.Sound ph) (hview : th.view db = some v)
    (account : UUID) :
    activeTasks v account ≤ activeTasks db account +
      if ph.executor = some account then 1 else 0 := by
  have hmove : v.share account countExecuting +
      (db.cell th.job.taskID).share account countExecuting =
      db.share account countExecuting + (v.cell th.job.taskID).share account countExecuting := by
    apply share_add_share
    intro k hk
    exact ((hth.frame db v hview).others k hk).share _ _
  have hown := (hth.wrote db v hview).executing_le hth.known account
  rw [activeTasks_eq, activeTasks_eq]
  omega

/-- As long as its own task is queued, a transaction sees no fewer executions than
there are. -/
theorem Thread.Sound.activeTasks_view {task : Task} (hth : th.Sound ph)
    (hview : th.view db = some v) (ht : (db.cell th.job.taskID).task = some task)
    (hq : task.status = .queued) (account : UUID) :
    activeTasks db account ≤ activeTasks v account := by
  rw [activeTasks_eq, activeTasks_eq]
  apply share_le_share
  intro k
  by_cases hk : k = th.job.taskID
  · rw [hk, Cell.share_eq, ht, stakeShare_of_not_executing]
    · exact Nat.zero_le _
    · rintro _ ⟨rfl⟩
      rw [hq]
      rfl
  · exact (((hth.frame db v hview).others k hk).share _ _).ge

end Commit

/-- The facts survive where no execution starts on a locked account. -/
theorem SlotFacts.mono_rows {db v : Database} {locks : List Lock} {ph : Phase}
    (h : SlotFacts db locks ph)
    (hactive : ∀ account, .account account ∈ locks →
      activeTasks v account ≤ activeTasks db account)
    (haccounts : ∀ id a', v.accounts.get? id = some a' →
      ∃ a, db.accounts.get? id = some a ∧ a'.imageConcurrency = a.imageConcurrency) :
    SlotFacts v locks ph := by
  have hfree {id : UUID} (hid : .account id ∈ locks)
      (hdb : ∀ a, db.accounts.get? id = some a → activeTasks db id < a.imageConcurrency) :
      ∀ a, v.accounts.get? id = some a → activeTasks v id < a.imageConcurrency := by
    intro a' ha'
    obtain ⟨a, ha, hsame⟩ := haccounts id a' ha'
    rw [hsame]
    exact (hactive id hid).trans_lt (hdb a ha)
  cases ph with
  | loaded task accountID state => exact ⟨h.1, fun hslot => hfree h.1 (h.2 hslot)⟩
  | reloaded task q accountID state => exact ⟨h.1, fun hslot => hfree h.1 (h.2 hslot)⟩
  | leased task accountID => exact ⟨h.1, hfree h.1 h.2⟩
  | movedLeased task q accountID => exact ⟨h.1, hfree h.1 h.2⟩
  | _ => exact h

/-- The invariant of the committed rows. -/
structure Database.Slotted (db : Database) : Prop where
  attended : ∀ k, (db.cell k).Attended
  within : ∀ id a, db.accounts.get? id = some a → activeTasks db id ≤ a.imageConcurrency

theorem SlotFacts.mono_locks {db : Database} {locks locks' : List Lock} {ph : Phase}
    (hsub : locks ⊆ locks') (h : SlotFacts db locks ph) : SlotFacts db locks' ph := by
  cases ph with
  | target | moved => exact hsub h
  | loaded | reloaded | leased | movedLeased => exact ⟨hsub h.1, h.2⟩
  | _ => trivial

/-- Claims rely on their slots. -/
theorem slots_reliable :
    Reliance .idle (fun m a => m.slotStillFree a = true) (fun db _ => db.Slotted)
      fun _ db locks _ ph _ => SlotFacts db locks ph where
  start _ := trivial
  refused hrows _ _ _ _ := hrows
  answered {m i skip th ph x op k snapshot view r} hcond hrows hth hrest hsound hfacts hallows _
      hanswers := by
    by_cases hneutral : op.neutral = true
    · rw [Statement.next_of_neutral hneutral]
      refine hfacts.mono_locks ?_
      rw [Thread.locks_advance (by rintro rfl; cases hneutral)]
      exact List.subset_append_right _ _
    have hold {l : Lock} (hop : op ≠ .rollbackToSavepoint) (h : l ∈ th.locks) :
        l ∈ (th.advance op k r).locks := by
      rw [Thread.locks_advance hop]
      exact List.mem_append_right _ h
    have hnew {l : Lock} (hop : op ≠ .rollbackToSavepoint) (h : l ∈ op.takes r) :
        l ∈ (th.advance op k r).locks := by
      rw [Thread.locks_advance hop]
      exact List.mem_append_left _ h
    cases op with
    | lockTask id =>
      obtain ⟨rfl, -⟩ := hallows
      cases r <;> trivial
    | readEstimatedTokens id =>
      obtain ⟨task, rfl, -⟩ := hallows
      trivial
    | loadClaimAccount accountID lock =>
      obtain ⟨a, ha, rfl⟩ := loadClaimAccount_answers hanswers
      rw [(hsound.frame _ _ hanswers.viewed).accounts] at ha
      obtain ⟨task, estimatedTokens, rfl, -⟩ | ⟨task, q, rfl, rfl⟩ := hallows
      · cases lock with
        | false => trivial
        | true =>
          have hsnapshot := hanswers.snapshot_of_waits rfl
          have hfree : m.slotStillFree (.answer i skip) = true := hcond
          simp only [Machine.slotStillFree, hth, Option.all_some, Thread.slotStillFree,
            Thread.pending, hrest, hsnapshot, ha, Bool.or_eq_true, decide_eq_true_eq] at hfree
          refine ⟨hnew nofun (List.mem_singleton_self _), ?_⟩
          intro hslot a' ha'
          obtain rfl : a = a' := Option.some.inj (ha.symm.trans ha')
          exact hfree.resolve_left (Nat.not_le.mpr hslot)
      · obtain rfl := hanswers.snapshot_eq rfl
        obtain ⟨ht, -, hq, -⟩ := hsound.wrote _ _ hanswers.viewed
        refine ⟨hold nofun hfacts, ?_⟩
        intro hslot a' ha'
        obtain rfl : a = a' := Option.some.inj (ha.symm.trans ha')
        exact (hsound.activeTasks_view hanswers.viewed ht hq accountID).trans_lt hslot
    | chooseTarget q old =>
      obtain ⟨task, rfl, -⟩ := hallows
      cases r with
      | none => trivial
      | some target => exact hnew (l := .account target) nofun (List.mem_singleton_self _)
    | moveReservation id target =>
      obtain ⟨task, q, rfl, -⟩ := hallows
      exact hold (l := .account target) nofun hfacts
    | failUnpriced id =>
      obtain ⟨task, estimatedTokens, rfl, -⟩ := hallows
      trivial
    | releaseUnpriced id =>
      obtain ⟨task, rfl, -⟩ := hallows
      trivial
    | claimLease id leaseID expiresAt =>
      obtain ⟨task, rfl, -⟩ | ⟨task, accountID, state, rfl, -, -, hslot⟩ |
        ⟨task, q, accountID, state, rfl, -, hslot⟩ := hallows
      · trivial
      · exact ⟨hold nofun hfacts.1, hfacts.2 hslot⟩
      · exact ⟨hold nofun hfacts.1, hfacts.2 hslot⟩
    | chooseCandidate q excluded skipLocked =>
      obtain rfl := hallows
      cases r <;> trivial
    | reservedUsage id =>
      obtain ⟨q, rfl⟩ := hallows
      trivial
    | accountLimits id =>
      obtain ⟨q, reservationCount, reserved, rfl⟩ := hallows
      trivial
    | savepoint =>
      obtain rfl := hallows
      trivial
    | rollbackToSavepoint => trivial
    | insertTask row =>
      obtain ⟨q, id, reservationCount, reserved, limits, rfl, -⟩ := hallows
      trivial
    | insertReservation r =>
      obtain ⟨q, id, rfl, -⟩ := hallows
      trivial
    | _ => exact absurd rfl hneutral
  committed {db v replies th ph x r} hrows hsound hfacts _ hview hends := by
    have hlives := (Job.commits_of_ends hends).lives
    have haccounts := (hsound.frame db v hview).accounts
    have hexecutor {id : UUID} (h : ph.executor = some id) : .account id ∈ th.locks ∧
        ∀ a, db.accounts.get? id = some a → activeTasks db id < a.imageConcurrency := by
      cases ph with
      | leased | movedLeased =>
        cases h
        exact hfacts
      | _ => cases h
    constructor
    · refine ⟨fun k => (hlives k).invariant (fun _ _ => Transition.attended) (hrows.attended k), ?_⟩
      intro id a ha
      rw [haccounts] at ha
      have hle := hsound.activeTasks_le hview id
      have hwithin := hrows.within id a ha
      by_cases hexec : ph.executor = some id
      · have hfree := (hexecutor hexec).2 a ha
        rw [if_pos hexec] at hle
        omega
      · rw [if_neg hexec] at hle
        omega
    · intro job locks saved ph' x' hdisjoint hfacts'
      refine hfacts'.mono_rows ?_ ?_
      · intro account hlocked
        have hle := hsound.activeTasks_le hview account
        have hexec : ph.executor ≠ some account := by
          intro hexec
          exact hdisjoint (hexecutor hexec).1 hlocked
        rwa [if_neg hexec] at hle
      · intro id a' ha'
        rw [haccounts] at ha'
        exact ⟨a', ha', rfl⟩
  atomic {env op db db' replies} hatomic hrows hcommits := by
    have hsession : op.call.session = false := op.session_of_atomic hatomic
    have hactive := hcommits.lives.activeTasks_le hsession hrows.attended
    have haccounts : ∀ id a', db'.accounts.get? id = some a' →
        ∃ a, db.accounts.get? id = some a ∧ a'.imageConcurrency = a.imageConcurrency := by
      intro id a' ha'
      obtain ⟨a, ha, heases⟩ := (hcommits.eases hatomic).2.2 id a' ha'
      exact ⟨a, ha, heases.imageConcurrency⟩
    refine ⟨⟨?_, ?_⟩, ?_⟩
    · intro k
      exact (hcommits.lives k).invariant (fun _ _ => Transition.attended) (hrows.attended k)
    · intro id a' ha'
      obtain ⟨a, ha, hsame⟩ := haccounts id a' ha'
      rw [hsame]
      exact (hactive id).trans (hrows.within id a ha)
    · intro job locks saved ph x hfacts
      exact hfacts.mono_rows (fun account _ => hactive account) haccounts

/-- In a run in which every claim that counts a free slot has one when it gets the
account's lock, no account ever runs more tasks than its concurrency. -/
theorem within_concurrency {accounts : Table Account} {apiKeys : Table APIKey}
    {costRules : Table CostRule} {capacity : SystemCapacityConfig} {m : Machine}
    (h : (readCommitted.restrict fun m a => m.slotStillFree a = true).Reachable
      (.initial accounts apiKeys costRules capacity) m) : m.db.WithinConcurrency := by
  have hslotted : m.db.Slotted := by
    refine slots_reliable.reachable ⟨?_, ?_⟩ h
    · intro k t ht
      cases ht
    · intro id a ha
      exact Nat.zero_le _
  intro a ha
  exact hslotted.within a.id a (Table.get?_of_mem ha)

/-- The small account with a single execution slot. -/
def oneSlot : Account :=
  { smallAccount with
    imageConcurrency := 1
    imageConcurrency_pos := Nat.one_pos
    videoReservedSlots_le := by decide }

/-- Two queued tasks, and a claim of the first. -/
def oneClaim : List Act :=
  admitAlone 0 0 (smallRequest 20 .image 5) ++ admitAlone 1 1 (smallRequest 21 .image 5) ++
    beginClaim 2 20 900 :: statements 2 17 ++ [.commit 2]

theorem within_concurrency_oneClaim :
    ∃ m : Machine, activeTasks m.db 1 = 1 ∧ m.db.WithinConcurrency := by
  have hrun : ((smallMachine ⟨[oneSlot], by decide⟩).runWhile Machine.slotStillFree oneClaim).map
      (fun m => activeTasks m.db 1) = some 1 := by
    decide +kernel
  obtain ⟨m, hm, hactive⟩ := Option.map_eq_some_iff.mp hrun
  exact ⟨m, hactive, within_concurrency ⟨oneClaim, readCommitted_runWhile hm⟩⟩

/-- The claims of both tasks ask for the lock of the account before either commits. -/
def twoClaims : List Act :=
  admitAlone 0 0 (smallRequest 20 .image 5) ++ admitAlone 1 1 (smallRequest 21 .image 5) ++
    [beginClaim 2 20 900, beginClaim 2 21 901] ++ statements 2 6 ++ statements 3 6 ++
    [.send 2, .send 3, .answer 2 []] ++ statements 2 10 ++ [.commit 2] ++
    [.answer 3 []] ++ statements 3 10 ++ [.commit 3]

/-- Both claims count the only slot as free. -/
theorem twoClaims_overfull :
    ¬ ∀ m, readCommitted.Reachable (smallMachine ⟨[oneSlot], by decide⟩) m →
      m.db.WithinConcurrency := by
  intro h
  have hrun : ((smallMachine ⟨[oneSlot], by decide⟩).run twoClaims).map
      (fun m => decide m.db.WithinConcurrency) = some false := by
    decide +kernel
  obtain ⟨m, hm, hwithin⟩ := Option.map_eq_some_iff.mp hrun
  exact of_decide_eq_false hwithin (h m ⟨twoClaims, readCommitted_run hm⟩)

end GenerationGateway
