import GenerationGateway.Store.Accounting
import GenerationGateway.Store.Oversell

/-!
# Archiving an account

The archiver counts the unfinished work of the account in the snapshot of its
first statement, which it took before it waited for the account's row. Admissions
and reroutes lock that row and do not write it, so what they commit while the
archiver waits is neither counted nor a serialization conflict. Where the account
is as idle when the row is locked as it was in the snapshot, no archived account
ever has work.
-/

namespace GenerationGateway

open Relational Effects Transitions

/-- `status IN ('queued','reserving','uploading','submitted','polling','submission_uncertain')`. -/
def unfinishedTasks (db : Database) (accountID : UUID) : ℕ :=
  db.tasks.count fun t => decide (t.accountID = some accountID) && !t.status.settled

inductive ArchiveError
  | notFound
  | accountInUse (activeTasks heldReservations : ℕ)
  deriving DecidableEq

def Account.archive (now : Time) (a : Account) : Account :=
  { a with archivedAt := some now, status := .disabled, cooldownUntil := none }

/-- What the archiver decides from its snapshot once it has locked the row, and what it
then writes. -/
def archiveAccount (now : Time) (id : UUID) (snapshot db : Database) :
    Except ArchiveError Database :=
  match snapshot.accounts.get? id with
  | none => .error .notFound
  | some a =>
    if a.archivedAt.isSome then .error .notFound
    else
      let activeTasks := unfinishedTasks snapshot id
      let heldReservations := reservationCount snapshot id
      if 0 < activeTasks ∨ 0 < heldReservations then
        .error (.accountInUse activeTasks heldReservations)
      else .ok { db with
        accounts := db.accounts.modify id (Account.archive now) (key_of_account fun _ => rfl) }

/-- The transaction of an archiver, from its first statement on. -/
structure Archiver where
  now : Time
  accountID : UUID
  snapshot : Database
  locked : Bool

/-- The gateway's transactions with the archivers beside them. -/
structure ArchivingMachine where
  gateway : Machine
  archivers : List (Option Archiver)

inductive ArchivingAct
  | gateway (a : Act)
  | select (now : Time) (accountID : UUID)
  | lock (i : ℕ)
  | commit (i : ℕ)
  | rollback (i : ℕ)

/-- The locks of all transactions. -/
def Machine.locks (m : Machine) : List Lock := m.threads.flatMap fun th => th.elim [] Thread.locks

namespace ArchivingMachine

def archiver (s : ArchivingMachine) (i : ℕ) : Option Archiver := s.archivers[i]?.join

/-- The rows that archivers have locked. -/
def locked (s : ArchivingMachine) : List Lock :=
  s.archivers.filterMap fun x => (x.filter Archiver.locked).map fun x => .account x.accountID

/-- One step. A transaction waits for the rows that archivers hold, an archiver for
those that others hold; a row that was written since the snapshot is a serialization
failure, and the transaction can only roll back. -/
def step (s : ArchivingMachine) : ArchivingAct → Option ArchivingMachine
  | .gateway a => do
    let m ← s.gateway.step a
    if m.locks.any s.locked.contains then none else some { s with gateway := m }
  | .select now accountID =>
    some { s with archivers := s.archivers ++ [some ⟨now, accountID, s.gateway.db, false⟩] }
  | .lock i => do
    let x ← s.archiver i
    if (s.gateway.locks ++ s.locked).contains (.account x.accountID) ∨
        s.gateway.db.accounts.get? x.accountID ≠ x.snapshot.accounts.get? x.accountID then none
    else some { s with archivers := s.archivers.set i (some { x with locked := true }) }
  | .commit i => do
    let x ← s.archiver i
    if x.locked then
      match archiveAccount x.now x.accountID x.snapshot s.gateway.db with
      | .ok db => some ⟨{ s.gateway with db := db }, s.archivers.set i none⟩
      | .error _ => none
    else none
  | .rollback i => do
    let _ ← s.archiver i
    some { s with archivers := s.archivers.set i none }

end ArchivingMachine

def archiving : LTS ArchivingMachine ArchivingAct := .ofStep ArchivingMachine.step

/-- No archived account has a hold or a task that has not ended. -/
def Database.ArchivedIdle (db : Database) : Prop :=
  ∀ a ∈ db.accounts.rows, a.archivedAt ≠ none → reservationCount db a.id = 0 ∧
    ∀ t ∈ db.tasks.rows, t.accountID = some a.id → t.status.terminal = true

instance (db : Database) : Decidable db.ArchivedIdle :=
  inferInstanceAs (Decidable (∀ a ∈ db.accounts.rows, _))

/-- The archiver has counted no work. -/
def Archiver.countsNone (x : Archiver) : Bool :=
  decide (unfinishedTasks x.snapshot x.accountID = 0) &&
    decide (reservationCount x.snapshot x.accountID = 0)

/-- An archiver that has counted no work locks an account without a hold. -/
def ArchivingMachine.stillIdle (s : ArchivingMachine) : ArchivingAct → Bool
  | .lock i => (s.archiver i).all fun x =>
    !x.countsNone || decide (reservationCount s.gateway.db x.accountID = 0)
  | _ => true

/-! ### What transactions rely on -/

/-- The account that a transaction has taken for its task. -/
def Phase.takes : Phase → Option UUID
  | .target _ _ accountID | .moved _ _ accountID | .reloaded _ _ accountID _
  | .movedLeased _ _ accountID | .candidate _ accountID | .counted _ accountID _ _
  | .limited _ accountID _ _ _ | .inserting _ accountID | .admitted _ accountID => some accountID
  | _ => none

theorem Phase.takes_of_reserves {ph : Phase} {s : UUID × ℕ} (h : ph.reserves = some s) :
    ph.takes = some s.1 := by
  cases ph with
  | moved | reloaded | movedLeased | admitted =>
    cases h
    rfl
  | _ => cases h

/-- The account taken is locked, and it is not archived. -/
def OpenFacts (db : Database) (locks : List Lock) (ph : Phase) : Prop :=
  ∀ id, ph.takes = some id → .account id ∈ locks ∧
    ∀ a, db.accounts.get? id = some a → a.archivedAt = none

/-- The invariant of the committed rows. -/
structure Database.Clear (db : Database) : Prop where
  accounted : ∀ k, (db.cell k).Accounted
  archived : ∀ id a, db.accounts.get? id = some a → a.archivedAt ≠ none → reservationCount db id = 0

theorem Account.open_of_accepts {policy : SchedulingPolicy} {snapshot : Database} {a : Account}
    {provider : ProviderID} {kind : Kind} {estimatedTokens : ℕ} {now : Time}
    (h : a.accepts policy snapshot provider kind estimatedTokens now = true) :
    a.archivedAt = none := by
  simp only [Account.accepts, Account.healthy, Bool.and_eq_true, Option.isNone_iff_eq_none] at h
  exact h.1.1.1.1.1.1.1.1.1.1

section Answers

variable {m : Machine} {i : ℕ} {skip : List UUID} {th : Thread} {snapshot view : Database}
variable {q : RoutingQuery} {accountID : UUID}

theorem open_of_chooseTarget {old : UUID}
    (h : m.Answers i skip th (.chooseTarget q old) snapshot view (some accountID)) :
    ∃ a, view.accounts.get? accountID = some a ∧ a.archivedAt = none := by
  obtain ⟨a, ha, haccepts, -⟩ := chooseAccount_spec (chooseTarget_answers h).symm
  simp only [Bool.and_eq_true] at haccepts
  exact ⟨a, ha, Account.open_of_accepts haccepts.1.1⟩

theorem open_of_chooseCandidate {excluded : List UUID} {skipLocked : Bool}
    (h : m.Answers i skip th (.chooseCandidate q excluded skipLocked) snapshot view
      (some accountID)) :
    ∃ a, view.accounts.get? accountID = some a ∧ a.archivedAt = none := by
  obtain ⟨w, hexec⟩ := h.executed
  have hanswer : answer (fun db => .ok (chooseAccount snapshot db
      (fun a => q.accepts snapshot th.env.now a && !excluded.contains a.id)
      (fun a => a.routingKey snapshot q.kind q.estimatedTokens (if a.lastError = "" then 0 else 1))
      fun id => skipLocked && (m.locked i skip).contains id)) view = .ok (some accountID, w) := hexec
  obtain ⟨a, ha, haccepts, -⟩ := chooseAccount_spec (Except.ok.inj (answer_ok hanswer).1)
  exact ⟨a, ha, Account.open_of_accepts ((Bool.and_eq_true _ _).mp haccepts).1⟩

end Answers

/-- The facts after an answer that takes no account. -/
theorem OpenFacts.kept {db : Database} {locks locks' : List Lock} {ph ph' : Phase}
    (h : OpenFacts db locks ph) (hlocks : locks ⊆ locks')
    (htakes : ∀ id, ph'.takes = some id → ph.takes = some id) : OpenFacts db locks' ph' := by
  intro id hid
  obtain ⟨hlock, hopen⟩ := h id (htakes id hid)
  exact ⟨hlocks hlock, hopen⟩

/-- The facts after an answer. -/
theorem OpenFacts.answered {m : Machine} {i : ℕ} {skip : List UUID} {th : Thread} {ph : Phase}
    {op : Statement} {k : op.Res → Session (Ending Reply)} {snapshot view : Database} {r : op.Res}
    (hsound : th.Sound ph) (h : OpenFacts m.db th.locks ph) (hallows : ph.allows th.job.taskID op)
    (hanswers : m.Answers i skip th op snapshot view r) :
    OpenFacts m.db (th.advance op k r).locks (ph.next op r) := by
  have hsub (hop : op ≠ .rollbackToSavepoint) : th.locks ⊆ (th.advance op k r).locks := by
    rw [Thread.locks_advance hop]
    exact List.subset_append_right _ _
  have haccounts := (hsound.frame _ _ hanswers.viewed).accounts
  have hchosen {accountID : UUID} (hop : op ≠ .rollbackToSavepoint)
      (htakes : .account accountID ∈ op.takes r)
      (hopen : ∃ a, view.accounts.get? accountID = some a ∧ a.archivedAt = none) :
      .account accountID ∈ (th.advance op k r).locks ∧
        ∀ a, m.db.accounts.get? accountID = some a → a.archivedAt = none := by
    rw [Thread.locks_advance hop]
    refine ⟨List.mem_append_left _ htakes, fun a ha => ?_⟩
    obtain ⟨b, hb, hnone⟩ := hopen
    rw [haccounts] at hb
    rwa [Option.some.inj (ha.symm.trans hb)]
  by_cases hneutral : op.neutral = true
  · rw [Statement.next_of_neutral hneutral]
    exact h.kept (hsub (by rintro rfl; cases hneutral)) fun id hid => hid
  cases op with
  | lockTask id =>
    obtain ⟨rfl, -⟩ := hallows
    refine h.kept (hsub nofun) fun id hid => ?_
    cases r <;> cases hid
  | readEstimatedTokens id =>
    obtain ⟨task, rfl, -⟩ := hallows
    exact h.kept (hsub nofun) fun id hid => hid
  | loadClaimAccount accountID lock =>
    obtain ⟨task, estimatedTokens, rfl, -⟩ | ⟨task, q, rfl, rfl⟩ := hallows
    · refine h.kept (hsub nofun) fun id hid => ?_
      cases lock <;> cases hid
    · exact h.kept (hsub nofun) fun id hid => hid
  | chooseTarget q old =>
    obtain ⟨task, rfl, -⟩ := hallows
    cases r with
    | none => exact h.kept (hsub nofun) fun id hid => hid
    | some target =>
      rintro id ⟨⟩
      exact hchosen nofun (List.mem_singleton_self _) (open_of_chooseTarget hanswers)
  | moveReservation id target =>
    obtain ⟨task, q, rfl, -⟩ := hallows
    exact h.kept (hsub nofun) fun id hid => hid
  | failUnpriced id =>
    obtain ⟨task, estimatedTokens, rfl, -⟩ := hallows
    exact h.kept (hsub nofun) fun id hid => hid
  | releaseUnpriced id => exact h.kept (hsub nofun) fun id hid => hid
  | claimLease id leaseID expiresAt =>
    obtain ⟨task, rfl, -⟩ | ⟨task, accountID, state, rfl, -⟩ |
      ⟨task, q, accountID, state, rfl, -⟩ := hallows
    · exact h.kept (hsub nofun) fun id hid => hid
    · exact h.kept (hsub nofun) fun id hid => hid
    · exact h.kept (hsub nofun) fun id hid => hid
  | chooseCandidate q excluded skipLocked =>
    obtain rfl := hallows
    cases r with
    | none => exact h.kept (hsub nofun) fun id hid => hid
    | some accountID =>
      rintro id ⟨⟩
      exact hchosen nofun (List.mem_singleton_self _) (open_of_chooseCandidate hanswers)
  | reservedUsage accountID =>
    obtain ⟨q, rfl⟩ := hallows
    exact h.kept (hsub nofun) fun id hid => hid
  | accountLimits accountID =>
    obtain ⟨q, reserved, held, rfl⟩ := hallows
    exact h.kept (hsub nofun) fun id hid => hid
  | savepoint => exact h.kept (hsub nofun) fun id hid => hid
  | rollbackToSavepoint =>
    intro id hid
    cases hid
  | insertTask row =>
    obtain ⟨q, accountID, reserved, held, limits, rfl, -⟩ := hallows
    exact h.kept (hsub nofun) fun id hid => hid
  | insertReservation r =>
    obtain ⟨q, accountID, rfl, -⟩ := hallows
    exact h.kept (hsub nofun) fun id hid => hid
  | _ => exact absurd rfl hneutral

/-- A commit adds a hold only to the account that it has taken. -/
theorem Thread.Sound.count_le {th : Thread} {ph : Phase} {db v : Database} {id : UUID}
    (hsound : th.Sound ph) (hview : th.view db = some v) (hid : ph.takes ≠ some id) :
    reservationCount v id ≤ reservationCount db id := by
  obtain ⟨-, hcount⟩ := hsound.held_le hview id
  have hnone : added id (fun _ => 1) ph.reserves = 0 := by
    cases hres : ph.reserves with
    | none => rfl
    | some s =>
      refine if_neg ?_
      rintro rfl
      exact hid (Phase.takes_of_reserves hres)
  omega

/-- Admissions and reroutes rely on an open account. -/
theorem open_reliable : Reliance .idle (fun _ _ => True) (fun db _ => db.Clear)
    fun _ db locks _ ph _ => OpenFacts db locks ph where
  start _ _ hid := by cases hid
  refused hrows _ _ _ _ := hrows
  answered _ _ _ _ hsound hfacts hallows _ hanswers := hfacts.answered hsound hallows hanswers
  committed {db v replies th ph x r} hrows hsound hfacts _ hview hends := by
    have haccounts := (hsound.frame db v hview).accounts
    have hlives := (Job.commits_of_ends hends).lives
    refine ⟨⟨fun k => ?_, fun id a ha harchived => ?_⟩, ?_⟩
    · exact (hlives k).invariant (fun _ _ => Transition.accounted) (hrows.accounted k)
    · rw [haccounts] at ha
      have hle := hsound.count_le hview fun hid => harchived ((hfacts id hid).2 a ha)
      have hzero := hrows.archived id a ha harchived
      omega
    · intro job locks saved ph' x' _ hother id hid
      rw [haccounts]
      exact hother id hid
  atomic {env op db db' replies} hatomic hrows hcommits := by
    have hsession := op.session_of_atomic hatomic
    have haccounts := (hcommits.eases hatomic).2.2
    refine ⟨⟨fun k => ?_, fun id a' ha' harchived => ?_⟩, ?_⟩
    · exact (hcommits.lives k).invariant (fun _ _ => Transition.accounted) (hrows.accounted k)
    · obtain ⟨a, ha, heases⟩ := haccounts id a' ha'
      rw [heases.archivedAt] at harchived
      have hle := (hcommits.lives.share_le hsession id).2
      have hzero := hrows.archived id a ha harchived
      omega
    · intro job locks saved ph x hfacts id hid
      obtain ⟨hlock, hopen⟩ := hfacts id hid
      refine ⟨hlock, fun a' ha' => ?_⟩
      obtain ⟨a, ha, heases⟩ := haccounts id a' ha'
      rw [heases.archivedAt]
      exact hopen a ha

/-! ### Archivers beside the gateway -/

theorem Machine.mem_locks {m : Machine} {l : Lock} :
    l ∈ m.locks ↔ ∃ i th, m.thread i = some th ∧ l ∈ th.locks := by
  unfold Machine.locks
  rw [List.mem_flatMap]
  constructor
  · rintro ⟨x, hx, hl⟩
    obtain ⟨i, hget⟩ := List.mem_iff_getElem?.mp hx
    cases x with
    | none => simp at hl
    | some th => exact ⟨i, th, Machine.thread_of_get hget, hl⟩
  · rintro ⟨i, th, hth, hl⟩
    exact ⟨some th, List.mem_iff_getElem?.mpr ⟨i, Machine.get_of_thread hth⟩, hl⟩

namespace ArchivingMachine

variable {s s' : ArchivingMachine} {i : ℕ} {x : Archiver}

theorem mem_of_archiver (h : s.archiver i = some x) : some x ∈ s.archivers :=
  List.mem_of_getElem? (Option.join_eq_some_iff.mp h)

theorem mem_locked {l : Lock} :
    l ∈ s.locked ↔ ∃ x, some x ∈ s.archivers ∧ x.locked = true ∧ l = .account x.accountID := by
  unfold locked
  simp only [List.mem_filterMap, Option.map_eq_some_iff, Option.filter_eq_some_iff]
  constructor
  · rintro ⟨_, hmem, x, ⟨rfl, hlocked⟩, rfl⟩
    exact ⟨x, hmem, hlocked, rfl⟩
  · rintro ⟨x, hmem, hlocked, rfl⟩
    exact ⟨some x, hmem, x, ⟨rfl, hlocked⟩, rfl⟩

/-- The invariant of the gateway and of the archivers beside it. -/
structure Safe (s : ArchivingMachine) : Prop where
  gateway : s.gateway.Relies .idle (fun db _ => db.Clear) fun _ db locks _ ph _ =>
    OpenFacts db locks ph
  apart : s.gateway.locks.Disjoint s.locked
  idle : ∀ x, some x ∈ s.archivers → x.locked = true → x.countsNone = true →
    reservationCount s.gateway.db x.accountID = 0

/-- The other transactions add no hold to an account that an archiver has locked. -/
theorem count_le {m m' : Machine} {a : Act} {id : UUID}
    (h : m.Relies .idle (fun db _ => db.Clear) fun _ db locks _ ph _ => OpenFacts db locks ph)
    (hstep : m.step a = some m') (hfree : .account id ∉ m.locks) :
    reservationCount m'.db id ≤ reservationCount m.db id := by
  rcases m.step_db hstep with hsame | ⟨i, th, r, v, hth, -, hview, rfl⟩ | ⟨env, op, hatomic, hcommits⟩
  · rw [hsame]
  · obtain ⟨ph, x, hsound, -, hfacts⟩ := h.threads i th hth
    apply hsound.count_le hview
    intro htakes
    exact hfree (Machine.mem_locks.mpr ⟨i, th, hth, (hfacts id htakes).1⟩)
  · exact (hcommits.lives.share_le (op.session_of_atomic hatomic) id).2

theorem Safe.gatewayStep {a : Act} {m : Machine} (h : s.Safe) (hstep : s.gateway.step a = some m)
    (hwait : m.locks.any s.locked.contains = false) : Safe { s with gateway := m } where
  gateway := h.gateway.step open_reliable trivial hstep
  apart l hl hlocked := by
    have hnot := List.any_eq_false.mp hwait l hl
    exact hnot (List.contains_iff_mem.mpr hlocked)
  idle x hx hlocked hcounts := by
    have hzero := h.idle x hx hlocked hcounts
    have hfree : .account x.accountID ∉ s.gateway.locks :=
      fun hl => h.apart hl (mem_locked.mpr ⟨x, hx, hlocked, rfl⟩)
    exact Nat.le_zero.mp ((count_le h.gateway hstep hfree).trans hzero.le)

/-- Archivers that come without a lock or end leave the rest as it is. -/
theorem Safe.archivers {xs : List (Option Archiver)} (h : s.Safe)
    (hxs : ∀ x, some x ∈ xs → some x ∈ s.archivers ∨ x.locked = false) :
    Safe { s with archivers := xs } where
  gateway := h.gateway
  apart l hl hlocked := by
    obtain ⟨x, hx, hxlocked, rfl⟩ := mem_locked.mp hlocked
    rcases hxs x hx with hold | hnew
    · exact h.apart hl (mem_locked.mpr ⟨x, hold, hxlocked, rfl⟩)
    · exact Bool.false_ne_true (hnew.symm.trans hxlocked)
  idle x hx hlocked hcounts := by
    rcases hxs x hx with hold | hnew
    · exact h.idle x hold hlocked hcounts
    · exact absurd (hnew.symm.trans hlocked) Bool.false_ne_true

theorem Safe.lock (h : s.Safe) (hfree : .account x.accountID ∉ s.gateway.locks)
    (hidle : x.countsNone = true → reservationCount s.gateway.db x.accountID = 0) :
    Safe { s with archivers := s.archivers.set i (some { x with locked := true }) } where
  gateway := h.gateway
  apart l hl hlocked := by
    obtain ⟨y, hy, hylocked, rfl⟩ := mem_locked.mp hlocked
    rcases List.mem_or_eq_of_mem_set hy with hold | hnew
    · exact h.apart hl (mem_locked.mpr ⟨y, hold, hylocked, rfl⟩)
    · cases hnew
      exact hfree hl
  idle y hy hlocked hcounts := by
    rcases List.mem_or_eq_of_mem_set hy with hold | hnew
    · exact h.idle y hold hlocked hcounts
    · cases hnew
      exact hidle hcounts

/-- The archiver has counted no work, and it writes no other account. -/
theorem archiveAccount_ok {now : Time} {id : UUID} {snapshot db db' : Database}
    (h : archiveAccount now id snapshot db = .ok db') :
    unfinishedTasks snapshot id = 0 ∧ reservationCount snapshot id = 0 ∧
      (∀ k, db'.cell k = db.cell k) ∧ db'.reservations = db.reservations ∧
      ∀ k a, k ≠ id → db'.accounts.get? k = some a → db.accounts.get? k = some a := by
  unfold archiveAccount at h
  split at h
  · cases h
  split at h
  · cases h
  dsimp only at h
  by_cases hwork : 0 < unfinishedTasks snapshot id ∨ 0 < reservationCount snapshot id
  · rw [if_pos hwork] at h
    cases h
  · rw [if_neg hwork] at h
    cases h
    refine ⟨by omega, by omega, fun k => rfl, rfl, fun k a hk ha => ?_⟩
    rwa [Table.get?_modify_of_ne _ hk] at ha

/-- The archived account is locked, so no transaction has taken it. -/
theorem Safe.commit {db' : Database} (h : s.Safe) (hx : s.archiver i = some x)
    (hlocked : x.locked = true)
    (harchive : archiveAccount x.now x.accountID x.snapshot s.gateway.db = .ok db') :
    Safe ⟨{ s.gateway with db := db' }, s.archivers.set i none⟩ := by
  have hmem := mem_of_archiver hx
  obtain ⟨htasks, hholds, hcells, hreservations, haccounts⟩ := archiveAccount_ok harchive
  have hidle := h.idle x hmem hlocked (by simp [Archiver.countsNone, htasks, hholds])
  have hcount (id : UUID) : reservationCount db' id = reservationCount s.gateway.db id := by
    rw [reservationCount, hreservations, reservationCount]
  refine ⟨⟨⟨fun k => ?_, fun id a ha harchived => ?_⟩, ?_, h.gateway.exclusive.congr rfl⟩, ?_, ?_⟩
  · rw [hcells]
    exact h.gateway.rows.accounted k
  · rw [hcount]
    by_cases hid : id = x.accountID
    · rw [hid]
      exact hidle
    · exact h.gateway.rows.archived id a (haccounts id a hid ha) harchived
  · intro j th hth
    have hold : s.gateway.thread j = some th := (Machine.thread_congr rfl j).trans hth
    obtain ⟨ph, y, hsound, hobeys, hfacts⟩ := h.gateway.threads j th hold
    refine ⟨ph, y, hsound, hobeys, fun id hid => ?_⟩
    obtain ⟨hlock, hopen⟩ := hfacts id hid
    refine ⟨hlock, fun a ha => hopen a (haccounts id a ?_ ha)⟩
    rintro rfl
    have hl : .account x.accountID ∈ s.gateway.locks := Machine.mem_locks.mpr ⟨j, th, hold, hlock⟩
    exact h.apart hl (mem_locked.mpr ⟨x, hmem, hlocked, rfl⟩)
  · intro l hl hl'
    obtain ⟨y, hy, hylocked, rfl⟩ := mem_locked.mp hl'
    rcases List.mem_or_eq_of_mem_set hy with hold | hnew
    · exact h.apart hl (mem_locked.mpr ⟨y, hold, hylocked, rfl⟩)
    · cases hnew
  · intro y hy hylocked hcounts
    rcases List.mem_or_eq_of_mem_set hy with hold | hnew
    · exact (hcount _).trans (h.idle y hold hylocked hcounts)
    · cases hnew

/-- One step keeps the invariant. -/
theorem Safe.step {a : ArchivingAct} (h : s.Safe) (hcond : s.stillIdle a = true)
    (hstep : s.step a = some s') : s'.Safe := by
  cases a with
  | gateway a =>
    obtain ⟨m, hm, hstep⟩ := Option.bind_eq_some_iff.mp hstep
    split_ifs at hstep with hwait
    cases hstep
    exact h.gatewayStep hm (by simpa using hwait)
  | select now accountID =>
    cases hstep
    refine h.archivers fun x hx => ?_
    rcases List.mem_append.mp hx with hold | hnew
    · exact .inl hold
    · cases List.mem_singleton.mp hnew
      exact .inr rfl
  | lock i =>
    obtain ⟨x, hx, hstep⟩ := Option.bind_eq_some_iff.mp hstep
    split_ifs at hstep with hwait
    cases hstep
    rw [not_or] at hwait
    have hfree : .account x.accountID ∉ s.gateway.locks := by
      intro hl
      exact hwait.1 (List.contains_iff_mem.mpr (List.mem_append_left _ hl))
    refine h.lock hfree fun hcounts => ?_
    simpa [stillIdle, hx, hcounts] using hcond
  | commit i =>
    obtain ⟨x, hx, hstep⟩ := Option.bind_eq_some_iff.mp hstep
    split_ifs at hstep with hlocked
    split at hstep
    · next db harchive =>
      cases hstep
      exact h.commit hx hlocked harchive
    · cases hstep
  | rollback i =>
    obtain ⟨x, hx, hstep⟩ := Option.bind_eq_some_iff.mp hstep
    cases hstep
    refine h.archivers fun y hy => ?_
    rcases List.mem_or_eq_of_mem_set hy with hold | hnew
    · exact .inl hold
    · cases hnew

end ArchivingMachine

/-- A task that has not ended is held on its account. -/
theorem Database.Clear.archivedIdle {db : Database} (h : db.Clear) : db.ArchivedIdle := by
  intro a ha harchived
  have hzero := h.archived a.id a (Table.get?_of_mem ha) harchived
  refine ⟨hzero, fun t ht hacc => ?_⟩
  cases hterminal : t.status.terminal with
  | true => rfl
  | false =>
    have htask : (db.cell t.id).task = some t := Table.get?_of_mem ht
    obtain ⟨r, hr, hheld, -⟩ := (h.accounted t.id).held htask hterminal
    obtain ⟨t', ht', hacc', -⟩ := Database.identity_of_get? hr
    obtain rfl : t = t' := Option.some.inj (htask.symm.trans ht')
    have hholder : r.accountID = a.id := Option.some.inj (hacc'.symm.trans hacc)
    have hholds : r.holds a.id = true := by simp [Reservation.holds, Reservation.held, hheld, hholder]
    have hnone := List.countP_eq_zero.mp hzero r (Table.mem_of_get? hr)
    exact absurd hholds hnone

/-- No transaction has begun. -/
def ArchivingMachine.initial (accounts : Table Account) (apiKeys : Table APIKey)
    (costRules : Table CostRule) (capacity : SystemCapacityConfig) : ArchivingMachine :=
  ⟨.initial accounts apiKeys costRules capacity, []⟩

/-- In a run in which every archiver locks its account as idle as it counted it, no
archived account ever has work. -/
theorem archived_idle {accounts : Table Account} {apiKeys : Table APIKey}
    {costRules : Table CostRule} {capacity : SystemCapacityConfig} {s : ArchivingMachine}
    (h : (archiving.restrict fun s a => s.stillIdle a = true).Reachable
      (.initial accounts apiKeys costRules capacity) s) : s.gateway.db.ArchivedIdle := by
  have hsafe : s.Safe := by
    refine h.invariant (I := ArchivingMachine.Safe) ?_ ?_
    · rintro s₁ a s₂ ⟨hstep, hcond⟩ hs
      exact hs.step hcond hstep
    · refine ⟨Machine.relies_initial ⟨fun k => rfl, fun id a _ _ => rfl⟩, ?_, ?_⟩
      · exact List.disjoint_nil_left _
      · intro x hx
        cases hx
  exact hsafe.gateway.rows.archivedIdle

/-- The small account is archived, then an admission finds no account. -/
def archivedBefore : List ArchivingAct :=
  [.select 0 1, .lock 0, .commit 0, .gateway (beginAdmission 1 (smallRequest 20 .image 5))] ++
    (statements 0 16).map .gateway ++ [.gateway (.abort 0)]

def smallArchiving : ArchivingMachine := ⟨smallMachine smallAccounts, []⟩

theorem archived_idle_archivedBefore :
    ∃ s : ArchivingMachine, s.gateway.db.accounts.rows.map Account.archivedAt = [some 0] ∧
      s.gateway.db.ArchivedIdle := by
  have hrun : (LTS.follow ArchivingMachine.step ArchivingMachine.stillIdle smallArchiving
      archivedBefore).map (fun s => s.gateway.db.accounts.rows.map Account.archivedAt) =
        some [some 0] := by
    decide +kernel
  obtain ⟨s, hs, harchived⟩ := Option.map_eq_some_iff.mp hrun
  exact ⟨s, harchived, archived_idle ⟨archivedBefore, LTS.run_of_follow hs⟩⟩

/-- The archiver takes its snapshot while an admission holds the account, and gets the
row once the admission has committed. -/
def archivedMeanwhile : List ArchivingAct :=
  [.gateway (beginAdmission 0 (smallRequest 20 .image 5))] ++ (statements 0 16).map .gateway ++
    [.select 1 1, .gateway (.commit 0), .lock 0, .commit 0]

/-- A queued task with a hold is left on an archived account. -/
theorem archivedMeanwhile_inUse :
    ¬ ∀ s, archiving.Reachable smallArchiving s → s.gateway.db.ArchivedIdle := by
  intro h
  have hrun : (LTS.follow ArchivingMachine.step (fun _ _ => true) smallArchiving
      archivedMeanwhile).map (fun s => decide s.gateway.db.ArchivedIdle) = some false := by
    decide +kernel
  obtain ⟨s, hs, hinUse⟩ := Option.map_eq_some_iff.mp hrun
  exact of_decide_eq_false hinUse (h s ⟨archivedMeanwhile, (LTS.run_of_follow hs).of_restrict⟩)

end GenerationGateway
