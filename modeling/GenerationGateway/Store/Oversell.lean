import GenerationGateway.Store.Accounts
import GenerationGateway.Store.Interleaving

/-!
# Holds against credits

An admission compares the account with its numbers in statements of their own, after
it has locked the row. A reroute compares and locks in one statement, so it may take
an account whose room went to an admission that committed in between. Where the
account taken has room by the committed rows, no account is ever oversold.
-/

namespace GenerationGateway

open Relational Effects Transitions

/-- The holds of every account fit its credits, and their number its places. -/
def Database.NotOversold (db : Database) : Prop :=
  ∀ a ∈ db.accounts.rows, (heldTokens db a.id : ℤ) ≤ a.balance ∧
    reservationCount db a.id ≤ a.imageConcurrency + a.queueCapacity

instance (db : Database) : Decidable db.NotOversold :=
  inferInstanceAs (Decidable (∀ a ∈ db.accounts.rows, _))

/-- The account can take one more hold of this size. -/
def Database.hasRoom (db : Database) (id : UUID) (estimatedTokens : ℕ) : Bool :=
  (db.accounts.get? id).all fun a =>
    decide ((heldTokens db id : ℤ) + estimatedTokens ≤ a.balance) &&
      decide (reservationCount db id < a.imageConcurrency + a.queueCapacity)

theorem Database.hasRoom_iff {db : Database} {id : UUID} {estimatedTokens : ℕ} :
    db.hasRoom id estimatedTokens = true ↔ ∀ a, db.accounts.get? id = some a →
      (heldTokens db id : ℤ) + estimatedTokens ≤ a.balance ∧
        reservationCount db id < a.imageConcurrency + a.queueCapacity := by
  simp [hasRoom, Option.all_eq_true]

/-- The account that the pending query of a reroute returns has room by the committed
rows. -/
def Thread.targetHasRoom (db : Database) (locked : List UUID) (th : Thread) : Bool :=
  match th.pending, th.snapshot, th.view db with
  | some (.chooseTarget q old), some snapshot, some view =>
    (q.target old { th.env with lockedAccounts := locked } snapshot view).all fun id =>
      db.hasRoom id q.estimatedTokens
  | _, _, _ => true

def Machine.targetHasRoom (m : Machine) : Act → Bool
  | .answer i skip => (m.thread i).all (Thread.targetHasRoom m.db (m.locked i skip))
  | _ => true

/-- What a reroute or an admission relies on until it commits: the locked account
keeps the room that was found there. -/
def RoomFacts (db : Database) (locks : List Lock) : Phase → Prop
  | .target _ q accountID | .moved _ q accountID | .reloaded _ q accountID _
  | .movedLeased _ q accountID | .inserting q accountID | .admitted q accountID =>
    .account accountID ∈ locks ∧ db.hasRoom accountID q.estimatedTokens = true
  | .candidate _ accountID => .account accountID ∈ locks
  | .counted _ accountID reserved held => .account accountID ∈ locks ∧
    reservationCount db accountID ≤ reserved ∧ heldTokens db accountID ≤ held
  | .limited q accountID reserved held limits => .account accountID ∈ locks ∧
    (limits.admits q.kind q.estimatedTokens reserved held = true →
      db.hasRoom accountID q.estimatedTokens = true)
  | _ => True

/-- The hold that a commit in the phase adds to an account. -/
def Phase.reserves : Phase → Option (UUID × ℕ)
  | .moved _ q accountID | .reloaded _ q accountID _ | .movedLeased _ q accountID
  | .admitted q accountID => some (accountID, q.estimatedTokens)
  | _ => none

/-- What a new hold adds to an aggregate over the account's holds. -/
def added (account : UUID) (g : ℕ → ℕ) (hold : Option (UUID × ℕ)) : ℕ :=
  hold.elim 0 fun s => if s.1 = account then g s.2 else 0

theorem stakeShare_hold (account : UUID) (g : ℕ → ℕ) (t : Option Task)
    (stake : Option (UUID × ℕ)) : stakeShare account (fun _ => g) t stake = added account g stake := by
  cases stake <;> rfl

/-- The writes of a phase add one hold at most. -/
theorem Phase.Wrote.hold_le {ph : Phase} {db v : Database} {id : UUID}
    (hw : ph.Wrote (db.cell id) (v.cell id)) (hknown : ph.Known) (account : UUID) (g : ℕ → ℕ) :
    (v.cell id).share account (fun _ => g) ≤
      (db.cell id).share account (fun _ => g) + added account g ph.reserves := by
  rw [Cell.share_eq, Cell.share_eq, stakeShare_hold, stakeShare_hold]
  have hmoved {task : Task} {q : RoutingQuery} {target : UUID}
      (ht : (db.cell id).task = some task) (hest : q.estimatedTokens = task.estimatedTokens)
      (hstake : (v.cell id).stake = (db.cell id).stake.map fun s => (target, s.2)) :
      added account g (v.cell id).stake ≤
        added account g (db.cell id).stake + added account g (some (target, q.estimatedTokens)) := by
    rw [hstake]
    cases hs : (db.cell id).stake with
    | none => exact Nat.zero_le _
    | some s =>
      obtain ⟨t, ht', -, hest'⟩ := Database.stake_identity hs
      obtain rfl : task = t := Option.some.inj (ht.symm.trans ht')
      rw [hest, hest']
      exact Nat.le_add_left _ _
  cases ph with
  | start | candidate | counted | limited =>
    rw [Cell.Alike.stake hw]
    exact Nat.le_add_right _ _
  | locked | estimated | loaded | target =>
    rw [hw.1.stake]
    exact Nat.le_add_right _ _
  | moved task q accountID => exact hmoved hw.1 hknown hw.2.2.2
  | reloaded task q accountID state => exact hmoved hw.1 hknown hw.2.2.2
  | movedLeased task q accountID => exact hmoved hw.1 hknown hw.2
  | failing task =>
    obtain ⟨-, -, -, hstake | hstake⟩ := hw
    · rw [hstake]
      exact Nat.le_add_right _ _
    · rw [hstake]
      exact Nat.zero_le _
  | resumed | leased =>
    rw [hw.2]
    exact Nat.le_add_right _ _
  | inserting q accountID =>
    rw [hw.2.1]
    exact Nat.le_add_right _ _
  | admitted q accountID =>
    rw [hw.2.2.1]
    exact Nat.le_add_left _ _

section Thread

variable {th : Thread} {ph : Phase} {db v : Database}

theorem Thread.Sound.share_le (hth : th.Sound ph) (hview : th.view db = some v) (account : UUID)
    (g : ℕ → ℕ) : v.share account (fun _ => g) ≤
      db.share account (fun _ => g) + added account g ph.reserves := by
  have hmove : v.share account (fun _ => g) +
      (db.cell th.job.taskID).share account (fun _ => g) =
      db.share account (fun _ => g) + (v.cell th.job.taskID).share account (fun _ => g) := by
    apply share_add_share
    intro k hk
    exact ((hth.frame db v hview).others k hk).share _ _
  have hown := (hth.wrote db v hview).hold_le hth.known account g
  omega

theorem Thread.Sound.held_le (hth : th.Sound ph) (hview : th.view db = some v) (account : UUID) :
    heldTokens v account ≤ heldTokens db account + added account (fun e => e) ph.reserves ∧
      reservationCount v account ≤
        reservationCount db account + added account (fun _ => 1) ph.reserves := by
  rw [heldTokens_eq, heldTokens_eq, reservationCount_eq, reservationCount_eq]
  exact ⟨hth.share_le hview account _, hth.share_le hview account _⟩

/-- A transaction that has only read sees the holds as they are. -/
theorem Thread.Sound.held_view (hth : th.Sound ph) (hview : th.view db = some v)
    (halike : Cell.Alike (db.cell th.job.taskID) (v.cell th.job.taskID)) (account : UUID) :
    heldTokens v account = heldTokens db account ∧
      reservationCount v account = reservationCount db account := by
  have hsame (k : UUID) : Cell.Alike (db.cell k) (v.cell k) := by
    by_cases hk : k = th.job.taskID
    · rw [hk]
      exact halike
    · exact (hth.frame db v hview).others k hk
  rw [heldTokens_eq, heldTokens_eq, reservationCount_eq, reservationCount_eq]
  exact ⟨share_congr fun k => (hsame k).share _ _, share_congr fun k => (hsame k).share _ _⟩

end Thread

/-- No account in `locks` gains a hold or loses room. -/
def Database.KeepsRoom (db v : Database) (locks : List Lock) : Prop :=
  ∀ id, .account id ∈ locks → heldTokens v id ≤ heldTokens db id ∧
    reservationCount v id ≤ reservationCount db id ∧
    ∀ a', v.accounts.get? id = some a' → ∃ a, db.accounts.get? id = some a ∧ db.Eases v id a a'

theorem Database.KeepsRoom.hasRoom {db v : Database} {locks : List Lock} {id : UUID}
    {estimatedTokens : ℕ} (h : db.KeepsRoom v locks) (hid : .account id ∈ locks)
    (hroom : db.hasRoom id estimatedTokens = true) : v.hasRoom id estimatedTokens = true := by
  obtain ⟨hheld, hcount, haccounts⟩ := h id hid
  rw [Database.hasRoom_iff] at hroom ⊢
  intro a' ha'
  obtain ⟨a, ha, heases⟩ := haccounts a' ha'
  obtain ⟨hcredits, hplaces⟩ := hroom a ha
  have heased := heases.credits
  rw [heases.imageConcurrency, heases.queueCapacity]
  constructor <;> omega

theorem RoomFacts.mono_rows {db v : Database} {locks : List Lock} {ph : Phase}
    (h : RoomFacts db locks ph) (hkeeps : db.KeepsRoom v locks) : RoomFacts v locks ph := by
  cases ph with
  | target task q accountID => exact ⟨h.1, hkeeps.hasRoom h.1 h.2⟩
  | moved task q accountID => exact ⟨h.1, hkeeps.hasRoom h.1 h.2⟩
  | reloaded task q accountID state => exact ⟨h.1, hkeeps.hasRoom h.1 h.2⟩
  | movedLeased task q accountID => exact ⟨h.1, hkeeps.hasRoom h.1 h.2⟩
  | inserting q accountID => exact ⟨h.1, hkeeps.hasRoom h.1 h.2⟩
  | admitted q accountID => exact ⟨h.1, hkeeps.hasRoom h.1 h.2⟩
  | counted q accountID reserved held =>
    obtain ⟨hheld, hcount, -⟩ := hkeeps accountID h.1
    exact ⟨h.1, hcount.trans h.2.1, hheld.trans h.2.2⟩
  | limited q accountID reserved held limits =>
    exact ⟨h.1, fun hadmits => hkeeps.hasRoom h.1 (h.2 hadmits)⟩
  | _ => exact h

/-- The check under the lock finds room, if the numbers are no older than the lock. -/
theorem Database.hasRoom_of_admits {db : Database} {id : UUID} {limits : AccountLimits}
    {kind : Kind} {estimatedTokens reserved held : ℕ}
    (hlimits : (db.accounts.get? id).map Account.limits = some limits) (hreserved : reservationCount db id ≤ reserved)
    (hheld : heldTokens db id ≤ held)
    (hadmits : limits.admits kind estimatedTokens reserved held = true) :
    db.hasRoom id estimatedTokens = true := by
  rw [Database.hasRoom_iff]
  intro a ha
  rw [ha, Option.map_some, Option.some.injEq] at hlimits
  have hbalance : limits.balance = a.balance := by rw [← hlimits]; rfl
  have hconcurrency : limits.concurrency = a.imageConcurrency := by rw [← hlimits]; rfl
  have hqueue : limits.queueCapacity = a.queueCapacity := by rw [← hlimits]; rfl
  simp only [AccountLimits.admits, Bool.and_eq_true, decide_eq_true_eq] at hadmits
  obtain ⟨hcapacity, hspendable⟩ := hadmits
  split_ifs at hcapacity hspendable <;> constructor <;> omega

/-- The invariant of the committed rows. -/
def Database.Covered (db : Database) : Prop :=
  ∀ id a, db.accounts.get? id = some a → (heldTokens db id : ℤ) ≤ a.balance ∧
    reservationCount db id ≤ a.imageConcurrency + a.queueCapacity

theorem RoomFacts.mono_locks {db : Database} {locks locks' : List Lock} {ph : Phase}
    (hsub : locks ⊆ locks') (h : RoomFacts db locks ph) : RoomFacts db locks' ph := by
  cases ph with
  | candidate => exact hsub h
  | target | moved | reloaded | movedLeased | inserting | admitted | counted | limited =>
    exact ⟨hsub h.1, h.2⟩
  | _ => trivial

/-- Reroutes and admissions rely on their room. -/
theorem room_reliable :
    Reliance .idle (fun m a => m.targetHasRoom a = true) (fun db _ => db.Covered)
      fun _ db locks _ ph _ => RoomFacts db locks ph where
  start _ := trivial
  refused hrows _ _ _ _ := hrows
  answered {m i skip th ph x op k snapshot view r} hcond hrows hth hrest hsound hfacts hallows _
      hanswers := by
    by_cases hneutral : op.neutral = true
    · rw [Statement.next_of_neutral hneutral]
      refine hfacts.mono_locks ?_
      rw [Thread.locks_advance (by rintro rfl; cases hneutral)]
      exact List.subset_append_right _ _
    have hold {l : Lock} (hop : op ≠ .rollbackToSavepoint) (h : l ∈ th.locks) :
        l ∈ (th.advance op k r).locks := by
      rw [Thread.locks_advance hop]
      exact List.mem_append_right _ h
    have hnew {l : Lock} (hop : op ≠ .rollbackToSavepoint) (h : l ∈ op.takes r) :
        l ∈ (th.advance op k r).locks := by
      rw [Thread.locks_advance hop]
      exact List.mem_append_left _ h
    cases op with
    | lockTask id =>
      obtain ⟨rfl, -⟩ := hallows
      cases r <;> trivial
    | readEstimatedTokens id =>
      obtain ⟨task, rfl, -⟩ := hallows
      trivial
    | loadClaimAccount accountID lock =>
      obtain ⟨task, estimatedTokens, rfl, -⟩ | ⟨task, q, rfl, rfl⟩ := hallows
      · cases lock <;> trivial
      · exact ⟨hold nofun hfacts.1, hfacts.2⟩
    | chooseTarget q old =>
      obtain ⟨task, rfl, -⟩ := hallows
      cases r with
      | none => trivial
      | some target =>
        refine ⟨hnew nofun (List.mem_singleton_self (Lock.account target)), ?_⟩
        have hsnapshot := hanswers.snapshot_of_waits rfl
        have hroom : m.targetHasRoom (.answer i skip) = true := hcond
        simp only [Machine.targetHasRoom, hth, Option.all_some, Thread.targetHasRoom,
          Thread.pending, hrest, hsnapshot, hanswers.viewed,
          ← chooseTarget_answers hanswers] at hroom
        exact hroom
    | moveReservation id target =>
      obtain ⟨task, q, rfl, -⟩ := hallows
      exact ⟨hold nofun hfacts.1, hfacts.2⟩
    | failUnpriced id =>
      obtain ⟨task, estimatedTokens, rfl, -⟩ := hallows
      trivial
    | releaseUnpriced id =>
      obtain ⟨task, rfl, -⟩ := hallows
      trivial
    | claimLease id leaseID expiresAt =>
      obtain ⟨task, rfl, -⟩ | ⟨task, accountID, state, rfl, -⟩ |
        ⟨task, q, accountID, state, rfl, -⟩ := hallows
      · trivial
      · trivial
      · exact ⟨hold nofun hfacts.1, hfacts.2⟩
    | chooseCandidate q excluded skipLocked =>
      obtain rfl := hallows
      cases r with
      | none => trivial
      | some accountID => exact hnew nofun (List.mem_singleton_self (Lock.account accountID))
    | reservedUsage accountID =>
      obtain ⟨q, rfl⟩ := hallows
      obtain rfl := hanswers.snapshot_eq rfl
      obtain rfl := reservedUsage_answers hanswers
      obtain ⟨hheld, hcount⟩ := hsound.held_view hanswers.viewed
        (hsound.wrote _ _ hanswers.viewed) accountID
      exact ⟨hold nofun hfacts, hcount.ge, hheld.ge⟩
    | accountLimits accountID =>
      obtain ⟨q, reserved, held, rfl⟩ := hallows
      obtain rfl := hanswers.snapshot_eq rfl
      have hlimits := accountLimits_answers hanswers
      rw [(hsound.frame _ _ hanswers.viewed).accounts] at hlimits
      refine ⟨hold nofun hfacts.1, fun hadmits => ?_⟩
      exact Database.hasRoom_of_admits hlimits hfacts.2.1 hfacts.2.2 hadmits
    | savepoint =>
      obtain rfl := hallows
      trivial
    | rollbackToSavepoint => trivial
    | insertTask row =>
      obtain ⟨q, accountID, reserved, held, limits, rfl, hadmits, -⟩ := hallows
      exact ⟨hold nofun hfacts.1, hfacts.2 hadmits⟩
    | insertReservation r =>
      obtain ⟨q, accountID, rfl, -⟩ := hallows
      exact ⟨hold nofun hfacts.1, hfacts.2⟩
    | _ => exact absurd rfl hneutral
  committed {db v replies th ph x r} hrows hsound hfacts _ hview hlives := by
    have haccounts := (hsound.frame db v hview).accounts
    have hreserved {id : UUID} {estimate : ℕ} (h : ph.reserves = some (id, estimate)) :
        .account id ∈ th.locks ∧ db.hasRoom id estimate = true := by
      cases ph with
      | moved | reloaded | movedLeased | admitted =>
        cases h
        exact hfacts
      | _ => cases h
    constructor
    · intro id a ha
      rw [haccounts] at ha
      obtain ⟨hheld, hcount⟩ := hsound.held_le hview id
      obtain ⟨hcredits, hplaces⟩ := hrows id a ha
      cases hres : ph.reserves with
      | none =>
        rw [hres] at hheld hcount
        simp only [added, Option.elim_none] at hheld hcount
        constructor <;> omega
      | some s =>
        obtain ⟨holder, estimate⟩ := s
        rw [hres] at hheld hcount
        simp only [added, Option.elim_some] at hheld hcount
        split_ifs at hheld hcount with hid
        · subst hid
          obtain ⟨hroom, hplace⟩ := Database.hasRoom_iff.mp (hreserved hres).2 a ha
          constructor <;> omega
        · constructor <;> omega
    · intro job locks saved ph' x' hdisjoint hfacts'
      refine hfacts'.mono_rows fun id hlocked => ?_
      obtain ⟨hheld, hcount⟩ := hsound.held_le hview id
      have hnone (g : ℕ → ℕ) : added id g ph.reserves = 0 := by
        cases hres : ph.reserves with
        | none => rfl
        | some s =>
          refine if_neg ?_
          rintro rfl
          have hreserves : ph.reserves = some (s.1, s.2) := hres
          exact hdisjoint (hreserved hreserves).1 hlocked
      rw [hnone] at hheld hcount
      refine ⟨hheld, hcount, fun a' ha' => ⟨a', ?_, .of_terms rfl hheld⟩⟩
      rw [← ha', haccounts]
  atomic {env op db db' replies} hatomic hrows hcommits := by
    have hsession : op.call.session = false := op.session_of_atomic hatomic
    have haccounts := (hcommits.eases hatomic).2.2
    constructor
    · intro id a' ha'
      obtain ⟨a, ha, heases⟩ := haccounts id a' ha'
      obtain ⟨hcredits, hplaces⟩ := hrows id a ha
      have hcredit := heases.credits
      have hcount := (hcommits.lives.share_le hsession id).2
      rw [heases.imageConcurrency, heases.queueCapacity]
      constructor <;> omega
    · intro job locks saved ph x hfacts
      refine hfacts.mono_rows fun id _ => ?_
      obtain ⟨hheld, hcount⟩ := hcommits.lives.share_le hsession id
      exact ⟨hheld, hcount, haccounts id⟩

/-- In a run in which every reroute takes an account with room by the committed rows,
no account is ever oversold. -/
theorem not_oversold {accounts : Table Account} {apiKeys : Table APIKey}
    {costRules : Table CostRule} {capacity : SystemCapacityConfig} {m : Machine}
    (hbalance : ∀ a ∈ accounts.rows, 0 ≤ a.balance)
    (h : (readCommitted.restrict fun m a => m.targetHasRoom a = true).Reachable
      (.initial accounts apiKeys costRules capacity) m) : m.db.NotOversold := by
  have hcovered : m.db.Covered := by
    refine room_reliable.reachable ?_ h
    intro id a ha
    exact ⟨hbalance a (Table.mem_of_get? ha), Nat.zero_le _⟩
  intro a ha
  exact hcovered a.id a (Table.get?_of_mem ha)

/-- The small account with 10 credits under another id and expiry of its session. -/
def scarceAccount (id : UUID) (accessTokenExpiresAt : Time) : Account :=
  { smallAccount with
    id := id
    accessTokenExpiresAt := some accessTokenExpiresAt
    subscriptionTokens := 10 }

/-- The session of the first account is over when the claims come. -/
def scarceAccounts : Table Account :=
  ⟨[scarceAccount 1 1, scarceAccount 2 (hours 1)], by decide⟩

/-- A queued task is rerouted by its claim. -/
def oneReroute : List Act :=
  admitAlone 0 0 (smallRequest 20 .image 6) ++ beginClaim 2 20 900 :: statements 1 21 ++
    [.commit 1]

theorem not_oversold_oneReroute :
    ∃ m : Machine, heldTokens m.db 2 = 6 ∧ m.db.NotOversold := by
  have hrun : ((smallMachine scarceAccounts).runWhile Machine.targetHasRoom oneReroute).map
      (fun m => heldTokens m.db 2) = some 6 := by
    decide +kernel
  obtain ⟨m, hm, hheld⟩ := Option.map_eq_some_iff.mp hrun
  exact ⟨m, hheld, not_oversold (by decide) ⟨oneReroute, readCommitted_runWhile hm⟩⟩

/-- An admission commits between the snapshot of the reroute's query and its lock. -/
def rerouteBesideAdmission : List Act :=
  admitAlone 0 0 (smallRequest 20 .image 6) ++ beginClaim 2 20 900 :: statements 1 8 ++
    [.send 1] ++ admitAlone 2 2 (smallRequest 21 .image 6) ++ [.answer 1 []] ++ statements 1 5 ++
    [.commit 1]

/-- Twelve credits are held on an account that has ten. -/
theorem rerouteBesideAdmission_oversold :
    ¬ ∀ m, readCommitted.Reachable (smallMachine scarceAccounts) m → m.db.NotOversold := by
  intro h
  have hrun : ((smallMachine scarceAccounts).run rerouteBesideAdmission).map
      (fun m => decide m.db.NotOversold) = some false := by
    decide +kernel
  obtain ⟨m, hm, hoversold⟩ := Option.map_eq_some_iff.mp hrun
  exact of_decide_eq_false hoversold (h m ⟨rerouteBesideAdmission, readCommitted_run hm⟩)

end GenerationGateway
