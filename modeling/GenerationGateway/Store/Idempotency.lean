import GenerationGateway.Store.Accounts
import GenerationGateway.Store.Admitted
import GenerationGateway.Store.Headcount
import GenerationGateway.Store.Interleaving

/-!
# Idempotent admission

An admission with an idempotency key looks for the key's task under an advisory
lock that it holds until it ends, so what it has found stays true: no other
admission with the key can commit in between. A retried attempt is a new
transaction of the same request.
-/

namespace GenerationGateway

open Relational Effects Transitions

/-- The task was admitted for this API key under this idempotency key. -/
def Task.hasPair (keyID : UUID) (idempotencyKey : String) (t : Task) : Bool :=
  decide (t.apiKeyID = some keyID) && decide (t.idempotencyKey = some idempotencyKey)

/-- The check that a handler makes before it takes the daily quota. -/
def getIdempotentTaskWithHashRequest (sha256 : String → String) (req : AdmissionRequest) :
    Tx Task := answer fun db =>
  match (db.tasks.select (Task.hasPair req.keyID req.idempotencyKey)).head? with
  | none => .error .notFound
  | some task =>
    if task.requestHash ≠ req.hash sha256 then .error .idempotencyKeyReused else .ok task

def AdmissionRequest.lockName (req : AdmissionRequest) : String :=
  toString req.keyID ++ ":" ++ req.idempotencyKey

/-- How far an admission is with the lookup of its idempotency key; `saved` after the
savepoint of the candidate loop. -/
inductive Lookup
  | unlocked
  | locked
  | absent (saved : Bool)
  | found (task : Task)

namespace Lookup

/-- Nothing precedes the lookup, and a refusal depends on what it found. -/
def allows (sha256 : String → String) (req : AdmissionRequest) (x : Lookup) : Statement → Prop
  | .advisoryLock name => x = unlocked ∧ name = req.lockName
  | .findIdempotent keyID idempotencyKey =>
    x = locked ∧ keyID = req.keyID ∧ idempotencyKey = req.idempotencyKey
  | .raise e => (∃ saved, x = absent saved) ∨
    ∃ task, x = found task ∧ task.requestHash ≠ req.hash sha256 ∧ e = .idempotencyKeyReused
  | .rollbackToSavepoint => x = absent true
  | _ => ∃ saved, x = absent saved

def next (x : Lookup) : (op : Statement) → op.Res → Lookup
  | .advisoryLock _, _ => locked
  | .findIdempotent _ _, answer => (answer : Option Task).elim (absent false) found
  | .savepoint, _ => absent true
  | _, _ => x

/-- The endings of an admission with an idempotency key. -/
def ends (sha256 : String → String) (req : AdmissionRequest) (x : Lookup) :
    Ending (Task × Bool) → Prop
  | .commit (_, true) => ∃ saved, x = absent saved
  | .commit (task, false) => x = found task ∧ task.requestHash = req.hash sha256
  | .rollback _ => False

end Lookup

def lookupMonitor (sha256 : String → String) (req : AdmissionRequest) : Monitor sql Lookup :=
  ⟨Lookup.allows sha256 req, Lookup.next⟩

section Admission

variable {sha256 : String → String} {policy : SchedulingPolicy} {req : AdmissionRequest}

/-- The statements of an admission after the lookup. -/
def Statement.later : Statement → Bool
  | .advisoryLock _ | .findIdempotent _ _ | .rollbackToSavepoint | .savepoint => false
  | _ => true

theorem lookup_step {α : Type} {op : Statement} {f : op.Res → Session α} {x : Lookup}
    {Q : α → Lookup → Prop} (hop : x.allows sha256 req op)
    (hf : ∀ r, (f r).Obeys (lookupMonitor sha256 req) (x.next op r) Q) :
    (send op >>= f).Obeys (lookupMonitor sha256 req) x Q := ⟨hop, hf⟩

theorem lookup_send {α : Type} {op : Statement} {f : op.Res → Session α} {saved : Bool}
    {Q : α → Lookup → Prop} (hop : op.later = true)
    (hf : ∀ r, (f r).Obeys (lookupMonitor sha256 req) (.absent saved) Q) :
    (send op >>= f).Obeys (lookupMonitor sha256 req) (.absent saved) Q := by
  have hallows : Lookup.allows sha256 req (.absent saved) op := by
    cases op with
    | raise e => exact .inl ⟨saved, rfl⟩
    | advisoryLock name => cases hop
    | findIdempotent keyID idempotencyKey => cases hop
    | rollbackToSavepoint => cases hop
    | _ => exact ⟨saved, rfl⟩
  refine lookup_step hallows fun r => ?_
  have hnext : Lookup.next (.absent saved) op r = .absent saved := by
    cases op <;> first | rfl | cases hop
  exact (congrArg (fun x => (f r).Obeys (lookupMonitor sha256 req) x Q) hnext).mpr (hf r)

theorem lookup_fail {α : Type} (e : StoreError) {saved : Bool} {Q : α → Lookup → Prop} :
    (fail e : Session α).Obeys (lookupMonitor sha256 req) (.absent saved) Q :=
  ⟨.inl ⟨saved, rfl⟩, nofun⟩

theorem pollCandidate_lookup {saved : Bool} (q : RoutingQuery) (excluded : List UUID)
    (attempts : ℕ) : (pollCandidate q excluded attempts).Obeys (lookupMonitor sha256 req)
      (.absent saved) fun _ x => x = .absent saved := by
  induction attempts with
  | zero => exact rfl
  | succ attempts ih =>
    refine lookup_send rfl fun choice => ?_
    cases choice with
    | none => exact ih
    | some accountID => exact rfl

theorem nextCandidate_lookup {saved : Bool} (q : RoutingQuery) (excluded : List UUID) :
    (nextCandidate q excluded).Obeys (lookupMonitor sha256 req)
      (.absent saved) fun _ x => x = .absent saved := by
  refine Prog.Obeys.bind (pollCandidate_lookup q excluded 10) fun choice x hx => ?_
  cases hx
  cases choice with
  | none => exact ⟨⟨saved, rfl⟩, fun _ => rfl⟩
  | some accountID => exact rfl

theorem selectAccount_lookup {saved : Bool} (q : RoutingQuery) (attempts : ℕ)
    (excluded : List UUID) : (selectAccount q attempts excluded).Obeys (lookupMonitor sha256 req)
      (.absent saved) fun _ x => x = .absent true := by
  induction attempts generalizing excluded saved with
  | zero => exact lookup_fail _
  | succ attempts ih =>
    refine lookup_step ⟨saved, rfl⟩ fun _ => ?_
    have hnext : (nextCandidate q excluded).Obeys (lookupMonitor sha256 req) (.absent true)
        fun _ x => x = .absent true := nextCandidate_lookup q excluded
    refine Prog.Obeys.bind hnext fun choice x hx => ?_
    cases hx
    cases choice with
    | none => exact lookup_send rfl fun _ => rfl
    | some accountID =>
      refine lookup_send rfl fun usage => ?_
      obtain ⟨reservationCount, reserved⟩ := usage
      refine lookup_send rfl fun limits => ?_
      split
      · exact lookup_send rfl fun _ => rfl
      · exact lookup_step rfl fun _ => lookup_send rfl fun _ => ih _

theorem checkWatermarks_lookup {saved : Bool} (config : SystemCapacityConfig) (queued : ℕ) :
    (checkWatermarks config queued).Obeys (lookupMonitor sha256 req)
      (.absent saved) fun _ x => x = .absent saved := by
  unfold checkWatermarks
  split
  · exact lookup_send rfl fun _ => lookup_fail _
  split
  · exact lookup_send rfl fun _ => lookup_fail _
  · exact rfl

theorem lockLimits_lookup {saved : Bool} (keyID : UUID) :
    (lockLimits policy keyID).Obeys (lookupMonitor sha256 req)
      (.absent saved) fun _ x => x = .absent saved := by
  refine lookup_send rfl fun limit => lookup_send rfl fun nonTerminal => ?_
  split
  · exact lookup_fail _
  refine lookup_send rfl fun config => ?_
  split
  · exact lookup_fail _
  refine lookup_send rfl fun queued => ?_
  split
  · split
    · exact lookup_fail _
    · exact lookup_send rfl fun _ => checkWatermarks_lookup config queued
  · exact checkWatermarks_lookup config queued

theorem admitNew_lookup : (admitNew sha256 policy req).Obeys (lookupMonitor sha256 req)
    (.absent false) fun ending x => x.ends sha256 req ending := by
  refine lookup_send rfl fun uncertain => ?_
  split
  · exact lookup_fail _
  refine lookup_send rfl fun costRuleExists => ?_
  split
  · exact lookup_fail _
  refine Prog.Obeys.bind (selectAccount_lookup (req.query policy) _ _) fun choice x hx => ?_
  cases hx
  cases choice with
  | none =>
    refine lookup_send rfl fun diagnosis => ?_
    obtain ⟨healthy, enoughBalance⟩ := diagnosis
    dsimp only
    split
    · exact lookup_fail _
    split <;> exact lookup_fail _
  | some accountID =>
    refine Prog.Obeys.bind (lockLimits_lookup req.keyID) fun config x hx => ?_
    cases hx
    exact lookup_send rfl fun _ => lookup_send rfl fun _ => lookup_send rfl fun _ =>
      lookup_send rfl fun _ => lookup_send rfl fun _ => ⟨true, rfl⟩

theorem createReservedTaskForProviderOnce_lookup (hkey : req.idempotencyKey ≠ "") :
    (createReservedTaskForProviderOnce sha256 policy req).Obeys (lookupMonitor sha256 req)
      .unlocked fun ending x => x.ends sha256 req ending := by
  rw [createReservedTaskForProviderOnce, if_neg hkey]
  refine lookup_step ⟨rfl, rfl⟩ fun _ => lookup_step ⟨rfl, rfl, rfl⟩ fun existing => ?_
  cases existing with
  | none => exact admitNew_lookup
  | some task =>
    dsimp only
    split
    · next hhash => exact ⟨.inr ⟨task, rfl, hhash, rfl⟩, nofun⟩
    · next hhash => exact ⟨rfl, not_not.mp hhash⟩

end Admission

/-- The lookups of admissions with an idempotency key. -/
def Watch.lookup : Watch Lookup where
  monitor
    | .admission sha256 _ req =>
      if req.idempotencyKey = "" then ⟨fun _ _ => True, fun x _ _ => x⟩
      else lookupMonitor sha256 req
    | .claim _ _ _ _ => ⟨fun _ _ => True, fun x _ _ => x⟩
  start := .unlocked
  final
    | .admission sha256 _ req, ending, x => req.idempotencyKey ≠ "" →
      ∃ e, ending = Ending.map (fun r => Reply.admission r.1 r.2) e ∧ x.ends sha256 req e
    | .claim _ _ _ _, _, _ => True
  obeyed job := by
    have hidle {α : Type} (p : Session α) (x : Lookup) (Q : α → Lookup → Prop) (hQ : ∀ a x, Q a x) :
        p.Obeys ⟨fun _ _ => True, fun x _ _ => x⟩ x Q := by
      induction p with
      | ret a => exact hQ a x
      | call op k ih => exact ⟨trivial, ih⟩
    cases job with
    | claim policy id leaseID lease => exact hidle _ _ _ fun _ _ => trivial
    | admission sha256 policy req =>
      dsimp only
      split
      · next hempty => exact hidle _ _ _ fun _ _ hkey => absurd hempty hkey
      · next hkey =>
        refine Prog.Obeys.bind (createReservedTaskForProviderOnce_lookup hkey) ?_
        exact fun ending x hx _ => ⟨ending, rfl, hx⟩

/-! ### Pairs of tasks over an operation -/

theorem Task.hasPair_iff {keyID : UUID} {idempotencyKey : String} {t : Task} :
    t.hasPair keyID idempotencyKey = true ↔
      t.apiKeyID = some keyID ∧ t.idempotencyKey = some idempotencyKey := by
  simp [Task.hasPair]

theorem SameOrigin.hasPair {t t' : Task} (h : SameOrigin t t') (keyID : UUID)
    (idempotencyKey : String) : t'.hasPair keyID idempotencyKey = t.hasPair keyID idempotencyKey := by
  rw [Task.hasPair, h.apiKeyID, h.idempotencyKey, Task.hasPair]

/-- Two tasks of one pair are one task. -/
def Database.PairsUnique (db : Database) : Prop :=
  ∀ k k' t t' keyID idempotencyKey, db.tasks.get? k = some t → db.tasks.get? k' = some t' →
    t.hasPair keyID idempotencyKey = true → t'.hasPair keyID idempotencyKey = true → k = k'

theorem Database.PairsUnique.of_lives {now : Time} {call : Call} {db v : Database}
    (h : db.PairsUnique) (hlives : Lives now call db v) (hcall : call ≠ .admission) :
    v.PairsUnique := by
  intro k k' t t' keyID idempotencyKey ht ht' hpair hpair'
  obtain ⟨s, hs, horigin⟩ := hlives.old hcall ht
  obtain ⟨s', hs', horigin'⟩ := hlives.old hcall ht'
  rw [horigin.hasPair] at hpair
  rw [horigin'.hasPair] at hpair'
  exact h k k' s s' keyID idempotencyKey hs hs' hpair hpair'

section Inserts

variable {sha256 : String → String} {req : AdmissionRequest} {env : Env} {accountID : UUID}
variable {task : Task} {db v : Database}

theorem AdmissionRequest.Inserts.id (h : req.Inserts sha256 env accountID task db v) :
    task.id = req.id := by
  obtain ⟨deadline, rfl⟩ := h.row
  rfl

theorem AdmissionRequest.Inserts.requestHash (h : req.Inserts sha256 env accountID task db v) :
    task.requestHash = req.hash sha256 := by
  obtain ⟨deadline, rfl⟩ := h.row
  rfl

theorem AdmissionRequest.Inserts.hasPair (h : req.Inserts sha256 env accountID task db v)
    (hkey : req.idempotencyKey ≠ "") : task.hasPair req.keyID req.idempotencyKey = true := by
  obtain ⟨deadline, rfl⟩ := h.row
  refine Task.hasPair_iff.mpr ⟨rfl, ?_⟩
  exact if_neg hkey

/-- No older task has the pair of the new one. -/
theorem AdmissionRequest.Inserts.pair_fresh (h : req.Inserts sha256 env accountID task db v)
    {k keyID : UUID} {idempotencyKey : String} {t : Task} (ht : db.tasks.get? k = some t)
    (hpair : task.hasPair keyID idempotencyKey = true) :
    t.hasPair keyID idempotencyKey = false := by
  cases hsame : t.hasPair keyID idempotencyKey with
  | false => rfl
  | true =>
    obtain ⟨hkey, hidem⟩ := Task.hasPair_iff.mp hpair
    obtain ⟨hkey', hidem'⟩ := Task.hasPair_iff.mp hsame
    have hno := h.unique t (Table.mem_of_get? ht)
    simp [Task.sameIdempotency, hkey, hidem, hkey', hidem'] at hno

theorem AdmissionRequest.Inserts.get? (h : req.Inserts sha256 env accountID task db v) {k : UUID}
    {t : Task} (ht : v.tasks.get? k = some t) :
    k = req.id ∧ t = task ∨ db.tasks.get? k = some t := by
  by_cases hk : k = req.id
  · subst hk
    exact .inl ⟨rfl, Option.some.inj (ht.symm.trans h.task)⟩
  · exact .inr ((congrArg Cell.task (h.frame k hk)).symm.trans ht)

theorem AdmissionRequest.Inserts.pairsUnique (h : req.Inserts sha256 env accountID task db v)
    (hdb : db.PairsUnique) : v.PairsUnique := by
  intro k k' t t' keyID idempotencyKey ht ht' hpair hpair'
  rcases h.get? ht with ⟨rfl, rfl⟩ | hold
  · rcases h.get? ht' with ⟨rfl, rfl⟩ | hold'
    · rfl
    · exact absurd (h.pair_fresh hold' hpair) (by simp [hpair'])
  · rcases h.get? ht' with ⟨rfl, rfl⟩ | hold'
    · exact absurd (h.pair_fresh hold hpair') (by simp [hpair])
    · exact hdb k k' t t' keyID idempotencyKey hold hold' hpair hpair'

end Inserts

/-! ### The reliance on the advisory lock -/

/-- What an admission relies on after its lookup. -/
def Lookup.Holds (req : AdmissionRequest) (db : Database) (locks saved : List Lock) (ph : Phase) :
    Lookup → Prop
  | .unlocked => ph = .start
  | .locked => ph = .start ∧ .advisory req.lockName ∈ locks
  | .absent sp => .advisory req.lockName ∈ locks ∧ (sp = true → .advisory req.lockName ∈ saved) ∧
    ∀ k t, db.tasks.get? k = some t → t.hasPair req.keyID req.idempotencyKey = false
  | .found task => ∃ row, db.tasks.get? task.id = some row ∧
    row.hasPair req.keyID req.idempotencyKey = true ∧ row.requestHash = task.requestHash

def LookupFacts (job : Job) (db : Database) (locks saved : List Lock) (ph : Phase) (x : Lookup) :
    Prop :=
  match job with
  | .admission _ _ req => req.idempotencyKey ≠ "" → x.Holds req db locks saved ph
  | .claim _ _ _ _ => True

/-- The reply says that it created the task of the pair. -/
def createdReply (keyID : UUID) (idempotencyKey : String) : Job × Except StoreError Reply → Bool
  | (.admission _ _ req, .ok (.admission _ true)) =>
    decide (req.keyID = keyID) && decide (req.idempotencyKey = idempotencyKey)
  | _ => false

/-- The invariant of the committed rows and of the replies. -/
structure Idempotent (db : Database) (replies : Replies) : Prop where
  unique : db.PairsUnique
  named : ∀ sha256 policy req task created,
    (Job.admission sha256 policy req, .ok (.admission task created)) ∈ replies →
    req.idempotencyKey ≠ "" → ∃ row, db.tasks.get? task.id = some row ∧
      row.hasPair req.keyID req.idempotencyKey = true ∧ row.requestHash = req.hash sha256
  once : ∀ keyID idempotencyKey, idempotencyKey ≠ "" →
    replies.countP (createdReply keyID idempotencyKey) ≤ 1

theorem Lookup.Holds.mono_rows {req : AdmissionRequest} {db v : Database} {locks saved : List Lock}
    {ph : Phase} {x : Lookup} (h : x.Holds req db locks saved ph)
    (hkept : ∀ k t, db.tasks.get? k = some t → ∃ t', v.tasks.get? k = some t' ∧ SameOrigin t t')
    (hold : .advisory req.lockName ∈ locks → ∀ k t', v.tasks.get? k = some t' →
      t'.hasPair req.keyID req.idempotencyKey = true →
      ∃ t, db.tasks.get? k = some t ∧ SameOrigin t t') : x.Holds req v locks saved ph := by
  cases x with
  | unlocked => exact h
  | locked => exact h
  | absent sp =>
    obtain ⟨hlock, hsaved, hnone⟩ := h
    refine ⟨hlock, hsaved, fun k t' ht' => ?_⟩
    cases hpair : t'.hasPair req.keyID req.idempotencyKey with
    | false => rfl
    | true =>
      obtain ⟨t, ht, horigin⟩ := hold hlock k t' ht' hpair
      rw [horigin.hasPair, hnone k t ht] at hpair
      cases hpair
  | found task =>
    obtain ⟨row, hrow, hpair, hhash⟩ := h
    obtain ⟨row', hrow', horigin⟩ := hkept _ row hrow
    exact ⟨row', hrow', (horigin.hasPair _ _).trans hpair, horigin.requestHash.trans hhash⟩


/-- Before a transaction has locked its task it sees the committed tasks. -/
theorem Thread.Sound.tasks_of_start {th : Thread} {db v : Database} (h : th.Sound .start)
    (hview : th.view db = some v) (k : UUID) : v.tasks.get? k = db.tasks.get? k := by
  by_cases hk : k = th.job.taskID
  · subst hk
    have hwrote : Cell.Alike (db.cell th.job.taskID) (v.cell th.job.taskID) := h.wrote db v hview
    exact hwrote.task
  · exact ((h.frame db v hview).others k hk).task

theorem findIdempotent_answers {m : Machine} {i : ℕ} {skip : List UUID} {th : Thread}
    {snapshot view : Database} {keyID : UUID} {idempotencyKey : String} {found : Option Task}
    (h : m.Answers i skip th (.findIdempotent keyID idempotencyKey) snapshot view found) :
    found = (view.tasks.select (Task.hasPair keyID idempotencyKey)).head? := by
  obtain rfl := h.snapshot_eq rfl
  obtain ⟨w, hexec⟩ := h.executed
  have hanswer : answer (fun _ => .ok (snapshot.tasks.select
      (Task.hasPair keyID idempotencyKey)).head?) snapshot = .ok (found, w) := hexec
  exact (Except.ok.inj (answer_ok hanswer).1).symm

/-- The facts survive an answer that takes locks and looks nothing up. -/
theorem Lookup.Holds.mono_locks {req : AdmissionRequest} {db : Database}
    {locks locks' saved : List Lock} {ph ph' : Phase} {x : Lookup}
    (h : x.Holds req db locks saved ph) (hlocks : locks ⊆ locks') (hx : x ≠ .unlocked)
    (hx' : x ≠ .locked) : x.Holds req db locks' saved ph' := by
  cases x with
  | unlocked => exact absurd rfl hx
  | locked => exact absurd rfl hx'
  | absent sp =>
    obtain ⟨hlock, hsaved, hnone⟩ := h
    exact ⟨hlocks hlock, hsaved, hnone⟩
  | found task => exact h

/-- The facts after an answer. -/
theorem Lookup.Holds.answered {sha256 : String → String} {req : AdmissionRequest} {m : Machine}
    {i : ℕ} {skip : List UUID} {th : Thread} {ph : Phase} {x : Lookup} {op : Statement}
    {k : op.Res → Session (Ending Reply)} {snapshot view : Database} {r : op.Res}
    (hsound : th.Sound ph) (h : x.Holds req m.db th.locks th.saved ph)
    (hallows : x.allows sha256 req op) (hanswers : m.Answers i skip th op snapshot view r) :
    (x.next op r).Holds req m.db (th.advance op k r).locks (th.advance op k r).saved
      (ph.next op r) := by
  have hsub (hop : op ≠ .rollbackToSavepoint) : th.locks ⊆ (th.advance op k r).locks := by
    rw [Thread.locks_advance hop]
    exact List.subset_append_right _ _
  cases op with
  | raise e => exact Empty.elim r
  | advisoryLock name =>
    obtain ⟨rfl, rfl⟩ := hallows
    obtain rfl := h
    exact ⟨rfl, List.mem_append_left _ (List.mem_singleton_self _)⟩
  | findIdempotent keyID idempotencyKey =>
    obtain ⟨rfl, rfl, rfl⟩ := hallows
    obtain ⟨rfl, hlock⟩ := h
    have htasks := hsound.tasks_of_start hanswers.viewed
    have hfound := findIdempotent_answers hanswers
    cases r with
    | none =>
      refine ⟨hsub nofun hlock, fun hfalse => absurd hfalse Bool.false_ne_true, fun k t ht => ?_⟩
      have hnone := List.filter_eq_nil_iff.mp (List.head?_eq_none_iff.mp hfound.symm)
      have hmem := Table.mem_of_get? ((htasks k).trans ht)
      simpa using hnone t hmem
    | some task =>
      have hmem := List.mem_filter.mp (List.mem_of_mem_head? hfound.symm)
      exact ⟨task, (htasks task.id).symm.trans (Table.get?_of_mem hmem.1), hmem.2, rfl⟩
  | savepoint =>
    obtain ⟨sp, rfl⟩ := hallows
    obtain ⟨hlock, -, hnone⟩ := h
    exact ⟨hsub nofun hlock, fun _ => hlock, hnone⟩
  | rollbackToSavepoint =>
    obtain rfl := hallows
    obtain ⟨-, hsaved, hnone⟩ := h
    exact ⟨hsaved rfl, hsaved, hnone⟩
  | _ =>
    obtain ⟨sp, rfl⟩ := hallows
    exact h.mono_locks (hsub nofun) nofun nofun

section Commit

variable {th : Thread} {x : Lookup} {ph : Phase} {db v : Database} {r : Reply} {replies : Replies}

/-- A reply that created the task of a pair comes from an admission with that pair. -/
theorem createdReply_iff {keyID : UUID} {idempotencyKey : String} {job : Job}
    {reply : Except StoreError Reply} :
    createdReply keyID idempotencyKey (job, reply) = true ↔
      ∃ sha256 policy req task, job = .admission sha256 policy req ∧
        reply = .ok (.admission task true) ∧ req.keyID = keyID ∧
        req.idempotencyKey = idempotencyKey := by
  constructor
  · intro h
    unfold createdReply at h
    split at h
    · next sha256 policy req task heq =>
      cases heq
      obtain ⟨hkey, hidem⟩ := (Bool.and_eq_true _ _).mp h
      exact ⟨sha256, policy, req, task, rfl, rfl, of_decide_eq_true hkey, of_decide_eq_true hidem⟩
    · cases h
  · rintro ⟨sha256, policy, req, task, rfl, rfl, rfl, rfl⟩
    simp [createdReply]

/-- As long as the pair has no row, no reply has created it. -/
theorem Idempotent.none_created (h : Idempotent db replies) {keyID : UUID} {idempotencyKey : String}
    (hkey : idempotencyKey ≠ "")
    (hnone : ∀ k t, db.tasks.get? k = some t → t.hasPair keyID idempotencyKey = false) :
    replies.countP (createdReply keyID idempotencyKey) = 0 := by
  rw [List.countP_eq_zero]
  rintro ⟨job, reply⟩ hmem hcreated
  obtain ⟨sha256, policy, req, task, rfl, rfl, rfl, rfl⟩ := createdReply_iff.mp hcreated
  obtain ⟨row, hrow, hpair, -⟩ := h.named sha256 policy req task true hmem hkey
  exact absurd (hnone _ row hrow) (by simp [hpair])

/-- The replies stay true as long as tasks keep their origin. -/
theorem Idempotent.of_kept (h : Idempotent db replies) (hunique : v.PairsUnique)
    (hkept : ∀ k t, db.tasks.get? k = some t → ∃ t', v.tasks.get? k = some t' ∧ SameOrigin t t') :
    Idempotent v replies where
  unique := hunique
  named sha256 policy req task created hmem hkey := by
    obtain ⟨row, hrow, hpair, hhash⟩ := h.named sha256 policy req task created hmem hkey
    obtain ⟨row', hrow', horigin⟩ := hkept _ row hrow
    exact ⟨row', hrow', (horigin.hasPair _ _).trans hpair, horigin.requestHash.trans hhash⟩
  once := h.once

/-- A reply that names no admitted task says nothing new. -/
theorem Idempotent.append (h : Idempotent db replies) {job : Job} {reply : Except StoreError Reply}
    (hnamed : ∀ sha256 policy req task created, job = .admission sha256 policy req →
      reply = .ok (.admission task created) → req.idempotencyKey ≠ "" →
      ∃ row, db.tasks.get? task.id = some row ∧
        row.hasPair req.keyID req.idempotencyKey = true ∧ row.requestHash = req.hash sha256)
    (honce : ∀ keyID idempotencyKey, idempotencyKey ≠ "" →
      createdReply keyID idempotencyKey (job, reply) = true →
      replies.countP (createdReply keyID idempotencyKey) = 0) :
    Idempotent db (replies ++ [(job, reply)]) where
  unique := h.unique
  named sha256 policy req task created hmem hkey := by
    rcases List.mem_append.mp hmem with hold | hnew
    · exact h.named sha256 policy req task created hold hkey
    · cases List.mem_singleton.mp hnew
      exact hnamed sha256 policy req task created rfl rfl hkey
  once keyID idempotencyKey hkey := by
    rw [List.countP_append, List.countP_singleton]
    split
    · next hcreated =>
      have hzero := honce keyID idempotencyKey hkey hcreated
      omega
    · exact h.once keyID idempotencyKey hkey

/-- What a committed attempt tells about the pair of its request. -/
theorem admission_committed {sha256 : String → String} {policy : SchedulingPolicy}
    {req : AdmissionRequest} {env : Env} {task : Task} {created : Bool} {locks saved : List Lock}
    (hkey : req.idempotencyKey ≠ "") (hfacts : x.Holds req db locks saved ph)
    (hfinal : x.ends sha256 req (.commit (task, created)))
    (hends : Session.Ends env (createReservedTaskForProviderOnce sha256 policy req) db
      (.commit (task, created)) v) :
    (∃ row, v.tasks.get? task.id = some row ∧
      row.hasPair req.keyID req.idempotencyKey = true ∧ row.requestHash = req.hash sha256) ∧
    (created = true → .advisory req.lockName ∈ locks ∧
      ∀ k t, db.tasks.get? k = some t → t.hasPair req.keyID req.idempotencyKey = false) := by
  rcases createReservedTaskForProviderOnce_ends hends with
    ⟨rfl, rfl, -, -⟩ | ⟨rfl, accountID, hinserts⟩
  · obtain ⟨rfl, hhash⟩ := hfinal
    obtain ⟨row, hrow, hpair, hsame⟩ := hfacts
    exact ⟨⟨row, hrow, hpair, hsame.trans hhash⟩, fun hfalse => absurd hfalse Bool.false_ne_true⟩
  · obtain ⟨sp, rfl⟩ := hfinal
    refine ⟨⟨task, ?_, hinserts.hasPair hkey, hinserts.requestHash⟩, fun _ => ?_⟩
    · rw [hinserts.id]
      exact hinserts.task
    · exact ⟨hfacts.1, hfacts.2.2⟩

/-- The final of the watch for a committed admission. -/
theorem lookup_final {sha256 : String → String} {policy : SchedulingPolicy} {req : AdmissionRequest}
    {task : Task} {created : Bool} (hkey : req.idempotencyKey ≠ "")
    (h : Watch.lookup.final (.admission sha256 policy req) (.commit (.admission task created)) x) :
    x.ends sha256 req (.commit (task, created)) := by
  obtain ⟨⟨a, b⟩ | ⟨a, b⟩, hending, hx⟩ := h hkey
  · cases hending
    exact hx
  · cases hending

/-- The rows and replies after a commit. -/
theorem LookupFacts.commit_idempotent {locks saved : List Lock} {env : Env} {job : Job}
    (hfacts : LookupFacts job db locks saved ph x) (hrows : Idempotent db replies)
    (hfinal : Watch.lookup.final job (.commit r) x)
    (hends : Session.Ends env job.prog db (.commit r) v) :
    Idempotent v (replies ++ [(job, .ok r)]) := by
  have hlives := (Job.commits_of_ends hends).lives
  have hkept (k : UUID) (t : Task) (ht : db.tasks.get? k = some t) :
      ∃ t', v.tasks.get? k = some t' ∧ SameOrigin t t' := Lives.kept hlives ht
  cases job with
  | claim policy id leaseID lease =>
    have hunique := hrows.unique.of_lives hlives nofun
    refine (hrows.of_kept hunique hkept).append ?_ ?_
    · intro _ _ _ _ _ hjob
      cases hjob
    · intro keyID idempotencyKey _ hcreated
      obtain ⟨_, _, _, _, hjob, -⟩ := createdReply_iff.mp hcreated
      cases hjob
  | admission sha256 policy req =>
    obtain ⟨⟨task, created⟩, rfl, hadmitted⟩ := ends_map.mp hends
    have hunique : v.PairsUnique := by
      rcases createReservedTaskForProviderOnce_ends hadmitted with
        ⟨-, rfl, -, -⟩ | ⟨-, accountID, hinserts⟩
      · exact hrows.unique
      · exact hinserts.pairsUnique hrows.unique
    refine (hrows.of_kept hunique hkept).append ?_ ?_
    · rintro _ _ _ _ _ ⟨⟩ ⟨⟩ hkey
      exact (admission_committed hkey (hfacts hkey) (lookup_final hkey hfinal) hadmitted).1
    · intro keyID idempotencyKey hkey hcreated
      obtain ⟨_, _, _, _, hjob, hreply, rfl, rfl⟩ := createdReply_iff.mp hcreated
      cases hjob
      cases hreply
      have hnone := (admission_committed hkey (hfacts hkey) (lookup_final hkey hfinal) hadmitted).2
      exact hrows.none_created hkey (hnone rfl).2

/-- A commit leaves what the other transactions rely on. -/
theorem LookupFacts.commit_others {locks saved locks' saved' : List Lock} {env : Env}
    {job job' : Job} {ph' : Phase} {x' : Lookup} (hfacts : LookupFacts job db locks saved ph x)
    (hfinal : Watch.lookup.final job (.commit r) x)
    (hends : Session.Ends env job.prog db (.commit r) v) (hdisjoint : locks.Disjoint locks')
    (hother : LookupFacts job' db locks' saved' ph' x') : LookupFacts job' v locks' saved' ph' x' := by
  cases job' with
  | claim policy id leaseID lease => trivial
  | admission sha256' policy' req' =>
    intro hkey'
    have hlives := (Job.commits_of_ends hends).lives
    refine (hother hkey').mono_rows (fun k t ht => Lives.kept hlives ht) ?_
    intro hlock k t' ht' hpair
    cases job with
    | claim policy id leaseID lease => exact Lives.old hlives nofun ht'
    | admission sha256 policy req =>
      obtain ⟨⟨task, created⟩, rfl, hadmitted⟩ := ends_map.mp hends
      rcases createReservedTaskForProviderOnce_ends hadmitted with
        ⟨-, rfl, -, -⟩ | ⟨hcreated, accountID, hinserts⟩
      · exact ⟨t', ht', .refl _⟩
      rcases hinserts.get? ht' with ⟨rfl, rfl⟩ | hold
      · -- the new task has the pair, so both hold the lock of that pair
        obtain ⟨deadline, rfl⟩ := hinserts.row
        obtain ⟨hsame, hidem⟩ := Task.hasPair_iff.mp hpair
        have hkeyID : req.keyID = req'.keyID := Option.some.inj hsame
        have hkey : req.idempotencyKey ≠ "" := by
          intro hempty
          exact Option.some_ne_none _ (hidem.symm.trans (if_pos hempty))
        have hidemKey : req.idempotencyKey = req'.idempotencyKey :=
          Option.some.inj ((if_neg hkey).symm.trans hidem)
        have hheld := ((admission_committed hkey (hfacts hkey) (lookup_final hkey hfinal)
          hadmitted).2 hcreated).1
        have hname : req.lockName = req'.lockName := by
          rw [AdmissionRequest.lockName, hkeyID, hidemKey, AdmissionRequest.lockName]
        rw [hname] at hheld
        exact absurd hlock (hdisjoint hheld)
      · exact ⟨t', hold, .refl _⟩

end Commit

/-- An attempt that ends without a commit raises an error, as far as its lookup allows. -/
theorem lookup_refused {th : Thread} {x : Lookup} {reply : Except StoreError Reply}
    {sha256 : String → String} {policy : SchedulingPolicy} {req : AdmissionRequest}
    (hkey : req.idempotencyKey ≠ "") (hobeys : th.rest.Obeys (Watch.lookup.monitor th.job) x
      (Watch.lookup.final th.job)) (hrefusal : th.refusal = some reply)
    (hjob : th.job = .admission sha256 policy req) :
    ∃ e, reply = .error e ∧ x.allows sha256 req (.raise e) := by
  rw [hjob] at hobeys
  unfold Thread.refusal at hrefusal
  split at hrefusal
  · next r hrest =>
    rw [hrest] at hobeys
    obtain ⟨⟨a, b⟩ | ⟨a, b⟩, hending, hx⟩ := hobeys hkey
    · cases hending
    · exact hx.elim
  · next e k hrest =>
    cases hrefusal
    rw [hrest] at hobeys
    exact ⟨e, rfl, by simpa [Watch.lookup, hkey, lookupMonitor] using hobeys.1⟩
  · cases hrefusal

/-- Admissions rely on what their lookup found. -/
theorem lookup_reliable : Reliance .lookup (fun _ _ => True) Idempotent LookupFacts where
  start {m env job} _ := by
    cases job with
    | claim policy id leaseID lease => trivial
    | admission sha256 policy req => exact fun _ => rfl
  answered {m i skip th ph x op k snapshot view r} _ _ _ _ hsound hfacts _ hallows hanswers := by
    cases hjob : th.job with
    | claim policy id leaseID lease => trivial
    | admission sha256 policy req =>
      intro hkey
      rw [hjob] at hfacts hallows
      have hallows' : x.allows sha256 req op := by
        simpa [Watch.lookup, hkey, lookupMonitor] using hallows
      have hnext : (Watch.lookup.monitor (.admission sha256 policy req)).next x op r =
          x.next op r := by
        simp [Watch.lookup, hkey, lookupMonitor]
      rw [hnext]
      exact (hfacts hkey).answered hsound hallows' hanswers
  committed hrows _ hfacts hfinal _ hends :=
    ⟨hfacts.commit_idempotent hrows hfinal hends, fun _ _ _ _ _ hdisjoint hother =>
      hfacts.commit_others hfinal hends hdisjoint hother⟩
  refused hrows _ _ hobeys hrefusal := by
    refine hrows.append ?_ ?_
    · intro sha256 policy req task created hjob hreply hkey
      obtain ⟨e, he, -⟩ := lookup_refused hkey hobeys hrefusal hjob
      rw [hreply] at he
      cases he
    · intro keyID idempotencyKey hkey hcreated
      obtain ⟨sha256, policy, req, task, hjob, hreply, rfl, rfl⟩ := createdReply_iff.mp hcreated
      obtain ⟨e, he, -⟩ := lookup_refused hkey hobeys hrefusal hjob
      rw [hreply] at he
      cases he
  atomic {env op db db' replies} hatomic hrows hcommits := by
    have hcall : op.call ≠ .admission := by
      intro hcall
      have hsession := op.session_of_atomic hatomic
      rw [hcall] at hsession
      cases hsession
    refine ⟨hrows.of_kept (hrows.unique.of_lives hcommits.lives hcall) ?_, ?_⟩
    · exact fun k t ht => Lives.kept hcommits.lives ht
    · intro job locks saved ph x hfacts
      cases job with
      | claim policy id leaseID lease => trivial
      | admission sha256 policy req =>
        intro hkey
        refine (hfacts hkey).mono_rows (fun k t ht => Lives.kept hcommits.lives ht) ?_
        exact fun _ k t' ht' _ => Lives.old hcommits.lives hcall ht'

/-! ### One task for each pair -/

/-- The task under the key has the pair. -/
def Database.ofPair (db : Database) (keyID : UUID) (idempotencyKey : String) (k : UUID) : Bool :=
  (db.tasks.get? k).any (Task.hasPair keyID idempotencyKey)

/-- A table keyed by the task has at most one row of the pair. -/
theorem Database.PairsUnique.count_le {db : Database} (h : db.PairsUnique) {ρ : Type}
    [Keyed UUID ρ] (t : Table ρ) (keyID : UUID) (idempotencyKey : String) :
    t.count (fun r => db.ofPair keyID idempotencyKey (Keyed.key r)) ≤ 1 := by
  have hnodup := t.nodup.of_map Keyed.key
  unfold Table.count
  rw [List.countP_eq_length_filter]
  by_contra hlt
  obtain ⟨a, b, rest, hrows⟩ : ∃ a b rest, t.rows.filter
      (fun r => db.ofPair keyID idempotencyKey (Keyed.key r)) = a :: b :: rest := by
    match hfilter : t.rows.filter (fun r => db.ofPair keyID idempotencyKey (Keyed.key r)) with
    | [] => simp [hfilter] at hlt
    | [a] => simp [hfilter] at hlt
    | a :: b :: rest => exact ⟨a, b, rest, rfl⟩
  have ha := List.mem_filter.mp (hrows ▸ List.mem_cons_self : a ∈ t.rows.filter _)
  have hb := List.mem_filter.mp
    (hrows ▸ List.mem_cons_of_mem _ List.mem_cons_self : b ∈ t.rows.filter _)
  obtain ⟨ta, hta, hpa⟩ := (Option.any_eq_true _ _).mp ha.2
  obtain ⟨tb, htb, hpb⟩ := (Option.any_eq_true _ _).mp hb.2
  have hkey : Keyed.key a = Keyed.key b := h _ _ ta tb keyID idempotencyKey hta htb hpa hpb
  have hsame : a = b := by
    have hga := Table.get?_of_mem ha.1
    rw [hkey, Table.get?_of_mem hb.1] at hga
    exact (Option.some.inj hga).symm
  have hsub := (hnodup.filter fun r => db.ofPair keyID idempotencyKey (Keyed.key r))
  rw [hrows] at hsub
  exact (List.nodup_cons.mp hsub).1 (hsame ▸ List.mem_cons_self)

/-- The lookup by the pair returns the task of the pair, whichever row it finds. -/
theorem Database.PairsUnique.head?_select {db : Database} (h : db.PairsUnique) {keyID : UUID}
    {idempotencyKey : String} {k : UUID} {row : Task} (hrow : db.tasks.get? k = some row)
    (hpair : row.hasPair keyID idempotencyKey = true) :
    (db.tasks.select (Task.hasPair keyID idempotencyKey)).head? = some row := by
  have hmem : row ∈ db.tasks.select (Task.hasPair keyID idempotencyKey) :=
    List.mem_filter.mpr ⟨Table.mem_of_get? hrow, hpair⟩
  obtain ⟨first, hfirst⟩ := Option.ne_none_iff_exists'.mp
    (mt List.head?_eq_none_iff.mp (List.ne_nil_of_mem hmem))
  obtain ⟨hmem', hpair'⟩ := List.mem_filter.mp (List.mem_of_mem_head? hfirst)
  have hget := Table.get?_of_mem hmem'
  have hsame := h _ _ first row keyID idempotencyKey hget hrow hpair' hpair
  rw [hfirst, ← hget, ← hrow, hsame]

/-- A call whose hash is not that of the pair's task gets the conflict, and leaves
nothing behind. -/
theorem Machine.Relies.conflict {m m' : Machine} {a : Act} {sha256 : String → String}
    {policy : SchedulingPolicy} {req : AdmissionRequest} {reply : Except StoreError Reply} {k : UUID}
    {row : Task} (h : m.Relies .lookup Idempotent LookupFacts) (hstep : m.step a = some m')
    (hreply : m'.replies = m.replies ++ [(.admission sha256 policy req, reply)])
    (hkey : req.idempotencyKey ≠ "") (hrow : m.db.tasks.get? k = some row)
    (hpair : row.hasPair req.keyID req.idempotencyKey = true)
    (hhash : row.requestHash ≠ req.hash sha256) :
    reply = .error .idempotencyKeyReused ∧ m'.db = m.db := by
  have hsilent : m'.replies ≠ m.replies := by
    rw [hreply]
    simp
  cases a with
  | begin env job =>
    cases hstep
    exact absurd rfl hsilent
  | send i =>
    obtain ⟨th, hth, hstep⟩ := Option.bind_eq_some_iff.mp hstep
    split_ifs at hstep
    obtain ⟨view, hview, hstep⟩ := Option.bind_eq_some_iff.mp hstep
    cases hstep
    exact absurd rfl hsilent
  | answer i skip =>
    obtain ⟨th, hth, hstep⟩ := Option.bind_eq_some_iff.mp hstep
    split at hstep
    · obtain ⟨snapshot, view, r, -, rfl⟩ := Machine.answers_of_answer hstep
      exact absurd rfl hsilent
    · cases hstep
  | atomic env op =>
    simp only [Machine.step] at hstep
    split_ifs at hstep
    cases hstep
    exact absurd rfl hsilent
  | commit i =>
    obtain ⟨th, hth, hstep⟩ := Option.bind_eq_some_iff.mp hstep
    split at hstep
    · next r hrest =>
      obtain ⟨view, hview, hstep⟩ := Option.bind_eq_some_iff.mp hstep
      cases hstep
      obtain ⟨hjob, rfl⟩ := Prod.mk.inj (List.singleton_inj.mp (List.append_cancel_left hreply))
      obtain ⟨ph, x, hsound, hobeys, hfacts⟩ := h.threads i th hth
      rw [hrest] at hobeys
      have hends := hsound.ends hrest hview
      have hafter := hfacts.commit_idempotent h.rows hobeys hends
      obtain ⟨row', hrow', horigin⟩ := Lives.kept (Job.commits_of_ends hends).lives hrow
      rw [hjob] at hends
      obtain ⟨⟨task, created⟩, rfl, -⟩ := ends_map.mp hends
      obtain ⟨named, hnamed, hpair', hhash'⟩ := hafter.named sha256 policy req task created
        (by simp [hjob]) hkey
      have hpairRow := (horigin.hasPair req.keyID req.idempotencyKey).trans hpair
      obtain rfl := hafter.unique _ _ named row' _ _ hnamed hrow' hpair' hpairRow
      obtain rfl : named = row' := Option.some.inj (hnamed.symm.trans hrow')
      exact absurd (horigin.requestHash.symm.trans hhash') hhash
    · cases hstep
  | abort i =>
    obtain ⟨th, hth, hstep⟩ := Option.bind_eq_some_iff.mp hstep
    cases hstep
    refine ⟨?_, rfl⟩
    have hlast := List.append_cancel_left hreply
    cases hrefusal : th.refusal with
    | none => simp [hrefusal] at hlast
    | some answer =>
      rw [hrefusal] at hlast
      obtain ⟨hjob, rfl⟩ := Prod.mk.inj (List.singleton_inj.mp hlast)
      obtain ⟨ph, x, -, hobeys, hfacts⟩ := h.threads i th hth
      obtain ⟨e, rfl, hx⟩ := lookup_refused hkey hobeys hrefusal hjob
      rw [hjob] at hfacts
      rcases hx with ⟨saved, rfl⟩ | ⟨task, -, -, rfl⟩
      · exact absurd ((hfacts hkey).2.2 k row hrow) (by simp [hpair])
      · rfl

/-- What holds of a pair of an API key and an idempotency key. -/
structure Machine.AdmitsOnce (m : Machine) (keyID : UUID) (idempotencyKey : String) : Prop where
  task : m.db.tasks.count (Task.hasPair keyID idempotencyKey) ≤ 1
  reservation : m.db.reservations.count
    (fun r => m.db.ofPair keyID idempotencyKey r.taskID) ≤ 1
  outbox : m.db.outbox.count (fun o => m.db.ofPair keyID idempotencyKey o.taskID) ≤ 1
  created : m.replies.countP (createdReply keyID idempotencyKey) ≤ 1
  returned : ∀ sha256 policy req task created,
    (Job.admission sha256 policy req, .ok (.admission task created)) ∈ m.replies →
    req.keyID = keyID → req.idempotencyKey = idempotencyKey →
    ∃ row, m.db.tasks.get? task.id = some row ∧ row.hasPair keyID idempotencyKey = true ∧
      row.requestHash = req.hash sha256
  conflict : ∀ a m' sha256 policy req reply row, m.step a = some m' →
    m'.replies = m.replies ++ [(.admission sha256 policy req, reply)] →
    req.keyID = keyID → req.idempotencyKey = idempotencyKey →
    row ∈ m.db.tasks.rows → row.hasPair keyID idempotencyKey = true →
    row.requestHash ≠ req.hash sha256 →
    reply = .error .idempotencyKeyReused ∧ m'.db = m.db
  looked : ∀ sha256 req, req.keyID = keyID → req.idempotencyKey = idempotencyKey →
    (∀ row ∈ m.db.tasks.rows, row.hasPair keyID idempotencyKey = true →
      getIdempotentTaskWithHashRequest sha256 req m.db =
        if row.requestHash = req.hash sha256 then .ok (row, m.db)
        else .error .idempotencyKeyReused) ∧
    ((∀ row ∈ m.db.tasks.rows, row.hasPair keyID idempotencyKey = false) →
      getIdempotentTaskWithHashRequest sha256 req m.db = .error .notFound)
  repeated : ∀ env sha256 policy req, req.keyID = keyID → req.idempotencyKey = idempotencyKey →
    ∀ row ∈ m.db.tasks.rows, row.hasPair keyID idempotencyKey = true →
      Session.run env (createReservedTaskForProviderOnce sha256 policy req) m.db =
        if row.requestHash = req.hash sha256 then .ok (.commit (row, false), m.db)
        else .error .idempotencyKeyReused

theorem Database.PairsUnique.looked {db : Database} (h : db.PairsUnique) {keyID : UUID}
    {idempotencyKey : String} {row : Task} (hrow : row ∈ db.tasks.rows)
    (hpair : row.hasPair keyID idempotencyKey = true) :
    (db.tasks.select (Task.hasPair keyID idempotencyKey)).head? = some row :=
  h.head?_select (Table.get?_of_mem hrow) hpair

theorem Session.run_send {α : Type} {env : Env} {op : Statement} {f : op.Res → Session α}
    {db db' : Database} {r : op.Res} (h : op.run env db = .ok (r, db')) :
    Session.run env (send op >>= f) db = Session.run env (f r) db' := bind_of_ok h

/-- A repeated call that runs alone answers from the task of the pair. -/
theorem Database.PairsUnique.repeated {db : Database} (h : db.PairsUnique) {env : Env}
    {sha256 : String → String} {policy : SchedulingPolicy} {req : AdmissionRequest} {row : Task}
    (hkey : req.idempotencyKey ≠ "") (hrow : row ∈ db.tasks.rows)
    (hpair : row.hasPair req.keyID req.idempotencyKey = true) :
    Session.run env (createReservedTaskForProviderOnce sha256 policy req) db =
      if row.requestHash = req.hash sha256 then .ok (.commit (row, false), db)
      else .error .idempotencyKeyReused := by
  have hfound : Statement.run env (.findIdempotent req.keyID req.idempotencyKey) db =
      .ok (some row, db) := by
    have hanswer : answer (fun _ => .ok (db.tasks.select
        (Task.hasPair req.keyID req.idempotencyKey)).head?) db = .ok (some row, db) := by
      simp only [answer, h.looked hrow hpair]
    exact hanswer
  rw [createReservedTaskForProviderOnce, if_neg hkey]
  have hlock : Statement.run env (.advisoryLock req.lockName) db = .ok ((), db) := rfl
  refine (Session.run_send hlock).trans ((Session.run_send hfound).trans ?_)
  dsimp only
  by_cases hhash : row.requestHash = req.hash sha256
  · rw [if_neg (not_not.mpr hhash), if_pos hhash]
    rfl
  · rw [if_pos hhash, if_neg hhash]
    rfl

/-- For every pair, over every interleaving of admissions, claims and settlements. -/
theorem idempotent_admission {accounts : Table Account} {apiKeys : Table APIKey}
    {costRules : Table CostRule} {capacity : SystemCapacityConfig} {m : Machine}
    (h : readCommitted.Reachable (.initial accounts apiKeys costRules capacity) m) (keyID : UUID)
    {idempotencyKey : String} (hkey : idempotencyKey ≠ "") : m.AdmitsOnce keyID idempotencyKey := by
  have hrelies : m.Relies .lookup Idempotent LookupFacts := by
    refine lookup_reliable.relies_always ⟨?_, ?_, fun _ _ _ => Nat.zero_le _⟩ h
    · intro k k' t t' _ _ ht
      cases ht
    · intro _ _ _ _ _ hmem
      cases hmem
  have hunique := hrelies.rows.unique
  refine ⟨?_, hunique.count_le _ _ _, hunique.count_le _ _ _,
    hrelies.rows.once keyID idempotencyKey hkey, ?_, ?_, ?_, ?_⟩
  · refine le_of_eq_of_le ?_ (hunique.count_le m.db.tasks keyID idempotencyKey)
    refine List.countP_congr fun t ht => ?_
    rw [Database.ofPair, Table.get?_of_mem ht, Option.any_some]
  · rintro sha256 policy req task created hmem rfl rfl
    exact hrelies.rows.named sha256 policy req task created hmem hkey
  · rintro a m' sha256 policy req reply row hstep hreply rfl rfl hrow hpair hhash
    exact hrelies.conflict hstep hreply hkey (Table.get?_of_mem hrow) hpair hhash
  · rintro sha256 req rfl rfl
    constructor
    · intro row hrow hpair
      have hfirst := hunique.looked hrow hpair
      simp only [getIdempotentTaskWithHashRequest, answer, hfirst]
      by_cases hhash : row.requestHash = req.hash sha256
      · simp [hhash]
      · simp [hhash]
    · intro hnone
      have hempty : m.db.tasks.select (Task.hasPair req.keyID req.idempotencyKey) = [] := by
        rw [Table.select, List.filter_eq_nil_iff]
        intro row hrow
        simp [hnone row hrow]
      simp only [getIdempotentTaskWithHashRequest, answer, hempty, List.head?_nil]
  · rintro env sha256 policy req rfl rfl row hrow hpair
    exact hunique.repeated hkey hrow hpair

/-- Two concurrent calls of one pair, of which the second waits for the lock, and one
with another document. -/
def pairedAdmissions : List Act :=
  let req (id : UUID) (document : JSON) : AdmissionRequest :=
    { smallRequest id .image 5 with idempotencyKey := "order", hashRequest := document }
  [beginAdmission 0 (req 20 "a"), beginAdmission 0 (req 21 "a"), beginAdmission 0 (req 22 "b")] ++
    statements 0 18 ++ [.commit 0] ++ statements 1 2 ++ [.commit 1] ++ statements 2 2 ++ [.abort 2]

theorem idempotent_admission_paired :
    ∃ m : Machine, m.db.tasks.rows.map Task.id = [20] ∧ m.replies.length = 3 ∧
      m.AdmitsOnce 7 "order" := by
  have hrun : ((smallMachine ⟨[smallAccount], by decide⟩).run pairedAdmissions).map
      (fun m => (m.db.tasks.rows.map Task.id, m.replies.length)) = some ([20], 3) := by
    decide +kernel
  obtain ⟨m, hm, hrows⟩ := Option.map_eq_some_iff.mp hrun
  obtain ⟨htasks, hreplies⟩ := Prod.mk.inj hrows
  refine ⟨m, htasks, hreplies, ?_⟩
  exact idempotent_admission ⟨pairedAdmissions, readCommitted_run hm⟩ 7 (by decide)

end GenerationGateway
