import GenerationGateway.Store.Threads

/-!
# Facts that open transactions rely on

Between the answers of a transaction others commit. What it relies on is a family
of facts about the committed rows, one for each phase and set of account locks. The
family holds in every reachable state if each answer establishes the facts of its
phase and no commit breaks those of a transaction with disjoint locks.
-/

namespace GenerationGateway

open Relational Effects Transitions

/-! ### Threads of a machine -/

namespace Machine

variable {m m' : Machine} {i j : ℕ} {th th' : Thread}

theorem thread_of_get {x : Option Thread} (h : m.threads[i]? = some x) : m.thread i = x := by
  simp [thread, h]

theorem get_of_thread (h : m.thread i = some th) : m.threads[i]? = some (some th) :=
  Option.join_eq_some_iff.mp h

theorem thread_set (x : Option Thread) (h : m.thread i = some th) (j : ℕ) :
    (m.set i x).thread j = if j = i then x else m.thread j := by
  have hlt : i < m.threads.length := (List.getElem?_eq_some_iff.mp (get_of_thread h)).1
  unfold thread set
  rw [List.getElem?_set]
  by_cases hj : i = j
  · simp [hj.symm, hlt]
  · simp [hj, Ne.symm hj]

theorem thread_congr (h : m'.threads = m.threads) (i : ℕ) : m'.thread i = m.thread i := by
  rw [thread, h, thread]

theorem mem_others {a : Lock} :
    a ∈ m.others i ↔ ∃ j th, j ≠ i ∧ m.thread j = some th ∧ a ∈ th.locks := by
  unfold others
  rw [List.mem_flatMap]
  constructor
  · rintro ⟨x, hx, ha⟩
    obtain ⟨j, hj, hget⟩ := List.mem_eraseIdx_iff_getElem?.mp hx
    cases x with
    | none => simp at ha
    | some th => exact ⟨j, th, hj, thread_of_get hget, ha⟩
  · rintro ⟨j, th, hj, hth, ha⟩
    exact ⟨some th, List.mem_eraseIdx_iff_getElem?.mpr ⟨j, hj, get_of_thread hth⟩, ha⟩

/-- The account locks of two transactions are disjoint. -/
def Exclusive (m : Machine) : Prop :=
  ∀ i j th th', m.thread i = some th → m.thread j = some th' → i ≠ j →
    th.locks.Disjoint th'.locks

/-- A thread replaced by one with fewer or with free locks. -/
theorem Exclusive.set {x : Option Thread} (h : m.Exclusive) (hth : m.thread i = some th)
    (hx : ∀ th', x = some th' → ∀ a ∈ th'.locks, a ∈ th.locks ∨ a ∉ m.others i) :
    (m.set i x).Exclusive := by
  have hfree {j : ℕ} {th' u : Thread} (hx' : x = some th') (hj : j ≠ i) (hu : m.thread j = some u) :
      th'.locks.Disjoint u.locks := by
    intro a ha hau
    rcases hx th' hx' a ha with hold | hnew
    · exact h i j th u hth hu hj.symm hold hau
    · exact hnew (mem_others.mpr ⟨j, u, hj, hu, hau⟩)
  intro j₁ j₂ t₁ t₂ h₁ h₂ hne
  rw [thread_set x hth] at h₁ h₂
  split_ifs at h₁ h₂ with heq₁ heq₂ heq₂
  · exact absurd (heq₁.trans heq₂.symm) hne
  · exact hfree h₁ heq₂ h₂
  · exact (hfree h₂ heq₁ h₁).symm
  · exact h j₁ j₂ t₁ t₂ h₁ h₂ hne

theorem Exclusive.remove (h : m.Exclusive) (hth : m.thread i = some th) :
    (m.set i none).Exclusive := by
  apply h.set hth
  intro th' hx
  cases hx

theorem Exclusive.congr (h : m.Exclusive) (hthreads : m'.threads = m.threads) :
    m'.Exclusive := by
  intro i j th th' hi hj
  rw [thread_congr hthreads] at hi hj
  exact h i j th th' hi hj

end Machine

/-- The statement `op` of the thread is answered by `r`, from `snapshot` and from the
rows `view` that the transaction sees. -/
structure Machine.Answers (m : Machine) (i : ℕ) (skip : List UUID) (th : Thread) (op : Statement)
    (snapshot view : Database) (r : op.Res) : Prop where
  viewed : th.view m.db = some view
  taken : th.reads op view = some snapshot
  executed : ∃ w, op.execute { th.env with lockedAccounts := m.locked i skip } snapshot view =
    .ok (r, w)
  free : ∀ a ∈ op.takes r, a ∉ m.others i

theorem Machine.answers_of_answer {m m' : Machine} {i : ℕ} {skip : List UUID} {th : Thread}
    {op : Statement} {k : op.Res → Session (Ending Reply)} (h : m.answer i skip th op k = some m') :
    ∃ snapshot view r, m.Answers i skip th op snapshot view r ∧
      m' = m.set i (some (th.advance op k r)) := by
  unfold Machine.answer at h
  obtain ⟨view, hview, h⟩ := Option.bind_eq_some_iff.mp h
  obtain ⟨snapshot, hsnapshot, h⟩ := Option.bind_eq_some_iff.mp h
  split at h
  · cases h
  · next r w hexec =>
    split_ifs at h with htaken
    cases h
    refine ⟨snapshot, view, r, ⟨hview, hsnapshot, ⟨w, hexec⟩, ?_⟩, rfl⟩
    simpa using htaken

/-- A statement that waits for no lock is answered from the rows as they are. -/
theorem Machine.Answers.snapshot_eq {m : Machine} {i : ℕ} {skip : List UUID} {th : Thread}
    {op : Statement} {snapshot view : Database} {r : op.Res}
    (h : m.Answers i skip th op snapshot view r) (hwaits : op.waits = false) : snapshot = view := by
  have htaken := h.taken
  rw [Thread.reads, hwaits] at htaken
  exact (Option.some.inj htaken).symm

theorem Machine.Answers.snapshot_of_waits {m : Machine} {i : ℕ} {skip : List UUID} {th : Thread}
    {op : Statement} {snapshot view : Database} {r : op.Res}
    (h : m.Answers i skip th op snapshot view r) (hwaits : op.waits = true) :
    th.snapshot = some snapshot := by
  have htaken := h.taken
  rwa [Thread.reads, if_pos hwaits] at htaken

section Answers

variable {m : Machine} {i : ℕ} {skip : List UUID} {th : Thread} {snapshot view : Database}
variable {accountID : UUID}

/-- `loadClaimAccount` returns the account as it is, with the usage of the snapshot. -/
theorem loadClaimAccount_answers {lock : Bool} {state : ClaimAccountState}
    (h : m.Answers i skip th (.loadClaimAccount accountID lock) snapshot view state) :
    ∃ a, view.accounts.get? accountID = some a ∧ state = ⟨a, usage snapshot accountID⟩ := by
  obtain ⟨w, hexec⟩ := h.executed
  have hanswer : answer (fun db => required ((db.accounts.get? accountID).map fun a =>
      (⟨a, usage snapshot accountID⟩ : ClaimAccountState))) view = .ok (state, w) := hexec
  obtain ⟨hread, -⟩ := answer_ok hanswer
  cases ha : view.accounts.get? accountID with
  | none =>
    rw [ha] at hread
    cases hread
  | some a =>
    rw [ha] at hread
    cases hread
    exact ⟨a, rfl, rfl⟩

theorem chooseTarget_answers {q : RoutingQuery} {old : UUID} {target : Option UUID}
    (h : m.Answers i skip th (.chooseTarget q old) snapshot view target) :
    target = q.target old { th.env with lockedAccounts := m.locked i skip } snapshot view := by
  obtain ⟨w, hexec⟩ := h.executed
  have hanswer : answer (fun db => .ok (q.target old
      { th.env with lockedAccounts := m.locked i skip } snapshot db)) view =
      .ok (target, w) := hexec
  exact (Except.ok.inj (answer_ok hanswer).1).symm

theorem reservedUsage_answers {used : ℕ × ℕ}
    (h : m.Answers i skip th (.reservedUsage accountID) snapshot view used) :
    used = (reservationCount snapshot accountID, heldTokens snapshot accountID) := by
  obtain ⟨w, hexec⟩ := h.executed
  have hanswer : answer (fun _ => .ok (reservationCount snapshot accountID,
      heldTokens snapshot accountID)) view = .ok (used, w) := hexec
  exact (Except.ok.inj (answer_ok hanswer).1).symm

theorem accountLimits_answers {limits : AccountLimits}
    (h : m.Answers i skip th (.accountLimits accountID) snapshot view limits) :
    (snapshot.accounts.get? accountID).map Account.limits = some limits := by
  obtain ⟨w, hexec⟩ := h.executed
  have hanswer : answer (fun _ => required ((snapshot.accounts.get? accountID).map Account.limits))
      view = .ok (limits, w) := hexec
  obtain ⟨hread, -⟩ := answer_ok hanswer
  unfold required at hread
  split at hread
  · next l hl =>
    cases hread
    exact hl
  · cases hread

end Answers

/-- Only a rollback to the savepoint gives locks back. -/
theorem Thread.locks_advance {th : Thread} {op : Statement} {k : op.Res → Session (Ending Reply)}
    {r : op.Res} (hop : op ≠ .rollbackToSavepoint) :
    (th.advance op k r).locks = op.takes r ++ th.locks := by
  cases op with
  | rollbackToSavepoint => exact absurd rfl hop
  | _ => rfl

/-- A second monitor over the statements of a transaction, for what the discipline says
nothing about, with the endings that its phases allow. -/
structure Watch (φ : Type) where
  monitor : Job → Monitor sql φ
  start : φ
  final : Job → Ending Reply → φ → Prop
  obeyed : ∀ job : Job, job.prog.Obeys (monitor job) start (final job)

/-- The watch that watches nothing. -/
def Watch.idle : Watch Unit where
  monitor _ := ⟨fun _ _ => True, fun _ _ _ => ()⟩
  start := ()
  final _ _ _ := True
  obeyed job := by
    induction job.prog with
    | ret e => trivial
    | call op k ih => exact ⟨trivial, ih⟩

abbrev Replies := List (Job × Except StoreError Reply)

/-- The facts `D` that transactions rely on, given the locks they hold and those of their
savepoint, and an invariant `I` of the committed rows and the replies: `cond` is asked
of every step. -/
structure Reliance {φ : Type} (W : Watch φ) (cond : Machine → Act → Prop)
    (I : Database → Replies → Prop)
    (D : Job → Database → List Lock → List Lock → Phase → φ → Prop) : Prop where
  start : ∀ {m : Machine} {env : Env} {job : Job}, cond m (.begin env job) →
    D job m.db [] [] .start W.start
  answered : ∀ {m : Machine} {i : ℕ} {skip : List UUID} {th : Thread} {ph : Phase} {x : φ}
    {op : Statement} {k : op.Res → Session (Ending Reply)} {snapshot view : Database} {r : op.Res},
    cond m (.answer i skip) → I m.db m.replies → m.thread i = some th → th.rest = .call op k →
    th.Sound ph → D th.job m.db th.locks th.saved ph x → ph.allows th.job.taskID op →
    (W.monitor th.job).allowed x op → m.Answers i skip th op snapshot view r →
    D th.job m.db (th.advance op k r).locks (th.advance op k r).saved (ph.next op r)
      ((W.monitor th.job).next x op r)
  committed : ∀ {db v : Database} {replies : Replies} {th : Thread} {ph : Phase} {x : φ} {r : Reply},
    I db replies → th.Sound ph → D th.job db th.locks th.saved ph x → W.final th.job (.commit r) x →
    th.view db = some v → Session.Ends th.env th.job.prog db (.commit r) v →
    I v (replies ++ [(th.job, .ok r)]) ∧
      ∀ job locks saved ph' x', th.locks.Disjoint locks → D job db locks saved ph' x' →
        D job v locks saved ph' x'
  refused : ∀ {db : Database} {replies : Replies} {th : Thread} {ph : Phase} {x : φ}
    {r : Except StoreError Reply}, I db replies → th.Sound ph → D th.job db th.locks th.saved ph x →
    th.rest.Obeys (W.monitor th.job) x (W.final th.job) → th.refusal = some r →
    I db (replies ++ [(th.job, r)])
  atomic : ∀ {env : Env} {op : Operation} {db db' : Database} {replies : Replies},
    op.atomic = true → I db replies → op.Commits env db db' →
    I db' replies ∧ ∀ job locks saved ph x, D job db locks saved ph x → D job db' locks saved ph x

/-- A state in which the facts of every open transaction hold. -/
structure Machine.Relies {φ : Type} (W : Watch φ) (I : Database → Replies → Prop)
    (D : Job → Database → List Lock → List Lock → Phase → φ → Prop) (m : Machine) : Prop where
  rows : I m.db m.replies
  threads : ∀ i th, m.thread i = some th → ∃ ph x, th.Sound ph ∧
    th.rest.Obeys (W.monitor th.job) x (W.final th.job) ∧ D th.job m.db th.locks th.saved ph x
  exclusive : m.Exclusive

section Rule

variable {φ : Type} {W : Watch φ} {cond : Machine → Act → Prop} {I : Database → Replies → Prop}
variable {D : Job → Database → List Lock → List Lock → Phase → φ → Prop} {m m' : Machine} {i : ℕ}

theorem Machine.Relies.answer {skip : List UUID} {th : Thread} {op : Statement}
    {k : op.Res → Session (Ending Reply)} (hD : Reliance W cond I D) (h : m.Relies W I D)
    (hcond : cond m (.answer i skip)) (hth : m.thread i = some th) (hrest : th.rest = .call op k)
    (hstep : m.answer i skip th op k = some m') : m'.Relies W I D := by
  obtain ⟨snapshot, view, r, hanswers, rfl⟩ := Machine.answers_of_answer hstep
  obtain ⟨ph, x, hsound, hobeys, hfacts⟩ := h.threads i th hth
  have hallows : ph.allows th.job.taskID op := by
    have hdisc := hsound.disciplined
    rw [hrest] at hdisc
    exact hdisc.1
  rw [hrest] at hobeys
  refine ⟨h.rows, ?_, ?_⟩
  · intro j u hu
    rw [Machine.thread_set _ hth] at hu
    split_ifs at hu
    · cases hu
      obtain ⟨w, hexec⟩ := hanswers.executed
      refine ⟨ph.next op r, (W.monitor th.job).next x op r, ?_, hobeys.2 r, ?_⟩
      · exact Thread.sound_advance hsound hrest hanswers.viewed hexec hanswers.snapshot_eq
      · exact hD.answered hcond h.rows hth hrest hsound hfacts hallows hobeys.1 hanswers
    · exact h.threads j u hu
  · refine h.exclusive.set hth ?_
    rintro _ ⟨⟩ a ha
    by_cases hop : op = .rollbackToSavepoint
    · subst hop
      exact .inl (hsound.saved ha)
    · rw [Thread.locks_advance hop] at ha
      rcases List.mem_append.mp ha with hnew | hold
      · exact .inr (hanswers.free a hnew)
      · exact .inl hold

theorem Machine.Relies.commit {th : Thread} {r : Reply} {v : Database} (hD : Reliance W cond I D)
    (h : m.Relies W I D) (hth : m.thread i = some th) (hrest : th.rest = .ret (.commit r))
    (hview : th.view m.db = some v) :
    Machine.Relies W I D ⟨v, m.threads.set i none, m.replies ++ [(th.job, .ok r)]⟩ := by
  obtain ⟨ph, x, hsound, hobeys, hfacts⟩ := h.threads i th hth
  rw [hrest] at hobeys
  obtain ⟨hrows, hothers⟩ := hD.committed h.rows hsound hfacts hobeys hview
    (hsound.ends hrest hview)
  refine ⟨hrows, ?_, (h.exclusive.remove hth).congr rfl⟩
  intro j u hu
  have hsame : Machine.thread ⟨v, m.threads.set i none, m.replies ++ [(th.job, .ok r)]⟩ j =
      (m.set i none).thread j := Machine.thread_congr rfl j
  rw [hsame, Machine.thread_set _ hth] at hu
  split_ifs at hu with hj
  obtain ⟨ph', x', hsound', hobeys', hfacts'⟩ := h.threads j u hu
  have hdisjoint := h.exclusive i j th u hth hu (Ne.symm hj)
  exact ⟨ph', x', hsound', hobeys', hothers _ _ _ _ _ hdisjoint hfacts'⟩

theorem Machine.Relies.abort {th : Thread} (hD : Reliance W cond I D) (h : m.Relies W I D)
    (hth : m.thread i = some th) : Machine.Relies W I D
      { m.set i none with replies := m.replies ++ th.refusal.toList.map fun r => (th.job, r) } := by
  obtain ⟨ph, x, hsound, hobeys, hfacts⟩ := h.threads i th hth
  refine ⟨?_, ?_, (h.exclusive.remove hth).congr rfl⟩
  · cases hrefusal : th.refusal with
    | none =>
      rw [Option.toList_none, List.map_nil, List.append_nil]
      exact h.rows
    | some r => exact hD.refused h.rows hsound hfacts hobeys hrefusal
  · intro j u hu
    have hsame : Machine.thread { m.set i none with
        replies := m.replies ++ th.refusal.toList.map fun r => (th.job, r) } j =
        (m.set i none).thread j := Machine.thread_congr rfl j
    rw [hsame, Machine.thread_set _ hth] at hu
    split_ifs at hu
    exact h.threads j u hu

/-- One step keeps the facts. -/
theorem Machine.Relies.step {a : Act} (hD : Reliance W cond I D) (h : m.Relies W I D)
    (hcond : cond m a) (hstep : m.step a = some m') : m'.Relies W I D := by
  cases a with
  | begin env job =>
    cases hstep
    have hnew (j : ℕ) (u : Thread) (hu : Machine.thread
        { m with threads := m.threads ++ [some (.start env job)] } j = some u) :
        m.thread j = some u ∨ u = .start env job := by
      have hget := Machine.get_of_thread hu
      rw [List.getElem?_append] at hget
      split_ifs at hget
      · exact .inl (Machine.thread_of_get hget)
      · have hmem := List.mem_of_getElem? hget
        simp only [List.mem_singleton, Option.some.injEq] at hmem
        exact .inr hmem
    refine ⟨h.rows, ?_, ?_⟩
    · intro j u hu
      rcases hnew j u hu with hold | rfl
      · exact h.threads j u hold
      · have hstart : D job m.db [] [] .start W.start := hD.start hcond
        exact ⟨.start, W.start, Thread.sound_start env job, W.obeyed job, hstart⟩
    · intro j₁ j₂ t₁ t₂ h₁ h₂ hne
      rcases hnew j₁ t₁ h₁ with h₁ | rfl
      · rcases hnew j₂ t₂ h₂ with h₂ | rfl
        · exact h.exclusive j₁ j₂ t₁ t₂ h₁ h₂ hne
        · exact List.disjoint_nil_right _
      · exact List.disjoint_nil_left _
  | send i =>
    obtain ⟨th, hth, hstep⟩ := Option.bind_eq_some_iff.mp hstep
    split_ifs at hstep
    obtain ⟨view, hview, hstep⟩ := Option.bind_eq_some_iff.mp hstep
    cases hstep
    refine ⟨h.rows, ?_, h.exclusive.set hth ?_⟩
    · intro j u hu
      rw [Machine.thread_set _ hth] at hu
      split_ifs at hu
      · cases hu
        obtain ⟨ph, x, hsound, hobeys, hfacts⟩ := h.threads i th hth
        exact ⟨ph, x, ⟨hsound.follows, hsound.disciplined, hsound.frame, hsound.wrote,
          hsound.known, hsound.saved⟩, hobeys, hfacts⟩
      · exact h.threads j u hu
    · rintro _ ⟨⟩ a ha
      exact .inl ha
  | answer i skip =>
    obtain ⟨th, hth, hstep⟩ := Option.bind_eq_some_iff.mp hstep
    split at hstep
    · next op k hrest => exact h.answer hD hcond hth hrest hstep
    · cases hstep
  | commit i =>
    obtain ⟨th, hth, hstep⟩ := Option.bind_eq_some_iff.mp hstep
    split at hstep
    · next r hrest =>
      obtain ⟨view, hview, hstep⟩ := Option.bind_eq_some_iff.mp hstep
      cases hstep
      exact h.commit hD hth hrest hview
    · cases hstep
  | abort i =>
    obtain ⟨th, hth, hstep⟩ := Option.bind_eq_some_iff.mp hstep
    cases hstep
    exact h.abort hD hth
  | atomic env op =>
    simp only [Machine.step] at hstep
    split_ifs at hstep with hatomic
    cases hstep
    rcases op.apply_commits env m.db with hsame | hcommit
    · rw [hsame]
      exact h
    · obtain ⟨hrows, hfacts⟩ := hD.atomic hatomic h.rows hcommit
      refine ⟨hrows, ?_, h.exclusive.congr rfl⟩
      intro j u hu
      have hold : m.thread j = some u := (Machine.thread_congr rfl j).trans hu
      obtain ⟨ph, x, hsound, hobeys, hfact⟩ := h.threads j u hold
      exact ⟨ph, x, hsound, hobeys, hfacts _ _ _ _ _ hfact⟩

theorem Machine.relies_initial {accounts : Table Account} {apiKeys : Table APIKey}
    {costRules : Table CostRule} {capacity : SystemCapacityConfig}
    (hinitial : I (StoreState.initial accounts apiKeys costRules capacity).db []) :
    Machine.Relies W I D (.initial accounts apiKeys costRules capacity) := by
  refine ⟨hinitial, ?_, ?_⟩
  · intro i th hth
    cases hth
  · intro i j th th' hth
    cases hth

/-- The rule for interleaved transactions: in a run whose steps all meet the
condition, the facts hold in every state reached. -/
theorem Reliance.relies (hD : Reliance W cond I D) {accounts : Table Account}
    {apiKeys : Table APIKey} {costRules : Table CostRule} {capacity : SystemCapacityConfig}
    (hinitial : I (StoreState.initial accounts apiKeys costRules capacity).db [])
    (h : (readCommitted.restrict cond).Reachable (.initial accounts apiKeys costRules capacity) m) :
    m.Relies W I D := by
  refine h.invariant (I := Machine.Relies W I D) ?_ (Machine.relies_initial hinitial)
  rintro m₁ a m₂ ⟨hstep, hcond⟩ hm
  exact hm.step hD hcond hstep

/-- The rule where every step is allowed. -/
theorem Reliance.relies_always (hD : Reliance W (fun _ _ => True) I D) {accounts : Table Account}
    {apiKeys : Table APIKey} {costRules : Table CostRule} {capacity : SystemCapacityConfig}
    (hinitial : I (StoreState.initial accounts apiKeys costRules capacity).db [])
    (h : readCommitted.Reachable (.initial accounts apiKeys costRules capacity) m) :
    m.Relies W I D := by
  refine h.invariant (I := Machine.Relies W I D) ?_ (Machine.relies_initial hinitial)
  intro m₁ a m₂ hstep hm
  exact hm.step hD trivial hstep

theorem Reliance.reachable (hD : Reliance W cond I D) {accounts : Table Account}
    {apiKeys : Table APIKey} {costRules : Table CostRule} {capacity : SystemCapacityConfig}
    (hinitial : I (StoreState.initial accounts apiKeys costRules capacity).db [])
    (h : (readCommitted.restrict cond).Reachable (.initial accounts apiKeys costRules capacity) m) :
    I m.db m.replies :=
  (hD.relies hinitial h).rows

/-- What a step does to the committed rows. -/
theorem Machine.step_db {a : Act} (hstep : m.step a = some m') :
    m'.db = m.db ∨
    (∃ i th r v, m.thread i = some th ∧ th.rest = .ret (.commit r) ∧ th.view m.db = some v ∧
      m' = ⟨v, m.threads.set i none, m.replies ++ [(th.job, .ok r)]⟩) ∨
    ∃ (env : Env) (op : Operation), op.atomic = true ∧ op.Commits env m.db m'.db := by
  cases a with
  | begin env job =>
    cases hstep
    exact .inl rfl
  | send i =>
    obtain ⟨th, hth, hstep⟩ := Option.bind_eq_some_iff.mp hstep
    split_ifs at hstep
    obtain ⟨view, hview, hstep⟩ := Option.bind_eq_some_iff.mp hstep
    cases hstep
    exact .inl rfl
  | answer i skip =>
    obtain ⟨th, hth, hstep⟩ := Option.bind_eq_some_iff.mp hstep
    split at hstep
    · obtain ⟨snapshot, view, r, -, rfl⟩ := Machine.answers_of_answer hstep
      exact .inl rfl
    · cases hstep
  | commit i =>
    obtain ⟨th, hth, hstep⟩ := Option.bind_eq_some_iff.mp hstep
    split at hstep
    · next r hrest =>
      obtain ⟨view, hview, hstep⟩ := Option.bind_eq_some_iff.mp hstep
      cases hstep
      exact .inr (.inl ⟨i, th, r, view, hth, hrest, hview, rfl⟩)
    · cases hstep
  | abort i =>
    obtain ⟨th, hth, hstep⟩ := Option.bind_eq_some_iff.mp hstep
    cases hstep
    exact .inl rfl
  | atomic env op =>
    simp only [Machine.step] at hstep
    split_ifs at hstep with hatomic
    cases hstep
    rcases op.apply_commits env m.db with hsame | hcommits
    · exact .inl hsame
    · exact .inr (.inr ⟨env, op, hatomic, hcommits⟩)

end Rule

end GenerationGateway
