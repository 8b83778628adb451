import GenerationGateway.Accounts.Balances

/-!
# The fence of the balance refreshes

Whatever the interleaving, only the refresh that took the latest version writes the
balance columns. Whether its balance is newer than the one it replaces depends on the
path: Leonardo's refreshes ask the provider after they took their version, the others
before.
-/

namespace GenerationGateway.Refresh

open Relational Transitions Effects

section Fencing

variable {id : UUID}

/-- What a run has done, beside the accounts. -/
structure RefreshRun.Sound (id : UUID) (s : Balances) (run : RefreshRun) : Prop where
  obeys : run.rest.Obeys (balanceOrder run.path) run.notes fun _ _ => True
  issued : ∀ version, run.notes.version = some version → ∃ f, s.fence id = some f ∧
    version ≤ f.refreshVersion ∧ (version = f.refreshVersion → run.issuedAt = s.begunAt)
  ordered : run.notes.ordered = true → run.issuedAt < run.readAt
  issuedAt : run.issuedAt < s.clock
  readAt : run.readAt < s.clock

/-- The stored balance is what its refresh read, less the charges since. -/
structure Origin.Sound (id : UUID) (s : Balances) (o : Origin) : Prop where
  balance : ∃ f credits, s.fence id = some f ∧ o.credits = some credits ∧
    f.columns.credits = o.charges.foldr SessionAccount.Credits.charge credits ∧
    f.columns.snapshotVersion = o.version ∧
    (o.version = f.refreshVersion ∨ o.readAt < s.begunAt)
  readAt : o.readAt < s.clock
  written : ∀ i run, s.runs i = some run → run.notes.version = some o.version →
    run.notes.written = true

structure Balances.Sound (id : UUID) (s : Balances) : Prop where
  begun : s.begunAt < s.clock
  snapshot : ∀ f, s.fence id = some f → f.columns.snapshotVersion ≤ f.refreshVersion
  runs : ∀ i run, s.runs i = some run → run.Sound id s
  distinct : ∀ i j run run' version, s.runs i = some run → s.runs j = some run' →
    run.notes.version = some version → run'.notes.version = some version → i = j
  stored : ∀ o, s.stored = some o → o.Sound id s

theorem Balances.Initial.sound {s : Balances} (h : s.Initial id) : s.Sound id where
  begun := h.begun
  snapshot := h.snapshot
  runs := by simp [h.runs]
  distinct := by simp [h.runs]
  stored := by simp [h.stored]

/-! ### Steps that leave the fence alone -/

/-- The next state has the same fence, stored balance and version, and a later clock. -/
structure Balances.Keeps (id : UUID) (s s' : Balances) : Prop where
  fence : s'.fence id = s.fence id
  stored : s'.stored = s.stored
  begunAt : s'.begunAt = s.begunAt
  clock : s.clock ≤ s'.clock

theorem RefreshRun.Sound.keeps {s s' : Balances} (hkeeps : s.Keeps id s') {run : RefreshRun}
    (h : run.Sound id s) : run.Sound id s' where
  obeys := h.obeys
  issued := by
    rw [hkeeps.fence, hkeeps.begunAt]
    exact h.issued
  ordered := h.ordered
  issuedAt := h.issuedAt.trans_le hkeeps.clock
  readAt := h.readAt.trans_le hkeeps.clock

/-- A step that changes one run, and leaves its version and what it wrote as they were. -/
theorem Balances.Sound.keeps {s s' : Balances} (h : s.Sound id) (hkeeps : s.Keeps id s')
    (hruns : ∀ i run', s'.runs i = some run' → run'.Sound id s' ∧
      (run'.notes.version = none ∨ ∃ run, s.runs i = some run ∧
        run'.notes.version = run.notes.version ∧ (run.notes.written → run'.notes.written))) :
    s'.Sound id where
  begun := by
    rw [hkeeps.begunAt]
    exact h.begun.trans_le hkeeps.clock
  snapshot := by
    rw [hkeeps.fence]
    exact h.snapshot
  runs := fun i run' hrun' => (hruns i run' hrun').1
  distinct := by
    intro i j run run' version hi hj hv hv'
    rcases (hruns i run hi).2 with hnone | ⟨before, hbefore, hversion, -⟩
    · rw [hnone] at hv
      cases hv
    · rcases (hruns j run' hj).2 with hnone | ⟨before', hbefore', hversion', -⟩
      · rw [hnone] at hv'
        cases hv'
      · exact h.distinct i j before before' version hbefore hbefore' (hversion ▸ hv)
          (hversion' ▸ hv')
  stored := by
    intro o ho
    rw [hkeeps.stored] at ho
    have hsound := h.stored o ho
    refine ⟨?_, hsound.readAt.trans_le hkeeps.clock, ?_⟩
    · rw [hkeeps.fence, hkeeps.begunAt]
      exact hsound.balance
    · intro i run' hrun' hversion'
      rcases (hruns i run' hrun').2 with hnone | ⟨run, hrun, hversion, hwritten⟩
      · rw [hnone] at hversion'
        cases hversion'
      · exact hwritten (hsound.written i run hrun (hversion ▸ hversion'))

theorem Balances.Sound.keeps_update {s s' : Balances} (h : s.Sound id) (hkeeps : s.Keeps id s')
    {i : ℕ} {x : Option RefreshRun} (hruns : s'.runs = Function.update s.runs i x)
    (hx : ∀ run', x = some run' → run'.Sound id s' ∧
      (run'.notes.version = none ∨ ∃ run, s.runs i = some run ∧
        run'.notes.version = run.notes.version ∧ (run.notes.written → run'.notes.written))) :
    s'.Sound id := by
  refine h.keeps hkeeps fun j run' hrun' => ?_
  rw [hruns] at hrun'
  rcases eq_or_ne j i with rfl | hne
  · rw [Function.update_self] at hrun'
    exact hx run' hrun'
  · rw [Function.update_of_ne hne] at hrun'
    exact ⟨(h.runs j run' hrun').keeps hkeeps, Or.inr ⟨run', hrun', rfl, fun hw => hw⟩⟩

theorem Balances.Sound.start {s : Balances} (h : s.Sound id) (i : ℕ) (path : RefreshPath) :
    ({ s with clock := s.clock + 1, runs := Function.update s.runs i (some (.start path)) } :
      Balances).Sound id := by
  refine h.keeps_update ⟨rfl, rfl, rfl, Nat.le_succ _⟩ rfl fun run' hrun' => ?_
  cases hrun'
  refine ⟨⟨?_, nofun, nofun, Nat.succ_pos _, Nat.succ_pos _⟩, Or.inl rfl⟩
  exact Prog.Obeys.mono path.obeys fun _ _ _ => trivial

theorem Balances.Sound.stop {s : Balances} (h : s.Sound id) (i : ℕ) :
    ({ s with clock := s.clock + 1, runs := Function.update s.runs i none } :
      Balances).Sound id :=
  h.keeps_update ⟨rfl, rfl, rfl, Nat.le_succ _⟩ rfl fun _ hnone => by cases hnone

theorem Balances.Sound.other {s : Balances} (h : s.Sound id) (store : SessionStore) (db : Database)
    (hfence : store.fence id = s.store.fence id) :
    ({ s with store := store, db := db, clock := s.clock + 1 } : Balances).Sound id := by
  have hkeeps : s.Keeps id { s with store := store, db := db, clock := s.clock + 1 } :=
    ⟨hfence, rfl, rfl, Nat.le_succ _⟩
  exact h.keeps hkeeps fun i run hrun =>
    ⟨(h.runs i run hrun).keeps hkeeps, Or.inr ⟨run, hrun, rfl, fun hw => hw⟩⟩

/-! ### A charge -/

theorem Balances.Sound.charge {s : Balances} (h : s.Sound id) (tokens : ℕ) (db : Database)
    (store : SessionStore)
    (hfence : store.fence id = (s.store.fence id).map (Fence.charge tokens)) :
    (s.afterCharge tokens db store).Sound id := by
  have hafter : (s.afterCharge tokens db store).fence id =
      (s.fence id).map (Fence.charge tokens) := hfence
  refine ⟨h.begun.trans (Nat.lt_succ_self _), ?_, ?_, h.distinct, ?_⟩
  · intro f' hf'
    rw [hafter] at hf'
    obtain ⟨f, hf, rfl⟩ := Option.map_eq_some_iff.mp hf'
    simpa using h.snapshot f hf
  · intro i run hrun
    have hsound := h.runs i run hrun
    refine ⟨hsound.obeys, ?_, hsound.ordered, hsound.issuedAt.trans (Nat.lt_succ_self _),
      hsound.readAt.trans (Nat.lt_succ_self _)⟩
    intro version hversion
    obtain ⟨f, hf, hle, hissued⟩ := hsound.issued version hversion
    exact ⟨f.charge tokens, by rw [hafter, hf]; rfl, by simpa using hle, by simpa using hissued⟩
  · intro o' ho'
    obtain ⟨o, ho, rfl⟩ := Option.map_eq_some_iff.mp ho'
    obtain ⟨⟨f, credits, hf, hcredits, hbalance, hsnapshot, hlatest⟩, hread, hwritten⟩ :=
      h.stored o ho
    by_cases hpos : 0 < tokens
    · simp only [Origin.charge, if_pos hpos]
      refine ⟨⟨f.charge tokens, credits, by rw [hafter, hf]; rfl, hcredits, ?_, by simpa using hsnapshot,
        by simpa using hlatest⟩, hread.trans (Nat.lt_succ_self _), hwritten⟩
      rw [Fence.credits_charge, if_pos hpos, hbalance]
      rfl
    · simp only [Origin.charge, if_neg hpos]
      refine ⟨⟨f, credits, ?_, hcredits, hbalance, hsnapshot, hlatest⟩,
        hread.trans (Nat.lt_succ_self _), hwritten⟩
      rw [hafter, hf]
      simp [Fence.charge, hpos]

/-! ### The calls of a run -/

section Calls

variable {s : Balances} {i : ℕ} {run : RefreshRun} {store : SessionStore} {committed : Bool}
  {now : Time}

/-- What the answer to a call leaves to be done keeps the order. -/
theorem RefreshRun.Sound.rest (h : run.Sound id s) {op : RefreshCall}
    {k : op.Res → Prog refreshes (Except RefreshError Unit)} (hrest : run.rest = .call op k) :
    run.notes.Allows run.path op ∧
      ∀ r, (k r).Obeys (balanceOrder run.path) (run.notes.after run.path op r) fun _ _ => True := by
  have hobeys := h.obeys
  rw [hrest] at hobeys
  exact hobeys

theorem RefreshRun.after_path (op : RefreshCall) (r : op.Res)
    (rest : Prog refreshes (Except RefreshError Unit)) : (run.after s op r rest).path = run.path := by
  unfold RefreshRun.after
  split <;> rfl

theorem RefreshRun.after_notes (op : RefreshCall) (r : op.Res)
    (rest : Prog refreshes (Except RefreshError Unit)) :
    (run.after s op r rest).notes = run.notes.after run.path op r := by
  unfold RefreshRun.after
  split <;> rfl

theorem RefreshRun.after_rest (op : RefreshCall) (r : op.Res)
    (rest : Prog refreshes (Except RefreshError Unit)) : (run.after s op r rest).rest = rest := by
  unfold RefreshRun.after
  split <;> rfl

/-- The run after a call, given what the call tells. -/
theorem RefreshRun.Sound.after (h : run.Sound id s) {op : RefreshCall}
    {k : op.Res → Prog refreshes (Except RefreshError Unit)} (hrest : run.rest = .call op k)
    {r : op.Res} {s' : Balances} {run' : RefreshRun} (hrun' : run' = run.after s op r (k r))
    (hissued : ∀ version, run'.notes.version = some version → ∃ f, s'.fence id = some f ∧
      version ≤ f.refreshVersion ∧ (version = f.refreshVersion → run'.issuedAt = s'.begunAt))
    (hordered : run'.notes.ordered = true → run'.issuedAt < run'.readAt)
    (hissuedAt : run'.issuedAt < s'.clock) (hreadAt : run'.readAt < s'.clock) :
    run'.Sound id s' := by
  refine ⟨?_, hissued, hordered, hissuedAt, hreadAt⟩
  rw [hrun', RefreshRun.after_path, RefreshRun.after_notes, RefreshRun.after_rest]
  exact (h.rest hrest).2 r

/-- A call outside the balance protocol, and one whose statement has no effect. -/
theorem Balances.Sound.call_keeps (h : s.Sound id) (hrun : s.runs i = some run) {op : RefreshCall}
    {k : op.Res → Prog refreshes (Except RefreshError Unit)} (hrest : run.rest = .call op k)
    {r : op.Res} (hafter : run.after s op r (k r) = { run with
      notes := run.notes.after run.path op r, rest := k r })
    (hkeeps : s.Keeps id (s.afterCall id i run committed op r (k r) store))
    (hversion : (run.notes.after run.path op r).version = run.notes.version)
    (hordered : (run.notes.after run.path op r).ordered = run.notes.ordered)
    (hwritten : run.notes.written → (run.notes.after run.path op r).written) :
    (s.afterCall id i run committed op r (k r) store).Sound id := by
  have hsound := (h.runs i run hrun).keeps hkeeps
  refine h.keeps_update hkeeps rfl fun run' hrun' => ?_
  cases hrun'
  refine ⟨(h.runs i run hrun).after hrest rfl ?_ ?_ ?_ ?_, Or.inr ⟨run, hrun, ?_, ?_⟩⟩
  · rw [hafter]
    simp only [hversion]
    exact hsound.issued
  · rw [hafter]
    simp only [hordered]
    exact hsound.ordered
  · rw [hafter]
    exact hsound.issuedAt
  · rw [hafter]
    exact hsound.readAt
  · rw [RefreshRun.after_notes, hversion]
  · rw [RefreshRun.after_notes]
    exact hwritten

theorem RefreshCall.Plain.onFence {op : RefreshCall} (hop : op.Plain) (f : Fence) :
    op.onFence committed now f = f := by
  cases op <;> first | rfl | cases hop

theorem RefreshCall.Plain.keeps {op : RefreshCall} (hop : op.Plain) {r : op.Res}
    {rest : Prog refreshes (Except RefreshError Unit)}
    (hanswer : AnsweredBy id now committed s.store store op r) :
    s.Keeps id (s.afterCall id i run committed op r rest store) := by
  refine ⟨?_, ?_, ?_, Nat.le_succ _⟩
  · refine hanswer.fence.trans ?_
    rw [funext (RefreshCall.Plain.onFence hop)]
    exact Option.map_id_apply
  · cases op <;> first | rfl | cases hop
  · cases op <;> first | rfl | cases hop

theorem Balances.Sound.plain (h : s.Sound id) (hrun : s.runs i = some run) {op : RefreshCall}
    {k : op.Res → Prog refreshes (Except RefreshError Unit)} (hrest : run.rest = .call op k)
    {r : op.Res} (hanswer : AnsweredBy id now committed s.store store op r) (hop : op.Plain) :
    (s.afterCall id i run committed op r (k r) store).Sound id := by
  have hnotes : run.notes.after run.path op r = run.notes := by
    cases op <;> first | rfl | cases hop
  have hafter : run.after s op r (k r) =
      { run with notes := run.notes.after run.path op r, rest := k r } := by
    cases op <;> first | rfl | cases hop
  refine h.call_keeps hrun hrest hafter (hop.keeps hanswer) ?_ ?_ ?_
  · rw [hnotes]
  · rw [hnotes]
  · rw [hnotes]
    exact fun hw => hw

/-- Once the next version is issued, an earlier run is outdated. -/
theorem RefreshRun.Sound.outdated {s' : Balances} (h : run.Sound id s)
    (hfence : s'.fence id = (s.fence id).map Fence.next) (hclock : s'.clock = s.clock + 1) :
    run.Sound id s' := by
  refine ⟨h.obeys, ?_, h.ordered, ?_, ?_⟩
  · intro version hversion
    obtain ⟨f, hf, hle, -⟩ := h.issued version hversion
    refine ⟨f.next, by rw [hfence, hf]; rfl, ?_, ?_⟩
    · simp only [Fence.refreshVersion_next]
      omega
    · intro heq
      simp only [Fence.refreshVersion_next] at heq
      omega
  · rw [hclock]
    exact h.issuedAt.trans (Nat.lt_succ_self _)
  · rw [hclock]
    exact h.readAt.trans (Nat.lt_succ_self _)

theorem Origin.Sound.outdated {s' : Balances} {o : Origin} (h : o.Sound id s)
    (hfence : s'.fence id = (s.fence id).map Fence.next) (hclock : s'.clock = s.clock + 1)
    (hbegun : s'.begunAt = s.clock)
    (hruns : ∀ j run', s'.runs j = some run' → run'.notes.version = some o.version →
      s.runs j = some run') : o.Sound id s' := by
  obtain ⟨f, credits, hf, hcredits, hbalance, hsnapshot, -⟩ := h.balance
  refine ⟨⟨f.next, credits, by rw [hfence, hf]; rfl, hcredits, hbalance, hsnapshot, Or.inr ?_⟩,
    ?_, ?_⟩
  · rw [hbegun]
    exact h.readAt
  · rw [hclock]
    exact h.readAt.trans (Nat.lt_succ_self _)
  · intro j run' hrun' hversion
    exact h.written j run' (hruns j run' hrun' hversion) hversion

/-- A version is taken: every version taken before is outdated. -/
theorem Balances.Sound.begins (h : s.Sound id) (hrun : s.runs i = some run)
    {k : Answer ℤ → Prog refreshes (Except RefreshError Unit)}
    (hrest : run.rest = .call .beginAccountBalanceRefresh k) {r : Answer ℤ}
    (hanswer : AnsweredBy id now committed s.store store .beginAccountBalanceRefresh r) :
    (s.afterCall id i run committed .beginAccountBalanceRefresh r (k r) store).Sound id := by
  have hstore := hanswer.fence
  cases committed with
  | false =>
    obtain ⟨rfl, err, rfl⟩ := hanswer
    exact h.call_keeps hrun hrest rfl ⟨rfl, rfl, rfl, Nat.le_succ _⟩ rfl rfl fun hw => hw
  | true =>
    have hsound := h.runs i run hrun
    have hfirst : run.notes.version = none := (hsound.rest hrest).1
    generalize hs' : s.afterCall id i run true .beginAccountBalanceRefresh r (k r) store = s'
    have hfence : s'.fence id = (s.fence id).map Fence.next := by
      rw [← hs']
      exact hstore
    have hclock : s'.clock = s.clock + 1 := by rw [← hs']; rfl
    have hbegun : s'.begunAt = s.clock := by rw [← hs']; rfl
    have hstored : s'.stored = s.stored := by rw [← hs']; rfl
    have hruns : s'.runs = Function.update s.runs i
        (some (run.after s .beginAccountBalanceRefresh r (k r))) := by rw [← hs']; rfl
    have hold : ∀ j run', s'.runs j = some run' → j ≠ i → s.runs j = some run' := by
      intro j run' hrun' hne
      rwa [hruns, Function.update_of_ne hne] at hrun'
    -- the version of the run, where it learnt one, is larger than every earlier one
    have hnew : ∀ run', s'.runs i = some run' → ∀ version, run'.notes.version = some version →
        ∃ f, s.fence id = some f ∧ version = f.refreshVersion + 1 ∧ run'.issuedAt = s.clock := by
      intro run' hrun' version hversion
      rw [hruns, Function.update_self] at hrun'
      cases hrun'
      cases r with
      | error err =>
        rw [RefreshRun.after_notes] at hversion
        exact absurd (hfirst.symm.trans hversion) nofun
      | ok taken =>
        obtain ⟨-, f, hf, htaken⟩ := hanswer.begun rfl
        cases hversion
        exact ⟨f, hf, htaken, rfl⟩
    have holder : ∀ j run', s.runs j = some run' → ∀ version, run'.notes.version = some version →
        ∀ f, s.fence id = some f → version ≠ f.refreshVersion + 1 := by
      intro j run' hrun' version hversion f hf heq
      obtain ⟨f', hf', hle, -⟩ := (h.runs j run' hrun').issued version hversion
      cases hf.symm.trans hf'
      omega
    refine ⟨?_, ?_, ?_, ?_, ?_⟩
    · rw [hbegun, hclock]
      exact Nat.lt_succ_self _
    · intro f' hf'
      rw [hfence] at hf'
      obtain ⟨f, hf, rfl⟩ := Option.map_eq_some_iff.mp hf'
      have hle := h.snapshot f hf
      simp only [Fence.refreshVersion_next, Fence.columns_next]
      omega
    · intro j run' hrun'
      by_cases hj : j = i
      · subst hj
        have hnew := hnew run' hrun'
        rw [hruns, Function.update_self] at hrun'
        refine hsound.after hrest (r := r) (Option.some.inj hrun').symm ?_ ?_ ?_ ?_
        · intro version hversion
          obtain ⟨f, hf, heq, hissued⟩ := hnew version hversion
          refine ⟨f.next, by rw [hfence, hf]; rfl, heq.le, fun _ => ?_⟩
          rw [hissued, hbegun]
        · cases hrun'
          cases r with
          | error err => exact hsound.ordered
          | ok taken => exact nofun
        · cases hrun'
          rw [hclock]
          cases r with
          | error err => exact hsound.issuedAt.trans (Nat.lt_succ_self _)
          | ok taken => exact Nat.lt_succ_self _
        · cases hrun'
          rw [hclock]
          cases r <;> exact hsound.readAt.trans (Nat.lt_succ_self _)
      · exact (h.runs j run' (hold j run' hrun' hj)).outdated hfence hclock
    · intro j j' run₁ run₂ version h₁ h₂ hv₁ hv₂
      by_cases hj : j = i <;> by_cases hj' : j' = i
      · rw [hj, hj']
      · subst hj
        obtain ⟨f, hf, heq, -⟩ := hnew run₁ h₁ version hv₁
        exact absurd heq (holder j' run₂ (hold j' run₂ h₂ hj') version hv₂ f hf)
      · subst hj'
        obtain ⟨f, hf, heq, -⟩ := hnew run₂ h₂ version hv₂
        exact absurd heq (holder j run₁ (hold j run₁ h₁ hj) version hv₁ f hf)
      · exact h.distinct j j' run₁ run₂ version (hold j run₁ h₁ hj) (hold j' run₂ h₂ hj') hv₁ hv₂
    · intro o ho
      rw [hstored] at ho
      refine (h.stored o ho).outdated hfence hclock hbegun fun j run' hrun' hversion => ?_
      by_cases hj : j = i
      · subst hj
        obtain ⟨f, hf, heq, -⟩ := hnew run' hrun' o.version hversion
        obtain ⟨f', -, hf', -, -, hsnapshot, -⟩ := (h.stored o ho).balance
        cases hf.symm.trans hf'
        have hle := h.snapshot f hf
        omega
      · exact hold j run' hrun' hj

/-- The provider reads the balance. -/
theorem Balances.Sound.reads (h : s.Sound id) (hrun : s.runs i = some run) {token : String}
    {k : Answer SessionAccount.Credits → Prog refreshes (Except RefreshError Unit)}
    (hrest : run.rest = .call (.readBalance token) k) {r : Answer SessionAccount.Credits}
    (hanswer : AnsweredBy id now committed s.store store (.readBalance token) r) :
    (s.afterCall id i run committed (.readBalance token) r (k r) store).Sound id := by
  obtain rfl : store = s.store := hanswer
  have hkeeps : s.Keeps id (s.afterCall id i run committed (.readBalance token) r (k r) s.store) :=
    ⟨rfl, rfl, rfl, Nat.le_succ _⟩
  cases r with
  | error err => exact h.call_keeps hrun hrest rfl hkeeps rfl rfl fun hw => hw
  | ok credits =>
    have hsound := (h.runs i run hrun).keeps hkeeps
    refine h.keeps_update hkeeps rfl fun run' hrun' => ?_
    cases hrun'
    refine ⟨(h.runs i run hrun).after hrest rfl hsound.issued ?_ hsound.issuedAt ?_,
      Or.inr ⟨run, hrun, rfl, fun hw => hw⟩⟩
    · intro hordered
      exact (h.runs i run hrun).issuedAt
    · exact Nat.lt_succ_self _

/-- What a statement that writes the balance does. -/
structure RefreshCall.WritesAs (op : RefreshCall) (version : ℤ) (startedAt : Time)
    (credits : SessionAccount.Credits) : Prop where
  writes : op.writes = some version
  onFence : ∀ committed now f, op.onFence committed now f =
    if committed then f.write now version startedAt credits else f
  after : ∀ (s : Balances) (run : RefreshRun) (r : op.Res) rest, run.after s op r rest =
    { run with notes := { run.notes with written := true }, rest := rest }
  notes : ∀ path (n : Notes) (r : op.Res), n.after path op r = { n with written := true }
  begun : ∀ (s : Balances) committed, s.begunAfter committed op = s.begunAt

theorem RefreshCall.writesAs_of_allows {op : RefreshCall} {version : ℤ} {path : RefreshPath}
    {n : Notes} (hwrites : op.writes = some version) (hallows : n.Allows path op) :
    ∃ startedAt credits, op.WritesAs version startedAt credits ∧ n.MayWrite path version credits := by
  cases op with
  | updateAccountTokens v startedAt credits =>
    cases hwrites
    exact ⟨startedAt, credits, ⟨rfl, fun _ _ _ => rfl, fun _ _ _ _ => rfl, fun _ _ _ => rfl,
      fun _ _ => rfl⟩, hallows⟩
  | updateAccountSession v token expiry startedAt credits =>
    cases hwrites
    exact ⟨startedAt, credits, ⟨rfl, fun _ _ _ => rfl, fun _ _ _ _ => rfl, fun _ _ _ => rfl,
      fun _ _ => rfl⟩, hallows⟩
  | _ => cases hwrites

theorem Balances.current_iff {version : ℤ} :
    s.current id version = true ↔ ∃ f, s.fence id = some f ∧ f.refreshVersion = version := by
  simp [Balances.current, Option.any_eq_true]

theorem Balances.originAfter_of_writes {op : RefreshCall} {version : ℤ}
    (hwrites : op.writes = some version) :
    s.originAfter id run committed op = if committed && s.current id version then
      some ⟨version, run.issuedAt, run.readAt, run.notes.credits, run.chargedBefore, []⟩
    else s.stored := by
  simp only [Balances.originAfter, hwrites]

/-- A statement that finds its version outdated, or does not commit, leaves the fence alone. -/
theorem RefreshCall.WritesAs.keeps {op : RefreshCall} {version : ℤ} {startedAt : Time}
    {credits : SessionAccount.Credits} (hop : op.WritesAs version startedAt credits) {r : op.Res}
    {rest : Prog refreshes (Except RefreshError Unit)}
    (hanswer : AnsweredBy id now committed s.store store op r)
    (hvoid : (committed && s.current id version) = false) :
    s.Keeps id (s.afterCall id i run committed op r rest store) := by
  refine ⟨?_, ?_, hop.begun s committed, Nat.le_succ _⟩
  · refine hanswer.fence.trans ?_
    show (s.fence id).map _ = s.fence id
    cases hf : s.fence id with
    | none => rfl
    | some f =>
      rw [Option.map_some, hop.onFence]
      cases committed with
      | false => rfl
      | true =>
        have hversion : f.refreshVersion ≠ version := by
          intro heq
          have hcurrent : s.current id version = true := Balances.current_iff.mpr ⟨f, hf, heq⟩
          simp [hcurrent] at hvoid
        simp [Fence.write, hversion]
  · show s.originAfter id run committed op = s.stored
    rw [Balances.originAfter_of_writes hop.writes, hvoid]
    rfl

/-- A run writes the balance. -/
theorem Balances.Sound.writes (h : s.Sound id) (hrun : s.runs i = some run) {op : RefreshCall}
    {k : op.Res → Prog refreshes (Except RefreshError Unit)} (hrest : run.rest = .call op k)
    {r : op.Res} (hanswer : AnsweredBy id now committed s.store store op r) {version : ℤ}
    (hwrites : op.writes = some version) :
    (s.afterCall id i run committed op r (k r) store).Sound id := by
  have hsound := h.runs i run hrun
  obtain ⟨startedAt, credits, hop, hmay⟩ := RefreshCall.writesAs_of_allows hwrites
    (hsound.rest hrest).1
  by_cases heffective : (committed && s.current id version) = true
  swap
  · rw [Bool.not_eq_true] at heffective
    refine h.call_keeps hrun hrest ?_ (hop.keeps hanswer heffective) ?_ ?_ ?_
    · rw [hop.after, hop.notes]
    · rw [hop.notes]
    · rw [hop.notes]
    · rw [hop.notes]
      exact fun _ => rfl
  · obtain ⟨hcommitted, hcurrent⟩ := Bool.and_eq_true_iff.mp heffective
    obtain ⟨f, hf, hversion⟩ := Balances.current_iff.mp hcurrent
    subst hcommitted
    have hstore := hanswer.fence
    generalize hs' : s.afterCall id i run true op r (k r) store = s'
    have hfence : s'.fence id =
        some { f with columns := ⟨credits, some now, version, some startedAt⟩ } := by
      rw [← hs']
      refine hstore.trans ?_
      show (s.fence id).map _ = _
      rw [hf, Option.map_some, hop.onFence]
      simp [Fence.write, hversion]
    have hclock : s'.clock = s.clock + 1 := by rw [← hs']; rfl
    have hbegun : s'.begunAt = s.begunAt := by rw [← hs']; exact hop.begun s true
    have hstored : s'.stored =
        some ⟨version, run.issuedAt, run.readAt, some credits, run.chargedBefore, []⟩ := by
      rw [← hs']
      show s.originAfter id run true op = _
      rw [Balances.originAfter_of_writes hwrites, heffective, hmay.credits]
      rfl
    have hruns : s'.runs = Function.update s.runs i
        (some { run with notes := { run.notes with written := true }, rest := k r }) := by
      rw [← hs', ← hop.after s run r (k r)]
      rfl
    have hold : ∀ j run', s'.runs j = some run' → ∃ before, s.runs j = some before ∧
        run'.notes.version = before.notes.version ∧ run'.issuedAt = before.issuedAt ∧
        (j ≠ i → run' = before) ∧ (j = i → run'.notes.written = true) := by
      intro j run' hrun'
      rw [hruns] at hrun'
      by_cases hj : j = i
      · subst hj
        rw [Function.update_self] at hrun'
        cases hrun'
        exact ⟨run, hrun, rfl, rfl, fun hne => absurd rfl hne, fun _ => rfl⟩
      · rw [Function.update_of_ne hj] at hrun'
        exact ⟨run', hrun', rfl, rfl, fun _ => rfl, fun heq => absurd heq hj⟩
    -- the version of a run stays as new as it was
    have hissued : ∀ before : RefreshRun, before.Sound id s → ∀ v, before.notes.version = some v →
        ∃ f', s'.fence id = some f' ∧ v ≤ f'.refreshVersion ∧
          (v = f'.refreshVersion → before.issuedAt = s'.begunAt) := by
      intro before hbefore v hv
      obtain ⟨f', hf', hle, hlatest⟩ := hbefore.issued v hv
      cases hf.symm.trans hf'
      refine ⟨_, hfence, hle, ?_⟩
      rw [hbegun]
      exact hlatest
    refine ⟨?_, ?_, ?_, ?_, ?_⟩
    · rw [hbegun, hclock]
      exact h.begun.trans (Nat.lt_succ_self _)
    · intro f' hf'
      cases hfence.symm.trans hf'
      exact hversion.ge
    · intro j run' hrun'
      rw [hruns] at hrun'
      by_cases hj : j = i
      · subst hj
        rw [Function.update_self] at hrun'
        cases hrun'
        refine hsound.after hrest (hop.after s run r (k r)).symm (hissued run hsound)
          hsound.ordered ?_ ?_
        · rw [hclock]
          exact hsound.issuedAt.trans (Nat.lt_succ_self _)
        · rw [hclock]
          exact hsound.readAt.trans (Nat.lt_succ_self _)
      · rw [Function.update_of_ne hj] at hrun'
        have hbefore := h.runs j run' hrun'
        refine ⟨hbefore.obeys, hissued run' hbefore, hbefore.ordered, ?_, ?_⟩
        · rw [hclock]
          exact hbefore.issuedAt.trans (Nat.lt_succ_self _)
        · rw [hclock]
          exact hbefore.readAt.trans (Nat.lt_succ_self _)
    · intro j j' run₁ run₂ v h₁ h₂ hv₁ hv₂
      obtain ⟨before₁, hb₁, heq₁, -⟩ := hold j run₁ h₁
      obtain ⟨before₂, hb₂, heq₂, -⟩ := hold j' run₂ h₂
      exact h.distinct j j' before₁ before₂ v hb₁ hb₂ (heq₁ ▸ hv₁) (heq₂ ▸ hv₂)
    · intro o ho
      cases hstored.symm.trans ho
      refine ⟨⟨_, credits, hfence, rfl, rfl, rfl, Or.inl hversion.symm⟩, ?_, ?_⟩
      · rw [hclock]
        exact hsound.readAt.trans (Nat.lt_succ_self _)
      · intro j run' hrun' hv
        obtain ⟨before, hbefore, heq, -, -, hwritten⟩ := hold j run' hrun'
        exact hwritten (h.distinct j i before run version hbefore hrun (heq ▸ hv) hmay.version)

theorem BalanceStep.sound {s' : Balances} {act : BalanceAct} (hstep : BalanceStep id s act s')
    (h : s.Sound id) : s'.Sound id := by
  cases hstep with
  | start i path hfree => exact h.start i path
  | call i committed now r store hrun hrest hanswer =>
    rename_i run op k
    cases hop : op.writes with
    | some version => exact h.writes hrun hrest hanswer hop
    | none =>
      cases op with
      | beginAccountBalanceRefresh => exact h.begins hrun hrest hanswer
      | readBalance token => exact h.reads hrun hrest hanswer
      | updateAccountTokens => cases hop
      | updateAccountSession => cases hop
      | _ => exact h.plain hrun hrest hanswer rfl
  | stop i => exact h.stop i
  | complete env taskID leaseID accountID generationID result tokensAfter hcomplete =>
    exact h.charge _ _ _ (adopt_fence hcomplete)
  | other store db hfence => exact h.other store db hfence

end Calls

/-! ### The fence over a run -/

/-- The run that is about to write the balance, and the version with which it does. -/
def Balances.writing (s : Balances) (i : ℕ) : Option (RefreshRun × ℤ) :=
  (s.runs i).bind fun run =>
    match run.rest with
    | .call op _ => op.writes.map fun version => (run, version)
    | .ret _ => none

/-- A refresh that asked the provider before it took its version writes the balance. -/
def Balances.readsLate (id : UUID) (s : Balances) : BalanceAct → Bool
  | .call i committed _ => committed && (s.writing i).any fun (run, version) =>
      run.path.readsFirst && s.current id version
  | _ => false

/-- What the fence promises of a step. -/
structure FencedStep (id : UUID) (s : Balances) (act : BalanceAct) (s' : Balances) : Prop where
  /-- The stored balance was read after its version had been issued. -/
  source : ∀ o, s'.stored = some o → o.issuedAt < o.readAt ∧
    ∃ f credits, s'.fence id = some f ∧ o.credits = some credits ∧
      f.columns.credits = o.charges.foldr SessionAccount.Credits.charge credits ∧
      f.columns.snapshotVersion = o.version
  /-- A refresh whose version is no longer the latest changes no balance column. -/
  overtaken : ∀ i committed now run version f, act = .call i committed now →
    s.runs i = some run → run.notes.version = some version → s.fence id = some f →
    version < f.refreshVersion → ∃ f', s'.fence id = some f' ∧ f'.columns = f.columns
  snapshot : ∀ f f', s.fence id = some f → s'.fence id = some f' →
    f.columns.snapshotVersion ≤ f'.columns.snapshotVersion
  /-- A balance read earlier does not replace a balance read later. -/
  reads : ∀ o o', s.stored = some o → s'.stored = some o' → o.readAt ≤ o'.readAt

/-- Every stored balance was read under its version. -/
def Balances.ReadInOrder (s : Balances) : Prop :=
  ∀ o, s.stored = some o → o.issuedAt < o.readAt

section Steps

variable {s s' : Balances} {act : BalanceAct}

/-- What an act charges the account. -/
def Balances.charges (id : UUID) (s : Balances) : BalanceAct → ℕ
  | .complete _ taskID _ accountID _ _ _ => s.chargeOf id taskID accountID
  | _ => 0

/-- What a step does to the stored balance. -/
inductive Balances.Stores (id : UUID) (s : Balances) (act : BalanceAct) (s' : Balances) : Prop
  /-- The balance keeps its source, less what the act charges. -/
  | kept (hstored : s'.stored = s.stored.map (Origin.charge (s.charges id act)))
      (hcharged : s'.charged = s.charged + s.charges id act)
      (hfence : ∀ f, s.fence id = some f → ∃ f', s'.fence id = some f' ∧
        f'.columns = (f.charge (s.charges id act)).columns)
  /-- A run writes what it read. -/
  | written (i : ℕ) (now : Time) (run : RefreshRun) (f f' : Fence)
      (hact : act = .call i true now) (hrun : s.runs i = some run)
      (hfence : s.fence id = some f) (hversion : run.notes.version = some f.refreshVersion)
      (honce : run.notes.written = false) (hordered : run.notes.ordered = !run.path.readsFirst)
      (hwriting : s.writing i = some (run, f.refreshVersion))
      (hfence' : s'.fence id = some f') (hsnapshot : f'.columns.snapshotVersion = f.refreshVersion)
      (hcredits : run.notes.credits = some f'.columns.credits) (hcharged : s'.charged = s.charged)
      (hstored : s'.stored = some
        ⟨f.refreshVersion, run.issuedAt, run.readAt, run.notes.credits, run.chargedBefore, []⟩)

theorem Balances.map_charge_zero (x : Option Origin) : x.map (Origin.charge 0) = x := by
  cases x <;> rfl

theorem Balances.Stores.of_columns (hact : s.charges id act = 0) (hstored : s'.stored = s.stored)
    (hcharged : s'.charged = s.charged)
    (hfence : ∀ f, s.fence id = some f → ∃ f', s'.fence id = some f' ∧ f'.columns = f.columns) :
    s.Stores id act s' := by
  refine .kept ?_ ?_ ?_
  · rw [hact, hstored, Balances.map_charge_zero]
  · rw [hact, hcharged, Nat.add_zero]
  · rw [hact]
    exact hfence

theorem Balances.Keeps.stores (h : s.Keeps id s') (hact : s.charges id act = 0)
    (hcharged : s'.charged = s.charged) : s.Stores id act s' :=
  .of_columns hact h.stored hcharged fun f hf => ⟨f, h.fence.trans hf, rfl⟩

theorem BalanceStep.stores (hstep : BalanceStep id s act s') (h : s.Sound id) :
    s.Stores id act s' := by
  cases hstep with
  | start i path hfree => exact Balances.Keeps.stores ⟨rfl, rfl, rfl, Nat.le_succ _⟩ rfl rfl
  | stop i => exact Balances.Keeps.stores ⟨rfl, rfl, rfl, Nat.le_succ _⟩ rfl rfl
  | other store db hfence => exact Balances.Keeps.stores ⟨hfence, rfl, rfl, Nat.le_succ _⟩ rfl rfl
  | complete env taskID leaseID accountID generationID result tokensAfter hcomplete =>
    refine .kept rfl rfl fun f hf => ⟨_, (adopt_fence hcomplete).trans ?_, rfl⟩
    rw [show s.store.fence id = some f from hf]
    rfl
  | call i committed now r store hrun hrest hanswer =>
    rename_i run op k
    have hsound := h.runs i run hrun
    cases hwrites : op.writes with
    | some version =>
      obtain ⟨startedAt, credits, hop, hmay⟩ := RefreshCall.writesAs_of_allows hwrites
        (hsound.rest hrest).1
      by_cases heffective : (committed && s.current id version) = true
      · obtain ⟨rfl, hcurrent⟩ := Bool.and_eq_true_iff.mp heffective
        obtain ⟨f, hf, rfl⟩ := Balances.current_iff.mp hcurrent
        have hfence : (s.afterCall id i run true op r (k r) store).fence id =
            some (f.write now f.refreshVersion startedAt credits) := by
          refine hanswer.fence.trans ?_
          rw [show s.store.fence id = some f from hf, Option.map_some, hop.onFence]
          rfl
        refine .written i now run f _ rfl hrun hf hmay.version hmay.once hmay.ordered ?_ hfence ?_ ?_
          rfl ?_
        · simp [Balances.writing, hrun, hrest, hwrites]
        · simp [Fence.write]
        · simp [Fence.write, hmay.credits]
        · show s.originAfter id run true op = _
          rw [Balances.originAfter_of_writes hwrites, heffective]
          rfl
      · rw [Bool.not_eq_true] at heffective
        exact (hop.keeps hanswer heffective).stores rfl rfl
    | none =>
      have hstored : (s.afterCall id i run committed op r (k r) store).stored = s.stored := by
        show s.originAfter id run committed op = s.stored
        simp only [Balances.originAfter, hwrites]
      refine .of_columns rfl hstored rfl fun f hf => ⟨op.onFence committed now f, ?_, ?_⟩
      · refine hanswer.fence.trans ?_
        rw [show s.store.fence id = some f from hf]
        rfl
      · cases op with
        | beginAccountBalanceRefresh => cases committed <;> rfl
        | updateAccountTokens => cases hwrites
        | updateAccountSession => cases hwrites
        | _ => rfl

/-- The step keeps the order of the reads, unless it is a late one. -/
theorem Balances.Stores.readInOrder (hstores : s.Stores id act s') (h : s.Sound id)
    (hlate : s.readsLate id act = false) (hin : s.ReadInOrder) : s'.ReadInOrder := by
  intro o' ho'
  cases hstores with
  | kept hstored =>
    rw [hstored] at ho'
    obtain ⟨o, ho, rfl⟩ := Option.map_eq_some_iff.mp ho'
    have hbefore := hin o ho
    unfold Origin.charge
    split <;> exact hbefore
  | written i now run f f' hact hrun hfence hversion honce hordered hwriting hfence' hsnapshot
      hcredits hcharged hstored =>
    cases hstored.symm.trans ho'
    have hcurrent : s.current id f.refreshVersion = true := Balances.current_iff.mpr ⟨f, hfence, rfl⟩
    have hpath : run.path.readsFirst = false := by
      simpa [hact, Balances.readsLate, hwriting, hcurrent] using hlate
    exact (h.runs i run hrun).ordered (by rw [hordered, hpath]; rfl)

theorem Balances.Stores.fenced (hstores : s.Stores id act s') (h : s.Sound id) (h' : s'.Sound id)
    (hin' : s'.ReadInOrder) : FencedStep id s act s' := by
  refine ⟨?_, ?_, ?_, ?_⟩
  · intro o ho
    obtain ⟨f, credits, hf, hcredits, hbalance, hsnapshot, -⟩ := (h'.stored o ho).balance
    exact ⟨hin' o ho, f, credits, hf, hcredits, hbalance, hsnapshot⟩
  · intro i committed now run version f hact hrun hversion hf hlt
    cases hstores with
    | kept hstored hcharged hfence =>
      subst hact
      exact hfence f hf
    | written j now' run' f' f'' hact' hrun' hfence hversion' =>
      cases hact.symm.trans hact'
      cases hrun.symm.trans hrun'
      cases hf.symm.trans hfence
      cases hversion.symm.trans hversion'
      exact absurd hlt (lt_irrefl _)
  · intro f f' hf hf'
    cases hstores with
    | kept hstored hcharged hfence =>
      obtain ⟨f'', hf'', hcolumns⟩ := hfence f hf
      cases hf'.symm.trans hf''
      rw [hcolumns, Fence.snapshotVersion_charge]
    | written i now run g g' hact hrun hfence hversion honce hordered hwriting hfence' hsnapshot =>
      cases hf.symm.trans hfence
      cases hf'.symm.trans hfence'
      rw [hsnapshot]
      exact h.snapshot f hf
  · intro o o' ho ho'
    cases hstores with
    | kept hstored =>
      rw [hstored, ho] at ho'
      cases ho'
      unfold Origin.charge
      split <;> exact le_rfl
    | written i now run f f' hact hrun hfence hversion honce hordered hwriting hfence' hsnapshot
        hcredits hcharged hstored =>
      cases hstored.symm.trans ho'
      obtain ⟨g, -, hg, -, -, -, hlatest⟩ := (h.stored o ho).balance
      cases hg.symm.trans hfence
      have hafter := hin' _ hstored
      obtain ⟨g, hg, -, hissued⟩ := (h.runs i run hrun).issued _ hversion
      cases hg.symm.trans hfence
      rcases hlatest with heq | hlt
      · have hwritten := (h.stored o ho).written i run hrun (by rw [heq]; exact hversion)
        rw [honce] at hwritten
        cases hwritten
      · rw [← hissued rfl] at hlt
        exact (hlt.trans hafter).le

end Steps

/-- In every run in which no refresh that reads before it takes its version writes a balance
under the latest version, every step is fenced. -/
theorem balance_fenced {id : UUID} {s₀ s s' : Balances} {acts : List BalanceAct} {act : BalanceAct}
    (hinit : s₀.Initial id)
    (hrun : ((balances id).restrict fun s act => s.readsLate id act = false).Run s₀ acts s)
    (hstep : (balances id).step s act s') (hact : s.readsLate id act = false) :
    FencedStep id s act s' := by
  have hinv : s.Sound id ∧ s.ReadInOrder := by
    refine LTS.Run.invariant (I := fun s => s.Sound id ∧ s.ReadInOrder) ?_ hrun
      ⟨hinit.sound, by simp [Balances.ReadInOrder, hinit.stored]⟩
    intro t act t' hstep ht
    have hstores := BalanceStep.stores hstep.1 ht.1
    exact ⟨BalanceStep.sound hstep.1 ht.1, hstores.readInOrder ht.1 hstep.2 ht.2⟩
  have hstores := BalanceStep.stores hstep hinv.1
  exact hstores.fenced hinv.1 (BalanceStep.sound hstep hinv.1)
    (hstores.readInOrder hinv.1 hact hinv.2)

/-- A refresh of a Leonardo balance, alone. -/
theorem balance_fenced_leonardo :
    ∃ s s' : Balances, FencedStep 1 s (.call 0 true 0) s' ∧ s'.stored.map Origin.version = some 1 := by
  have hrun : (LTS.follow (fun s act => s.proceed 1 (openProvider fun _ => 90) act)
      (fun s act => !s.readsLate 1 act) (smallBalances (smallStore ⟨[smallAccount], by decide⟩).db)
      (.start 0 (.leonardoTokens "token") :: List.replicate 7 (.call 0 true 0))).map (fun s =>
        (s.readsLate 1 (.call 0 true 0), (s.proceed 1 (openProvider fun _ => 90)
          (.call 0 true 0)).map fun s' => s'.stored.map Origin.version)) =
      some (false, some (some 1)) := by decide +kernel
  obtain ⟨s, hs, hobserved⟩ := Option.map_eq_some_iff.mp hrun
  obtain ⟨hlate, hnext⟩ := Prod.mk.inj hobserved
  obtain ⟨s', hs', hversion⟩ := Option.map_eq_some_iff.mp hnext
  have hpath : ((balances 1).restrict fun s act => s.readsLate 1 act = false).Run _ _ s :=
    (Balances.run_of_proceed 1 _ hs).mono fun t act t' hstep => by
      simpa [LTS.restrict] using hstep
  exact ⟨s, s', balance_fenced (smallBalances_initial _) hpath (Balances.proceed_step _ _ hs') hlate,
    hversion⟩

/-- Both refreshes have read, the second has stored what it read, and the first has taken a
later version. -/
def staleSchedule : List BalanceAct :=
  [.start 0 (.adobe signedInAdobe false 0), .start 1 (.adobe signedInAdobe false 0)] ++
    List.replicate 4 (.call 0 true 0) ++ List.replicate 7 (.call 1 true 0) ++
    List.replicate 2 (.call 0 true 0)

/-- The first of two Adobe refreshes stores the 90 credits that it read over the 60 that the
second read later. -/
theorem staleBalance_stored :
    ¬ ∀ (s₀ s s' : Balances) (acts : List BalanceAct) (act : BalanceAct), s₀.Initial 1 →
      (balances 1).Run s₀ acts s → (balances 1).step s act s' → FencedStep 1 s act s' := by
  intro hall
  have hrun : (LTS.follow
      (fun s act => s.proceed 1 (openProvider fun n => if n < 8 then 90 else 60) act)
      (fun _ _ => true) (smallBalances (smallStore ⟨[smallAccount], by decide⟩).db)
      staleSchedule).map (fun s => (s.stored.map Origin.readAt,
        (s.proceed 1 (openProvider fun n => if n < 8 then 90 else 60)
          (.call 0 true 0)).map fun s' => s'.stored.map Origin.readAt)) =
      some (some 10, some (some 6)) := by decide +kernel
  obtain ⟨s, hs, hobserved⟩ := Option.map_eq_some_iff.mp hrun
  obtain ⟨hstored, hnext⟩ := Prod.mk.inj hobserved
  obtain ⟨s', hs', hstored'⟩ := Option.map_eq_some_iff.mp hnext
  obtain ⟨o, ho, hlater⟩ := Option.map_eq_some_iff.mp hstored
  obtain ⟨o', ho', hearlier⟩ := Option.map_eq_some_iff.mp hstored'
  have hfenced := hall _ s s' _ _ (smallBalances_initial _)
    (LTS.Run.of_restrict (Balances.run_of_proceed 1 _ hs)) (Balances.proceed_step _ _ hs')
  have hle := hfenced.reads o o' ho ho'
  omega

end Fencing

end GenerationGateway.Refresh
