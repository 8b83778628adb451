import GenerationGateway.Workers.Fleet
import GenerationGateway.Workers.Standing

/-!
# Runs beside the store

The calls of a run are a path of its program, and what they do to the store are steps of
the store. A run claims once, so it holds one lease at most; once it has settled its task
the row does not carry that lease, and no later call under it takes effect.
-/

namespace GenerationGateway

open Relational Transitions Effects

/-! ### What an answer tells -/

/-- An operation under the lease that took effect. -/
def JobCall.effective : (op : JobCall) → op.Res → Bool
  | .owned _, .ok held => held
  | _, _ => false

/-- It failed the task, gave it back or marked it uncertain. -/
def JobCall.settled : (op : JobCall) → op.Res → Bool
  | .owned call, .ok held => call.settles && held
  | _, _ => false

theorem JobCall.effective_of_settled {op : JobCall} {r : op.Res} (h : op.settled r = true) :
    op.effective r = true := by
  cases op with
  | owned call =>
    rcases r with err | held
    · cases h
    · exact (Bool.and_eq_true_iff.mp h).2
  | _ => cases h

/-! ### The operations of a run -/

section Owned

/-- A transaction that may fail, but otherwise commits with `true`. -/
def CommitsTrue (x : Tx (Ending Bool)) : Prop :=
  ∀ db r db', x db = .ok (r, db') → r = .commit true

theorem commitsTrue_pure : CommitsTrue (pure (.commit true)) := by
  intro db r db' h
  exact (pure_eq_ok.mp h).1

theorem CommitsTrue.bind {α : Type} {x : Tx α} {f : α → Tx (Ending Bool)}
    (hf : ∀ a, CommitsTrue (f a)) : CommitsTrue (x >>= f) := by
  intro db r db' h
  obtain ⟨a, db₁, -, h₂⟩ := bind_eq_ok.mp h
  exact hf a db₁ r db' h₂

theorem onRow_rollback {row : Tx (Option Task)} {rest : Task → Tx (Ending Bool)}
    (hrest : ∀ t, CommitsTrue (rest t)) {db db' : Database} {b : Bool}
    (h : onRow row rest db = .ok (.rollback b, db')) : b = false := by
  obtain ⟨x, db₁, -, h₂⟩ := bind_eq_ok.mp h
  cases x with
  | none =>
    have hpure := (pure_eq_ok.mp h₂).1
    cases hpure
    rfl
  | some t => cases hrest t _ _ _ h₂

variable {env : Env} {id leaseID : UUID} {db db' : Database} {b : Bool}

theorem updateTaskOwned_rollback {u : TaskUpdate}
    (h : updateTaskOwned env id leaseID u db = .ok (.rollback b, db')) : b = false := by
  obtain ⟨db₀, db₁, -, h⟩ := bind_eq_ok.mp h
  refine onRow_rollback (fun t => .bind fun _ => ?_) h
  cases u.status.terminal with
  | true => exact .bind fun _ => .bind fun _ => commitsTrue_pure
  | false => exact commitsTrue_pure

/-- An operation that changes nothing reports that it has no lease. -/
theorem OwnedCall.rollback_false {call : OwnedCall}
    (h : call.body env id leaseID db = .ok (.rollback b, db')) : b = false := by
  cases call with
  | renew lease => exact onRow_rollback (fun t => .bind fun _ => commitsTrue_pure) h
  | yield retryAt =>
    exact onRow_rollback (fun t => .bind fun _ => .bind fun _ => .bind fun _ => commitsTrue_pure) h
  | update u issued => exact updateTaskOwned_rollback h
  | prepare accountID request deadline => exact updateTaskOwned_rollback h
  | updateTokens before after => exact onRow_rollback (fun t => commitsTrue_pure) h
  | recordSubmission accountID generationID cost =>
    simp only [body, recordTaskSubmissionOwned] at h
    split_ifs at h with hgen
    · cases h
    · exact onRow_rollback (fun t => commitsTrue_pure) h
  | recordUpstreamStatus known => exact onRow_rollback (fun t => commitsTrue_pure) h
  | complete accountID generationID result tokensAfter =>
    exact onRow_rollback (fun t => .bind fun _ => .bind fun _ => .bind fun _ => commitsTrue_pure) h
  | fail code message details tokensAfter =>
    exact onRow_rollback (fun t => .bind fun _ => .bind fun _ => .bind fun _ => commitsTrue_pure) h
  | failSubmitted code message details =>
    refine onRow_rollback (fun t => ?_) h
    unfold scanAccount
    cases t.accountID with
    | none =>
      intro _ _ _ h
      cases h
    | some account => exact .bind fun _ => .bind fun _ => .bind fun _ => commitsTrue_pure

/-- An operation that settles the task leaves a row without a lease. -/
theorem OwnedCall.row_unleased {call : OwnedCall} (hcall : call.settles = true) (t : Task) :
    (call.row env t).executionLeaseID = none := by
  cases call with
  | yield retryAt => rfl
  | update u issued =>
    have hstatus : u.status = .submissionUncertain := by simpa [settles] using hcall
    simp [row, Task.update, hstatus, TaskStatus.terminal]
  | fail code message details tokensAfter => rfl
  | failSubmitted code message details => rfl
  | _ => cases hcall

end Owned

section Answers

variable {env : Env} {id : UUID} {lease : Option UUID} {call : OwnedCall} {committed : Bool}
  {s s' : StoreState}

/-- Whatever an operation under the lease is answered, it is a step of the store. -/
theorem AnswersOwned.step {r : Except GoError Bool}
    (h : AnswersOwned env id lease call r committed s s') :
    ∃ leaseID, lease = some leaseID ∧ StoreStep s ⟨env, .owned id leaseID call⟩ s' := by
  obtain ⟨leaseID, hlease, hleases, heffect⟩ := h
  refine ⟨leaseID, hlease, by simp [Operation.draws], hleases, ?_⟩
  cases committed with
  | false => exact .inl heffect.1
  | true =>
    obtain ⟨b, hbody, -⟩ := heffect
    exact .inr ⟨b, hbody⟩

/-- An operation that reports success has written its row. -/
theorem AnswersOwned.wrote (h : AnswersOwned env id lease call (.ok true) committed s s') :
    ∃ leaseID t, lease = some leaseID ∧ call.Wrote env id leaseID s.db s'.db t := by
  obtain ⟨leaseID, hlease, -, heffect⟩ := h
  cases committed with
  | true =>
    obtain ⟨b, hbody, -⟩ := heffect
    obtain ⟨t, hwrote⟩ := OwnedCall.wrote hbody
    exact ⟨leaseID, t, hlease, hwrote⟩
  | false =>
    obtain ⟨-, ⟨err, herr⟩ | ⟨b, db, hbody, hb⟩⟩ := heffect
    · cases herr
    · cases hb
      cases OwnedCall.rollback_false hbody

/-- A claim is a step of the store as well, and gives a lease id that is new. -/
theorem AnswersClaim.step {r : Except GoError ClaimResult}
    (h : AnswersClaim env id r committed s s') :
    s' = s ∧ claimedLease r = none ∨
      ∃ policy leaseID lease, StoreStep s ⟨env, .claim policy id leaseID lease⟩ s' ∧
        ∀ leaseID', claimedLease r = some leaseID' → leaseID' = leaseID ∧
          ∃ t, r = .ok ⟨some t, some leaseID, true⟩ ∧ s'.db.tasks.get? id = some t ∧
            t.executionLeaseID = some leaseID ∧ (t.status = .reserving ∨ t.inFlight = true) := by
  cases committed with
  | false =>
    obtain ⟨rfl, hr | ⟨err, hr⟩⟩ := h
    · subst hr
      exact .inl ⟨rfl, rfl⟩
    · subst hr
      exact .inl ⟨rfl, rfl⟩
  | true =>
    obtain ⟨policy, leaseID, lease, result, hfresh, hleases, hends, hr⟩ := h
    refine .inr ⟨policy, leaseID, lease, ⟨?_, hleases, .inr ⟨result, hends⟩⟩, ?_⟩
    · intro L hL
      rwa [List.mem_singleton.mp hL]
    · intro leaseID' hclaimed
      rcases hr with rfl | ⟨err, rfl⟩
      · have hok : result.claimed = true := by
          obtain ⟨t, lease', claimed⟩ := result
          cases claimed with
          | true => rfl
          | false => cases t <;> cases hclaimed
        obtain ⟨t, hresult, hrow, hid, hstatus⟩ := claimTaskOnce_claims hok hends
        subst hresult
        cases hclaimed
        exact ⟨rfl, t, rfl, hrow, hid, hstatus⟩
      · cases hclaimed

end Answers

/-! ### Runs of the fleet -/

section Runs

variable {taskTimeout : Time} {decoder : Decoder} {s s' : Fleet} {a : FleetAct}

/-- What a step of the fleet does to the store. -/
theorem FleetStep.store (h : FleetStep taskTimeout decoder s a s') :
    s'.store = s.store ∨ ∃ e, StoreStep s.store e s'.store := by
  cases h with
  | operate env op hop hstep => exact .inr ⟨_, hstep⟩
  | deliver i ticks hfree htask => exact .inl rfl
  | call i env op r committed k hrun hrest hanswers =>
    cases op with
    | claimTask =>
      rcases hanswers.step with ⟨hsame, -⟩ | ⟨policy, leaseID, lease, hstep, -⟩
      · exact .inl hsame
      · exact .inr ⟨_, hstep⟩
    | owned call =>
      obtain ⟨leaseID, -, hstep⟩ := hanswers.step
      exact .inr ⟨_, hstep⟩
    | getTask => exact .inl hanswers.1
    | _ => exact .inl hanswers
  | renew i env lease hrun hlease hstep => exact .inr ⟨_, hstep⟩
  | crash i => exact .inl rfl

/-- A run after a step was there before, has just started, or has made the call. -/
inductive RunStep (taskTimeout : Time) (decoder : Decoder) (s s' : Fleet) (i : ℕ) : Run → Prop
  | same {run : Run} (hrun : s.runs i = some run) : RunStep taskTimeout decoder s s' i run
  | start (t : Task) (ticks : ℕ) (hstore : s'.store = s.store) :
      RunStep taskTimeout decoder s s' i (.start taskTimeout decoder t.id t.kind ticks)
  | call {run : Run} (env : Env) (op : JobCall) (r : op.Res) (committed : Bool)
      (k : op.Res → Prog jobs (Except Returned Unit)) (hrun : s.runs i = some run)
      (hrest : run.rest = .call op k) (hanswers : Answers env run committed s.store s'.store op r) :
      RunStep taskTimeout decoder s s' i (run.after env op r (k r))

theorem FleetStep.run (h : FleetStep taskTimeout decoder s a s') {i : ℕ} {run : Run}
    (hrun : s'.runs i = some run) : RunStep taskTimeout decoder s s' i run := by
  cases h with
  | operate env op hop hstep => exact .same hrun
  | @deliver t j ticks hfree htask =>
    by_cases hij : i = j
    · subst hij
      simp only [Function.update_self, Option.some.injEq] at hrun
      subst hrun
      exact .start t ticks rfl
    · simp only [Function.update_of_ne hij] at hrun
      exact .same hrun
  | call j env op r committed k hrun' hrest hanswers =>
    by_cases hij : i = j
    · subst hij
      simp only [Function.update_self, Option.some.injEq] at hrun
      subst hrun
      exact .call env op r committed k hrun' hrest hanswers
    · simp only [Function.update_of_ne hij] at hrun
      exact .same hrun
  | renew j env lease hrun' hlease hstep => exact .same hrun
  | crash j =>
    by_cases hij : i = j
    · subst hij
      simp at hrun
    · simp only [Function.update_of_ne hij] at hrun
      exact .same hrun

/-- The calls of a run are a path of its program. -/
def Run.Follows (taskTimeout : Time) (decoder : Decoder) (run : Run) : Prop :=
  ∃ kind ticks, (Worker.processTask taskTimeout ticks decoder kind).run.Path run.calls run.rest

theorem RunStep.follows {i : ℕ} {run : Run} (h : RunStep taskTimeout decoder s s' i run)
    (hs : ∀ run, s.runs i = some run → run.Follows taskTimeout decoder) :
    run.Follows taskTimeout decoder := by
  cases h with
  | same hrun => exact hs _ hrun
  | start t ticks hstore => exact ⟨t.kind, ticks, .nil _⟩
  | call env op r committed k hrun hrest hanswers =>
    obtain ⟨kind, ticks, hpath⟩ := hs _ hrun
    rw [hrest] at hpath
    exact ⟨kind, ticks, hpath.snoc r⟩

/-- The run has settled its task, and the row does not carry its lease any more. -/
def Run.Released (run : Run) (store : StoreState) : Prop :=
  ∀ leaseID, run.lease = some leaseID →
    (store.db.cell run.task).Cleared run.task leaseID

/-- After a settlement no call took effect. -/
def Fenced (calls : List JobEvent) : Prop :=
  ∀ before e after, calls = before ++ e :: after → e.op.settled e.answer = true →
    ∀ f ∈ after, f.op.effective f.answer = false

/-- A run beside the store: its lease has been drawn, and it is fenced once it has settled. -/
structure Run.Sound (taskTimeout : Time) (decoder : Decoder) (run : Run) (store : StoreState) :
    Prop where
  follows : run.Follows taskTimeout decoder
  drawn : ∀ leaseID, run.lease = some leaseID → leaseID ∈ store.leases
  released : (∃ e ∈ run.calls, e.op.settled e.answer = true) → run.Released store
  fenced : Fenced run.calls

theorem cleared_of_step {store store' : StoreState} {e : Event} {id leaseID : UUID}
    (h : StoreStep store e store') (hdrawn : leaseID ∈ store.leases)
    (hcleared : (store.db.cell id).Cleared id leaseID) :
    (store'.db.cell id).Cleared id leaseID :=
  (h.lives id).cleared (h.not_claim hdrawn) hcleared

/-- What the store does beside a run leaves it sound. -/
theorem Run.Sound.mono {run : Run} {store store' : StoreState}
    (h : run.Sound taskTimeout decoder store)
    (hstore : store' = store ∨ ∃ e, StoreStep store e store') :
    run.Sound taskTimeout decoder store' := by
  rcases hstore with rfl | ⟨e, hstep⟩
  · exact h
  · exact ⟨h.follows, fun L hL => hstep.drawn (h.drawn L hL), fun hsettled L hL =>
      cleared_of_step hstep (h.drawn L hL) (h.released hsettled L hL), h.fenced⟩

theorem fenced_snoc {calls : List JobEvent} {e : JobEvent} (h : Fenced calls)
    (he : (∃ f ∈ calls, f.op.settled f.answer = true) → e.op.effective e.answer = false) :
    Fenced (calls ++ [e]) := by
  intro before f after hcalls hf g hg
  rcases List.eq_nil_or_concat' after with rfl | ⟨after, last, rfl⟩
  · cases hg
  · have hsplit : calls ++ [e] = (before ++ f :: after) ++ [last] := by simpa using hcalls
    obtain ⟨rfl, hlast⟩ := List.append_inj' hsplit rfl
    obtain rfl := List.singleton_injective hlast
    rcases List.mem_append.mp hg with hg | hg
    · exact h before f after rfl hf g hg
    · rw [List.mem_singleton.mp hg]
      exact he ⟨f, by simp, hf⟩

/-- An operation that takes effect finds its lease on the row. -/
theorem OwnedCall.Wrote.carries {call : OwnedCall} {env : Env} {id leaseID : UUID}
    {db db' : Database} {t : Task} (h : call.Wrote env id leaseID db db' t) :
    ¬(db.cell id).Cleared id leaseID := fun hcleared =>
  hcleared t h.found (Table.key_of_get? h.found) (Task.leasedTo_iff.mp h.leasedTo).1

theorem RunStep.sound {i : ℕ} {run : Run} (h : RunStep taskTimeout decoder s s' i run)
    (hstore : s'.store = s.store ∨ ∃ e, StoreStep s.store e s'.store)
    (hs : ∀ run, s.runs i = some run → run.Sound taskTimeout decoder s.store) :
    run.Sound taskTimeout decoder s'.store := by
  have hfollows := h.follows fun run hrun => (hs run hrun).follows
  cases h with
  | same hrun => exact (hs _ hrun).mono hstore
  | start t ticks hsame =>
    refine ⟨hfollows, fun _ hL => (nomatch hL), fun ⟨_, he, _⟩ => (nomatch he), ?_⟩
    intro before e after hcalls
    simp [Run.start] at hcalls
  | @call run env op r committed k hrun hrest hanswers =>
    have hsound := hs _ hrun
    have hmono := hsound.mono hstore
    cases op with
    | claimTask =>
      obtain ⟨kind, ticks, hpath⟩ := hsound.follows
      rw [hrest] at hpath
      have hfirst : run.calls = [] := Worker.claimTask_first hpath
      have hcalls : (run.after env .claimTask r (k r)).calls = [⟨.claimTask, r⟩] := by
        simp [Run.after, hfirst]
      refine ⟨hfollows, fun L hL => ?_, ?_, ?_⟩
      · rcases hanswers.step with ⟨-, hnone⟩ | ⟨policy, leaseID, lease, hstep, hclaimed⟩
        · rw [show claimedLease r = some L from hL] at hnone
          cases hnone
        · obtain ⟨rfl, -⟩ := hclaimed L hL
          rw [hstep.leases]
          exact List.mem_cons_self
      · rintro ⟨e, he, hsettled⟩
        rw [hcalls, List.mem_singleton] at he
        subst he
        cases hsettled
      · rw [hcalls]
        have hnone : Fenced [] := by
          intro before e after h
          simp at h
        exact fenced_snoc hnone fun ⟨_, h, _⟩ => nomatch h
    | owned call =>
      have heffective : ∀ {b}, r = .ok b → b = true → ∃ leaseID t, run.lease = some leaseID ∧
          call.Wrote env run.task leaseID s.store.db s'.store.db t := by
        rintro b rfl rfl
        exact AnswersOwned.wrote hanswers
      refine ⟨hfollows, hmono.drawn, ?_, fenced_snoc hsound.fenced ?_⟩
      · rintro ⟨e, he, hsettled⟩ L hL
        rcases List.mem_append.mp he with he | he
        · exact hmono.released ⟨e, he, hsettled⟩ L hL
        · rw [List.mem_singleton.mp he] at hsettled
          rcases r with err | held
          · cases hsettled
          · obtain ⟨hcall, rfl⟩ := Bool.and_eq_true_iff.mp hsettled
            obtain ⟨leaseID, t, hlease, hwrote⟩ := heffective rfl rfl
            intro t' ht' hid
            have hrow : t' = call.row env t := Option.some.inj (ht'.symm.trans hwrote.row)
            rw [hrow, OwnedCall.row_unleased hcall]
            nofun
      · intro hsettled
        rcases r with err | held
        · rfl
        · cases held with
          | false => rfl
          | true =>
            obtain ⟨leaseID, t, hlease, hwrote⟩ := heffective rfl rfl
            exact absurd (hsound.released hsettled leaseID hlease) hwrote.carries
    | _ =>
      refine ⟨hfollows, hmono.drawn, ?_, fenced_snoc hsound.fenced fun _ => rfl⟩
      rintro ⟨e, he, hsettled⟩
      rcases List.mem_append.mp he with he | he
      · exact hmono.released ⟨e, he, hsettled⟩
      · rw [List.mem_singleton.mp he] at hsettled
        cases hsettled

/-- Every run of a reachable fleet is sound. -/
theorem fleet_sound {accounts : Table Account} {apiKeys : Table APIKey} {costRules : Table CostRule}
    {capacity : SystemCapacityConfig}
    (h : (fleet taskTimeout decoder).Reachable (.initial accounts apiKeys costRules capacity) s)
    {i : ℕ} {run : Run} (hrun : s.runs i = some run) :
    run.Sound taskTimeout decoder s.store := by
  have hall := h.invariant
    (I := fun s => ∀ i run, s.runs i = some run → run.Sound taskTimeout decoder s.store)
    (fun s a s' hstep hs i run hrun => (FleetStep.run hstep hrun).sound (FleetStep.store hstep) (hs i))
    (fun i run hrun => nomatch hrun)
  exact hall i run hrun

/-! ### Runs by evaluation -/

/-- The store after a call that is answered in this way, where the call succeeds. -/
def callStore (env : Env) (id : UUID) (lease : Option UUID) (store : StoreState) :
    (op : JobCall) → op.Res → Option StoreState
  | .claimTask, .ok ⟨some t, some leaseID, true⟩ =>
    match (claimTaskOnce defaultSchedulingPolicy id leaseID 0).run env store.db with
    | .ok (.commit ⟨some t', some leaseID', true⟩, db) =>
      if leaseID ∉ store.leases ∧ t' = t ∧ leaseID' = leaseID then some ⟨db, leaseID :: store.leases⟩
      else none
    | _ => none
  | .claimTask, _ => none
  | .owned call, .ok held =>
    match lease with
    | some leaseID =>
      match call.body env id leaseID store.db with
      | .ok (.commit b, db) => if b = held then some ⟨db, store.leases⟩ else none
      | .ok (.rollback b, _) => if b = held then some store else none
      | .error _ => none
    | none => none
  | .owned _, .error _ => none
  | .getTask, _ => none
  | _, _ => some store

theorem callStore_answers {env : Env} {run : Run} {store store' : StoreState} {op : JobCall}
    {r : op.Res} (h : callStore env run.task run.lease store op r = some store') :
    ∃ committed, Answers env run committed store store' op r := by
  cases op with
  | claimTask =>
    rcases r with err | ⟨t, leaseID, claimed⟩
    · cases h
    · rcases t with - | t
      · cases h
      rcases leaseID with - | leaseID
      · cases h
      cases claimed with
      | false => cases h
      | true =>
        simp only [callStore] at h
        split at h
        next t' leaseID' db hrun =>
          split_ifs at h with hsame
          obtain ⟨hfresh, rfl, rfl⟩ := hsame
          cases h
          exact ⟨true, _, _, _, _, hfresh, rfl, Session.run_ends hrun, .inl rfl⟩
        next => cases h
  | owned call =>
    rcases r with err | held
    · cases h
    · simp only [callStore] at h
      split at h
      next leaseID hlease =>
        split at h
        next b db hbody =>
          split_ifs at h with hb
          subst hb
          cases h
          exact ⟨true, leaseID, hlease, rfl, b, hbody, .inl rfl⟩
        next b db hbody =>
          split_ifs at h with hb
          subst hb
          cases h
          exact ⟨false, leaseID, hlease, rfl, rfl, .inr ⟨b, db, hbody, rfl⟩⟩
        next => cases h
      next => cases h
  | getTask => cases h
  | _ =>
    cases h
    exact ⟨false, rfl⟩

/-- The store after these calls. -/
def callsStore (id : UUID) : Option UUID → StoreState → List (Env × JobEvent) → Option StoreState
  | _, store, [] => some store
  | lease, store, (env, e) :: es =>
    (callStore env id lease store e.op e.answer).bind fun store' =>
      callsStore id (leaseAfter lease e.op e.answer) store' es

/-- A run makes the calls of a path when the store answers them. -/
theorem fleet_calls {es : List (Env × JobEvent)} {i : ℕ} {run : Run}
    {rest : Prog jobs (Except Returned Unit)} {store : StoreState} (hrun : s.runs i = some run)
    (hpath : run.rest.Path (es.map Prod.snd) rest)
    (hstore : callsStore run.task run.lease s.store es = some store) :
    ∃ s' run', (fleet taskTimeout decoder).Reachable s s' ∧ s'.store = store ∧
      s'.runs i = some run' ∧ run'.calls = run.calls ++ es.map Prod.snd := by
  induction es generalizing s run with
  | nil =>
    cases hstore
    exact ⟨s, run, ⟨[], rfl⟩, rfl, hrun, by simp⟩
  | cons e es ih =>
    obtain ⟨env, op, r⟩ := e
    simp only [List.map_cons] at hpath
    generalize hrest : run.rest = p at hpath
    cases hpath with
    | @cons op k r es rest hpath =>
      obtain ⟨store₁, hcall, hstore⟩ := Option.bind_eq_some_iff.mp hstore
      obtain ⟨committed, hanswers⟩ := callStore_answers hcall
      have hstep : FleetStep taskTimeout decoder s (.call i env op r committed) _ :=
        .call i env op r committed k hrun hrest hanswers
      obtain ⟨s', run', ⟨as, has⟩, hs', hrun', hcalls⟩ :=
        @ih ⟨store₁, Function.update s.runs i (some (run.after env op r (k r))),
          Function.update s.history run.task ((s.history run.task).after run.lease committed op r)⟩
          (run.after env op r (k r)) (Function.update_self i _ s.runs) hpath hstore
      refine ⟨s', run', ⟨_ :: as, _, hstep, has⟩, hs', hrun', ?_⟩
      simpa [Run.after] using hcalls

/-- Operations of the store that no run makes leave the runs alone. -/
theorem fleet_operate {es : List Event} {store' : StoreState}
    (hops : ∀ e ∈ es, e.op.ofHolder = false) (h : store.Run s.store es store') :
    ∃ s', (fleet taskTimeout decoder).Reachable s s' ∧ s'.store = store' ∧ s'.runs = s.runs := by
  induction es generalizing s with
  | nil =>
    cases h
    exact ⟨s, ⟨[], rfl⟩, rfl, rfl⟩
  | cons e es ih =>
    obtain ⟨store₁, hstep, hrun⟩ := h
    obtain ⟨s', ⟨as, has⟩, hs', hruns⟩ :=
      @ih ⟨store₁, s.runs, fun k => (s.history k).operate e.op k⟩
        (fun e he => hops e (List.mem_cons_of_mem _ he)) hrun
    have hoperate : FleetStep taskTimeout decoder s (.operate e.env e.op) _ :=
      .operate e.env e.op (hops e List.mem_cons_self) hstep
    exact ⟨s', ⟨_ :: as, _, hoperate, has⟩, hs', hruns⟩

/-- A message for a task starts a run of it. -/
theorem fleet_deliver {t : Task} {i : ℕ} (ticks : ℕ) (hfree : s.runs i = none)
    (htask : s.store.db.tasks.get? t.id = some t) :
    ∃ s', (fleet taskTimeout decoder).Reachable s s' ∧ s'.store = s.store ∧
      s'.runs i = some (.start taskTimeout decoder t.id t.kind ticks) :=
  ⟨_, ⟨[_], _, FleetStep.deliver i ticks hfree htask, rfl⟩, rfl, Function.update_self i _ s.runs⟩

/-- Operations of the store, a message, then a run whose calls the store answers. -/
theorem fleet_evaluates (es : List Event) (t : Task) {calls : List (Env × JobEvent)} (i : ℕ) {ticks : ℕ}
    (hops : ∀ e ∈ es, e.op.ofHolder = false) (hfresh : s.store.Fresh es) (hfree : s.runs i = none)
    (htask : (s.store.after es).db.tasks.get? t.id = some t)
    (hpath : ∃ rest, (Run.start taskTimeout decoder t.id t.kind ticks).rest.Path
      (calls.map Prod.snd) rest)
    (hstore : (callsStore t.id none (s.store.after es) calls).isSome = true) :
    ∃ s' run, (fleet taskTimeout decoder).Reachable s s' ∧ s'.runs i = some run ∧
      run.calls = calls.map Prod.snd := by
  obtain ⟨rest, hpath⟩ := hpath
  obtain ⟨store, hstore⟩ := Option.isSome_iff_exists.mp hstore
  obtain ⟨s₁, hreach₁, hstore₁, hruns₁⟩ := fleet_operate (s := s) hops (store_run_after hfresh)
  rw [← hstore₁] at htask hstore
  rw [← hruns₁] at hfree
  obtain ⟨s₂, ⟨as₂, hrun₂⟩, hstore₂, hruns₂⟩ := fleet_deliver ticks hfree htask
  rw [← hstore₂] at hstore
  obtain ⟨s₃, run, ⟨as₃, hrun₃⟩, -, hruns₃, hcalls⟩ := fleet_calls hruns₂ hpath hstore
  exact ⟨s₃, run, (hreach₁.run hrun₂).run hrun₃, hruns₃, by simpa [Run.start] using hcalls⟩

end Runs

end GenerationGateway
