import GenerationGateway.HttpApi.TaskCreation

/-!
# The outcome of an admission

A request that took its quota shall end in one of two ways: with a task that the
answer names, the quota kept and the files kept; or without a task, the quota
given back and the files removed. It does unless the outcome of the commit does
not reach the handler or the script that gives the quota back takes no effect on
the day's counter.
-/

namespace GenerationGateway

open Relational Effects

/-- The failures that separate the answer from what was committed. -/
inductive Fault
  | commitUnknown
  | readBackFailed
  | rollbackFailed
  | rollbackOnLaterDay

/-- The rows, the quota counter of the API key for each UTC day, and the request: its
day, whether it is cancelled, what its scripts added to the counters, and what its
calls committed and removed. -/
structure World where
  db : Database
  counters : ℕ → ℕ
  day : ℕ
  cancelled : Bool
  takenOn : ℕ
  share : ℕ → ℤ
  committed : List Task
  removed : List String
  faults : List Fault

/-- Other transactions of the store commit. -/
def Database.Becomes : Database → Database → Prop :=
  Relation.ReflTransGen fun db db' => ∃ env op, Operation.Commits env op db db'

namespace World

/-- What may happen between two calls of the request: other requests give back no more
than they took, and a counter lives until its day has passed. -/
structure Others (w w' : World) : Prop where
  db : w.db.Becomes w'.db
  day : w.day ≤ w'.day
  cancelled : w.cancelled = true → w'.cancelled = true
  counters : ∀ d, w'.day ≤ d → w.share d ≤ w'.counters d
  takenOn : w'.takenOn = w.takenOn
  share : w'.share = w.share
  committed : w'.committed = w.committed
  removed : w'.removed = w.removed
  faults : w'.faults = w.faults

def fault (w : World) (f : Fault) : World := { w with faults := w.faults ++ [f] }

def commit (w : World) (task : Task) (created : Bool) (db : Database) : World :=
  { w with db := db, committed := if created then w.committed ++ [task] else w.committed }

/-- The script: a counter of at most `images` is deleted, a larger one decreased. -/
def rollback (w : World) (images : ℕ) : World :=
  { w with
    counters := Function.update w.counters w.day (w.counters w.day - images)
    share := Function.update w.share w.day
      (w.share w.day - (w.counters w.day - (w.counters w.day - images : ℕ) : ℤ)) }

end World

section Calls

variable (sha256 : String → String) (policy : SchedulingPolicy) (req : AdmissionRequest)

/-- A call of the request. A cancelled context fails whatever uses it. -/
def HandlerCall.Performs (w : World) : (op : HandlerCall) → op.Res → World → Prop
  | .admission, outcome, w' =>
    (∃ e, outcome = .error e ∧ w' = w) ∨
    w.cancelled = false ∧ ∃ env id attempts task created db,
      Session.Ends env (createReservedTaskForProviderOnce sha256 policy
        { req with id := id, attempts := attempts }) w.db (.commit (task, created)) db ∧
      (outcome = .ok (task, created) ∧ w' = w.commit task created db ∨
        created = true ∧ ∃ e, e.retryable = false ∧ outcome = .error e ∧
          w' = (w.commit task created db).fault .commitUnknown)
  | .backoff, elapsed, w' => (elapsed = true ∨ w.cancelled = true) ∧ w' = w
  | .getTask id, outcome, w' =>
    (w.cancelled = false ∧ ∃ task, w.db.tasks.get? id = some task ∧ outcome = .ok task ∧ w' = w) ∨
    ∃ e, e.retryable = false ∧ outcome = .error e ∧ w' = w.fault .readBackFailed
  | .rollbackQuota images, _, w' =>
    (w.cancelled = false ∧ w.day = w.takenOn ∧ w' = w.rollback images) ∨
    (w.cancelled = false ∧ w.day ≠ w.takenOn ∧ w' = (w.rollback images).fault .rollbackOnLaterDay) ∨
    w' = w.fault .rollbackFailed
  | .enqueueKind _ _, failure, w' => (failure = none → w.cancelled = false) ∧ w' = w
  | .recordOutboxError id message retryAfter, _, w' =>
    w' = w ∨ ∃ env db, (Operation.outboxError id message retryAfter).Commits env w.db db ∧
      w' = { w with db := db }
  | .remove asset, _, w' => w' = { w with removed := w.removed ++ [asset.path] }

/-- A call, with whatever happens before it. -/
def handlerStep (op : HandlerCall) (w : World) (r : op.Res) (w' : World) : Prop :=
  ∃ w₁, w.Others w₁ ∧ op.Performs sha256 policy req w₁ r w'

/-- The program can return `a` in `w'`. -/
def Handler.Ends {α : Type} (p : Handler α) (w : World) (a : α) (w' : World) : Prop :=
  p.Runs (S := handling) (handlerStep sha256 policy req) w a w'

end Calls

/-- A success that names the task. -/
def Response.names (id : UUID) : Response → Prop
  | .task _ row => row.id = id
  | .error _ _ _ _ => False

/-- The two ways in which a request shall end. -/
structure World.Agrees (w : World) (images : ℕ) (assets : List SourceMedia) (answer : Response) :
    Prop where
  created : ∀ task ∈ w.committed, w.share = Pi.single w.takenOn (images : ℤ) ∧
    answer.names task.id ∧ ∀ asset ∈ assets, asset.path ∉ w.removed
  none : w.committed = [] → w.share = 0 ∧ ∀ asset ∈ assets, asset.path ∈ w.removed

/-- The request has taken its quota and done nothing since. -/
structure World.Taken (w : World) (images : ℕ) : Prop where
  share : w.share = Pi.single w.takenOn (images : ℤ)
  committed : w.committed = []
  removed : w.removed = []
  faults : w.faults = []

section Outcome

variable {sha256 : String → String} {policy : SchedulingPolicy} {req : AdmissionRequest}
variable {w w₁ w' : World} {images : ℕ}

/-- Nothing of the quota and of the files has changed. -/
structure World.Untouched (w w' : World) : Prop where
  takenOn : w'.takenOn = w.takenOn
  share : w'.share = w.share
  removed : w'.removed = w.removed

/-- Nothing was committed, and nothing has failed unnoticed. -/
structure World.Idle (w w' : World) : Prop extends World.Untouched w w' where
  committed : w'.committed = w.committed
  faults : w'.faults = w.faults

theorem World.Untouched.trans (h : World.Untouched w w₁) (h' : World.Untouched w₁ w') :
    World.Untouched w w' :=
  ⟨h'.takenOn.trans h.takenOn, h'.share.trans h.share, h'.removed.trans h.removed⟩

theorem World.Idle.trans (h : World.Idle w w₁) (h' : World.Idle w₁ w') : World.Idle w w' :=
  ⟨h.toUntouched.trans h'.toUntouched, h'.committed.trans h.committed, h'.faults.trans h.faults⟩

theorem World.Others.idle (h : w.Others w') : World.Idle w w' :=
  ⟨⟨h.takenOn, h.share, h.removed⟩, h.committed, h.faults⟩

/-- How an attempt ends: its answer is that of what was committed, or the outcome was
lost on the way. -/
inductive World.Attempted (w w' : World) : Except CallError (Task × Bool) → Prop
  | refused (e : CallError) (idle : World.Idle w w') : Attempted w w' (.error e)
  | found (task : Task) (idle : World.Idle w w') : Attempted w w' (.ok (task, false))
  | created (row task : Task) (untouched : World.Untouched w w')
      (committed : w'.committed = w.committed ++ [row]) (faults : w'.faults = w.faults)
      (id : task.id = row.id) : Attempted w w' (.ok (task, true))
  | lost (row : Task) (e : CallError) (untouched : World.Untouched w w')
      (committed : w'.committed = w.committed ++ [row]) (faults : w'.faults ≠ [])
      (final : e.retryable = false) : Attempted w w' (.error e)

theorem World.Idle.attempted {r : Except CallError (Task × Bool)} (h : World.Idle w w₁)
    (h' : World.Attempted w₁ w' r) : World.Attempted w w' r := by
  cases h' with
  | refused e idle => exact .refused e (h.trans idle)
  | found task idle => exact .found task (h.trans idle)
  | created row task untouched committed faults id =>
    exact .created row task (h.toUntouched.trans untouched) (by rw [committed, h.committed])
      (faults.trans h.faults) id
  | lost row e untouched committed faults final =>
    exact .lost row e (h.toUntouched.trans untouched) (by rw [committed, h.committed]) faults final

/-- One call of a program. -/
theorem runs_invoke {α : Type} {op : HandlerCall} {f : op.Res → Handler α} {a : α}
    (h : Handler.Ends sha256 policy req (invoke op >>= f) w a w') :
    ∃ r w₁ w₂, w.Others w₁ ∧ op.Performs sha256 policy req w₁ r w₂ ∧
      Handler.Ends sha256 policy req (f r) w₂ a w' := by
  obtain ⟨r, w₂, ⟨w₁, hothers, hperforms⟩, hrest⟩ := h
  exact ⟨r, w₁, w₂, hothers, hperforms, hrest⟩

theorem runs_return {α : Type} {a b : α}
    (h : Handler.Ends sha256 policy req (pure a : Handler α) w b w') : b = a ∧ w' = w := h

theorem createOnce_attempted {r : Except CallError (Task × Bool)}
    (h : Handler.Ends sha256 policy req createOnce w r w') : World.Attempted w w' r := by
  obtain ⟨outcome, w₁, w₂, hothers, hperforms, hrest⟩ := runs_invoke h
  apply hothers.idle.attempted
  rcases hperforms with ⟨e, rfl, rfl⟩ | ⟨-, env, id, attempts, task, created, db, hends, hreturn⟩
  · obtain ⟨rfl, rfl⟩ := runs_return hrest
    exact .refused e ⟨⟨rfl, rfl, rfl⟩, rfl, rfl⟩
  rcases hreturn with ⟨rfl, rfl⟩ | ⟨rfl, e, hfinal, rfl, rfl⟩
  · cases created with
    | false =>
      obtain ⟨rfl, rfl⟩ := runs_return hrest
      exact .found task ⟨⟨rfl, rfl, rfl⟩, rfl, rfl⟩
    | true =>
      obtain ⟨readBack, w₃, w₄, hothers', hread, hlast⟩ := runs_invoke hrest
      obtain ⟨rfl, rfl⟩ := runs_return hlast
      rcases hread with ⟨-, row, hrow, rfl, rfl⟩ | ⟨e, hfinal, rfl, rfl⟩
      · exact .created task row ⟨hothers'.takenOn, hothers'.share, hothers'.removed⟩
          hothers'.committed hothers'.faults (Table.key_of_get? hrow)
      · refine .lost task e ⟨hothers'.takenOn, hothers'.share, hothers'.removed⟩
          hothers'.committed ?_ hfinal
        exact List.append_ne_nil_of_right_ne_nil _ (List.cons_ne_nil _ _)
  · obtain ⟨rfl, rfl⟩ := runs_return hrest
    refine .lost task e ⟨rfl, rfl, rfl⟩ rfl ?_ hfinal
    exact List.append_ne_nil_of_right_ne_nil _ (List.cons_ne_nil _ _)

/-- Only an attempt that committed nothing is made again. -/
theorem createReservedTaskForProvider_attempted {attempts : ℕ}
    {r : Except CallError (Task × Bool)}
    (h : Handler.Ends sha256 policy req (createReservedTaskForProvider attempts) w r w') :
    World.Attempted w w' r := by
  induction attempts generalizing w with
  | zero =>
    obtain ⟨rfl, rfl⟩ := runs_return h
    exact .refused _ ⟨⟨rfl, rfl, rfl⟩, rfl, rfl⟩
  | succ attempts ih =>
    obtain ⟨result, w₁, honce, hrest⟩ := (Prog.runs_bind _).mp h
    have hattempt := createOnce_attempted honce
    split at hrest
    · obtain ⟨rfl, rfl⟩ := runs_return hrest
      exact hattempt
    next hretry =>
    have hretryable : retryable result = true := by
      simp only [Bool.or_eq_true, Bool.not_eq_true', not_or] at hretry
      simpa using hretry.1
    have hidle : World.Idle w w₁ := by
      cases hattempt with
      | refused e idle => exact idle
      | found task idle => exact idle
      | created row task untouched committed faults id => cases hretryable
      | lost row e untouched committed faults final =>
        exact absurd hretryable (by simp [retryable, final])
    obtain ⟨elapsed, w₂, w₃, hothers, ⟨-, rfl⟩, hlast⟩ := runs_invoke hrest
    cases elapsed with
    | true => exact (hidle.trans hothers.idle).attempted (ih hlast)
    | false =>
      obtain ⟨rfl, rfl⟩ := runs_return hlast
      exact .refused _ (hidle.trans hothers.idle)

/-- The script on the day of the quota gives it back; whatever else happens does not. -/
theorem rollbackDailyQuota_share {u : Unit} (himages : 0 < images)
    (hshare : w.share = Pi.single w.takenOn (images : ℤ))
    (h : Handler.Ends sha256 policy req (rollbackDailyQuota images) w u w') :
    w'.committed = w.committed ∧ w'.removed = w.removed ∧
      (w'.faults = w.faults ∧ w'.share = 0 ∨ w'.faults ≠ [] ∧ w'.share ≠ 0) := by
  have hpos : (images : ℤ) ≠ 0 := by omega
  have htaken : w.share w.takenOn = images := by rw [hshare, Pi.single_eq_same]
  have hscript : rollbackDailyQuota images = invoke (.rollbackQuota images) := if_neg himages.ne'
  rw [hscript] at h
  obtain ⟨r, w₂, ⟨w₁, hothers, hperforms⟩, hlast⟩ := h
  obtain ⟨-, rfl⟩ := hlast
  have hfault (f : Fault) : w₁.faults ++ [f] ≠ [] :=
    List.append_ne_nil_of_right_ne_nil _ (List.cons_ne_nil _ _)
  rcases hperforms with ⟨-, hday, rfl⟩ | ⟨-, hday, rfl⟩ | rfl
  · refine ⟨hothers.committed, hothers.removed, .inl ⟨hothers.faults, ?_⟩⟩
    have hcounter : w.share w.takenOn ≤ w₁.counters w₁.day := by
      have hle := hothers.counters w₁.day le_rfl
      rwa [hday, hothers.takenOn] at hle ⊢
    funext d
    by_cases hd : d = w₁.day
    · subst hd
      simp only [World.rollback, Function.update_self, Pi.zero_apply]
      rw [hothers.share, hday, hothers.takenOn, htaken]
      rw [htaken, hday, hothers.takenOn] at hcounter
      omega
    · have hne : d ≠ w.takenOn := by rwa [← hothers.takenOn, ← hday]
      simp only [World.rollback, Function.update_of_ne hd, Pi.zero_apply]
      rw [hothers.share, hshare, Pi.single_eq_of_ne hne]
  · refine ⟨hothers.committed, hothers.removed, .inr ⟨hfault _, fun hzero => hpos ?_⟩⟩
    have hne : w.takenOn ≠ w₁.day := by
      rw [← hothers.takenOn]
      exact hday.symm
    have hat := congrFun hzero w.takenOn
    simp only [World.fault, World.rollback, Function.update_of_ne hne, Pi.zero_apply] at hat
    rw [hothers.share] at hat
    omega
  · refine ⟨hothers.committed, hothers.removed, .inr ⟨hfault _, fun hzero => hpos ?_⟩⟩
    have hat : w₁.share w.takenOn = 0 := congrFun hzero w.takenOn
    rw [hothers.share] at hat
    omega

theorem enqueueTask_idle {task : Task} {u : Unit}
    (h : Handler.Ends sha256 policy req (enqueueTask task) w u w') : World.Idle w w' := by
  obtain ⟨failure, w₁, w₂, hothers, ⟨-, rfl⟩, hrest⟩ := runs_invoke h
  cases failure with
  | none =>
    obtain ⟨-, rfl⟩ := runs_return hrest
    exact hothers.idle
  | some message =>
    obtain ⟨r, w₃, ⟨w₄, hothers', hperforms⟩, -, rfl⟩ := hrest
    refine (hothers.idle.trans hothers'.idle).trans ?_
    rcases hperforms with rfl | ⟨env, db, -, rfl⟩ <;> exact ⟨⟨rfl, rfl, rfl⟩, rfl, rfl⟩

theorem cleanup_removes {assets : List SourceMedia} {u : Unit}
    (h : Handler.Ends sha256 policy req (cleanup assets) w u w') :
    w'.share = w.share ∧ w'.committed = w.committed ∧ w'.faults = w.faults ∧
      w'.removed = w.removed ++ assets.map SourceMedia.path := by
  induction assets generalizing w with
  | nil =>
    obtain ⟨-, rfl⟩ := runs_return h
    exact ⟨rfl, rfl, rfl, (List.append_nil _).symm⟩
  | cons asset assets ih =>
    obtain ⟨r, w₁, w₂, hothers, rfl, hrest⟩ := runs_invoke h
    obtain ⟨hshare, hcommitted, hfaults, hremoved⟩ := ih hrest
    refine ⟨hshare.trans hothers.share, hcommitted.trans hothers.committed,
      hfaults.trans hothers.faults, ?_⟩
    rw [hremoved, hothers.removed, List.append_assoc, List.map_cons, List.singleton_append]

/-- A request without a new task ends well exactly when the script gave its quota back. -/
theorem undone_agrees {assets : List SourceMedia} {answer : Response} {w₂ : World} {u u' : Unit}
    (himages : 0 < images) (hw : w.Taken images) (hidle : World.Idle w w₁)
    (hback : Handler.Ends sha256 policy req (rollbackDailyQuota images) w₁ u w₂)
    (hcleanup : Handler.Ends sha256 policy req (cleanup assets) w₂ u' w') :
    w'.Agrees images assets answer ↔ w'.faults = [] := by
  have hshare : w₁.share = Pi.single w₁.takenOn (images : ℤ) := by
    rw [hidle.share, hidle.takenOn, hw.share]
  obtain ⟨hcommitted, -, hscript⟩ := rollbackDailyQuota_share himages hshare hback
  obtain ⟨hshare', hcommitted', hfaults', hremoved'⟩ := cleanup_removes hcleanup
  have hnone : w'.committed = [] := by rw [hcommitted', hcommitted, hidle.committed, hw.committed]
  rcases hscript with ⟨hfaults, hzero⟩ | ⟨hfaults, hzero⟩
  · refine iff_of_true ⟨?_, fun _ => ⟨hshare'.trans hzero, fun asset hasset => ?_⟩⟩ ?_
    · rw [hnone]
      exact fun _ hmem => absurd hmem List.not_mem_nil
    · rw [hremoved']
      exact List.mem_append_right _ (List.mem_map_of_mem hasset)
    · rw [hfaults', hfaults, hidle.faults, hw.faults]
  · refine iff_of_false (fun hagrees => ?_) ?_
    · exact hzero (hshare'.symm.trans (hagrees.none hnone).1)
    · rwa [hfaults']

theorem not_names_error (e : HandlerError) (id : UUID) : ¬ (writeCreateTaskError e).names id := by
  cases e with
  | request status code message retryAfter => exact not_false
  | plain message =>
    dsimp only [writeCreateTaskError]
    split <;> exact not_false

/-- A request whose new task is reported as an error ends badly. -/
theorem lost_disagrees {assets : List SourceMedia} {row : Task} {e : HandlerError} {w₂ : World}
    {u u' : Unit} (himages : 0 < images) (hw : w.Taken images)
    (huntouched : World.Untouched w w₁) (hcommitted : w₁.committed = w.committed ++ [row])
    (hfaults : w₁.faults ≠ [])
    (hback : Handler.Ends sha256 policy req (rollbackDailyQuota images) w₁ u w₂)
    (hcleanup : Handler.Ends sha256 policy req (cleanup assets) w₂ u' w') :
    w'.Agrees images assets (writeCreateTaskError e) ↔ w'.faults = [] := by
  have hshare : w₁.share = Pi.single w₁.takenOn (images : ℤ) := by
    rw [huntouched.share, huntouched.takenOn, hw.share]
  obtain ⟨hcommitted₂, -, hscript⟩ := rollbackDailyQuota_share himages hshare hback
  obtain ⟨-, hcommitted', hfaults', -⟩ := cleanup_removes hcleanup
  have hrow : row ∈ w'.committed := by
    rw [hcommitted', hcommitted₂, hcommitted]
    exact List.mem_append_right _ (List.mem_singleton_self _)
  refine iff_of_false (fun hagrees => not_names_error e row.id (hagrees.created row hrow).2.1) ?_
  rw [hfaults']
  rcases hscript with ⟨hsame, -⟩ | ⟨hne, -⟩
  · rwa [hsame]
  · exact hne

/-- A request that took its quota ends well unless one of the faults happened to it. -/
theorem admitTask_agrees {assets : List SourceMedia} {answer : Response} (himages : 0 < images)
    (hw : w.Taken images)
    (h : Handler.Ends sha256 policy req (do respond assets (← admitTask images)) w answer w') :
    w'.Agrees images assets answer ↔ w'.faults = [] := by
  obtain ⟨result, w₁, hadmit, hrespond⟩ := (Prog.runs_bind _).mp h
  obtain ⟨outcome, w₂, hattempts, hrest⟩ := (Prog.runs_bind _).mp hadmit
  cases createReservedTaskForProvider_attempted hattempts with
  | refused e hidle =>
    obtain ⟨u, w₃, hback, hreturn⟩ := (Prog.runs_bind _).mp hrest
    obtain ⟨rfl, rfl⟩ := runs_return hreturn
    obtain ⟨u', w₄, hcleanup, hanswer⟩ := (Prog.runs_bind _).mp hrespond
    obtain ⟨-, rfl⟩ := runs_return hanswer
    exact undone_agrees himages hw hidle hback hcleanup
  | found task hidle =>
    obtain ⟨u, w₃, hback, hreturn⟩ := (Prog.runs_bind _).mp hrest
    obtain ⟨rfl, rfl⟩ := runs_return hreturn
    obtain ⟨u', w₄, hcleanup, hanswer⟩ := (Prog.runs_bind _).mp hrespond
    obtain ⟨-, rfl⟩ := runs_return hanswer
    exact undone_agrees himages hw hidle hback hcleanup
  | created row task huntouched hcommitted hfaults hid =>
    obtain ⟨u, w₃, henqueue, hreturn⟩ := (Prog.runs_bind _).mp hrest
    obtain ⟨rfl, rfl⟩ := runs_return hreturn
    obtain ⟨rfl, rfl⟩ := runs_return hrespond
    have hidle := enqueueTask_idle henqueue
    have hrows : w'.committed = [row] := by rw [hidle.committed, hcommitted, hw.committed]; rfl
    refine iff_of_true ⟨?_, fun hnone => absurd (hrows.symm.trans hnone) (List.cons_ne_nil _ _)⟩ ?_
    · rw [hrows]
      intro made hmade
      obtain rfl := List.mem_singleton.mp hmade
      refine ⟨?_, hid, ?_⟩
      · rw [hidle.share, hidle.takenOn, huntouched.share, huntouched.takenOn, hw.share]
      · rw [hidle.removed, huntouched.removed, hw.removed]
        exact fun _ _ => List.not_mem_nil
    · rw [hidle.faults, hfaults, hw.faults]
  | lost row e huntouched hcommitted hfaults hfinal =>
    obtain ⟨u, w₃, hback, hreturn⟩ := (Prog.runs_bind _).mp hrest
    obtain ⟨rfl, rfl⟩ := runs_return hreturn
    obtain ⟨u', w₄, hcleanup, hanswer⟩ := (Prog.runs_bind _).mp hrespond
    obtain ⟨rfl, rfl⟩ := runs_return hanswer
    exact lost_disagrees himages hw huntouched hcommitted hfaults hback hcleanup

/-- The image and the video handler, from the moment at which the quota is taken. -/
theorem creation_agrees (sha256 : String → String) (policy : SchedulingPolicy)
    (admission : AdmissionRequest) (w w' : World) (answer : Response) :
    (∀ req : ImageRequest, 0 ≤ req.n → w.Taken req.images →
      Handler.Ends sha256 policy admission (createAsyncImage req) w answer w' →
      (w'.Agrees req.images req.assets answer ↔ w'.faults = [])) ∧
    ∀ req : VideoRequest, w.Taken 1 →
      Handler.Ends sha256 policy admission (videoGeneration req) w answer w' →
      (w'.Agrees 1 req.assets answer ↔ w'.faults = []) := by
  constructor
  · intro req hn hw h
    have himages : 0 < req.images := by
      unfold ImageRequest.images
      split <;> omega
    exact admitTask_agrees himages hw h
  · intro req hw h
    exact admitTask_agrees Nat.one_pos hw h

end Outcome

/-- The small store after a request has taken a quota of one image. -/
def quotaTaken : World where
  db := (smallStore smallAccounts).db
  counters := fun _ => 1
  day := 0
  cancelled := false
  takenOn := 0
  share := Pi.single 0 1
  committed := []
  removed := []
  faults := []

theorem quotaTaken_taken : quotaTaken.Taken (ImageRequest.images {}) := ⟨rfl, rfl, rfl, rfl⟩

/-- The request goes on at once. -/
theorem World.others_self {w : World} (h : ∀ d, w.share d ≤ w.counters d) : w.Others w :=
  ⟨.refl, le_rfl, fun h => h, fun d _ => h d, rfl, rfl, rfl, rfl, rfl⟩

theorem quotaTaken_counters (d : ℕ) : (Pi.single 0 1 : ℕ → ℤ) d ≤ (1 : ℕ) := by
  by_cases hd : d = 0
  · rw [hd, Pi.single_eq_same]
    rfl
  · rw [Pi.single_eq_of_ne hd]
    exact Int.one_nonneg

/-- The small store admits the task 20. -/
theorem quotaTaken_admits : ∃ task db, Session.Ends (atTime 0)
    (createReservedTaskForProviderOnce id defaultSchedulingPolicy (smallRequest 20 .image 5))
    quotaTaken.db (.commit (task, true)) db ∧ (db.tasks.get? task.id).isSome := by
  have hrun : ((createReservedTaskForProviderOnce id defaultSchedulingPolicy
      (smallRequest 20 .image 5)).run (atTime 0) quotaTaken.db).toOption.any (fun r =>
        match r.1 with
        | .commit (task, created) => created && (r.2.tasks.get? task.id).isSome
        | .rollback _ => false) = true := by
    decide +kernel
  generalize hresult : (createReservedTaskForProviderOnce id defaultSchedulingPolicy
    (smallRequest 20 .image 5)).run (atTime 0) quotaTaken.db = result at hrun
  rcases result with e | ⟨⟨task, created⟩ | r, db⟩
  · cases hrun
  · obtain ⟨rfl, hrow⟩ := (Bool.and_eq_true _ _).mp hrun
    exact ⟨task, db, Session.run_ends hresult, hrow⟩
  · cases hrun

/-- The task is committed, read back and queued. -/
theorem creation_agrees_queued : ∃ w answer, World.Agrees w 1 [] answer ∧ w.committed ≠ [] := by
  obtain ⟨task, db, hends, hrow⟩ := quotaTaken_admits
  obtain ⟨row, hrow⟩ := Option.isSome_iff_exists.mp hrow
  let w := quotaTaken.commit task true db
  have hcommit : HandlerCall.Performs id defaultSchedulingPolicy (smallRequest 20 .image 5)
      quotaTaken .admission (.ok (task, true)) w :=
    .inr ⟨rfl, atTime 0, 20, 3, task, true, db, hends, .inl ⟨rfl, rfl⟩⟩
  have hread : HandlerCall.Performs id defaultSchedulingPolicy (smallRequest 20 .image 5)
      w (.getTask task.id) (.ok row) w := .inl ⟨rfl, row, hrow, rfl, rfl⟩
  have hqueue : HandlerCall.Performs id defaultSchedulingPolicy (smallRequest 20 .image 5)
      w (.enqueueKind row.id row.kind) none w := ⟨fun _ => rfl, rfl⟩
  have hends : Handler.Ends id defaultSchedulingPolicy (smallRequest 20 .image 5)
      (createAsyncImage {}) quotaTaken (.task 202 row) w :=
    ⟨_, w, ⟨quotaTaken, World.others_self quotaTaken_counters, hcommit⟩,
      _, w, ⟨w, World.others_self quotaTaken_counters, hread⟩,
      _, w, ⟨w, World.others_self quotaTaken_counters, hqueue⟩, rfl, rfl⟩
  refine ⟨w, .task 202 row, ?_, List.cons_ne_nil _ _⟩
  exact ((creation_agrees id defaultSchedulingPolicy (smallRequest 20 .image 5) quotaTaken w
    (.task 202 row)).1 {} le_rfl quotaTaken_taken hends).mpr rfl

/-- The connection is lost after the commit, before the task is read back. -/
theorem readBack_disagrees : ¬ ∀ (sha256 : String → String) (policy : SchedulingPolicy)
    (admission : AdmissionRequest) (req : ImageRequest) (w w' : World) (answer : Response),
    0 ≤ req.n → w.Taken req.images →
    Handler.Ends sha256 policy admission (createAsyncImage req) w answer w' →
    w'.Agrees req.images req.assets answer := by
  intro h
  obtain ⟨task, db, hends, -⟩ := quotaTaken_admits
  let w := quotaTaken.commit task true db
  let e : CallError := ⟨none, "conn closed", false⟩
  have hcommit : HandlerCall.Performs id defaultSchedulingPolicy (smallRequest 20 .image 5)
      quotaTaken .admission (.ok (task, true)) w :=
    .inr ⟨rfl, atTime 0, 20, 3, task, true, db, hends, .inl ⟨rfl, rfl⟩⟩
  have hread : HandlerCall.Performs id defaultSchedulingPolicy (smallRequest 20 .image 5)
      w (.getTask task.id) (.error e) (w.fault .readBackFailed) := .inr ⟨e, rfl, rfl, rfl⟩
  have hback : HandlerCall.Performs id defaultSchedulingPolicy (smallRequest 20 .image 5)
      (w.fault .readBackFailed) (.rollbackQuota 1) () ((w.fault .readBackFailed).rollback 1) :=
    .inl ⟨rfl, rfl, rfl⟩
  have hends : Handler.Ends id defaultSchedulingPolicy (smallRequest 20 .image 5)
      (createAsyncImage {}) quotaTaken (writeCreateTaskError e.routing)
      ((w.fault .readBackFailed).rollback 1) :=
    ⟨_, w, ⟨quotaTaken, World.others_self quotaTaken_counters, hcommit⟩,
      _, _, ⟨w, World.others_self quotaTaken_counters, hread⟩,
      _, _, ⟨_, World.others_self quotaTaken_counters, hback⟩, rfl, rfl⟩
  have hagrees := h id defaultSchedulingPolicy _ {} quotaTaken _ _ le_rfl quotaTaken_taken hends
  exact not_names_error _ _ (hagrees.created task (List.mem_singleton_self task)).2.1

end GenerationGateway
