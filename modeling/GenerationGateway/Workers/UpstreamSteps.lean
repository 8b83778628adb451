import GenerationGateway.Workers.Steady

/-!
# The steps that call the provider, under any monitor

Sessions, uploads, the submission and the poll loops, for a monitor that attends to the
calls of the client. A loop keeps the assertion that each of its rounds keeps.
-/

namespace GenerationGateway

open Effects

/-- After an answer without error `I` holds, after an error the phase is failing. -/
def Settles {φ α : Type} (I : φ → Prop) (failing : GoError → φ → Prop) (r : Except GoError α)
    (ph : φ) : Prop :=
  match r with
  | .ok _ => I ph
  | .error err => failing err ph

/-- After an upload that was given up `G` holds, otherwise `E`. -/
def GoesOn {φ α : Type} (E G : φ → Prop) (r : Worker.Uploaded α) (ph : φ) : Prop :=
  match r with
  | .abandoned => G ph
  | _ => E ph

/-- With a client `I` holds, without one `R`. -/
def WithClient {φ : Type} (I R : φ → Prop) (r : WorkerAccount × Bool) (ph : φ) : Prop :=
  if r.2 then I ph else R ph

/-! ### Uploads in turn -/

namespace Worker

section Uploads

variable {φ : Type} {M : Monitor jobs φ} {E G R : φ → Prop} {α β : Type} {account : WorkerAccount}
  {total : ℕ} {one : β → Work (Uploaded α)}

/-- The induction is over the media that are left. -/
theorem ensures_uploadEach (hEG : ∀ ph, E ph → G ph)
    (hprogress : ∀ progress, Returns M E E R (updateUploading progress account.id))
    (hone : ∀ b ph, E ph → (one b).Ensures M R ph (GoesOn E G)) (media : List β) :
    ∀ done ph, E ph → (uploadEach account total one done media).Ensures M R ph
      fun r ph' => G ph' ∧ (r.2 = true → E ph') := by
  induction media with
  | nil => exact fun _ ph hph => Early.ensures_pure ⟨hEG ph hph, fun _ => hph⟩
  | cons medium rest ih =>
    intro done ph hph
    refine Early.Ensures.bind (hone medium ph hph) fun r ph' hr => ?_
    cases r with
    | added reference =>
      refine (keeps_orReturn (hprogress _)).ensures_bind hr fun _ ph₁ hph₁ => ?_
      exact Early.Ensures.bind (ih (done + 1) ph₁ hph₁) fun r ph₂ hr₂ => Early.ensures_pure hr₂
    | skipped => exact ih done ph' hr
    | abandoned => exact Early.ensures_pure ⟨hr, fun hcomplete => nomatch hcomplete⟩

/-- The uploads may start where less holds than `E`, unless there are none. -/
theorem ensures_uploadAll {D : φ → Prop} (hDG : ∀ ph, D ph → G ph) (hEG : ∀ ph, E ph → G ph)
    (hfirst : Returns M D E R (updateUploading 15 account.id))
    (hprogress : ∀ progress, Returns M E E R (updateUploading progress account.id))
    (hone : ∀ b ph, E ph → (one b).Ensures M R ph (GoesOn E G)) (media : List β) {ph : φ}
    (hph : D ph) : (uploadAll account one media).Ensures M R ph fun _ ph' => G ph' := by
  unfold uploadAll
  split
  · exact Early.ensures_pure (hDG ph hph)
  · refine Early.Ensures.bind (ensures_orReturn (hfirst ph hph)) fun _ ph₁ hph₁ => ?_
    exact (ensures_uploadEach hEG hprogress hone media 0 ph₁ hph₁).mono fun _ _ hr => hr.1

end Uploads

section Reading

variable {φ : Type} {M : Monitor jobs φ} {R : φ → Prop} {α : Type}

/-- A medium is read, and the answer decides what follows. -/
theorem ensures_read {media : Media} {failed : GoError → Work (Uploaded α)}
    {rest : MediaData → Work (Uploaded α)} {ph : φ} {Q : Uploaded α → φ → Prop}
    (hallowed : M.allowed ph (.readMedia media))
    (hfailed : ∀ err, (failed err).Ensures M R (M.next ph (.readMedia media) (.error err)) Q)
    (hrest : ∀ data, (rest data).Ensures M R (M.next ph (.readMedia media) (.ok data)) Q) :
    (read media failed rest).Ensures M R ph Q := by
  refine Early.Ensures.bind (P := fun r ph' => ph' = M.next ph (.readMedia media) r)
    (Early.ensures_perform hallowed fun _ => rfl) fun r ph' hph' => ?_
  subst hph'
  cases r with
  | error err => exact hfailed err
  | ok data => exact hrest data

/-- One upload whose failures are recorded; what may be recorded is up to `faulty`, and
`J` holds once it is. -/
theorem ensures_uploadBy {I J : φ → Prop} {faulty : GoError → φ → Prop} {account : WorkerAccount}
    {x : Work (Except GoError α)} {failed : GoError → Work (Uploaded α)} {ph : φ}
    {Q : Uploaded α → φ → Prop}
    (hrecord : ∀ err ph, faulty err ph → M.allowed ph (.recordAccountFailure account err) ∧
      ∀ r, J (M.next ph (.recordAccountFailure account err) r))
    (hx : x.Ensures M R ph (Settles I faulty))
    (hfailed : ∀ err ph', J ph' → (failed err).Ensures M R ph' Q)
    (hadded : ∀ reference ph', I ph' → Q (.added reference) ph') :
    (uploadBy account x failed).Ensures M R ph Q := by
  refine Early.Ensures.bind hx fun r ph₁ hr => ?_
  cases r with
  | error err =>
    obtain ⟨hallowed, hnext⟩ := hrecord err ph₁ hr
    exact Early.Ensures.bind (Early.ensures_perform hallowed hnext) fun _ ph₂ hph₂ =>
      hfailed err ph₂ hph₂
  | ok reference => exact Early.ensures_pure (hadded reference ph₁ hr)

end Reading

end Worker

/-! ### Sessions -/

namespace Attends

open Worker

section Sessions

variable {φ : Type} {M : Monitor jobs φ} {I N R : φ → Prop} {failing : GoError → φ → Prop}
  (h : Attends M I N R failing)
include h

/-- A call of the client whose answer is an error or a value. -/
theorem ask {op : JobCall} {α : Type} {ph : φ} {Q : α → φ → Prop} {f : op.Res → Work α}
    (hph : I ph) (hop : op.upstream = true)
    (hf : ∀ r, (f r).Ensures M R (M.next ph op r) Q) : (Worker.perform op >>= f).Ensures M R ph Q :=
  ensures_call (h.upstream hph hop) hf

omit h in
theorem ensures_withoutClient {account : WorkerAccount} {x : Work Returned}
    (hx : Returns M I N R x) {ph : φ} (hph : I ph) :
    (withoutClient account x).Ensures M R ph (WithClient I N) :=
  Early.Ensures.bind (ensures_orReturn (hx ph hph)) fun _ _ hph' => Early.ensures_pure hph'

theorem prepareAdobeTask (hlapsed : ∀ ph call, I ph → N (M.next ph (.owned call) (.ok false)))
    (task : Task) {ph : φ} (hph : I ph) :
    (Worker.prepareAdobeTask task).Ensures M R ph (WithClient I N) := by
  unfold Worker.prepareAdobeTask
  split
  · exact ensures_withoutClient (h.fail hlapsed _ _) hph
  · refine (h.toSteady.perform rfl).ensures_bind hph fun r ph₁ hph₁ => ?_
    cases r with
    | error err => exact ensures_withoutClient (h.fail hlapsed _ err) hph₁
    | ok account =>
      refine (h.routeableNow account).ensures_bind hph₁ fun routeable ph₂ hph₂ => ?_
      split
      · refine h.ask hph₂ rfl fun r => ?_
        cases r with
        | error err => exact ensures_withoutClient h.yieldForReroute (h.alive (h.failed hph₂ rfl rfl))
        | ok account =>
          refine (h.toSteady.perform rfl).ensures_bind (h.answered hph₂ rfl rfl rfl)
            fun r ph₃ hph₃ => ?_
          cases r with
          | error err => exact ensures_withoutClient (h.fail hlapsed _ err) hph₃
          | ok u =>
            exact (keeps_orReturn (h.keeping rfl)).ensures_bind hph₃ fun _ _ hph₄ =>
              Early.ensures_pure hph₄
      · exact ensures_withoutClient h.yieldForReroute hph₂

theorem resumeAdobeTask (task : Task) (accountID : UUID) {ph : φ} (hph : I ph) :
    (Worker.resumeAdobeTask task accountID).Ensures M R ph (WithClient I N) := by
  refine (h.deadlinePassed _).ensures_bind hph fun passed ph₁ hph₁ => ?_
  split
  · exact ensures_withoutClient (h.markSubmissionUncertain _ _ _) hph₁
  · refine (h.toSteady.perform rfl).ensures_bind hph₁ fun r ph₂ hph₂ => ?_
    cases r with
    | error err => exact ensures_withoutClient (h.markSubmissionUncertain _ _ _) hph₂
    | ok account =>
      refine h.ask hph₂ rfl fun r => ?_
      cases r with
      | error err =>
        exact ensures_withoutClient (h.retrySession _ _ _) (h.alive (h.failed hph₂ rfl rfl))
      | ok account =>
        refine (h.toSteady.perform rfl).ensures_bind (h.answered hph₂ rfl rfl rfl)
          fun r ph₃ hph₃ => ?_
        cases r with
        | error err => exact ensures_withoutClient (h.retrySession _ _ _) hph₃
        | ok u => exact Early.ensures_pure hph₃

theorem resumeCreativeFabricaTask (task : Task) (accountID : UUID) {ph : φ} (hph : I ph) :
    (Worker.resumeCreativeFabricaTask task accountID).Ensures M R ph (WithClient I N) := by
  refine (h.deadlinePassed _).ensures_bind hph fun passed ph₁ hph₁ => ?_
  split
  · exact ensures_withoutClient (h.markSubmissionUncertain _ _ _) hph₁
  · refine (h.toSteady.perform rfl).ensures_bind hph₁ fun r ph₂ hph₂ => ?_
    cases r with
    | error err => exact ensures_withoutClient (h.markSubmissionUncertain _ _ _) hph₂
    | ok account =>
      refine (h.toSteady.perform rfl).ensures_bind hph₂ fun now ph₃ hph₃ => ?_
      split
      · exact ensures_withoutClient (h.yieldForCooldown _) hph₃
      · refine h.ask hph₃ rfl fun r => ?_
        cases r with
        | error err =>
          exact ensures_withoutClient (h.retrySession _ _ _) (h.alive (h.failed hph₃ rfl rfl))
        | ok account =>
          refine (h.toSteady.perform rfl).ensures_bind (h.answered hph₃ rfl rfl rfl)
            fun r ph₄ hph₄ => ?_
          cases r with
          | error err => exact ensures_withoutClient (h.retrySession _ _ _) hph₄
          | ok u => exact Early.ensures_pure hph₄

end Sessions

section Calls

variable {φ : Type} {M : Monitor jobs φ} {I R : φ → Prop} {failing : GoError → φ → Prop}
  (h : Attends M I R R failing)
include h

theorem submissionAccount (task : Task) : (Worker.submissionAccount task).Keeps M I R := by
  have hreroute : (exit Worker.yieldForReroute : Work WorkerAccount).Keeps M I R :=
    keeps_exit h.yieldForReroute
  unfold Worker.submissionAccount
  split
  · exact keeps_exit (h.failTask _ _)
  · refine (h.toSteady.perform rfl).bind fun r => ?_
    cases r with
    | error err => exact keeps_exit (h.failTask _ err)
    | ok account =>
      refine (h.routeableNow account).bind fun routeable => ?_
      split
      · intro ph hph
        refine h.ask hph rfl fun r => ?_
        cases r with
        | error err => exact hreroute _ (h.alive (h.failed hph rfl rfl))
        | ok account =>
          refine (h.routeableNow account).ensures_bind (h.answered hph rfl rfl rfl)
            fun routeable ph₁ hph₁ => ?_
          split
          · exact (keeps_orReturn (h.keeping rfl)).ensures_bind hph₁ fun _ _ hph₂ =>
              Early.ensures_pure hph₂
          · exact hreroute _ hph₁
      · exact hreroute

theorem prepareCreativeFabrica (checks : List (Check × String)) (task : Task) :
    (Worker.prepareCreativeFabrica checks task).Keeps M I R :=
  (h.requireAPIKey task).bind fun _ => (h.require _ _).bind fun _ =>
    (h.submissionAccount task).bind fun _ =>
      (keeps_forM (fun c => h.require c.1 c.2) checks).bind fun _ => Early.keeps_pure _

theorem resumeLeonardo (task : Task) (accountID : UUID) :
    (Worker.resumeLeonardo task accountID).Keeps M I R := by
  refine (h.deadlinePassed _).bind fun passed => ?_
  split
  · exact keeps_exit (h.markSubmissionUncertain _ _ _)
  · refine (h.toSteady.perform rfl).bind fun r => ?_
    cases r with
    | error err => exact keeps_exit (h.markSubmissionUncertain _ _ _)
    | ok account =>
      refine (h.toSteady.perform rfl).bind fun now => ?_
      split
      · exact keeps_exit (h.yieldForCooldown _)
      · intro ph hph
        refine h.ask hph rfl fun r => ?_
        cases r with
        | error err =>
          exact keeps_exit (h.retrySession _ _ _) _ (h.alive (h.failed hph rfl rfl))
        | ok account =>
          refine (h.toSteady.perform rfl).ensures_bind (h.answered hph rfl rfl rfl)
            fun r ph₁ hph₁ => ?_
          cases r with
          | error err => exact keeps_exit (h.retrySession _ _ _) _ hph₁
          | ok u => exact Early.ensures_pure hph₁

/-! ### One upload -/

theorem record {α : Type} {account : WorkerAccount} {err : GoError} {ph : φ} {Q : α → φ → Prop}
    {f : Option Time → Work α} (hph : failing err ph)
    (hf : ∀ r ph', I ph' → (f r).Ensures M R ph' Q) :
    (Worker.perform (.recordAccountFailure account err) >>= f).Ensures M R ph Q := by
  obtain ⟨hallowed, hnext⟩ := h.recorded account hph
  exact Early.Ensures.bind (Early.ensures_perform hallowed hnext) hf

theorem uploadBy {α : Type} {account : WorkerAccount} {x : Work (Except GoError α)}
    {failed : GoError → Work (Uploaded α)} {ph : φ} {Q : Uploaded α → φ → Prop}
    (hx : x.Ensures M R ph (Settles I failing))
    (hfailed : ∀ err ph', I ph' → (failed err).Ensures M R ph' Q)
    (hadded : ∀ reference ph', I ph' → Q (.added reference) ph') :
    (Worker.uploadBy account x failed).Ensures M R ph Q :=
  ensures_uploadBy (fun _ _ => h.recorded account) hx hfailed hadded

theorem perform_upload {media : Media} {ph : φ} (hph : I ph) :
    (Worker.perform (.upload media)).Ensures M R ph (Settles I failing) := by
  refine Early.ensures_perform (h.upstream hph rfl) fun r => ?_
  rcases r with err | reference
  · exact h.failed hph rfl rfl
  · exact h.answered hph rfl rfl rfl

theorem uploadToFlow {media : Media} {ph : φ} (hph : I ph) :
    (Worker.uploadToFlow media).Ensures M R ph (Settles I failing) := by
  refine h.ask hph rfl fun r => ?_
  cases r with
  | error err => exact Early.ensures_pure (h.failed hph rfl rfl)
  | ok url =>
    have hph₁ : I (M.next ph (.createUploadURL media) (.ok url)) := h.answered hph rfl rfl rfl
    refine h.ask hph₁ rfl fun r => ?_
    cases r with
    | error err => exact Early.ensures_pure (h.failed hph₁ rfl rfl)
    | ok u => exact Early.ensures_pure (h.answered hph₁ rfl rfl rfl)

/-! ### Polls -/

theorem pollJob (job : PolledJob) {ph : φ} (hph : I ph) :
    (Worker.pollJob job).Ensures M R ph (Settles I failing) := by
  obtain ⟨generationID, account, client, deadline⟩ := job
  cases client with
  | false => exact Early.ensures_throw (h.leave hph)
  | true =>
    refine Early.ensures_perform (h.upstream hph rfl) fun r => ?_
    rcases r with err | status
    · exact h.failed hph rfl rfl
    · exact h.answered hph rfl rfl rfl

/-- A failed fallback is no failure of the poll. -/
theorem fallback {op : JobCall} {α : Type} {ph : φ} {Q : α → φ → Prop} {f : op.Res → Work α}
    (hph : I ph) (hop : op.upstream = true) (hdecisive : op.decisive = false)
    (hf : ∀ r ph', I ph' → (f r).Ensures M R ph' Q) : (Worker.perform op >>= f).Ensures M R ph Q := by
  refine h.ask hph hop fun r => hf r _ ?_
  cases hr : op.upstreamError r with
  | none => exact h.answered hph hop hdecisive hr
  | some err => exact h.alive (h.failed hph hop hr)

theorem pollSession (job : PolledJob) {ph : φ} (hph : I ph) :
    (Worker.pollSession job).Ensures M R ph (Settles I failing) := by
  refine Early.Ensures.bind (h.pollJob job hph) fun r ph₁ hr => ?_
  cases r with
  | error err => exact Early.ensures_pure hr
  | ok status =>
    dsimp only
    split
    · refine h.fallback hr rfl rfl fun r ph₂ hph₂ => ?_
      split
      · exact Early.ensures_pure hph₂
      · refine h.fallback hph₂ rfl rfl fun r ph₃ hph₃ => ?_
        split <;> exact Early.ensures_pure hph₃
    · exact Early.ensures_pure hr

theorem pollRejected (job : PolledJob) (rejected : Bool) {err : GoError} {ph : φ}
    (hph : failing err ph) :
    (Worker.pollRejected job rejected err).Ensures M R ph fun _ ph' => I ph' := by
  refine h.record hph fun retryAt ph₁ hph₁ => ?_
  split
  · exact keeps_exit (h.yieldSubmittedRetry _ _ _ _) ph₁ hph₁
  · split
    · exact keeps_exit (h.yieldAt _) ph₁ hph₁
    · exact Early.ensures_pure hph₁

theorem failUpstreamGeneration (job : PolledJob) :
    Returns M I R R (Worker.failUpstreamGeneration job) := fun _ hph =>
  h.fallback hph rfl rfl fun _ _ hph₁ => h.failAfterSubmission _ _ _ _ hph₁

theorem completeWith (job : PolledJob) (empty : String) (outputs : List (String × String)) :
    Returns M I R R (Worker.completeWith job empty outputs) := by
  unfold Worker.completeWith
  split
  · exact h.yieldSubmittedRetry _ _ _ _
  · exact h.complete _ _ _

end Calls

end Attends

/-! ### The poll loop -/

/-- What the handlers of a poll loop do under the monitor. -/
structure PollHandlersKeep {φ : Type} (M : Monitor jobs φ) (I R : φ → Prop)
    (failing : GoError → φ → Prop) (handlers : Worker.PollHandlers) : Prop where
  poll : ∀ ph, I ph → handlers.poll.Ensures M R ph (Settles I failing)
  pollFailed : ∀ err ph, failing err ph →
    (handlers.pollFailed err).Ensures M R ph fun _ ph' => I ph'
  failed : ∀ status, Worker.Returns M I R R (handlers.failed status)
  completed : ∀ status, Worker.Returns M I R R (handlers.completed status)
  running : ∀ status, Worker.Returns M I I R (handlers.running status)

namespace Attends

open Worker

variable {φ : Type} {M : Monitor jobs φ} {I R : φ → Prop} {failing : GoError → φ → Prop}
  (h : Attends M I R R failing)
include h

/-- The induction is over the ticks. -/
theorem pollLoop {job : PolledJob} {handlers : PollHandlers}
    (hh : PollHandlersKeep M I R failing handlers) (ticks : ℕ) :
    (Worker.pollLoop job handlers ticks).Keeps M I R := by
  induction ticks with
  | zero => exact Early.keeps_throw (fun _ => h.leave) _
  | succ ticks ih =>
    refine (h.toSteady.perform rfl).bind fun done => ?_
    split
    · exact keeps_exit h.yieldContextDone
    · refine (h.deadlinePassed _).bind fun passed => ?_
      split
      · exact keeps_exit (h.markSubmissionUncertain _ _ _)
      · intro ph hph
        refine Early.Ensures.bind (hh.poll ph hph) fun r ph₁ hr => ?_
        cases r with
        | error err =>
          exact Early.Ensures.bind (hh.pollFailed err ph₁ hr) fun _ ph₂ hph₂ => ih ph₂ hph₂
        | ok status =>
          refine (keeps_orReturn (h.keeping rfl)).ensures_bind hr fun _ ph₂ hph₂ => ?_
          split
          · exact keeps_exit (hh.failed status) ph₂ hph₂
          · split
            · exact keeps_exit (hh.completed status) ph₂ hph₂
            · exact (keeps_orReturn (hh.running status)).ensures_bind hph₂ fun _ ph₃ hph₃ =>
                ih ph₃ hph₃

variable {job : PolledJob}

/-- The loop starts where the ticker leads to `I`. -/
theorem pollFrom {handlers : PollHandlers} (hh : PollHandlersKeep M I R failing handlers)
    (ticks : ℕ) {ph : φ} (hticker : M.allowed ph (.pollInterval job.client) ∧
      ∀ r, I (M.next ph (.pollInterval job.client) r)) :
    (Worker.pollFrom job handlers ticks).Ensures M R ph fun _ ph' => R ph' :=
  ensures_call hticker.1 fun r =>
    ((h.pollLoop hh ticks).leaves fun _ => h.leave) _ (hticker.2 r)

variable {ph : φ} (hticker : M.allowed ph (.pollInterval job.client) ∧
  ∀ r, I (M.next ph (.pollInterval job.client) r))
include hticker

theorem pollLeonardo (deadlineMessage empty : String) (ticks : ℕ) :
    (Worker.pollLeonardo deadlineMessage empty job ticks).Ensures M R ph fun _ ph' => R ph' := by
  refine h.pollFrom ?_ ticks hticker
  exact
    { poll := fun ph hph => h.pollJob job hph
      pollFailed := fun err ph hph => by
        refine h.record hph fun retryAt ph₁ hph₁ => ?_
        cases retryAt with
        | some retryAt => exact keeps_exit (h.settling _) ph₁ hph₁
        | none => exact Early.ensures_pure hph₁
      failed := fun _ => h.failUpstreamGeneration job
      completed := fun _ ph hph => by
        refine h.ask hph rfl fun r => ?_
        cases r with
        | error err =>
          exact h.record (h.failed hph rfl rfl) fun _ ph₁ hph₁ =>
            h.yieldSubmittedRetry _ _ _ _ ph₁ hph₁
        | ok outputs =>
          have hph₁ : I (M.next ph (.result job.generationID) (.ok outputs)) :=
            h.answered hph rfl rfl rfl
          dsimp only
          split
          · exact h.yieldSubmittedRetry _ _ _ _ _ hph₁
          · exact h.complete _ _ _ _ hph₁
      running := fun _ => by
        dsimp only
        exact h.updateRunning _ _ _ _ }

theorem pollAdobe {completed : JobStatus → Work Returned}
    (hcompleted : ∀ status, Returns M I R R (completed status)) (ticks : ℕ) :
    (Worker.pollAdobe completed job ticks).Ensures M R ph fun _ ph' => R ph' := by
  refine h.pollFrom ?_ ticks hticker
  exact
    { poll := fun ph hph => h.pollJob job hph
      pollFailed := fun err ph hph => h.pollRejected job _ hph
      failed := fun _ => h.failAfterSubmission _ _ _
      completed := fun status => returns_bind (h.toSteady.perform rfl) fun _ => hcompleted status
      running := fun _ => by
        dsimp only
        exact h.updateRunning _ _ _ _ }

theorem pollCreativeFabrica {deadlineMessage failure empty : String}
    {poll : Work (Except GoError JobStatus)}
    (hpoll : ∀ ph, I ph → poll.Ensures M R ph (Settles I failing)) (ticks : ℕ) :
    (Worker.pollCreativeFabrica deadlineMessage failure empty poll job ticks).Ensures M R ph
      fun _ ph' => R ph' := by
  refine h.pollFrom ?_ ticks hticker
  exact
    { poll := hpoll
      pollFailed := fun err ph hph => by
        obtain ⟨hallowed, hnext⟩ := h.classified hph
        refine Early.Ensures.bind (Early.ensures_perform hallowed hnext) fun rejected ph₁ hph₁ => ?_
        exact h.pollRejected job rejected hph₁
      failed := fun _ => h.failAfterSubmission _ _ _
      completed := fun _ => h.completeWith job empty _
      running := fun _ => by
        dsimp only
        exact h.updateRunning _ _ _ _ }

end Attends

/-! ### The submission -/

/-- From the answer with a job to the record of its id. -/
structure Submits {φ : Type} (M : Monitor jobs φ) (I R : φ → Prop) (failing : GoError → φ → Prop)
    (accepted stored : References → UpstreamJob → φ → Prop) : Prop
    extends Attends M I R R failing where
  accept : ∀ {ph : φ} {job : UpstreamJob} (provider : ProviderID) (request : UpstreamRequest),
    I ph → accepted request.references job (M.next ph (.submit provider request) (.ok job))
  clear : ∀ {references : References} {job : UpstreamJob} {ph : φ} (account : WorkerAccount),
    accepted references job ph → M.allowed ph (.clearAccountFailures account) ∧
      ∀ r, accepted references job (M.next ph (.clearAccountFailures account) r)
  accept_leave : ∀ {references : References} {job : UpstreamJob} {ph : φ},
    accepted references job ph → R ph
  store : ∀ {references : References} {job : UpstreamJob} {ph : φ} (accountID : UUID),
    accepted references job ph →
      M.allowed ph (.owned (.recordSubmission accountID job.generationID job.upstreamReportedCost))
  stored_held : ∀ {references : References} {job : UpstreamJob} {ph : φ} (accountID : UUID),
    accepted references job ph → stored references job (M.next ph
      (.owned (.recordSubmission accountID job.generationID job.upstreamReportedCost)) (.ok true))
  stored_lost : ∀ {references : References} {job : UpstreamJob} {ph : φ} (accountID : UUID)
    {r : Except GoError Bool}, accepted references job ph → r ≠ .ok true → R (M.next ph
      (.owned (.recordSubmission accountID job.generationID job.upstreamReportedCost)) r)

namespace Submits

open Worker

variable {φ : Type} {M : Monitor jobs φ} {I G R : φ → Prop} {failing : GoError → φ → Prop}
  {accepted stored : References → UpstreamJob → φ → Prop}
  (h : Submits M I R failing accepted stored)
include h

theorem recordSubmission {references : References} {job : UpstreamJob} {ph : φ}
    (accountID : UUID) (hph : accepted references job ph) :
    (Worker.recordSubmission accountID job).Ensures M R ph
      (Settles (stored references job) fun _ => R) := by
  unfold Worker.recordSubmission
  split
  · exact Early.ensures_pure (h.accept_leave hph)
  · refine Early.Ensures.bind (P := Returning (stored references job) R)
      (ensures_holding (h.store accountID hph) (fun _ => h.stored_lost accountID hph (by simp))
        (h.stored_lost accountID hph (by simp)) (h.stored_held accountID hph)) fun r ph₁ hr => ?_
    cases r <;> exact Early.ensures_pure hr

theorem submitPrepared {provider : ProviderID} {client : Bool} {account : WorkerAccount}
    {request : UpstreamRequest} {deadline : Time} {ph : φ}
    (hprepare : (prepareSubmission account.id request deadline).Ensures M R ph (Returning I R)) :
    (Worker.submitPrepared provider client account request deadline).Ensures M R ph
      fun r ph' => client = true ∧ stored request.references r.2 ph' := by
  refine Early.Ensures.bind (ensures_orReturn hprepare) fun _ ph₁ hph₁ => ?_
  cases client with
  | false =>
    exact Early.Ensures.bind (P := fun _ _ => False) (Early.ensures_throw (h.leave hph₁))
      fun _ _ hf => hf.elim
  | true =>
    refine h.ask hph₁ rfl fun r => ?_
    rcases r with err | job
    · refine h.record (h.failed hph₁ rfl rfl) fun _ ph₂ hph₂ => ?_
      split
      · exact ensures_exit (h.markSubmissionUncertain _ _ _ ph₂ hph₂)
      · exact ensures_exit (h.failTask _ _ ph₂ hph₂)
    · have hph₂ : accepted request.references job (M.next ph₁ (.submit provider request) (.ok job)) :=
        h.accept provider request hph₁
      obtain ⟨hallowed, hcleared⟩ := h.clear account hph₂
      refine Early.Ensures.bind (Early.ensures_perform hallowed hcleared) fun _ ph₃ hph₃ => ?_
      refine Early.Ensures.bind (h.recordSubmission account.id hph₃) fun r ph₄ hr => ?_
      cases r with
      | error err => exact Early.ensures_throw hr
      | ok generationID => exact Early.ensures_pure ⟨rfl, hr⟩

end Submits

/-- A monitor of whole runs: less than `I` may hold on the way from the uploads to the
submission, once a helper has settled the task without an error. -/
structure Conducts {φ : Type} (M : Monitor jobs φ) (I G R : φ → Prop)
    (failing : GoError → φ → Prop) (accepted stored : References → UpstreamJob → φ → Prop) : Prop
    extends Submits M I R failing accepted stored where
  going : Attends M I G R failing
  lapsed : ∀ ph call, I ph → G (M.next ph (.owned call) (.ok false))
  onTheWay : Steady M G R R
  prepared : ∀ {ph : φ} (accountID : UUID) (request : Option JSON) (deadline : Time), G ph →
    I (M.next ph (.owned (.prepare accountID request deadline)) (.ok true))

namespace Conducts

open Worker

variable {φ : Type} {M : Monitor jobs φ} {I G R : φ → Prop} {failing : GoError → φ → Prop}
  {accepted stored : References → UpstreamJob → φ → Prop}
  (h : Conducts M I G R failing accepted stored)
include h

theorem prepareSubmission (accountID : UUID) (request : UpstreamRequest) (deadline : Time)
    {ph : φ} (hph : G ph) :
    (Worker.prepareSubmission accountID request deadline).Ensures M R ph (Returning I R) := by
  refine (h.onTheWay.perform rfl).ensures_bind hph fun r ph' hph' => ?_
  cases r with
  | error err => exact Early.ensures_pure (h.onTheWay.leave hph')
  | ok body =>
    exact ensures_holding (h.onTheWay.owned _ hph') (fun err => h.onTheWay.refused _ hph' nofun)
      (h.onTheWay.refused _ hph' (by simp)) (h.prepared accountID (some body) deadline hph')

theorem submit {provider : ProviderID} {client : Bool} {taskTimeout : Time}
    {account : WorkerAccount} {references : References} {build : Work (Except GoError JSON)}
    (hbuild : build.Keeps M G R) {ph : φ} (hph : G ph) :
    (Worker.submit provider client taskTimeout account references build).Ensures M R ph
      fun r ph' => client = true ∧ stored references r.2.1 ph' := by
  refine hbuild.ensures_bind hph fun r ph₁ hph₁ => ?_
  cases r with
  | error err => exact ensures_exit (h.onTheWay.failTask _ err ph₁ hph₁)
  | ok members =>
    refine (h.onTheWay.perform rfl).ensures_bind hph₁ fun now ph₂ hph₂ => ?_
    refine Early.Ensures.bind
      (h.submitPrepared (h.prepareSubmission _ ⟨members, references⟩ _ hph₂)) fun r ph₃ hr => ?_
    exact Early.ensures_pure hr

end Conducts

end GenerationGateway
