import GenerationGateway.Workers.UpstreamSteps

/-!
# Whole runs under a monitor

Each worker claims its task and either resumes the job or submits one after its checks and
uploads. What a monitor needs for that: the claim leads to a phase it starts in, the
uploads go on as far as the submission, and the polls keep to the end.
-/

namespace GenerationGateway

open Effects

namespace Conducts

open Worker

variable {φ : Type} {M : Monitor jobs φ} {I G R : φ → Prop} {failing : GoError → φ → Prop}
  {accepted stored : References → UpstreamJob → φ → Prop}
  (h : Conducts M I G R failing accepted stored) {taskTimeout : Time} {ticks : ℕ}
include h

theorem processLeonardo {checks : List (Check × String)} {registered : Bool}
    {uploads : WorkerAccount → Work References} {poll : PolledJob → ℕ → Work Unit}
    (huploads : ∀ account ph, I ph → (uploads account).Ensures M R ph
      fun references ph' => G ph' ∧ ∀ job ph'', stored references job ph'' → I ph'')
    (hpoll : ∀ job, job.client = true → (poll job ticks).Leaves M I R) (task : Task) :
    (Worker.processLeonardo taskTimeout ticks checks registered uploads poll task).Leaves M I R := by
  unfold Worker.processLeonardo
  split
  · exact (h.resumeLeonardo task _).bind_leaves fun account => hpoll _ rfl
  · refine (h.requireAPIKey task).bind_leaves fun _ => ?_
    cases registered
    on_goal 2 => refine (h.require _ _).bind_leaves fun _ => ?_
    all_goals
      refine (h.submissionAccount task).bind_leaves fun account => ?_
      refine (keeps_forM (fun c => h.require c.1 c.2) checks).bind_leaves fun _ ph hph => ?_
      refine Early.Ensures.bind (huploads account ph hph) fun references ph₁ hph₁ => ?_
      refine (h.onTheWay.fenceTwice account).ensures_bind hph₁.1 fun account ph₂ hph₂ => ?_
      refine Early.Ensures.bind (h.submit ?_ hph₂) fun r ph₃ hph₃ => ?_
      · exact (h.onTheWay.perform rfl).bind fun _ => Early.keeps_pure _
      · exact hpoll _ rfl ph₃ (hph₁.2 _ _ hph₃.2)

/-- The task that is to be resumed is left to `hresume`. -/
theorem processAdobe {checks : List (Check × String)} {registered : Bool}
    {uploads : WorkerAccount × Bool → Work References} {poll : PolledJob → ℕ → Work Unit}
    {task : Task} {ph : φ}
    (hresume : ∀ generationID accountID, task.submittedGeneration = some (generationID, accountID) →
      (resumeAdobeTask task accountID >>= fun r =>
        poll ⟨generationID, r.1, r.2, task.upstreamDeadlineAt⟩ ticks).Ensures M R ph
        fun _ ph' => R ph')
    (hstart : task.submittedGeneration = none → I ph)
    (huploads : ∀ account ph, WithClient I G account ph → (uploads account).Ensures M R ph
      fun references ph' => G ph' ∧ ∀ job ph'', stored references job ph'' → I ph'')
    (hpoll : ∀ job, job.client = true → (poll job ticks).Leaves M I R) :
    (Worker.processAdobe taskTimeout ticks checks registered uploads poll task).Ensures M R ph
      fun _ ph' => R ph' := by
  unfold Worker.processAdobe
  split
  next generationID accountID hjob => exact hresume generationID accountID hjob
  next hjob =>
    refine (h.requireAPIKey task).ensures_bind (hstart hjob) fun _ ph₁ hph₁ => ?_
    cases registered
    on_goal 2 => refine (h.require _ _).ensures_bind hph₁ fun _ ph₁ hph₁ => ?_
    all_goals
      refine Early.Ensures.bind (h.going.prepareAdobeTask h.lapsed task hph₁) fun r ph₂ hph₂ => ?_
      have hchecks : (checks.forM fun c => require c.1 c.2).Ensures M R ph₂
          fun _ ph' => WithClient I G r ph' := by
        obtain ⟨account, client⟩ := r
        cases client with
        | true => exact keeps_forM (fun c => h.require c.1 c.2) checks ph₂ hph₂
        | false => exact keeps_forM (fun c => h.onTheWay.require c.1 c.2) checks ph₂ hph₂
      refine Early.Ensures.bind hchecks fun _ ph₃ hph₃ => ?_
      refine Early.Ensures.bind (huploads r ph₃ hph₃) fun references ph₄ hph₄ => ?_
      refine (h.onTheWay.enforceSubmissionFence _).ensures_bind hph₄.1 fun account ph₅ hph₅ => ?_
      refine (h.onTheWay.waitForSubmit _).ensures_bind hph₅ fun _ ph₆ hph₆ => ?_
      refine Early.Ensures.bind (h.submit (h.onTheWay.perform rfl) hph₆) fun r' ph₇ hph₇ => ?_
      exact hpoll _ hph₇.1 ph₇ (hph₄.2 _ _ hph₇.2)

theorem processCreativeFabricaImage {task : Task} {req : ImageRequest} {ph : φ}
    (hresume : ∀ generationID accountID, task.submittedGeneration = some (generationID, accountID) →
      (resumeCreativeFabricaTask task accountID >>= fun r =>
        pollCreativeFabricaImage ⟨generationID, r.1, r.2, task.upstreamDeadlineAt⟩ ticks).Ensures
        M R ph fun _ ph' => R ph')
    (hstart : task.submittedGeneration = none → I ph)
    (huploads : ∀ account ph, I ph →
      (uploadCreativeFabricaImageInputs account req).Ensures M R ph fun _ ph' => G ph')
    (hstored : ∀ sourceURL urls job ph, stored (flowReferences sourceURL urls) job ph → I ph)
    (hpoll : ∀ job, job.client = true → (pollCreativeFabricaImage job ticks).Leaves M I R) :
    (Worker.processCreativeFabricaImage taskTimeout ticks task req).Ensures M R ph
      fun _ ph' => R ph' := by
  unfold Worker.processCreativeFabricaImage
  split
  next generationID accountID hjob => exact hresume generationID accountID hjob
  next hjob =>
    refine (h.prepareCreativeFabrica _ task).ensures_bind (hstart hjob) fun account ph₁ hph₁ => ?_
    refine Early.Ensures.bind (huploads account ph₁ hph₁) fun urls ph₂ hph₂ => ?_
    refine (h.onTheWay.fenceTwice account).ensures_bind hph₂ fun account ph₃ hph₃ => ?_
    refine Early.Ensures.bind (h.submit (h.onTheWay.perform rfl) hph₃) fun r ph₄ hph₄ => ?_
    exact hpoll _ rfl ph₄ (hstored _ _ _ _ hph₄.2)

/-- What the frames lead to, from the phase in which the id has been recorded, is left to
`hframes`. -/
theorem processCreativeFabricaVideo {task : Task} {req : VideoRequest} {ph : φ}
    (hresume : ∀ generationID accountID, task.submittedGeneration = some (generationID, accountID) →
      (resumeCreativeFabricaTask task accountID >>= fun r =>
        pollCreativeFabricaVideo ⟨generationID, r.1, r.2, task.upstreamDeadlineAt⟩ ticks).Ensures
        M R ph fun _ ph' => R ph')
    (hstart : task.submittedGeneration = none → I ph)
    (hinputs : ∀ account ph, I ph →
      (collectCreativeFabricaVideoInputs account req).Ensures M R ph fun _ ph' => G ph')
    (hframes : ∀ account inputs job ph,
      stored (.frames (inputs.map creativefabricaVideoFrameRequest)) job ph →
      (uploadCreativeFabricaVideoFrames account.id inputs job).Ensures M R ph fun r ph' =>
        match r with
        | none => I ph'
        | some err => M.allowed ph' (.recordAccountFailure account err) ∧
            ∀ r, I (M.next ph' (.recordAccountFailure account err) r))
    (hpoll : ∀ job, job.client = true → (pollCreativeFabricaVideo job ticks).Leaves M I R) :
    (Worker.processCreativeFabricaVideo taskTimeout ticks task req).Ensures M R ph
      fun _ ph' => R ph' := by
  unfold Worker.processCreativeFabricaVideo
  split
  next generationID accountID hjob => exact hresume generationID accountID hjob
  next hjob =>
    refine (h.prepareCreativeFabrica _ task).ensures_bind (hstart hjob) fun account ph₁ hph₁ => ?_
    refine Early.Ensures.bind (hinputs account ph₁ hph₁) fun inputs ph₂ hph₂ => ?_
    refine (h.onTheWay.fenceTwice account).ensures_bind hph₂ fun account ph₃ hph₃ => ?_
    refine Early.Ensures.bind (h.submit (h.onTheWay.perform rfl) hph₃) fun r ph₄ hph₄ => ?_
    refine Early.Ensures.bind (hframes account inputs r.2.1 ph₄ hph₄.2) fun r' ph₅ hph₅ => ?_
    cases r' with
    | none => exact hpoll _ rfl ph₅ hph₅
    | some err =>
      refine Early.Ensures.bind (Early.ensures_perform hph₅.1 hph₅.2) fun _ ph₆ hph₆ => ?_
      exact ensures_exit (h.markSubmissionUncertain _ _ _ ph₆ hph₆)

end Conducts

/-! ### The handlers of the queue -/

/-- The task that a claim gives to the run. -/
def claimedTask (r : Except GoError ClaimResult) : Option Task :=
  match r with
  | .ok r => if r.claimed then r.task else none
  | .error _ => none

namespace Worker

section Handlers

variable {φ : Type} {M : Monitor jobs φ} {R : φ → Prop} {taskTimeout : Time} {ticks : ℕ}
  {decoder : Decoder} {D : Task → φ → Prop}

theorem ensures_claimTask {ph : φ} (hallowed : M.allowed ph .claimTask)
    (hclaimed : ∀ r task, claimedTask r = some task → D task (M.next ph .claimTask r))
    (hidle : ∀ r, claimedTask r = none → R (M.next ph .claimTask r)) :
    claimTask.Ensures M R ph D := by
  refine ensures_call hallowed fun r => ?_
  rcases r with err | r
  · exact Early.ensures_throw (hidle (.error err) rfl)
  · cases htask : (if r.claimed then r.task else none) with
    | none =>
      simp only [htask]
      exact Early.ensures_throw (hidle (.ok r) htask)
    | some task =>
      simp only [htask]
      exact Early.ensures_pure (hclaimed (.ok r) task htask)

variable
  (hsettled : ∀ task ph (call : OwnedCall), D task ph →
    M.allowed ph (.owned call) ∧ ∀ r, R (M.next ph (.owned call) r))
include hsettled

theorem ensures_invalidRequest (task : Task) (err : GoError) {ph : φ} (hph : D task ph) :
    (invalidRequest task err).Ensures M R ph fun _ ph' => R ph' := by
  have hcall := fun call => hsettled task ph call hph
  unfold invalidRequest
  split
  · exact ensures_exit (ensures_holding (hcall _).1 (fun err => (hcall _).2 (.error err))
      ((hcall _).2 (.ok false)) ((hcall _).2 (.ok true)))
  · exact ensures_exit (ensures_settling (hcall _).1 (fun err => (hcall _).2 (.error err))
      fun held => (hcall _).2 (.ok held))

variable {E : φ → Prop}
  (hcleanup : ∀ assets ph, E ph → (cleanupTerminalAssets assets).Obeys M ph fun _ ph' => R ph')
  (himage : ∀ task req ph, D task ph →
    (processImageOf taskTimeout ticks task req).Ensures M E ph fun _ ph' => E ph')
  (hvideo : ∀ task req ph, D task ph →
    (processVideoOf taskTimeout ticks task req).Ensures M E ph fun _ ph' => E ph')
  (haudio : ∀ task ph, D task ph → task.providerID = .leonardo →
    (processLeonardoAudio taskTimeout ticks task).Ensures M R ph fun _ ph' => R ph')
include hcleanup himage hvideo haudio

/-- A run of any kind, from the phase in which it claims its task. -/
theorem ensures_processTask (kind : Kind) {ph : φ} (hallowed : M.allowed ph .claimTask)
    (hclaimed : ∀ r task, claimedTask r = some task → D task (M.next ph .claimTask r))
    (hidle : ∀ r, claimedTask r = none → R (M.next ph .claimTask r)) :
    (processTask taskTimeout ticks decoder kind).Ensures M R ph fun _ ph' => R ph' := by
  have hclaim := ensures_claimTask hallowed hclaimed hidle
  cases kind with
  | image =>
    refine Early.Ensures.bind hclaim fun task ph₁ hph₁ => ?_
    split
    · exact ensures_invalidRequest hsettled task _ hph₁
    · exact (himage task _ ph₁ hph₁).deferring (hcleanup _)
  | video =>
    refine Early.Ensures.bind hclaim fun task ph₁ hph₁ => ?_
    split
    · exact ensures_invalidRequest hsettled task _ hph₁
    · exact (hvideo task _ ph₁ hph₁).deferring (hcleanup _)
  | audio =>
    refine Early.Ensures.bind hclaim fun task ph₁ hph₁ => ?_
    have hcall := fun call => hsettled task ph₁ call hph₁
    split
    · exact ensures_exit (ensures_settling (hcall _).1 (fun err => (hcall _).2 (.error err))
        fun held => (hcall _).2 (.ok held))
    next hprovider =>
      split
      · exact ensures_invalidRequest hsettled task _ hph₁
      · exact haudio task ph₁ hph₁ (not_not.mp hprovider)

end Handlers

end Worker

end GenerationGateway
