import GenerationGateway.Workers.Runs

/-!
# Whom a worker blames for an error

`recordAccountFailure` counts an error against the account and against the circuit of its
provider. A monitor keeps what the last call of a run has told: an error of the provider,
or an error of the gateway itself, which the helpers return in the same place. Every run
records exactly these errors, so a run blames only the provider if and only if no error of
its own is returned where the caller records it.
-/

namespace GenerationGateway

open Effects

/-! ### Errors and their origin -/

/-- `err` is `cause`, or says more in front of it as `fmt.Errorf` with `%w` does. -/
def GoError.Wraps (err cause : GoError) : Prop :=
  err.kind = cause.kind ∧ ∃ context, err.text = context ++ cause.text

theorem GoError.Wraps.refl (err : GoError) : err.Wraps err :=
  ⟨rfl, "", (String.empty_append (s := err.text)).symm⟩

/-- The error with which the upload of the frames ends before the first frame: no signed
URLs in the answer, or another number of them than of the inputs. -/
def frameFault (references : References) (job : UpstreamJob) : Option GoError :=
  match references with
  | .frames frames =>
    if frames.isEmpty then none
    else
      match job.frameUploadURLs with
      | .error err => some err
      | .ok urls =>
        if urls.length ≠ frames.length then
          some (Worker.urlCountMismatch urls.length frames.length)
        else none
  | _ => none

/-- The error of an update that did not take effect. -/
def updateFault (r : Except GoError Bool) : Option GoError :=
  match r with
  | .error err => some err
  | .ok true => none
  | .ok false => some Worker.leaseLost

/-- What the last call tells about an error that is on its way to the caller. -/
inductive Blame
  | clear
  /-- The provider's client has failed. -/
  | fromUpstream (cause : GoError)
  /-- The request was answered with a job; the id is not recorded yet. -/
  | submitted (fault : Option GoError)
  /-- A frame has been uploaded, its progress is not written yet. -/
  | framed
  /-- A stored asset, the signed URLs, the database or the lease. -/
  | fromHere (err : GoError)

def Blame.ofUpstream : Option GoError → Blame
  | some cause => .fromUpstream cause
  | none => .clear

def Blame.ofHere : Option GoError → Blame
  | some err => .fromHere err
  | none => .clear

def Blame.asked : Blame → Blame
  | .fromUpstream cause => .fromUpstream cause
  | _ => .clear

def Blame.cleared : Blame → Blame
  | .submitted fault => .submitted fault
  | _ => .clear

def Blame.recorded (b : Blame) (r : Except GoError Bool) : Blame :=
  match b, r with
  | .submitted fault, .ok true => .ofHere fault
  | _, _ => .clear

def Blame.updated (b : Blame) (r : Except GoError Bool) : Blame :=
  match b with
  | .framed => .ofHere (updateFault r)
  | _ => .clear

def Blame.next (b : Blame) : (op : JobCall) → op.Res → Blame
  | .openAsset _, r => .ofHere (errorOf r)
  | .uploadMedia _, .error ⟨err, true⟩ => .fromHere err
  | .submit _ request, .ok job => .submitted (frameFault request.references job)
  | .clearAccountFailures _, _ => b.cleared
  | .owned (.recordSubmission _ _ _), r => b.recorded r
  | .uploadFrame _ _, .ok () => .framed
  | .owned (.update _ _), r => b.updated r
  | .authenticationRejected _, _ => b.asked
  | op, r => .ofUpstream (op.upstreamError r)

def JobCall.records : JobCall → Bool
  | recordAccountFailure _ _ => true
  | _ => false

def Blame.allows : Blame → JobCall → Prop
  | .fromHere err, op => ∃ account, op = .recordAccountFailure account err
  | b, .recordAccountFailure _ err => ∃ cause, b = .fromUpstream cause ∧ err.Wraps cause
  | _, _ => True

def blaming : Monitor jobs Blame := ⟨Blame.allows, Blame.next⟩

/-- No error of the gateway is on its way, and nothing is to be recorded or written. -/
def Blame.Calm (b : Blame) : Prop := b = .clear ∨ ∃ cause, b = .fromUpstream cause

/-- No error of the gateway is on its way. -/
def Blame.Clean (b : Blame) : Prop := ∀ err, b ≠ .fromHere err

/-- The error is the provider's. -/
def Blame.Failing (err : GoError) (b : Blame) : Prop :=
  ∃ cause, b = .fromUpstream cause ∧ err.Wraps cause

/-- The error is the provider's or that of the gateway. -/
def Blame.Faulty (err : GoError) (b : Blame) : Prop := b.Failing err ∨ b = .fromHere err

namespace Blame

theorem calm_ofUpstream (r : Option GoError) : (ofUpstream r).Calm := by
  cases r with
  | none => exact .inl rfl
  | some cause => exact .inr ⟨cause, rfl⟩

theorem Calm.clean {b : Blame} (h : b.Calm) : b.Clean := by
  rcases h with rfl | ⟨cause, rfl⟩ <;> exact fun _ => nofun

theorem Calm.recorded {b : Blame} (h : b.Calm) (r : Except GoError Bool) : b.recorded r = clear := by
  rcases h with rfl | ⟨cause, rfl⟩ <;> rfl

theorem Calm.updated {b : Blame} (h : b.Calm) (r : Except GoError Bool) : b.updated r = clear := by
  rcases h with rfl | ⟨cause, rfl⟩ <;> rfl

theorem Calm.cleared {b : Blame} (h : b.Calm) : b.cleared = clear := by
  rcases h with rfl | ⟨cause, rfl⟩ <;> rfl

theorem Calm.asked {b : Blame} (h : b.Calm) : b.asked.Calm := by
  rcases h with rfl | ⟨cause, rfl⟩
  · exact .inl rfl
  · exact .inr ⟨cause, rfl⟩

theorem Clean.allows {b : Blame} (h : b.Clean) {op : JobCall} (hop : op.records = false) :
    b.allows op := by
  cases b with
  | fromHere err => exact absurd rfl (h err)
  | _ => cases op <;> trivial

theorem Calm.allows {b : Blame} (h : b.Calm) {op : JobCall} (hop : op.records = false) :
    b.allows op :=
  h.clean.allows hop

theorem Calm.owned {b : Blame} (h : b.Calm) (call : OwnedCall) (r : Except GoError Bool) :
    (b.next (.owned call) r).Calm := by
  cases call with
  | update u hu => exact .inl (h.updated r)
  | recordSubmission a g c => exact .inl (h.recorded r)
  | _ => exact .inl rfl

theorem Calm.quiet {b : Blame} (h : b.Calm) {op : JobCall} (hop : op.quiet = true) (r : op.Res) :
    (b.next op r).Calm := by
  cases op <;> first | exact .inl rfl | exact .inl h.cleared | cases hop

theorem Failing.calm {err : GoError} {b : Blame} (h : b.Failing err) : b.Calm := by
  obtain ⟨cause, rfl, -⟩ := h
  exact .inr ⟨cause, rfl⟩

end Blame

theorem JobCall.records_of_upstream {op : JobCall} (hop : op.upstream = true) :
    op.records = false := by
  cases op <;> first | rfl | cases hop

theorem JobCall.records_of_quiet {op : JobCall} (hop : op.quiet = true) : op.records = false := by
  cases op <;> first | rfl | cases hop

/-- A call of the client leaves its error, and nothing when it is answered by a value
that decides no more. -/
theorem Blame.next_upstream {op : JobCall} {r : op.Res} (hop : op.upstream = true)
    (hr : op.decisive = false ∨ (op.upstreamError r).isSome) (b : Blame) :
    b.next op r = .ofUpstream (op.upstreamError r) := by
  have hdecided : op.decisive = true → (op.upstreamError r).isSome := by
    intro h
    rcases hr with hr | hr
    · rw [h] at hr
      cases hr
    · exact hr
  cases op with
  | uploadMedia source =>
    have hsome := hdecided rfl
    rcases r with ⟨err, stored⟩ | reference
    · cases stored with
      | false => rfl
      | true => cases hsome
    · cases hsome
  | uploadFrame url input =>
    have hsome := hdecided rfl
    rcases r with err | u
    · rfl
    · cases hsome
  | submit provider request =>
    have hsome := hdecided rfl
    rcases r with err | job
    · rfl
    · cases hsome
  | _ => first | rfl | cases hop

section Monitor

variable {N : Blame → Prop}

theorem steady_blaming (hN : ∀ b : Blame, b.Calm → N b) :
    Steady blaming Blame.Calm N Blame.Clean where
  leave := Blame.Calm.clean
  quiet := fun hph hop => ⟨hph.allows (JobCall.records_of_quiet hop), fun r => hph.quiet hop r⟩
  owned := fun _ hph => hph.allows rfl
  held := fun call hph _ => hph.owned call (.ok true)
  ended := fun call hph _ => hN _ (hph.owned call (.ok true))
  refused := fun call r hph _ => (hph.owned call r).clean

theorem attends_blaming (hN : ∀ b : Blame, b.Calm → N b) :
    Attends blaming Blame.Calm N Blame.Clean Blame.Failing where
  toSteady := steady_blaming hN
  alive := Blame.Failing.calm
  upstream := fun hph hop => hph.allows (JobCall.records_of_upstream hop)
  failed := by
    intro ph op r err _ hop hr
    have hnext := Blame.next_upstream hop (.inr (by rw [hr]; rfl)) ph
    rw [hr] at hnext
    exact ⟨err, hnext, .refl err⟩
  answered := by
    intro ph op r _ hop hdecisive hr
    have hnext := Blame.next_upstream hop (.inl hdecisive) ph (r := r)
    rw [hr] at hnext
    exact .inl hnext
  recorded := by
    rintro err ph account ⟨cause, rfl, hwraps⟩
    exact ⟨⟨cause, rfl, hwraps⟩, fun _ => .inl rfl⟩
  classified := by
    rintro err ph ⟨cause, rfl, hwraps⟩
    exact ⟨trivial, fun _ => ⟨cause, rfl, hwraps⟩⟩

end Monitor

def Blame.Accepted (references : References) (job : UpstreamJob) (b : Blame) : Prop :=
  b = .submitted (frameFault references job)

/-- The id is recorded, and what the frames will meet is known. -/
def Blame.Stored (references : References) (job : UpstreamJob) (b : Blame) : Prop :=
  b = .ofHere (frameFault references job)

theorem submits_blaming :
    Submits blaming Blame.Calm Blame.Clean Blame.Failing Blame.Accepted Blame.Stored where
  toAttends := attends_blaming fun _ => Blame.Calm.clean
  accept := fun _ _ _ => rfl
  clear := by
    rintro references job ph account rfl
    exact ⟨trivial, fun _ => rfl⟩
  accept_leave := by
    rintro references job ph rfl err
    nofun
  store := by
    rintro references job ph accountID rfl
    trivial
  stored_held := by
    rintro references job ph accountID rfl
    rfl
  stored_lost := by
    rintro references job ph accountID r rfl hr
    rcases r with err | held
    · exact fun _ => nofun
    · cases held with
      | true => exact absurd rfl hr
      | false => exact fun _ => nofun

/-! ### The steps of the workers -/

namespace Worker

variable {α : Type}

/-- Parts of a run that end calmly. -/
def Calmly (p : Work α) : Prop := p.Keeps blaming Blame.Calm Blame.Clean

theorem steady_clean : Steady blaming Blame.Calm Blame.Clean Blame.Clean :=
  steady_blaming fun _ => Blame.Calm.clean

theorem attends_clean : Attends blaming Blame.Calm Blame.Clean Blame.Clean Blame.Failing :=
  attends_blaming fun _ => Blame.Calm.clean

theorem returns_fail (code : String) (err : GoError) :
    Returns blaming Blame.Calm Blame.Calm Blame.Clean (fail code err) := fun _ hb =>
  ensures_settling (hb.allows rfl) (fun _ _ => nofun) fun _ => .inl rfl

theorem calmly_failRun (code : String) (err : GoError) : Calmly (failRun code err : Work α) :=
  steady_clean.failRun code err

theorem calmly_abandon (code : String) (err : GoError) :
    Calmly (abandon code err : Work (Uploaded α)) :=
  (keeps_orReturn (returns_fail code err)).bind fun _ => Early.keeps_pure _

theorem calmly_skip (code : String) (err : GoError) :
    Calmly (skip code err : Work (Uploaded α)) :=
  (keeps_orReturn (returns_fail code err)).bind fun _ => Early.keeps_pure _

theorem calmly_read {media : Media} {failed : GoError → Work (Uploaded α)}
    {rest : MediaData → Work (Uploaded α)} (hfailed : ∀ err, Calmly (failed err))
    (hrest : ∀ data, Calmly (rest data)) : Calmly (read media failed rest) := fun _ hb =>
  ensures_read (hb.allows rfl) (fun err => hfailed err _ (.inl rfl))
    fun data => hrest data _ (.inl rfl)

theorem Blame.Faulty.record {err : GoError} {b : Blame} (h : b.Faulty err)
    (account : WorkerAccount) : blaming.allowed b (.recordAccountFailure account err) ∧
      ∀ r, (blaming.next b (.recordAccountFailure account err) r).Calm := by
  rcases h with ⟨cause, rfl, hwraps⟩ | rfl
  · exact ⟨⟨cause, rfl, hwraps⟩, fun _ => .inl rfl⟩
  · exact ⟨⟨account, rfl⟩, fun _ => .inl rfl⟩

theorem calmly_uploadBy {account : WorkerAccount} {x : Work (Except GoError α)}
    {failed : GoError → Work (Uploaded α)}
    (hx : ∀ b : Blame, b.Calm →
      x.Ensures blaming Blame.Clean b (Settles Blame.Calm Blame.Faulty))
    (hfailed : ∀ err, Calmly (failed err)) : Calmly (uploadBy account x failed) := fun _ hb =>
  ensures_uploadBy (fun _ _ h => Blame.Faulty.record h account) (hx _ hb)
    (fun err => hfailed err) fun _ _ hb' => hb'

theorem faulty_of_failing (r : Except GoError α) (b : Blame)
    (h : Settles Blame.Calm Blame.Failing r b) : Settles Blame.Calm Blame.Faulty r b := by
  cases r with
  | ok a => exact h
  | error err => exact .inl h

theorem ensures_upload (media : Media) (b : Blame) (hb : b.Calm) :
    (perform (.upload media)).Ensures blaming Blame.Clean b
      (Settles Blame.Calm Blame.Faulty) :=
  (attends_clean.perform_upload hb).mono faulty_of_failing

theorem calmly_upload (account : WorkerAccount) (media : Media)
    {failed : GoError → Work (Uploaded String)} (hfailed : ∀ err, Calmly (failed err)) :
    Calmly (upload account media failed) :=
  calmly_uploadBy (ensures_upload media) hfailed

/-- An error of the file is on its way as one of the provider would be. -/
theorem ensures_uploadTaskImage (source : SourceMedia) (b : Blame) (hb : b.Calm) :
    (uploadTaskImage source).Ensures blaming Blame.Clean b
      (Settles Blame.Calm Blame.Faulty) := by
  refine ensures_call (hb.allows rfl) fun r => ?_
  cases r with
  | error err => exact Early.ensures_pure (.inr rfl)
  | ok u => exact ensures_upload _ _ (.inl rfl)

theorem ensures_uploadTaskMedia (source : SourceMedia) (b : Blame) (hb : b.Calm) :
    (uploadTaskMedia source).Ensures blaming Blame.Clean b
      (Settles Blame.Calm Blame.Faulty) := by
  refine ensures_call (hb.allows rfl) fun r => ?_
  cases r with
  | error err => exact Early.ensures_pure (.inr rfl)
  | ok u =>
    refine ensures_call trivial fun r => ?_
    rcases r with ⟨err, stored⟩ | reference
    · cases stored with
      | true => exact Early.ensures_pure (.inr rfl)
      | false => exact Early.ensures_pure (.inl ⟨err, rfl, .refl err⟩)
    · exact Early.ensures_pure (.inl rfl)

theorem calmly_uploadAll {β : Type} {account : WorkerAccount} {one : β → Work (Uploaded α)}
    (hone : ∀ b, Calmly (one b)) (media : List β) : Calmly (uploadAll account one media) := by
  refine fun b hb => ensures_uploadAll (E := Blame.Calm) (fun _ h => h) (fun _ h => h)
    (steady_clean.updateUploading _ _) (fun _ => steady_clean.updateUploading _ _)
    (fun medium b' hb' => ?_) media hb
  refine (hone medium b' hb').mono fun r b'' hb'' => ?_
  cases r <;> exact hb''

theorem calmly_uploadEach {β : Type} {account : WorkerAccount} {total : ℕ}
    {one : β → Work (Uploaded α)} (hone : ∀ b, Calmly (one b)) (done : ℕ) (media : List β) :
    Calmly (uploadEach account total one done media) := by
  refine fun b hb => (ensures_uploadEach (E := Blame.Calm) (G := Blame.Calm) (fun _ h => h)
    (fun _ => steady_clean.updateUploading _ _) (fun medium b' hb' => ?_) media done b hb).mono
    fun _ _ h => h.1
  refine (hone medium b' hb').mono fun r b'' hb'' => ?_
  cases r <;> exact hb''

theorem calmly_uploadImage (account : WorkerAccount) (media : Media) :
    Calmly (uploadImage account media) := by
  cases media with
  | inline source =>
    exact calmly_read (fun err => calmly_failRun _ err) fun _ =>
      calmly_upload _ _ fun err => calmly_failRun _ err
  | asset source => exact calmly_uploadBy (ensures_uploadTaskImage source) fun err => calmly_failRun _ err

theorem calmly_uploadGuidance (account : WorkerAccount) (media : Media) :
    Calmly (uploadGuidance account media) := by
  cases media with
  | inline source =>
    exact calmly_read (fun err => calmly_abandon _ err) fun _ =>
      calmly_upload _ _ fun err => calmly_abandon _ err
  | asset source => exact calmly_uploadBy (ensures_uploadTaskImage source) fun err => calmly_abandon _ err

theorem calmly_uploadMeasured (account : WorkerAccount) (source : SourceMedia) :
    Calmly (uploadMeasured account source) := by
  refine Early.Keeps.bind
    (calmly_uploadBy (ensures_uploadTaskMedia source) fun err => calmly_abandon _ err) fun r => ?_
  cases r with
  | added reference =>
    refine (steady_clean.perform rfl).bind fun r => ?_
    rcases r with ⟨code, err⟩ | u
    · exact calmly_abandon code err
    · exact Early.keeps_pure _
  | skipped => exact Early.keeps_pure _
  | abandoned => exact Early.keeps_pure _

theorem calmly_uploadMeasuredGroup (account : WorkerAccount) (total done : ℕ)
    (media : List SourceMedia) : Calmly (uploadMeasuredGroup account total done media) := by
  refine Early.Keeps.bind (calmly_uploadEach (calmly_uploadMeasured account) done media) fun r => ?_
  dsimp only
  split
  · refine (steady_clean.perform rfl).bind fun r => ?_
    rcases r with ⟨code, err⟩ | u
    · exact (keeps_orReturn (returns_fail code err)).bind fun _ => Early.keeps_pure _
    · exact Early.keeps_pure _
  · exact Early.keeps_pure _

theorem calmly_uploadLeonardoVideoGuidance (account : WorkerAccount) (req : VideoRequest) :
    Calmly (uploadLeonardoVideoGuidance account req) := by
  unfold uploadLeonardoVideoGuidance
  extract_lets images total groups
  have hgroups : Calmly (groups ()) := by
    refine Early.Keeps.bind (calmly_uploadEach (calmly_uploadGuidance account) 0 _) ?_
    rintro ⟨references, complete⟩
    cases complete with
    | false => exact Early.keeps_pure _
    | true =>
      refine Early.Keeps.bind (calmly_uploadMeasuredGroup account _ _ _) ?_
      rintro ⟨videos, complete⟩
      cases complete with
      | false => exact Early.keeps_pure _
      | true =>
        exact Early.Keeps.bind (calmly_uploadMeasuredGroup account _ _ _) fun _ =>
          Early.keeps_pure _
  split
  · exact Early.Keeps.bind (keeps_orReturn (steady_clean.updateUploading _ _)) fun _ => hgroups
  · exact hgroups

/-! ### Frames -/

theorem ensures_updateSubmitted (progress : ℤ) (accountID : UUID) :
    (updateSubmitted progress accountID).Ensures blaming Blame.Clean .framed fun r b =>
      match r with
      | none => b.Calm
      | some err => b = .fromHere err :=
  ensures_holding trivial (fun _ => rfl) rfl (.inl rfl)

/-- The induction is over the frames that are left. -/
theorem ensures_uploadFrames (accountID : UUID) (total : ℕ) (frames : List (String × VideoInput)) :
    ∀ done b, Blame.Calm b →
      (uploadFrames accountID total done frames).Ensures blaming Blame.Clean b fun r b' =>
        match r with
        | none => b'.Calm
        | some err => b'.Faulty err := by
  induction frames with
  | nil => exact fun _ _ hb => Early.ensures_pure hb
  | cons frame rest ih =>
    intro done b hb
    refine ensures_call (hb.allows rfl) fun r => ?_
    rcases r with err | u
    · refine Early.ensures_pure (.inl ⟨err, rfl, rfl, ?_⟩)
      exact ⟨"upload Creative Fabrica video frame " ++ toString (done + 1) ++ ": ", rfl⟩
    · refine Early.Ensures.bind (ensures_updateSubmitted _ _) fun r b₁ hr => ?_
      cases r with
      | none => exact ih (done + 1) b₁ hr
      | some err => exact Early.ensures_pure (.inr hr)

theorem ensures_uploadCreativeFabricaVideoFrames (accountID : UUID) (inputs : List CollectedInput)
    (job : UpstreamJob) (b : Blame)
    (hb : b.Stored (.frames (inputs.map creativefabricaVideoFrameRequest)) job) :
    (uploadCreativeFabricaVideoFrames accountID inputs job).Ensures blaming Blame.Clean b
      fun r b' =>
        match r with
        | none => b'.Calm
        | some err => b'.Faulty err := by
  simp only [Blame.Stored, frameFault, List.isEmpty_map, List.length_map] at hb
  unfold uploadCreativeFabricaVideoFrames
  cases hempty : inputs.isEmpty with
  | true =>
    rw [hempty] at hb
    exact Early.ensures_pure (.inl hb)
  | false =>
    rw [hempty] at hb
    simp only [Bool.false_eq_true, if_false] at hb ⊢
    cases hurls : job.frameUploadURLs with
    | error err =>
      rw [hurls] at hb
      exact Early.ensures_pure (.inr hb)
    | ok urls =>
      rw [hurls] at hb
      dsimp only at hb ⊢
      split
      next hcount =>
        rw [if_pos hcount] at hb
        exact Early.ensures_pure (.inr hb)
      next hcount =>
        rw [if_neg hcount] at hb
        exact ensures_uploadFrames _ _ _ 0 b (.inl hb)

/-! ### Whole runs -/

/-- References that are no frames meet no fault of frames. -/
theorem Blame.Stored.calm {references : References} {job : UpstreamJob} {b : Blame}
    (h : b.Stored references job) (href : frameFault references job = none) : b.Calm := by
  rw [Blame.Stored, href] at h
  exact .inl h

theorem conducts_blaming :
    Conducts blaming Blame.Calm Blame.Calm Blame.Clean Blame.Failing Blame.Accepted
      Blame.Stored where
  toSubmits := submits_blaming
  going := attends_blaming fun _ h => h
  lapsed := fun _ call hph => hph.owned call (.ok false)
  onTheWay := steady_clean
  prepared := fun _ _ _ _ => .inl rfl

theorem blaming_ticker (client : Bool) {b : Blame} (hb : b.Calm) :
    blaming.allowed b (.pollInterval client) ∧
      ∀ r, (blaming.next b (.pollInterval client) r).Calm :=
  ⟨hb.allows rfl, fun _ => .inl rfl⟩

variable {taskTimeout : Time} {ticks : ℕ}

/-- A poll loop may start calmly, with or without a client. -/
abbrev PollsCleanly (poll : PolledJob → ℕ → Work Unit) (ticks : ℕ) : Prop :=
  ∀ job, (poll job ticks).Leaves blaming Blame.Calm Blame.Clean

theorem polls_leonardo (deadlineMessage empty : String) :
    PollsCleanly (pollLeonardo deadlineMessage empty) ticks := fun _ _ hb =>
  attends_clean.pollLeonardo (blaming_ticker _ hb) _ _ ticks

theorem polls_adobeImage : PollsCleanly pollAdobeImage ticks := fun job _ hb =>
  attends_clean.pollAdobe (blaming_ticker _ hb) (fun _ => attends_clean.completeWith job _ _) ticks

theorem polls_adobeVideo : PollsCleanly pollAdobeVideo ticks := fun job _ hb =>
  attends_clean.pollAdobe (blaming_ticker _ hb) (fun _ => attends_clean.completeWith job _ _) ticks

theorem polls_creativeFabricaImage : PollsCleanly pollCreativeFabricaImage ticks :=
  fun job _ hb => attends_clean.pollCreativeFabrica (blaming_ticker _ hb)
    (fun _ => attends_clean.pollJob job) ticks

theorem polls_creativeFabricaVideo : PollsCleanly pollCreativeFabricaVideo ticks :=
  fun job _ hb => attends_clean.pollCreativeFabrica (blaming_ticker _ hb)
    (fun _ => attends_clean.pollSession job) ticks

/-- A resumed job is polled with or without a client. -/
theorem ensures_resumed {resume : Work (WorkerAccount × Bool)} {poll : PolledJob → ℕ → Work Unit}
    {job : WorkerAccount × Bool → PolledJob} {b : Blame}
    (hresume : resume.Ensures blaming Blame.Clean b (WithClient Blame.Calm Blame.Calm))
    (hpoll : PollsCleanly poll ticks) :
    (resume >>= fun r => poll (job r) ticks).Ensures blaming Blame.Clean b
      fun _ b' => b'.Clean := by
  refine Early.Ensures.bind hresume fun r b₁ hb₁ => ?_
  refine hpoll _ b₁ ?_
  simpa [WithClient] using hb₁

theorem calmly_uploads {α : Type} {x : Work α} {f : α → Work References} (hx : Calmly x)
    (hf : ∀ a, ∃ references, f a = pure references ∧ ∀ job, frameFault references job = none)
    (b : Blame) (hb : b.Calm) :
    (x >>= f).Ensures blaming Blame.Clean b fun references b' =>
      b'.Calm ∧ ∀ job b'', Blame.Stored references job b'' → Blame.Calm b'' := by
  refine Early.Ensures.bind (hx b hb) fun a b₁ hb₁ => ?_
  obtain ⟨references, hreferences, hfault⟩ := hf a
  rw [hreferences]
  exact Early.ensures_pure ⟨hb₁, fun job _ h => Blame.Stored.calm h (hfault job)⟩

theorem calmly_uploadVia {client : Bool} {account : WorkerAccount} {media : Media}
    {failed : GoError → Work (Uploaded String)} (hfailed : ∀ err, Calmly (failed err)) :
    Calmly (uploadVia client account media failed) := by
  cases client with
  | true => exact calmly_upload account media hfailed
  | false => exact steady_clean.stop _

theorem calmly_uploadAdobeImage (account : WorkerAccount × Bool) (media : Media) :
    Calmly (uploadAdobeImage account media) :=
  calmly_read (fun err => calmly_failRun _ err) fun _ =>
    calmly_uploadVia fun err => calmly_failRun _ err

theorem calmly_uploadAdobeMedia (account : WorkerAccount × Bool) (model : String)
    (m : AdobeMedia) : Calmly (uploadAdobeMedia account model m) := by
  refine calmly_read (fun err => calmly_abandon _ err) fun _ => ?_
  refine Early.Keeps.bind (calmly_uploadVia fun err => calmly_skip _ err) fun r => ?_
  cases r <;> exact Early.keeps_pure _

theorem calmly_uploadFlowImage (account : WorkerAccount) (media : Media) :
    Calmly (uploadFlowImage account media) := by
  refine calmly_read (fun err => calmly_abandon _ err) fun _ => ?_
  refine Early.Keeps.bind (calmly_uploadBy (fun b hb => ?_) fun err => calmly_skip _ err) fun r => ?_
  · exact (attends_clean.uploadToFlow hb).mono faulty_of_failing
  · cases r <;> exact Early.keeps_pure _

theorem calmly_collectInput (input : VideoInput) : Calmly (collectInput input) := by
  unfold collectInput
  split
  · exact calmly_read (fun err => calmly_abandon _ err) fun _ => Early.keeps_pure _
  · exact calmly_read (fun err => calmly_skip _ err) fun _ => Early.keeps_pure _

theorem calmly_leonardo {α : Type} {checks : List (Check × String)} {registered : Bool}
    {x : WorkerAccount → Work α} {f : α → Work References} {poll : PolledJob → ℕ → Work Unit}
    (hx : ∀ account, Calmly (x account))
    (hf : ∀ a, ∃ references, f a = pure references ∧ ∀ job, frameFault references job = none)
    (hpoll : PollsCleanly poll ticks) (task : Task) (b : Blame) (hb : b.Calm) :
    (processLeonardo taskTimeout ticks checks registered (fun account => x account >>= f) poll
      task).Ensures blaming Blame.Clean b fun _ b' => b'.Clean :=
  conducts_blaming.processLeonardo (fun account => calmly_uploads (hx account) hf)
    (fun job _ => hpoll job) task b hb

theorem calmly_adobe {α : Type} {checks : List (Check × String)} {registered : Bool}
    {x : WorkerAccount × Bool → Work α} {f : α → Work References}
    {poll : PolledJob → ℕ → Work Unit} (hx : ∀ account, Calmly (x account))
    (hf : ∀ a, ∃ references, f a = pure references ∧ ∀ job, frameFault references job = none)
    (hpoll : PollsCleanly poll ticks) (task : Task) (b : Blame) (hb : b.Calm) :
    (processAdobe taskTimeout ticks checks registered (fun account => x account >>= f) poll
      task).Ensures blaming Blame.Clean b fun _ b' => b'.Clean := by
  refine conducts_blaming.processAdobe (fun generationID accountID _ => ?_) (fun _ => hb)
    (fun account b hb => calmly_uploads (hx account) hf b (by simpa [WithClient] using hb))
    fun job _ => hpoll job
  exact ensures_resumed ((attends_blaming fun _ h => h).resumeAdobeTask task accountID hb) hpoll

theorem calmly_processImageOf (task : Task) (req : ImageRequest) (b : Blame) (hb : b.Calm) :
    (processImageOf taskTimeout ticks task req).Ensures blaming Blame.Clean b
      fun _ b' => b'.Clean := by
  unfold processImageOf
  cases task.providerID with
  | leonardo =>
    exact calmly_leonardo (fun account => calmly_uploadAll (calmly_uploadImage account) req.media)
      (fun _ => ⟨_, rfl, fun _ => rfl⟩) (polls_leonardo _ _) task b hb
  | adobe =>
    exact calmly_adobe (fun account => calmly_uploadAll (calmly_uploadAdobeImage account) req.media)
      (fun _ => ⟨_, rfl, fun _ => rfl⟩) polls_adobeImage task b hb
  | creativefabrica =>
    refine conducts_blaming.processCreativeFabricaImage (fun generationID accountID _ => ?_)
      (fun _ => hb) (fun account b hb => ?_) (fun _ _ _ _ h => Blame.Stored.calm h rfl)
      fun job _ => polls_creativeFabricaImage job
    · exact ensures_resumed
        ((attends_blaming fun _ h => h).resumeCreativeFabricaTask task accountID hb)
        polls_creativeFabricaImage
    · exact (Early.Keeps.bind (calmly_uploadAll (calmly_uploadFlowImage account) req.media)
        fun _ => Early.keeps_pure _) b hb

theorem calmly_processVideoOf (task : Task) (req : VideoRequest) (b : Blame) (hb : b.Calm) :
    (processVideoOf taskTimeout ticks task req).Ensures blaming Blame.Clean b
      fun _ b' => b'.Clean := by
  unfold processVideoOf
  cases task.providerID with
  | leonardo =>
    exact calmly_leonardo (fun account => calmly_uploadLeonardoVideoGuidance account req)
      (fun _ => ⟨_, rfl, fun _ => rfl⟩) (polls_leonardo _ _) task b hb
  | adobe =>
    refine calmly_adobe (fun account => ?_) (fun _ => ⟨_, rfl, fun _ => rfl⟩) polls_adobeVideo
      task b hb
    exact Early.Keeps.bind (calmly_uploadAll (calmly_uploadAdobeMedia account req.model) _)
      fun _ => Early.keeps_pure _
  | creativefabrica =>
    refine conducts_blaming.processCreativeFabricaVideo (fun generationID accountID _ => ?_)
      (fun _ => hb) (fun account b hb => ?_) (fun account inputs job b hb => ?_)
      fun job _ => polls_creativeFabricaVideo job
    · exact ensures_resumed
        ((attends_blaming fun _ h => h).resumeCreativeFabricaTask task accountID hb)
        polls_creativeFabricaVideo
    · exact (Early.Keeps.bind (calmly_uploadAll calmly_collectInput req.inputs)
        fun _ => Early.keeps_pure _) b hb
    · refine (ensures_uploadCreativeFabricaVideoFrames account.id inputs job b hb).mono
        fun r b' hr => ?_
      cases r with
      | none => exact hr
      | some err => exact Blame.Faulty.record hr account

theorem clean_clear : Blame.Clean .clear := fun _ => nofun

theorem clean_cleanupTerminalAssets (assets : List SourceMedia) (b : Blame) (hb : b.Clean) :
    (cleanupTerminalAssets assets).Obeys blaming b fun _ b' => b'.Clean := by
  refine ⟨hb.allows rfl, fun r => ?_⟩
  rcases r with err | task
  · exact clean_clear
  · exact Prog.obeys_ite (fun _ => ⟨trivial, fun _ => clean_clear⟩) fun _ => clean_clear

/-- Every call on every path of a run is allowed. -/
theorem ensures_processTask_blaming (decoder : Decoder) (kind : Kind) :
    (processTask taskTimeout ticks decoder kind).Ensures blaming Blame.Clean .clear
      fun _ b => b.Clean := by
  refine ensures_processTask (D := fun _ b => b.Calm)
    (fun _ b call hb => ⟨hb.allows rfl, fun r => (hb.owned call r).clean⟩)
    clean_cleanupTerminalAssets calmly_processImageOf calmly_processVideoOf
    (fun task b hb _ => ?_) kind trivial (fun _ _ _ => .inl rfl) fun _ _ _ => nofun
  exact calmly_leonardo (x := fun _ => pure ()) (f := fun _ => pure (.guidance []))
    (fun _ => Early.keeps_pure ()) (fun _ => ⟨_, rfl, fun _ => rfl⟩) (polls_leonardo _ _) task b hb

end Worker

/-! ### What a run records -/

/-- The last call of the client has failed, and `err` tells of it; since then the run has
at most asked what the error means. -/
def OfUpstream (calls : List JobEvent) (err : GoError) : Prop :=
  ∃ earlier e asked cause, calls = earlier ++ e :: asked ∧
    e.op.upstreamError e.answer = some cause ∧ err.Wraps cause ∧
    ∀ f ∈ asked, ∃ rejected, f.op = .authenticationRejected rejected

/-- Every failure that is recorded is the provider's. -/
def BlamesUpstream (calls : List JobEvent) : Prop :=
  ∀ before account err retryAt after,
    calls = before ++ ⟨.recordAccountFailure account err, retryAt⟩ :: after → OfUpstream before err

/-- The answers that leave an error of the gateway with a caller that records it: a stored
asset that cannot be opened or read, the signed URLs of a session that has inputs, the
progress of a frame that has been uploaded. -/
inductive LocalFault : List JobEvent → JobEvent → GoError → Prop
  | openAsset (before : List JobEvent) (source : SourceMedia) (err : GoError) :
      LocalFault before ⟨.openAsset source, .error err⟩ err
  | storedFile (before : List JobEvent) (source : SourceMedia) (err : GoError) :
      LocalFault before ⟨.uploadMedia source, .error ⟨err, true⟩⟩ err
  | frameURLs {earlier cleared : List JobEvent} {provider : ProviderID}
      {request : UpstreamRequest} {job : UpstreamJob} {err : GoError} (accountID : UUID)
      (generationID : String) (cost : Option ℚ)
      (hcleared : ∀ f ∈ cleared, ∃ account, f.op = .clearAccountFailures account)
      (hfault : frameFault request.references job = some err) :
      LocalFault (earlier ++ ⟨.submit provider request, .ok job⟩ :: cleared)
        ⟨.owned (.recordSubmission accountID generationID cost), .ok true⟩ err
  | frameProgress {earlier : List JobEvent} {url : String} {input : VideoInput}
      {u : TaskUpdate} {hu : u.issued} {r : Except GoError Bool} {err : GoError}
      (hfault : updateFault r = some err) :
      LocalFault (earlier ++ [⟨.uploadFrame url input, .ok ()⟩]) ⟨.owned (.update u hu), r⟩ err

/-- A fault is neither an error of the client nor a question about one. -/
theorem LocalFault.not_upstream {before : List JobEvent} {e : JobEvent} {err : GoError}
    (h : LocalFault before e err) : e.op.upstreamError e.answer = none ∧
      ∀ rejected, e.op ≠ .authenticationRejected rejected := by
  cases h <;> exact ⟨rfl, fun _ => nofun⟩

namespace Blame

/-- What a call and its answer do to the blame. -/
inductive Step : Blame → JobEvent → Blame → Prop
  | clear (b : Blame) (e : JobEvent) : Step b e .clear
  | upstream (b : Blame) (e : JobEvent) {cause : GoError}
      (hcause : e.op.upstreamError e.answer = some cause) : Step b e (.fromUpstream cause)
  | asked (err cause : GoError) (rejected : Bool) :
      Step (.fromUpstream cause) ⟨.authenticationRejected err, rejected⟩ (.fromUpstream cause)
  | submitted (b : Blame) (provider : ProviderID) (request : UpstreamRequest) (job : UpstreamJob) :
      Step b ⟨.submit provider request, .ok job⟩ (.submitted (frameFault request.references job))
  | cleared (fault : Option GoError) (account : WorkerAccount) :
      Step (.submitted fault) ⟨.clearAccountFailures account, ()⟩ (.submitted fault)
  | framed (b : Blame) (url : String) (input : VideoInput) :
      Step b ⟨.uploadFrame url input, .ok ()⟩ .framed
  | openAsset (b : Blame) (source : SourceMedia) (err : GoError) :
      Step b ⟨.openAsset source, .error err⟩ (.fromHere err)
  | storedFile (b : Blame) (source : SourceMedia) (err : GoError) :
      Step b ⟨.uploadMedia source, .error ⟨err, true⟩⟩ (.fromHere err)
  | frameURLs (err : GoError) (accountID : UUID) (generationID : String) (cost : Option ℚ) :
      Step (.submitted (some err)) ⟨.owned (.recordSubmission accountID generationID cost), .ok true⟩
        (.fromHere err)
  | frameProgress {u : TaskUpdate} {hu : u.issued} {r : Except GoError Bool} {err : GoError}
      (hfault : updateFault r = some err) : Step .framed ⟨.owned (.update u hu), r⟩ (.fromHere err)

theorem step_ofUpstream (b : Blame) (e : JobEvent) :
    Step b e (ofUpstream (e.op.upstreamError e.answer)) := by
  cases hcause : e.op.upstreamError e.answer with
  | none => exact .clear b e
  | some cause => exact .upstream b e hcause

theorem step_next (b : Blame) (op : JobCall) (r : op.Res) : Step b ⟨op, r⟩ (b.next op r) := by
  have hupstream := step_ofUpstream b ⟨op, r⟩
  cases op with
  | openAsset source =>
    rcases r with err | u
    · exact .openAsset b source err
    · exact .clear b _
  | uploadMedia source =>
    rcases r with ⟨err, stored⟩ | reference
    · cases stored with
      | true => exact .storedFile b source err
      | false => exact hupstream
    · exact .clear b _
  | submit provider request =>
    rcases r with err | job
    · exact hupstream
    · exact .submitted b provider request job
  | uploadFrame url input =>
    rcases r with err | u
    · exact hupstream
    · exact .framed b url input
  | clearAccountFailures account =>
    cases b with
    | submitted fault => exact .cleared fault account
    | _ => exact .clear _ _
  | authenticationRejected err =>
    cases b with
    | fromUpstream cause => exact .asked err cause r
    | _ => exact .clear _ _
  | owned call =>
    cases call with
    | recordSubmission accountID generationID cost =>
      have hclear : Step b ⟨.owned (.recordSubmission accountID generationID cost), r⟩ .clear :=
        .clear _ _
      rcases r with err | held
      · cases b <;> exact hclear
      · cases b with
        | submitted fault =>
          cases fault with
          | none => cases held <;> exact hclear
          | some err =>
            cases held with
            | true => exact .frameURLs err accountID generationID cost
            | false => exact hclear
        | _ => exact hclear
    | update u hu =>
      cases b with
      | framed =>
        cases hfault : updateFault r with
        | none =>
          have hnext : Blame.next .framed (.owned (.update u hu)) r = .ofHere (updateFault r) := rfl
          rw [hnext, hfault]
          exact .clear _ _
        | some err =>
          have hnext : Blame.next .framed (.owned (.update u hu)) r = .ofHere (updateFault r) := rfl
          rw [hnext, hfault]
          exact .frameProgress hfault
      | _ => exact .clear _ _
    | _ => exact .clear _ _
  | _ => exact hupstream

end Blame

/-- The blame after the calls of a run so far. -/
def blame (calls : List JobEvent) : Blame := blaming.after .clear calls

theorem blame_snoc (calls : List JobEvent) (e : JobEvent) :
    blame (calls ++ [e]) = (blame calls).next e.op e.answer :=
  Monitor.after_append blaming .clear calls [e]

theorem blame_append_submit (earlier cleared : List JobEvent) (provider : ProviderID)
    (request : UpstreamRequest) (job : UpstreamJob)
    (hcleared : ∀ f ∈ cleared, ∃ account, f.op = .clearAccountFailures account) :
    blame (earlier ++ ⟨.submit provider request, .ok job⟩ :: cleared) =
      .submitted (frameFault request.references job) := by
  have hkeep : ∀ es : List JobEvent, (∀ f ∈ es, ∃ account, f.op = .clearAccountFailures account) →
      ∀ fault, blaming.after (.submitted fault) es = .submitted fault := by
    intro es
    induction es with
    | nil => exact fun _ _ => rfl
    | cons f es ih =>
      intro hes fault
      obtain ⟨account, hop⟩ := hes f List.mem_cons_self
      obtain ⟨op, r⟩ := f
      cases hop
      exact ih (fun g hg => hes g (List.mem_cons_of_mem _ hg)) fault
  refine (Monitor.after_append blaming .clear earlier _).trans ?_
  exact hkeep cleared hcleared _

theorem step_blame {calls : List JobEvent} {e : JobEvent} {b : Blame}
    (h : blame (calls ++ [e]) = b) : Blame.Step (blame calls) e b := by
  rw [← h, blame_snoc]
  exact Blame.step_next _ _ _

/-! ### Where the blame comes from -/

theorem blame_fromUpstream {calls : List JobEvent} {cause err : GoError}
    (h : blame calls = .fromUpstream cause) (hwraps : err.Wraps cause) : OfUpstream calls err := by
  induction calls using List.reverseRecOn with
  | nil => cases h
  | append_singleton calls e ih =>
    have hstep := step_blame h
    generalize hb : blame calls = b at hstep
    cases hstep with
    | upstream b e hcause => exact ⟨calls, e, [], cause, rfl, hcause, hwraps, by simp⟩
    | asked rejectedErr cause rejected =>
      obtain ⟨earlier, e, asked, cause', rfl, hcause, hwraps', hasked⟩ := ih hb
      refine ⟨earlier, e, asked ++ [⟨.authenticationRejected rejectedErr, rejected⟩], cause', ?_,
        hcause, hwraps', ?_⟩
      · simp
      · intro f hf
        rcases List.mem_append.mp hf with hf | hf
        · exact hasked f hf
        · exact ⟨rejectedErr, by rw [List.mem_singleton.mp hf]⟩

theorem blame_submitted {calls : List JobEvent} {fault : Option GoError}
    (h : blame calls = .submitted fault) :
    ∃ earlier provider request job cleared,
      calls = earlier ++ ⟨.submit provider request, .ok job⟩ :: cleared ∧
      (∀ f ∈ cleared, ∃ account, f.op = .clearAccountFailures account) ∧
      frameFault request.references job = fault := by
  induction calls using List.reverseRecOn with
  | nil => cases h
  | append_singleton calls e ih =>
    have hstep := step_blame h
    generalize hb : blame calls = b at hstep
    cases hstep with
    | submitted b provider request job => exact ⟨calls, provider, request, job, [], rfl, by simp, rfl⟩
    | cleared fault account =>
      obtain ⟨earlier, provider, request, job, cleared, rfl, hcleared, hfault⟩ := ih hb
      refine ⟨earlier, provider, request, job, cleared ++ [⟨.clearAccountFailures account, ()⟩], ?_,
        ?_, hfault⟩
      · simp
      · intro f hf
        rcases List.mem_append.mp hf with hf | hf
        · exact hcleared f hf
        · exact ⟨account, by rw [List.mem_singleton.mp hf]⟩

theorem blame_framed {calls : List JobEvent} (h : blame calls = .framed) :
    ∃ earlier url input, calls = earlier ++ [⟨.uploadFrame url input, .ok ()⟩] := by
  rcases List.eq_nil_or_concat' calls with rfl | ⟨earlier, e, rfl⟩
  · cases h
  · have hstep := step_blame h
    generalize blame earlier = b at hstep
    cases hstep with
    | framed b url input => exact ⟨earlier, url, input, rfl⟩

/-- An error of the gateway is on its way exactly after one of the faults. -/
theorem blame_fromHere_iff {calls : List JobEvent} {err : GoError} :
    blame calls = .fromHere err ↔
      ∃ before e, calls = before ++ [e] ∧ LocalFault before e err := by
  constructor
  · intro h
    rcases List.eq_nil_or_concat' calls with rfl | ⟨before, e, rfl⟩
    · cases h
    · refine ⟨before, e, rfl, ?_⟩
      have hstep := step_blame h
      generalize hb : blame before = b at hstep
      cases hstep with
      | openAsset b source err => exact .openAsset before source err
      | storedFile b source err => exact .storedFile before source err
      | frameURLs err accountID generationID cost =>
        obtain ⟨earlier, provider, request, job, cleared, rfl, hcleared, hfault⟩ :=
          blame_submitted hb
        exact .frameURLs accountID generationID cost hcleared hfault
      | frameProgress hfault =>
        obtain ⟨earlier, url, input, rfl⟩ := blame_framed hb
        exact .frameProgress hfault
  · rintro ⟨before, e, rfl, hfault⟩
    rw [blame_snoc]
    cases hfault with
    | openAsset before source err => rfl
    | storedFile before source err => rfl
    | frameURLs accountID generationID cost hcleared hfault =>
      rw [blame_append_submit _ _ _ _ _ hcleared, hfault]
      rfl
    | @frameProgress earlier url input u hu r err hfault =>
      rw [blame_snoc]
      show Blame.ofHere (updateFault r) = _
      rw [hfault]
      rfl

/-- A run of a worker, whatever its calls are answered, records only failures of the
provider if and only if none of its own errors is left with a caller that records it. The
last call does not count: the run has not gone on from it. -/
theorem failures_upstream_iff (taskTimeout : Time) (ticks : ℕ) (decoder : Decoder) (kind : Kind)
    {calls : List JobEvent} {rest : Prog jobs (Except Returned Unit)}
    (hrun : (Worker.processTask taskTimeout ticks decoder kind).run.Path calls rest) :
    BlamesUpstream calls ↔
      ¬∃ before e after err, calls = before ++ e :: after ∧ after ≠ [] ∧ LocalFault before e err := by
  have hallowed : ∀ before e after, calls = before ++ e :: after → (blame before).allows e.op :=
    Prog.Obeys.accepts hrun (Worker.ensures_processTask_blaming decoder kind)
  constructor
  · rintro hblames ⟨before, e, after, err, rfl, hafter, hfault⟩
    obtain ⟨next, after, rfl⟩ := List.exists_cons_of_ne_nil hafter
    have hhere : blame (before ++ [e]) = .fromHere err :=
      blame_fromHere_iff.mpr ⟨before, e, rfl, hfault⟩
    have hnext := hallowed (before ++ [e]) next after (by simp)
    rw [hhere] at hnext
    obtain ⟨account, hop⟩ := hnext
    obtain ⟨op, r⟩ := next
    cases hop
    obtain ⟨earlier, e', asked, cause, hcalls, hcause, -, hasked⟩ :=
      hblames (before ++ [e]) account err r after (by simp)
    obtain ⟨hnone, hnoQuestion⟩ := hfault.not_upstream
    -- The last call is the fault, which is neither an error of the client nor a question.
    rcases List.eq_nil_or_concat' asked with rfl | ⟨asked, f, rfl⟩
    · obtain ⟨-, hlast⟩ := List.append_inj' hcalls rfl
      rw [← List.singleton_injective hlast, hnone] at hcause
      cases hcause
    · have hcalls' : before ++ [e] = (earlier ++ e' :: asked) ++ [f] := by
        rw [hcalls, List.append_assoc, List.cons_append]
      obtain ⟨-, hlast⟩ := List.append_inj' hcalls' rfl
      obtain ⟨rejected, hop⟩ := hasked f (by simp)
      rw [← List.singleton_injective hlast] at hop
      exact hnoQuestion rejected hop
  · intro hclean before account err retryAt after hcalls
    have hrecord := hallowed before _ after hcalls
    cases hb : blame before with
    | fromHere err' =>
      obtain ⟨before', e, rfl, hfault⟩ := blame_fromHere_iff.mp hb
      exact absurd ⟨before', e, _, err', by simpa using hcalls, by simp, hfault⟩ hclean
    | fromUpstream cause =>
      rw [hb] at hrecord
      obtain ⟨cause', hcause, hwraps⟩ := hrecord
      exact blame_fromUpstream (hb.trans hcause) hwraps
    | clear =>
      rw [hb] at hrecord
      obtain ⟨cause', hcause, -⟩ := hrecord
      cases hcause
    | submitted fault =>
      rw [hb] at hrecord
      obtain ⟨cause', hcause, -⟩ := hrecord
      cases hcause
    | framed =>
      rw [hb] at hrecord
      obtain ⟨cause', hcause, -⟩ := hrecord
      cases hcause

/-! ### A broken disk -/

def storedImage : SourceMedia := ⟨"a.png", "image/png", "a.png", 4, ""⟩

/-- An image task with one stored reference. -/
def reservedTask : Task where
  id := 1
  providerID := .leonardo
  apiKeyID := none
  accountID := some 2
  kind := .image
  status := .reserving
  progress := 0
  model := "lucid"
  prompt := ""
  request := emptyObject
  requestHash := ""
  idempotencyKey := none
  upstreamRequest := emptyObject
  generationID := ""
  result := emptyObject
  errorCode := ""
  errorMessage := ""
  errorDetails := emptyObject
  tokensBefore := none
  tokensAfter := none
  cancelRequested := false
  estimatedTokens := 1
  upstreamReportedCost := none
  pricingRuleID := none
  createdAt := 0
  startedAt := none
  submittedAt := none
  completedAt := none
  queueDeadlineAt := none
  upstreamDeadlineAt := none
  lastUpstreamStatusAt := none
  unknownStatusCount := 0
  reconciliationReason := ""
  executionLeaseID := some 3
  executionLeaseExpiresAt := none
  executionAttempt := 1

def routeableAccount : WorkerAccount where
  id := 2
  providerID := .leonardo
  status := .active
  generationPermissionStatus := .verified
  cooldownUntil := none
  accessTokenExpiresAt := some 1000
  lastCheckedAt := some 0
  totalTokens := 100
  reservedTokens := 1
  proxyURL := ""

def oneReference : Decoder where
  image _ := .ok { model := "lucid", referenceImages := [storedImage] }
  video _ := .error (.new "")
  audio _ := .error (.new "")

def diskError : GoError := .new "open a.png: input/output error"

/-- The calls before the failure is recorded. -/
def brokenDisk : List JobEvent :=
  [⟨.claimTask, .ok ⟨some reservedTask, some 3, true⟩⟩, ⟨.check .provider, .ok ()⟩,
    ⟨.getAccount 2, .ok routeableAccount⟩, ⟨.timeNow, (10 : ℤ)⟩,
    ⟨.token routeableAccount, .ok routeableAccount⟩, ⟨.timeNow, (10 : ℤ)⟩,
    ⟨.owned (.updateTokens (some 100) none), .ok true⟩, ⟨.check .model, .ok ()⟩,
    ⟨.check .size, .ok ()⟩, ⟨.check .client, .ok ()⟩,
    ⟨.owned (.update
      { status := .uploading, progress := 15, accountID := some 2, generationID := "", result := none
        code := "", message := "", upstreamRequest := none, upstreamDeadline := none } (.inl rfl)),
      .ok true⟩,
    ⟨.openAsset storedImage, .error diskError⟩]

theorem not_ofUpstream {calls : List JobEvent} {err : GoError}
    (h : ∀ e ∈ calls, e.op.upstreamError e.answer = none) : ¬OfUpstream calls err := by
  rintro ⟨earlier, e, asked, cause, rfl, hcause, -⟩
  rw [h e (by simp)] at hcause
  cases hcause

theorem brokenDisk_path : ∃ rest, (Worker.processTask 60000 1 oneReference .image).run.Path
    (brokenDisk ++ [⟨.recordAccountFailure routeableAccount diskError, none⟩]) rest := by
  apply Exists.intro
  iterate 13 apply Prog.Path.cons
  exact .nil _

/-- A reference that cannot be opened counts against the account. -/
theorem failures_not_upstream :
    ∃ (calls : List JobEvent) (rest : Prog jobs (Except Returned Unit)),
      (Worker.processTask 60000 1 oneReference .image).run.Path calls rest ∧
        ¬BlamesUpstream calls := by
  obtain ⟨rest, hpath⟩ := brokenDisk_path
  refine ⟨_, rest, hpath, fun h => ?_⟩
  have hlocal : ¬OfUpstream brokenDisk diskError :=
    not_ofUpstream (by simp [brokenDisk, JobCall.upstreamError, errorOf])
  exact hlocal (h brokenDisk routeableAccount diskError none [] rfl)

theorem failures_upstream_brokenDisk :
    ∃ rest, (Worker.processTask 60000 1 oneReference .image).run.Path
        (brokenDisk ++ [⟨.recordAccountFailure routeableAccount diskError, none⟩]) rest ∧
      (BlamesUpstream (brokenDisk ++ [⟨.recordAccountFailure routeableAccount diskError, none⟩]) ↔
        ¬∃ before e after err,
          brokenDisk ++ [⟨.recordAccountFailure routeableAccount diskError, none⟩] =
            before ++ e :: after ∧ after ≠ [] ∧ LocalFault before e err) := by
  obtain ⟨rest, hpath⟩ := brokenDisk_path
  exact ⟨rest, hpath, failures_upstream_iff 60000 1 oneReference .image hpath⟩

end GenerationGateway
