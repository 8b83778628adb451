import GenerationGateway.Workers.Runs

/-!
# How a run stands to its task

A helper that fails the task, gives it back or marks it uncertain returns no error, so its
caller has to notice. A monitor keeps whether the run has settled its task, and in which
part: while it resumed a job, right after it recorded a failed upload, or elsewhere. It says
which calls of the provider's client may follow.
-/

namespace GenerationGateway

open Effects

inductive Standing
  | start
  /-- Nothing is settled. -/
  | live
  /-- Nothing is settled, and the last call recorded a failure. -/
  | blamed
  /-- A job of Adobe or Creative Fabrica is resumed. -/
  | resuming
  /-- The resumed task is settled. -/
  | unattended
  /-- Its loop is entered without a client. -/
  | alone
  /-- The task is settled right after a failure was recorded. -/
  | skipped
  /-- The next medium has been read nevertheless. -/
  | reading
  /-- The provider was called nevertheless. -/
  | excused
  /-- The task is settled otherwise. -/
  | settled
  /-- The operation that was to settle the task, or one after it, ended with an error. -/
  | stopped
  /-- An operation took effect although the task was settled. -/
  | impossible
  deriving DecidableEq

/-- Jobs of Leonardo are resumed by the run itself. -/
def Task.resumedByHelper (t : Task) : Bool :=
  t.submittedGeneration.isSome && decide (t.providerID ≠ .leonardo)

namespace Standing

def ofTask (t : Task) : Standing := if t.resumedByHelper then .resuming else .live

def ofClaim (r : Except GoError ClaimResult) : Standing :=
  match claimedTask r with
  | some t => ofTask t
  | none => .live

/-- Where an operation leads that finds the lease lost, takes effect or fails. -/
def ended (lost done : Standing) : Except GoError Bool → Standing
  | .ok true => done
  | .ok false => lost
  | .error _ => .stopped

def owned (ph : Standing) (call : OwnedCall) (r : Except GoError Bool) : Standing :=
  match ph with
  | .live => if call.settles then ended .live .settled r else .live
  | .blamed => if call.settles then ended .live .skipped r else .live
  | .resuming => if call.settles then ended .resuming .unattended r else .resuming
  | .skipped | .settled => ended .settled .impossible r
  | ph => ph

def recorded : Standing → Standing
  | .live | .blamed => .blamed
  | .skipped => .settled
  | ph => ph

def read (ph : Standing) (r : Except GoError MediaData) : Standing :=
  match ph, r with
  | .blamed, _ => .live
  | .skipped, .ok _ => .reading
  | .skipped, .error _ => .settled
  | ph, _ => ph

def ticked : Standing → Standing
  | .resuming | .blamed => .live
  | .unattended => .alone
  | .skipped => .settled
  | ph => ph

def called : Standing → Standing
  | .blamed => .live
  | .skipped => .settled
  | .reading => .excused
  | ph => ph

def next (ph : Standing) : (op : JobCall) → op.Res → Standing
  | .claimTask, r => ofClaim r
  | .owned call, r => ph.owned call r
  | .recordAccountFailure _ _, _ => ph.recorded
  | .readMedia _, r => ph.read r
  | .pollInterval _, _ => ph.ticked
  | _, _ => ph.called

/-- May the run call the provider? -/
def mayAsk : Standing → Bool
  | .start | .unattended | .skipped | .settled | .stopped => false
  | _ => true

/-- May it make another call? -/
def mayCall : Standing → Bool
  | .start | .unattended | .reading => false
  | _ => true

/-- May it use its lease? -/
def mayHold : Standing → Bool
  | .stopped => false
  | ph => ph.mayCall

/-- May it enter a poll loop with or without a client? -/
def mayPoll (client : Bool) : Standing → Bool
  | .start | .reading | .stopped => false
  | .unattended => !client
  | .alone | .excused | .impossible => true
  | _ => client

def allows (ph : Standing) : JobCall → Bool
  | .claimTask => ph = .start
  | .owned _ => ph.mayHold
  | .pollInterval client => ph.mayPoll client
  | op => if op.upstream then ph.mayAsk else ph.mayCall

/-- The monitor is total for a run that goes on with its task. -/
def active : Standing → Bool
  | .live | .blamed | .alone | .excused | .impossible => true
  | _ => false

/-- On the way to the submission the task may have been settled. -/
def going : Standing → Bool
  | .skipped | .settled => true
  | ph => ph.active

/-- The uploads may go on after one that was skipped. -/
def uploading : Standing → Bool
  | .skipped => true
  | ph => ph.active

/-- The inputs of a session are collected on. -/
def collecting : Standing → Bool
  | .live | .alone | .excused | .impossible | .settled => true
  | _ => false

/-- A medium has been read. -/
def ready : Standing → Bool
  | .reading => true
  | ph => ph.active

/-- A failed upload has been recorded. -/
def failed : Standing → Bool
  | .blamed | .alone | .excused | .impossible => true
  | _ => false

/-- A run may return. -/
def leaving : Standing → Bool
  | .start | .unattended | .reading => false
  | _ => true

end Standing

def standing : Monitor jobs Standing := ⟨fun ph op => ph.allows op = true, Standing.next⟩

/-! ### What calls keep -/

namespace Standing

theorem allows_quiet {ph : Standing} {op : JobCall} (hop : op.quiet = true) :
    ph.allows op = ph.mayCall := by
  cases op <;> first | rfl | cases hop

theorem allows_upstream {ph : Standing} {op : JobCall} (hop : op.upstream = true) :
    ph.allows op = ph.mayAsk := by
  cases op <;> first | rfl | cases hop

theorem next_quiet {ph : Standing} {op : JobCall} (hop : op.quiet = true) (r : op.Res) :
    ph.next op r = ph.called := by
  cases op <;> first | rfl | cases hop

theorem next_upstream {ph : Standing} {op : JobCall} (hop : op.upstream = true) (r : op.Res) :
    ph.next op r = ph.called := by
  cases op <;> first | rfl | cases hop

theorem mayAsk_of_active {ph : Standing} (h : ph.active = true) : ph.mayAsk = true := by
  cases ph <;> first | rfl | cases h

theorem mayCall_of_going {ph : Standing} (h : ph.going = true) : ph.mayCall = true := by
  cases ph <;> first | rfl | cases h

theorem mayHold_of_going {ph : Standing} (h : ph.going = true) : ph.mayHold = true := by
  cases ph <;> first | rfl | cases h

theorem going_of_active {ph : Standing} (h : ph.active = true) : ph.going = true := by
  cases ph <;> first | rfl | cases h

theorem going_of_uploading {ph : Standing} (h : ph.uploading = true) : ph.going = true := by
  cases ph <;> first | rfl | cases h

theorem going_of_collecting {ph : Standing} (h : ph.collecting = true) : ph.going = true := by
  cases ph <;> first | rfl | cases h

theorem leaving_of_going {ph : Standing} (h : ph.going = true) : ph.leaving = true := by
  cases ph <;> first | rfl | cases h

theorem active_of_failed {ph : Standing} (h : ph.failed = true) : ph.active = true := by
  cases ph <;> first | rfl | cases h

theorem uploading_of_active {ph : Standing} (h : ph.active = true) : ph.uploading = true := by
  cases ph <;> first | rfl | cases h

theorem active_called {ph : Standing} (h : ph.active = true) : ph.called.active = true := by
  cases ph <;> first | rfl | cases h

theorem going_called {ph : Standing} (h : ph.going = true) : ph.called.going = true := by
  cases ph <;> first | rfl | cases h

theorem failed_recorded {ph : Standing} (h : ph.active = true) : ph.recorded.failed = true := by
  cases ph <;> first | rfl | cases h

/-- An operation that does not settle the task, or finds the lease lost. -/
theorem active_owned {ph : Standing} {call : OwnedCall} {r : Except GoError Bool}
    (h : ph.active = true) (hr : call.settles = false ∨ r = .ok false) :
    (ph.owned call r).active = true := by
  cases hcall : call.settles with
  | false => cases ph <;> simp_all [owned, active]
  | true =>
    obtain rfl : r = .ok false := by simpa [hcall] using hr
    cases ph <;> simp_all [owned, ended, active]

theorem going_owned {ph : Standing} (call : OwnedCall) (held : Bool) (h : ph.going = true) :
    (ph.owned call (.ok held)).going = true := by
  cases hcall : call.settles <;> cases held <;> cases ph <;>
    simp_all [owned, ended, going, active]

theorem leaving_owned {ph : Standing} (call : OwnedCall) (r : Except GoError Bool)
    (h : ph.going = true) : (ph.owned call r).leaving = true := by
  rcases r with err | held
  · cases hcall : call.settles <;> cases ph <;> simp_all [owned, ended, going, active, leaving]
  · have hgoing := going_owned call held h
    generalize ph.owned call (.ok held) = ph' at hgoing
    cases ph' <;> first | rfl | cases hgoing

theorem active_read {ph : Standing} (h : ph.active = true) (r : Except GoError MediaData) :
    (ph.read r).active = true := by
  cases ph <;> first | rfl | cases h

theorem going_read_error {ph : Standing} (h : ph.uploading = true) (err : GoError) :
    (ph.read (.error err)).going = true := by
  cases ph <;> first | rfl | cases h

theorem ready_read {ph : Standing} (h : ph.uploading = true) (data : MediaData) :
    (ph.read (.ok data)).ready = true := by
  cases ph <;> first | rfl | cases h

theorem collecting_read {ph : Standing} (h : ph.collecting = true) (r : Except GoError MediaData) :
    (ph.read r).collecting = true := by
  cases ph <;> first | rfl | cases h

theorem mayCall_of_uploading {ph : Standing} (h : ph.uploading = true) : ph.mayCall = true :=
  mayCall_of_going (going_of_uploading h)

theorem mayAsk_of_ready {ph : Standing} (h : ph.ready = true) : ph.mayAsk = true := by
  cases ph <;> first | rfl | cases h

theorem active_called_of_ready {ph : Standing} (h : ph.ready = true) :
    ph.called.active = true := by
  cases ph <;> first | rfl | cases h

/-- A failure that settles the task right after an upload failed skips the upload. -/
theorem uploading_owned {ph : Standing} (call : OwnedCall) (held : Bool) (h : ph.failed = true) :
    (ph.owned call (.ok held)).uploading = true := by
  cases hcall : call.settles <;> cases held <;> cases ph <;>
    simp_all [owned, ended, failed, uploading, active]

theorem collecting_owned {ph : Standing} (call : OwnedCall) (held : Bool)
    (h : ph.collecting = true) : (ph.owned call (.ok held)).collecting = true := by
  cases hcall : call.settles <;> cases held <;> cases ph <;>
    simp_all [owned, ended, collecting]

theorem collecting_of_held {ph : Standing} {call : OwnedCall} (h : ph.going = true)
    (hcall : call.settles = false) : (ph.owned call (.ok true)).collecting = true := by
  cases ph <;> simp_all [owned, ended, going, active, collecting]

/-- An operation that takes effect leaves no room for a settled task. -/
theorem active_of_held {ph : Standing} {call : OwnedCall} (h : ph.going = true)
    (hcall : call.settles = false) : (ph.owned call (.ok true)).active = true := by
  cases ph <;> simp_all [owned, ended, going, active]

end Standing

/-! ### The monitor of whole runs -/

/-- The phases as assertions. -/
abbrev Standing.Active (ph : Standing) : Prop := ph.active = true

abbrev Standing.Going (ph : Standing) : Prop := ph.going = true

abbrev Standing.Leaving (ph : Standing) : Prop := ph.leaving = true

section Monitor

open Standing

theorem allowed_quiet {ph : Standing} {op : JobCall} (h : ph.Going) (hop : op.quiet = true) :
    standing.allowed ph op :=
  (allows_quiet hop).trans (mayCall_of_going h)

theorem allowed_owned {ph : Standing} (h : ph.Going) (call : OwnedCall) :
    standing.allowed ph (.owned call) :=
  mayHold_of_going h

theorem steady_active : Steady standing Active Going Leaving where
  leave := fun h => leaving_of_going (going_of_active h)
  quiet := fun h hop => ⟨allowed_quiet (going_of_active h) hop, fun r =>
    (congrArg active (next_quiet hop r)).trans (active_called h)⟩
  owned := fun call h => allowed_owned (going_of_active h) call
  held := fun _ h hcall => active_owned h (.inl hcall)
  ended := fun call h _ => going_owned call true (going_of_active h)
  refused := fun call r h _ => leaving_owned call r (going_of_active h)

theorem steady_going : Steady standing Going Leaving Leaving where
  leave := leaving_of_going
  quiet := fun h hop => ⟨allowed_quiet h hop, fun r =>
    (congrArg going (next_quiet hop r)).trans (going_called h)⟩
  owned := fun call h => allowed_owned h call
  held := fun call h _ => going_owned call true h
  ended := fun call h _ => leaving_owned call (.ok true) h
  refused := fun call r h _ => leaving_owned call r h

variable {N : Standing → Prop}

/-- Beside the operations of the lease, what an active run may do does not depend on
where its parts lead. -/
theorem attends_active (h : Steady standing Active N Leaving) :
    Attends standing Active N Leaving fun _ => Active where
  toSteady := h
  alive := id
  upstream := fun h hop => (allows_upstream hop).trans (mayAsk_of_active h)
  failed := fun {_ _ r _} h hop _ => (congrArg active (next_upstream hop r)).trans (active_called h)
  answered := fun {_ _ r} h hop _ _ => (congrArg active (next_upstream hop r)).trans (active_called h)
  recorded := fun _ h => ⟨mayCall_of_going (going_of_active h), fun _ =>
    active_of_failed (failed_recorded h)⟩
  classified := fun h => ⟨mayCall_of_going (going_of_active h), fun _ => active_called h⟩

theorem Steady.leaving (h : Steady standing Active Going Leaving) :
    Steady standing Active Leaving Leaving where
  leave := h.leave
  quiet := h.quiet
  owned := h.owned
  held := h.held
  ended := fun call hph hcall => leaving_of_going (h.ended call hph hcall)
  refused := h.refused

theorem conducts_standing :
    Conducts standing Active Going Leaving (fun _ => Active) (fun _ _ => Active)
      (fun _ _ => Active) where
  toAttends := attends_active steady_active.leaving
  accept := fun _ _ h => active_called h
  clear := fun _ h => ⟨mayCall_of_going (going_of_active h), fun _ => active_called h⟩
  accept_leave := fun h => leaving_of_going (going_of_active h)
  store := fun _ h => allowed_owned (going_of_active h) _
  stored_held := fun _ h => active_owned h (.inl rfl)
  stored_lost := fun _ _ h _ => leaving_owned _ _ (going_of_active h)
  going := attends_active steady_active
  lapsed := fun _ call h => going_owned call false (going_of_active h)
  onTheWay := steady_going
  prepared := fun _ _ _ h => active_of_held h rfl

end Monitor

/-! ### Uploads -/

namespace Worker

open Standing

variable {α : Type}

theorem steady_leaving : Steady standing Active Leaving Leaving := steady_active.leaving

theorem attends_leaving : Attends standing Active Leaving Leaving fun _ => Active :=
  attends_active steady_leaving

/-- What a failure that settles the task leads to, from the phases where it may stand. -/
theorem ensures_fail {ph : Standing} {Q : Standing → Prop} (code : String) (err : GoError)
    (h : ph.Going) (hQ : ∀ held, Q (ph.owned (.fail code err.text none none) (.ok held))) :
    (fail code err).Ensures standing Leaving ph (Returning Q Leaving) :=
  ensures_settling (mayHold_of_going h) (fun err => leaving_owned _ (.error err) h) hQ

theorem ensures_abandon {E : Standing → Prop} (code : String) (err : GoError) {ph : Standing}
    (h : ph.Going) :
    (abandon code err : Work (Uploaded α)).Ensures standing Leaving ph (GoesOn E Going) :=
  Early.Ensures.bind (ensures_orReturn (ensures_fail code err h fun held => going_owned _ held h))
    fun _ _ hph => Early.ensures_pure hph

theorem ensures_skip_upload (code : String) (err : GoError) {ph : Standing}
    (h : ph.failed = true) : (skip code err : Work (Uploaded α)).Ensures standing Leaving ph
      (GoesOn (fun ph => ph.uploading = true) Going) := by
  have hgoing := going_of_active (active_of_failed h)
  have hfail : (fail code err).Ensures standing Leaving ph
      (Returning (fun ph => ph.uploading = true) Leaving) :=
    ensures_fail code err hgoing fun held => uploading_owned _ held h
  exact Early.Ensures.bind (ensures_orReturn hfail) fun _ _ hph => Early.ensures_pure hph

theorem ensures_skip_input (code : String) (err : GoError) {ph : Standing}
    (h : ph.collecting = true) : (skip code err : Work (Uploaded α)).Ensures standing Leaving ph
      (GoesOn (fun ph => ph.collecting = true) Going) := by
  have hgoing := going_of_collecting h
  have hfail : (fail code err).Ensures standing Leaving ph
      (Returning (fun ph => ph.collecting = true) Leaving) :=
    ensures_fail code err hgoing fun held => collecting_owned _ held h
  exact Early.Ensures.bind (ensures_orReturn hfail) fun _ _ hph => Early.ensures_pure hph

theorem record_active (account : WorkerAccount) (err : GoError) (ph : Standing)
    (h : ph.Active) : standing.allowed ph (.recordAccountFailure account err) ∧
      ∀ r, (standing.next ph (.recordAccountFailure account err) r).failed = true :=
  ⟨mayCall_of_going (going_of_active h), fun _ => failed_recorded h⟩

theorem ensures_upload_ready (media : Media) {ph : Standing} (h : ph.ready = true) :
    (perform (.upload media)).Ensures standing Leaving ph (Settles Active fun _ => Active) := by
  refine Early.ensures_perform (mayAsk_of_ready h) fun r => ?_
  rcases r with err | reference <;> exact active_called_of_ready h

theorem ensures_uploadToFlow_ready (media : Media) {ph : Standing} (h : ph.ready = true) :
    (uploadToFlow media).Ensures standing Leaving ph (Settles Active fun _ => Active) := by
  refine ensures_call (mayAsk_of_ready h) fun r => ?_
  have hph := active_called_of_ready h
  cases r with
  | error err => exact Early.ensures_pure hph
  | ok url =>
    refine attends_leaving.ask hph rfl fun r => ?_
    cases r with
    | error err => exact Early.ensures_pure (active_called hph)
    | ok u => exact Early.ensures_pure (active_called hph)

/-- One upload of a loop that goes on after a failure. -/
theorem ensures_uploadBy_skip {account : WorkerAccount} {x : Work (Except GoError α)}
    {ph : Standing} (hx : x.Ensures standing Leaving ph (Settles Active fun _ => Active))
    (code : String) : (uploadBy account x (skip code)).Ensures standing Leaving ph
      (GoesOn (fun ph => ph.uploading = true) Going) :=
  ensures_uploadBy (record_active account) hx (fun err _ h => ensures_skip_upload code err h)
    fun _ ph h => by cases ph <;> first | rfl | cases h

/-- One upload whose failure ends the uploads. -/
theorem ensures_uploadBy_abandon {account : WorkerAccount} {x : Work (Except GoError α)}
    {ph : Standing} (hx : x.Ensures standing Leaving ph (Settles Active fun _ => Active))
    (code : String) :
    (uploadBy account x (abandon code)).Ensures standing Leaving ph (GoesOn Active Going) :=
  ensures_uploadBy (record_active account) hx
    (fun err _ h => ensures_abandon code err (going_of_active (active_of_failed h)))
    fun _ _ h => h

/-- One upload whose failure ends the run. -/
theorem ensures_uploadBy_failRun {account : WorkerAccount} {x : Work (Except GoError α)}
    {ph : Standing} (hx : x.Ensures standing Leaving ph (Settles Active fun _ => Active))
    (code : String) :
    (uploadBy account x (failRun code)).Ensures standing Leaving ph (GoesOn Active Going) :=
  ensures_uploadBy (record_active account) hx
    (fun err ph h => ((steady_leaving.failRun code err) ph (active_of_failed h)).mono
      fun r ph' hph' => by cases r <;> first | exact hph' | exact going_of_active hph')
    fun _ _ h => h

theorem ensures_uploadTaskImage_active (source : SourceMedia) {ph : Standing} (h : ph.Active) :
    (uploadTaskImage source).Ensures standing Leaving ph (Settles Active fun _ => Active) := by
  refine ensures_call (mayCall_of_going (going_of_active h)) fun r => ?_
  cases r with
  | error err => exact Early.ensures_pure (active_called h)
  | ok u => exact attends_leaving.perform_upload (active_called h)

theorem ensures_uploadTaskMedia_active (source : SourceMedia) {ph : Standing} (h : ph.Active) :
    (uploadTaskMedia source).Ensures standing Leaving ph (Settles Active fun _ => Active) := by
  refine ensures_call (mayCall_of_going (going_of_active h)) fun r => ?_
  have hph := active_called h
  cases r with
  | error err => exact Early.ensures_pure hph
  | ok u =>
    refine attends_leaving.ask hph rfl fun r => ?_
    rcases r with fault | reference <;> exact Early.ensures_pure (active_called hph)

/-- A medium that is read by an active run. -/
theorem ensures_read_active {media : Media} {failed : GoError → Work (Uploaded α)}
    {rest : MediaData → Work (Uploaded α)} {Q : Uploaded α → Standing → Prop} {ph : Standing}
    (h : ph.Active) (hfailed : ∀ err ph', Active ph' → (failed err).Ensures standing Leaving ph' Q)
    (hrest : ∀ data ph', Active ph' → (rest data).Ensures standing Leaving ph' Q) :
    (read media failed rest).Ensures standing Leaving ph Q :=
  ensures_read (mayCall_of_going (going_of_active h)) (fun err => hfailed err _ (active_read h _))
    fun data => hrest data _ (active_read h _)

theorem ensures_failRun (code : String) (err : GoError) {ph : Standing} (h : ph.Active) :
    (failRun code err : Work (Uploaded α)).Ensures standing Leaving ph (GoesOn Active Going) :=
  (steady_leaving.failRun code err ph h).mono fun r ph' hph' => by
    cases r <;> first | exact hph' | exact going_of_active hph'

/-! ### Leonardo -/

theorem ensures_uploadImage (account : WorkerAccount) (media : Media) {ph : Standing}
    (h : ph.Active) : (uploadImage account media).Ensures standing Leaving ph
      (GoesOn Active Going) := by
  cases media with
  | inline source =>
    refine ensures_read_active h (fun err _ h => ensures_failRun _ err h) fun _ ph' h => ?_
    exact ensures_uploadBy_failRun (attends_leaving.perform_upload h) _
  | asset source => exact ensures_uploadBy_failRun (ensures_uploadTaskImage_active source h) _

theorem ensures_uploadGuidance (account : WorkerAccount) (media : Media) {ph : Standing}
    (h : ph.Active) : (uploadGuidance account media).Ensures standing Leaving ph
      (GoesOn Active Going) := by
  cases media with
  | inline source =>
    refine ensures_read_active h (fun err _ h => ensures_abandon _ err (going_of_active h))
      fun _ ph' h => ?_
    exact ensures_uploadBy_abandon (attends_leaving.perform_upload h) _
  | asset source => exact ensures_uploadBy_abandon (ensures_uploadTaskImage_active source h) _

theorem ensures_uploadMeasured (account : WorkerAccount) (source : SourceMedia) {ph : Standing}
    (h : ph.Active) : (uploadMeasured account source).Ensures standing Leaving ph
      (GoesOn Active Going) := by
  refine Early.Ensures.bind
    (ensures_uploadBy_abandon (ensures_uploadTaskMedia_active source h) _) fun r ph₁ hr => ?_
  cases r with
  | added reference =>
    refine (steady_active.perform rfl).ensures_bind hr fun r ph₂ hph₂ => ?_
    rcases r with ⟨code, err⟩ | u
    · exact ensures_abandon code err (going_of_active hph₂)
    · exact Early.ensures_pure hph₂
  | skipped => exact Early.ensures_pure hr
  | abandoned => exact Early.ensures_pure hr

/-- The media of a group are uploaded by an active run, which stays active when the group is
complete. -/
theorem ensures_uploadMeasuredGroup (account : WorkerAccount) (total done : ℕ)
    (media : List SourceMedia) {ph : Standing} (h : ph.Active) :
    (uploadMeasuredGroup account total done media).Ensures standing Leaving ph
      fun r ph' => Going ph' ∧ (r.2 = true → Active ph') := by
  refine Early.Ensures.bind (ensures_uploadEach (fun _ => going_of_active)
    (fun _ => steady_leaving.updateUploading _ _)
    (fun source _ h => ensures_uploadMeasured account source h) media done ph h)
    fun r ph₁ hr => ?_
  obtain ⟨references, complete⟩ := r
  cases complete with
  | false => exact Early.ensures_pure ⟨hr.1, nofun⟩
  | true =>
    refine (steady_active.perform rfl).ensures_bind (hr.2 rfl) fun r ph₂ hph₂ => ?_
    rcases r with ⟨code, err⟩ | u
    · have hgoing := going_of_active hph₂
      exact Early.Ensures.bind (ensures_orReturn (ensures_fail (Q := Going) code err hgoing
        fun held => going_owned _ held hgoing)) fun _ _ hph => Early.ensures_pure ⟨hph, nofun⟩
    · exact Early.ensures_pure ⟨going_of_active hph₂, fun _ => hph₂⟩

theorem ensures_uploadLeonardoVideoGuidance (account : WorkerAccount) (req : VideoRequest)
    {ph : Standing} (h : ph.Active) :
    (uploadLeonardoVideoGuidance account req).Ensures standing Leaving ph
      fun _ ph' => Going ph' := by
  unfold uploadLeonardoVideoGuidance
  extract_lets images total groups
  have hgroups : ∀ ph, Active ph → (groups ()).Ensures standing Leaving ph fun _ ph' => Going ph' := by
    intro ph hph
    refine Early.Ensures.bind (ensures_uploadEach (fun _ => going_of_active)
      (fun _ => steady_leaving.updateUploading _ _)
      (fun media _ h => ensures_uploadGuidance account media h) req.images 0 ph hph) ?_
    rintro ⟨references, complete⟩ ph₁ hr₁
    cases complete with
    | false => exact Early.ensures_pure hr₁.1
    | true =>
      refine Early.Ensures.bind
        (ensures_uploadMeasuredGroup account _ _ req.referenceVideos (hr₁.2 rfl)) ?_
      rintro ⟨videos, complete⟩ ph₂ hr₂
      cases complete with
      | false => exact Early.ensures_pure hr₂.1
      | true =>
        exact Early.Ensures.bind
          (ensures_uploadMeasuredGroup account _ _ req.audioReferences (hr₂.2 rfl))
          fun _ _ hr₃ => Early.ensures_pure hr₃.1
  split
  · exact (keeps_orReturn (steady_leaving.updateUploading _ _)).ensures_bind h fun _ => hgroups
  · exact hgroups ph h

/-! ### Adobe and Creative Fabrica -/

/-- Without a client nothing is uploaded. -/
theorem ensures_uploadVia_panics {account : WorkerAccount} {media : Media}
    {failed : GoError → Work (Uploaded String)} {Q : Uploaded String → Standing → Prop}
    {ph : Standing} (h : ph.Leaving) :
    (uploadVia false account media failed).Ensures standing Leaving ph Q :=
  Early.ensures_throw h

theorem ensures_uploadAdobeImage (account : WorkerAccount × Bool) (media : Media) {ph : Standing}
    (h : ph.Active) : (uploadAdobeImage account media).Ensures standing Leaving ph
      (GoesOn Active Going) := by
  obtain ⟨account, client⟩ := account
  refine ensures_read_active h (fun err _ h => ensures_failRun _ err h) fun _ ph' h => ?_
  cases client with
  | true => exact ensures_uploadBy_failRun (attends_leaving.perform_upload h) _
  | false => exact ensures_uploadVia_panics (leaving_of_going (going_of_active h))

/-- The progress of the uploads takes effect, or the run ends. -/
theorem returns_updateUploading {D E : Standing → Prop} (hD : ∀ ph, D ph → Going ph)
    (hE : ∀ {ph : Standing} {call : OwnedCall}, Going ph → call.settles = false →
      E (ph.owned call (.ok true))) (progress : ℤ) (accountID : UUID) :
    Returns standing D E Leaving (updateUploading progress accountID) := fun ph hph =>
  ensures_holding (allowed_owned (hD ph hph) _) (fun _ => steady_going.refused _ (hD ph hph) nofun)
    (steady_going.refused _ (hD ph hph) (by simp)) (hE (hD ph hph) rfl)

theorem ensures_uploadAll_active {β : Type} {account : WorkerAccount} {one : β → Work (Uploaded α)}
    (hone : ∀ b ph, Active ph → (one b).Ensures standing Leaving ph (GoesOn Active Going))
    (media : List β) {ph : Standing} (h : ph.Going) :
    (uploadAll account one media).Ensures standing Leaving ph fun _ ph' => Going ph' :=
  ensures_uploadAll (fun _ h => h) (fun _ => going_of_active)
    (returns_updateUploading (fun _ h => h) active_of_held _ _)
    (fun _ => returns_updateUploading (fun _ => going_of_active) active_of_held _ _) hone media h

theorem ensures_uploadAll_uploading {β : Type} {account : WorkerAccount}
    {one : β → Work (Uploaded α)}
    (hone : ∀ b (ph : Standing), ph.uploading = true → (one b).Ensures standing Leaving ph
      (GoesOn (fun ph => ph.uploading = true) Going))
    (media : List β) {ph : Standing} (h : ph.Going) :
    (uploadAll account one media).Ensures standing Leaving ph fun _ ph' => Going ph' :=
  ensures_uploadAll (fun _ h => h) (fun _ => going_of_uploading)
    (returns_updateUploading (fun _ h => h)
      (fun h hcall => uploading_of_active (active_of_held h hcall)) _ _)
    (fun _ => returns_updateUploading (fun _ => going_of_uploading)
      (fun h hcall => uploading_of_active (active_of_held h hcall)) _ _) hone media h

theorem ensures_uploadAdobeMedia (account : WorkerAccount) (model : String) (m : AdobeMedia)
    {ph : Standing} (h : ph.uploading = true) :
    (uploadAdobeMedia (account, true) model m).Ensures standing Leaving ph
      (GoesOn (fun ph => ph.uploading = true) Going) := by
  refine ensures_read (mayCall_of_uploading h)
    (fun err => ensures_abandon _ err (going_read_error h err)) fun data => ?_
  refine Early.Ensures.bind
    (ensures_uploadBy_skip (ensures_upload_ready m.media (ready_read h data)) _) fun r ph₁ hr => ?_
  cases r <;> exact Early.ensures_pure hr

/-- Without a client the first medium that is read ends the run. -/
theorem ensures_uploadAdobeMedia_panics (account : WorkerAccount) (model : String)
    (m : AdobeMedia) {ph : Standing} (h : ph.Active) :
    (uploadAdobeMedia (account, false) model m).Ensures standing Leaving ph
      (GoesOn Active Going) := by
  refine ensures_read_active h (fun err _ h => ensures_abandon _ err (going_of_active h))
    fun _ ph' h => ?_
  exact Early.Ensures.bind
    (ensures_uploadVia_panics (Q := fun _ _ => False) (leaving_of_going (going_of_active h)))
    fun _ _ hfalse => hfalse.elim

theorem ensures_uploadAdobeVideoReferences (account : WorkerAccount × Bool) (req : VideoRequest)
    {ph : Standing} (h : WithClient Active Going account ph) :
    (uploadAdobeVideoReferences account req).Ensures standing Leaving ph
      fun _ ph' => Going ph' := by
  obtain ⟨account, client⟩ := account
  have huploads : (uploadAll account (uploadAdobeMedia (account, client) req.model)
      req.adobeMedia).Ensures standing Leaving ph fun _ ph' => Going ph' := by
    cases client with
    | true =>
      exact ensures_uploadAll_uploading
        (fun m _ h => ensures_uploadAdobeMedia account req.model m h) _ (going_of_active h)
    | false =>
      exact ensures_uploadAll_active
        (fun m _ h => ensures_uploadAdobeMedia_panics account req.model m h) _ h
  exact Early.Ensures.bind huploads fun _ _ hph => Early.ensures_pure hph

theorem ensures_uploadFlowImage (account : WorkerAccount) (media : Media) {ph : Standing}
    (h : ph.uploading = true) : (uploadFlowImage account media).Ensures standing Leaving ph
      (GoesOn (fun ph => ph.uploading = true) Going) := by
  refine ensures_read (mayCall_of_uploading h)
    (fun err => ensures_abandon _ err (going_read_error h err)) fun data => ?_
  refine Early.Ensures.bind
    (ensures_uploadBy_skip (ensures_uploadToFlow_ready media (ready_read h data)) _)
    fun r ph₁ hr => ?_
  cases r <;> exact Early.ensures_pure hr

theorem ensures_collectInput (input : VideoInput) {ph : Standing} (h : ph.collecting = true) :
    (collectInput input).Ensures standing Leaving ph
      (GoesOn (fun ph => ph.collecting = true) Going) := by
  have hallowed := mayCall_of_going (going_of_collecting h)
  unfold collectInput
  split
  · exact ensures_read hallowed (fun err => ensures_abandon _ err
      (going_of_collecting (collecting_read h (.error err)))) fun data =>
        Early.ensures_pure (collecting_read h (.ok data))
  · exact ensures_read hallowed (fun err => ensures_skip_input _ err
      (collecting_read h (.error err))) fun data => Early.ensures_pure (collecting_read h (.ok data))

theorem ensures_collectCreativeFabricaVideoInputs (account : WorkerAccount) (req : VideoRequest)
    {ph : Standing} (h : ph.Going) :
    (collectCreativeFabricaVideoInputs account req).Ensures standing Leaving ph
      fun _ ph' => Going ph' := by
  refine Early.Ensures.bind (ensures_uploadAll (E := fun ph => ph.collecting = true)
    (fun _ h => h) (fun _ => going_of_collecting)
    (returns_updateUploading (fun _ h => h) collecting_of_held _ _)
    (fun _ => returns_updateUploading (fun _ => going_of_collecting) collecting_of_held _ _)
    (fun input _ h => ensures_collectInput input h) req.inputs h) fun _ _ hph =>
      Early.ensures_pure hph

/-! ### Frames -/

/-- The induction is over the frames that are left; neither a frame nor its progress settles
the task. -/
theorem ensures_uploadFrames_active (accountID : UUID) (total : ℕ) (frames : List (String × VideoInput)) :
    ∀ (done : ℕ) (ph : Standing), ph.Active →
      (uploadFrames accountID total done frames).Ensures standing Leaving ph
        fun _ ph' => Active ph' := by
  induction frames with
  | nil => exact fun _ _ hph => Early.ensures_pure hph
  | cons frame rest ih =>
    intro done ph hph
    refine attends_leaving.ask hph rfl fun r => ?_
    have hcalled := active_called hph
    cases r with
    | error err => exact Early.ensures_pure hcalled
    | ok u =>
      have hupdate : (updateSubmitted (40 + (done + 1) * 20 / total) accountID).Ensures standing
          Leaving ph.called fun _ ph' => Active ph' :=
        ensures_holding (allowed_owned (going_of_active hcalled) _)
          (fun _ => active_owned hcalled (.inl rfl)) (active_owned hcalled (.inl rfl))
          (active_owned hcalled (.inl rfl))
      refine Early.Ensures.bind hupdate fun r ph₁ hph₁ => ?_
      cases r with
      | none => exact ih (done + 1) ph₁ hph₁
      | some err => exact Early.ensures_pure hph₁

theorem ensures_uploadCreativeFabricaVideoFrames_active (accountID : UUID) (inputs : List CollectedInput)
    (job : UpstreamJob) {ph : Standing} (h : ph.Active) :
    (uploadCreativeFabricaVideoFrames accountID inputs job).Ensures standing Leaving ph
      fun _ ph' => Active ph' := by
  unfold uploadCreativeFabricaVideoFrames
  split
  · exact Early.ensures_pure h
  · split
    · exact Early.ensures_pure h
    · split
      · exact Early.ensures_pure h
      · exact ensures_uploadFrames_active _ _ _ 0 ph h

/-! ### Resumed jobs -/

theorem attends_resuming : Attends standing (· = .resuming) (· = .unattended) Leaving
    fun _ => (· = .resuming) where
  leave := by
    rintro ph rfl
    rfl
  quiet := by
    rintro ph op rfl hop
    exact ⟨allows_quiet hop, fun r => next_quiet hop r⟩
  owned := by
    rintro ph call rfl
    rfl
  held := by
    rintro ph call rfl hcall
    show Standing.owned .resuming call (.ok true) = .resuming
    simp [Standing.owned, hcall]
  ended := by
    rintro ph call rfl hcall
    show Standing.owned .resuming call (.ok true) = .unattended
    simp [Standing.owned, hcall, Standing.ended]
  refused := by
    rintro ph call r rfl hr
    show Leaving (Standing.owned .resuming call r)
    unfold Standing.owned
    dsimp only
    split
    · rcases r with err | held
      · rfl
      · cases held with
        | true => exact absurd rfl hr
        | false => rfl
    · rfl
  alive := id
  upstream := by
    rintro ph op rfl hop
    exact allows_upstream hop
  failed := by
    rintro ph op r err rfl hop -
    exact next_upstream hop r
  answered := by
    rintro ph op r rfl hop - -
    exact next_upstream hop r
  recorded := by
    rintro err ph account rfl
    exact ⟨rfl, fun _ => rfl⟩
  classified := by
    rintro err ph rfl
    exact ⟨rfl, fun _ => rfl⟩

/-- A loop may be entered by an active run, or while resuming, with a client, and without
one by a run that has settled the task it resumed. -/
theorem ticker_active {ph : Standing} (h : ph.Active) :
    standing.allowed ph (.pollInterval true) ∧
      ∀ r, Active (standing.next ph (.pollInterval true) r) := by
  cases ph <;> first | exact ⟨rfl, fun _ => rfl⟩ | cases h

theorem ticker_resumed {account : WorkerAccount} {client : Bool} {ph : Standing}
    (h : WithClient (· = .resuming) (· = .unattended) (account, client) ph) :
    standing.allowed ph (.pollInterval client) ∧
      ∀ r, Active (standing.next ph (.pollInterval client) r) := by
  cases client with
  | true =>
    have hph : ph = .resuming := h
    subst hph
    exact ⟨rfl, fun _ => rfl⟩
  | false =>
    have hph : ph = .unattended := h
    subst hph
    exact ⟨rfl, fun _ => rfl⟩

variable {taskTimeout : Time} {ticks : ℕ}

/-- A loop that goes on from its ticker to the end. -/
abbrev PollsOn (poll : PolledJob → ℕ → Work Unit) (ticks : ℕ) : Prop :=
  ∀ (job : PolledJob) (ph : Standing), (standing.allowed ph (.pollInterval job.client) ∧
    ∀ r, Active (standing.next ph (.pollInterval job.client) r)) →
      (poll job ticks).Ensures standing Leaving ph fun _ ph' => Leaving ph'

theorem pollsOn_leonardo (deadlineMessage empty : String) :
    PollsOn (pollLeonardo deadlineMessage empty) ticks := fun _ _ h =>
  attends_leaving.pollLeonardo h _ _ ticks

theorem pollsOn_adobeImage : PollsOn pollAdobeImage ticks := fun job _ h =>
  attends_leaving.pollAdobe h (fun _ => attends_leaving.completeWith job _ _) ticks

theorem pollsOn_adobeVideo : PollsOn pollAdobeVideo ticks := fun job _ h =>
  attends_leaving.pollAdobe h (fun _ => attends_leaving.completeWith job _ _) ticks

theorem pollsOn_creativeFabricaImage : PollsOn pollCreativeFabricaImage ticks := fun job _ h =>
  attends_leaving.pollCreativeFabrica h (fun _ => attends_leaving.pollJob job) ticks

theorem pollsOn_creativeFabricaVideo : PollsOn pollCreativeFabricaVideo ticks := fun job _ h =>
  attends_leaving.pollCreativeFabrica h (fun _ => attends_leaving.pollSession job) ticks

theorem PollsOn.leaves {poll : PolledJob → ℕ → Work Unit} (h : PollsOn poll ticks)
    (job : PolledJob) (hclient : job.client = true) :
    (poll job ticks).Leaves standing Active Leaving := by
  obtain ⟨generationID, account, client, deadline⟩ := job
  subst hclient
  exact fun ph hph => h _ ph (ticker_active hph)

theorem ensures_resume {resume : Work (WorkerAccount × Bool)} {poll : PolledJob → ℕ → Work Unit}
    {generationID : GenerationID} {deadline : Option Time} {ph : Standing}
    (hresume : resume.Ensures standing Leaving ph (WithClient (· = .resuming) (· = .unattended)))
    (hpoll : PollsOn poll ticks) :
    (resume >>= fun r => poll ⟨generationID, r.1, r.2, deadline⟩ ticks).Ensures standing Leaving ph
      fun _ ph' => Leaving ph' :=
  Early.Ensures.bind hresume fun _ ph' hph' => hpoll _ ph' (ticker_resumed hph')

theorem ofTask_leonardo {task : Task} (h : task.providerID = .leonardo) : ofTask task = .live := by
  simp [ofTask, Task.resumedByHelper, h]

theorem ofTask_fresh {task : Task} (h : task.submittedGeneration = none) : ofTask task = .live := by
  simp [ofTask, Task.resumedByHelper, h]

theorem ofTask_resumed {task : Task} {job : GenerationID × UUID} (hprovider : task.providerID ≠ .leonardo)
    (h : task.submittedGeneration = some job) : ofTask task = .resuming := by
  simp [ofTask, Task.resumedByHelper, hprovider, h]

/-! ### Whole runs -/

theorem ensures_leonardo {α : Type} {checks : List (Check × String)} {registered : Bool}
    {x : WorkerAccount → Work α} {f : α → Work References} {poll : PolledJob → ℕ → Work Unit}
    (hx : ∀ account ph, Active ph →
      (x account).Ensures standing Leaving ph fun _ ph' => Going ph')
    (hf : ∀ a, ∃ references, f a = pure references) (hpoll : PollsOn poll ticks) {task : Task}
    (hprovider : task.providerID = .leonardo) :
    (processLeonardo taskTimeout ticks checks registered (fun account => x account >>= f) poll
      task).Ensures standing Leaving (ofTask task) fun _ ph' => Leaving ph' := by
  rw [ofTask_leonardo hprovider]
  refine conducts_standing.processLeonardo (fun account ph hph => ?_) hpoll.leaves task .live rfl
  refine Early.Ensures.bind (hx account ph hph) fun a ph₁ hph₁ => ?_
  obtain ⟨references, hreferences⟩ := hf a
  rw [hreferences]
  exact Early.ensures_pure ⟨hph₁, fun _ _ h => h⟩

theorem ensures_adobe {α : Type} {checks : List (Check × String)} {registered : Bool}
    {x : WorkerAccount × Bool → Work α} {f : α → Work References}
    {poll : PolledJob → ℕ → Work Unit}
    (hx : ∀ account ph, WithClient Active Going account ph →
      (x account).Ensures standing Leaving ph fun _ ph' => Going ph')
    (hf : ∀ a, ∃ references, f a = pure references) (hpoll : PollsOn poll ticks) {task : Task}
    (hprovider : task.providerID = .adobe) :
    (processAdobe taskTimeout ticks checks registered (fun account => x account >>= f) poll
      task).Ensures standing Leaving (ofTask task) fun _ ph' => Leaving ph' := by
  refine conducts_standing.processAdobe (fun generationID accountID hjob => ?_) (fun hjob => ?_)
    (fun account ph hph => ?_) hpoll.leaves
  · rw [ofTask_resumed (by simp [hprovider]) hjob]
    exact ensures_resume (attends_resuming.resumeAdobeTask task accountID rfl) hpoll
  · rw [ofTask_fresh hjob]
    rfl
  · refine Early.Ensures.bind (hx account ph hph) fun a ph₁ hph₁ => ?_
    obtain ⟨references, hreferences⟩ := hf a
    rw [hreferences]
    exact Early.ensures_pure ⟨hph₁, fun _ _ h => h⟩

theorem ensures_processImageOf (task : Task) (req : ImageRequest) :
    (processImageOf taskTimeout ticks task req).Ensures standing Leaving (ofTask task)
      fun _ ph' => Leaving ph' := by
  unfold processImageOf
  cases hprovider : task.providerID with
  | leonardo =>
    exact ensures_leonardo (fun account ph hph => ensures_uploadAll_active
      (fun media _ h => ensures_uploadImage account media h) req.media (going_of_active hph))
      (fun _ => ⟨_, rfl⟩) (pollsOn_leonardo _ _) hprovider
  | adobe =>
    refine ensures_adobe (fun account ph hph => ensures_uploadAll_active
      (fun media _ h => ensures_uploadAdobeImage account media h) req.media ?_)
      (fun _ => ⟨_, rfl⟩) pollsOn_adobeImage hprovider
    obtain ⟨account, client⟩ := account
    cases client with
    | true => exact going_of_active hph
    | false => exact hph
  | creativefabrica =>
    refine conducts_standing.processCreativeFabricaImage (fun generationID accountID hjob => ?_)
      (fun hjob => ?_) (fun account ph hph => ?_) (fun _ _ _ _ h => h)
      pollsOn_creativeFabricaImage.leaves
    · rw [ofTask_resumed (by simp [hprovider]) hjob]
      exact ensures_resume (attends_resuming.resumeCreativeFabricaTask task accountID rfl)
        pollsOn_creativeFabricaImage
    · rw [ofTask_fresh hjob]
      rfl
    · exact Early.Ensures.bind (ensures_uploadAll_uploading
        (fun media _ h => ensures_uploadFlowImage account media h) req.media (going_of_active hph))
        fun _ _ hph => Early.ensures_pure hph

theorem ensures_processVideoOf (task : Task) (req : VideoRequest) :
    (processVideoOf taskTimeout ticks task req).Ensures standing Leaving (ofTask task)
      fun _ ph' => Leaving ph' := by
  unfold processVideoOf
  cases hprovider : task.providerID with
  | leonardo =>
    exact ensures_leonardo
      (fun account _ h => ensures_uploadLeonardoVideoGuidance account req h)
      (fun _ => ⟨_, rfl⟩) (pollsOn_leonardo _ _) hprovider
  | adobe =>
    exact ensures_adobe (fun account _ h => ensures_uploadAdobeVideoReferences account req h)
      (fun _ => ⟨_, rfl⟩) pollsOn_adobeVideo hprovider
  | creativefabrica =>
    refine conducts_standing.processCreativeFabricaVideo (fun generationID accountID hjob => ?_)
      (fun hjob => ?_) (fun account ph hph => ?_) (fun account inputs job ph hph => ?_)
      pollsOn_creativeFabricaVideo.leaves
    · rw [ofTask_resumed (by simp [hprovider]) hjob]
      exact ensures_resume (attends_resuming.resumeCreativeFabricaTask task accountID rfl)
        pollsOn_creativeFabricaVideo
    · rw [ofTask_fresh hjob]
      rfl
    · exact ensures_collectCreativeFabricaVideoInputs account req (going_of_active hph)
    · refine (ensures_uploadCreativeFabricaVideoFrames_active account.id inputs job hph).mono
        fun r ph' hph' => ?_
      cases r with
      | none => exact hph'
      | some err =>
        exact ⟨(record_active account err ph' hph').1, fun r =>
          active_of_failed ((record_active account err ph' hph').2 r)⟩

theorem cleanupTerminalAssets_standing (assets : List SourceMedia) (ph : Standing)
    (h : ph.Leaving) :
    (cleanupTerminalAssets assets).Obeys standing ph fun _ _ => True := by
  have hmayCall : ∀ ph : Standing, ph.Leaving → ph.mayCall = true ∧ ph.called.mayCall = true := by
    intro ph h
    cases ph <;> first | exact ⟨rfl, rfl⟩ | cases h
  refine ⟨(hmayCall ph h).1, fun r => ?_⟩
  rcases r with err | task
  · trivial
  · exact Prog.obeys_ite (fun _ => ⟨(hmayCall ph h).2, fun _ => trivial⟩) fun _ => trivial

/-- Every call on every path of a run is allowed. -/
theorem ensures_processTask_standing (decoder : Decoder) (kind : Kind) :
    (processTask taskTimeout ticks decoder kind).Ensures standing (fun _ => True) .start
      fun _ _ => True := by
  refine ensures_processTask (D := fun task ph => ph = ofTask task) ?_
    cleanupTerminalAssets_standing ?_ ?_ ?_ kind rfl ?_ fun _ _ => trivial
  · rintro task ph call rfl
    refine ⟨?_, fun _ => trivial⟩
    unfold ofTask
    cases task.resumedByHelper <;> rfl
  · rintro task req ph rfl
    exact ensures_processImageOf task req
  · rintro task req ph rfl
    exact ensures_processVideoOf task req
  · rintro task ph rfl hprovider
    exact ((ensures_leonardo (x := fun _ => pure ()) (f := fun _ => pure (.guidance []))
      (fun _ _ hph => Early.ensures_pure (going_of_active hph)) (fun _ => ⟨_, rfl⟩)
      (pollsOn_leonardo _ _) hprovider).weaken fun _ _ => trivial).mono fun _ _ _ => trivial
  · intro r task htask
    show ofClaim r = ofTask task
    rw [ofClaim, htask]

/-! ### What the phases exclude -/

theorem ofClaim_ne_start (r : Except GoError ClaimResult) : ofClaim r ≠ .start := by
  unfold ofClaim ofTask
  split
  · split <;> nofun
  · nofun

theorem ne_start_of_allows {ph : Standing} {op : JobCall} (h : ph.allows op = true) :
    op = .claimTask ∨ ph ≠ .start := by
  rcases eq_or_ne ph .start with rfl | hph
  · left
    cases op <;> first | rfl | cases h
  · exact .inr hph

theorem owned_ne_start {ph : Standing} (h : ph ≠ .start) (call : OwnedCall)
    (r : Except GoError Bool) : ph.owned call r ≠ .start := by
  rcases r with err | held
  · cases hcall : call.settles <;> cases ph <;> simp_all [owned, ended]
  · cases hcall : call.settles <;> cases held <;> cases ph <;> simp_all [owned, ended]

theorem read_ne_start {ph : Standing} (h : ph ≠ .start) (r : Except GoError MediaData) :
    ph.read r ≠ .start := by
  rcases r with err | data <;> cases ph <;> simp_all [Standing.read]

/-- A call leads away from the start. -/
theorem next_ne_start {ph : Standing} {op : JobCall} (h : ph.allows op = true) (r : op.Res) :
    ph.next op r ≠ .start := by
  rcases ne_start_of_allows h with rfl | hph
  · exact ofClaim_ne_start r
  · cases op with
    | claimTask => exact ofClaim_ne_start r
    | owned call => exact owned_ne_start hph call r
    | readMedia media => exact read_ne_start hph r
    | _ => cases ph <;> first | exact absurd rfl hph | nofun

/-- The calls of a run are accepted. -/
theorem accepts_processTask {decoder : Decoder} {kind : Kind} {calls : List JobEvent}
    {rest : Prog jobs (Except Returned Unit)}
    (hpath : (processTask taskTimeout ticks decoder kind).run.Path calls rest) :
    standing.Accepts .start calls :=
  Prog.Obeys.accepts hpath (ensures_processTask_standing decoder kind)

/-- A run claims its task before any other call. -/
theorem claimTask_first {decoder : Decoder} {kind : Kind} {calls : List JobEvent}
    {k : Except GoError ClaimResult → Prog jobs (Except Returned Unit)}
    (hpath : (processTask taskTimeout ticks decoder kind).run.Path calls (.call .claimTask k)) :
    calls = [] := by
  rcases List.eq_nil_or_concat' calls with rfl | ⟨earlier, e, rfl⟩
  · rfl
  · have hstart : decide (standing.after .start (earlier ++ [e]) = .start) = true :=
      (Prog.Obeys.path hpath (ensures_processTask_standing decoder kind)).1
    rw [Monitor.after_snoc] at hstart
    have haccepts := accepts_processTask hpath
    exact absurd (of_decide_eq_true hstart) (next_ne_start haccepts.allowed e.answer)

end Worker

end GenerationGateway
