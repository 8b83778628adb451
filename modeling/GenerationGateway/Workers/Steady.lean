import GenerationGateway.Workers.CreativeFabrica

/-!
# The steps that the workers share, under any monitor

The checks and fences of a run, its uploads and its poll loop, for a monitor of which only
this is known: what it lets a run do while an assertion holds, and which calls keep the
assertion. A call of the provider's client that fails may lead to phases of its own, in
which the failure is recorded.
-/

namespace GenerationGateway

open Effects

/-! ### Kinds of calls -/

/-- Reads, checks and waits, which touch neither the task nor the provider. -/
def JobCall.quiet : JobCall → Bool
  | getTask | getAPIKey _ | getAccount _ | pricingRuleActive | check _ | buildGeneration _ | build _
  | marshalRequest _ | timeNow | contextDone | waitForProviderAccountSubmit _ | circuit _
  | guidance _ | clearAccountFailures _ | marshal _ | cleanup _ => true
  | _ => false

/-- The calls of the provider's client. -/
def JobCall.upstream : JobCall → Bool
  | token _ | upload _ | uploadMedia _ | createUploadURL _ | uploadToURL _ _ | uploadFrame _ _
  | submit _ _ | poll _ | sessionMedia _ | sessionIterations _ | result _ | failureDetails _ => true
  | _ => false

/-- The error that an answer carries. -/
def errorOf {α : Type} : Except GoError α → Option GoError
  | .error err => some err
  | .ok _ => none

/-- The error with which the provider's client answered. -/
def JobCall.upstreamError : (op : JobCall) → op.Res → Option GoError
  | .token _, r => errorOf r
  | .upload _, r => errorOf r
  | .uploadMedia _, .error ⟨err, false⟩ => some err
  | .createUploadURL _, r => errorOf r
  | .uploadToURL _ _, r => errorOf r
  | .uploadFrame _ _, r => errorOf r
  | .submit _ _, r => errorOf r
  | .poll _, r => errorOf r
  | .sessionMedia _, r => errorOf r
  | .sessionIterations _, r => errorOf r
  | .result _, r => errorOf r
  | _, _ => none

/-- The calls whose answer decides more than whether they failed. -/
def JobCall.decisive : JobCall → Bool
  | uploadMedia _ | uploadFrame _ _ | submit _ _ => true
  | _ => false

/-- The operations that fail the task, give it back or mark it uncertain. -/
def OwnedCall.settles : OwnedCall → Bool
  | yield _ | fail _ _ _ _ | failSubmitted _ _ _ => true
  | update u _ => u.status = .submissionUncertain
  | _ => false

/-! ### Monitors of a worker -/

section Monitors

variable {φ : Type} (M : Monitor jobs φ) (I N R : φ → Prop)

/-- What a run without the provider needs: the quiet calls keep `I`, and so do the
operations under the lease that hold it and do not settle the task. One that settles it
leads to `N`, and one that has no effect to `R`, where the run may return. -/
structure Steady : Prop where
  leave : ∀ {ph : φ}, I ph → R ph
  quiet : ∀ {ph : φ} {op : JobCall}, I ph → op.quiet = true →
    M.allowed ph op ∧ ∀ r, I (M.next ph op r)
  owned : ∀ {ph : φ} (call : OwnedCall), I ph → M.allowed ph (.owned call)
  held : ∀ {ph : φ} (call : OwnedCall), I ph → call.settles = false →
    I (M.next ph (.owned call) (.ok true))
  ended : ∀ {ph : φ} (call : OwnedCall), I ph → call.settles = true →
    N (M.next ph (.owned call) (.ok true))
  refused : ∀ {ph : φ} (call : OwnedCall) {r : Except GoError Bool}, I ph → r ≠ .ok true →
    R (M.next ph (.owned call) r)

/-- Beside it the calls of the client; after one that failed with `err` the phase is
`failing err` until the failure is recorded. -/
structure Attends (failing : GoError → φ → Prop) : Prop extends Steady M I N R where
  alive : ∀ {err : GoError} {ph : φ}, failing err ph → I ph
  upstream : ∀ {ph : φ} {op : JobCall}, I ph → op.upstream = true → M.allowed ph op
  failed : ∀ {ph : φ} {op : JobCall} {r : op.Res} {err : GoError}, I ph → op.upstream = true →
    op.upstreamError r = some err → failing err (M.next ph op r)
  answered : ∀ {ph : φ} {op : JobCall} {r : op.Res}, I ph → op.upstream = true →
    op.decisive = false → op.upstreamError r = none → I (M.next ph op r)
  recorded : ∀ {err : GoError} {ph : φ} (account : WorkerAccount), failing err ph →
    M.allowed ph (.recordAccountFailure account err) ∧
      ∀ r, I (M.next ph (.recordAccountFailure account err) r)
  classified : ∀ {err : GoError} {ph : φ}, failing err ph →
    M.allowed ph (.authenticationRejected err) ∧
      ∀ r, failing err (M.next ph (.authenticationRejected err) r)

end Monitors

/-- Without an error `N` holds, with one `R`. -/
def Returning {φ : Type} (N R : φ → Prop) (r : Returned) (ph : φ) : Prop :=
  match r with
  | none => N ph
  | some _ => R ph

namespace Worker

section Basics

variable {φ : Type} {M : Monitor jobs φ} {I N R : φ → Prop} {α : Type}

/-- From `I` the program returns no error where `N` holds, and an error where `R` does. -/
def Returns (M : Monitor jobs φ) (I N R : φ → Prop) (x : Work Returned) : Prop :=
  ∀ ph, I ph → x.Ensures M R ph (Returning N R)

theorem returns_bind {p : Work α} {f : α → Work Returned} (hp : p.Keeps M I R)
    (hf : ∀ a, Returns M I N R (f a)) : Returns M I N R (p >>= f) :=
  fun _ hph => hp.ensures_bind hph fun a ph' hph' => hf a ph' hph'

theorem ensures_exit {x : Work Returned} {ph : φ} {Q : α → φ → Prop}
    (h : x.Ensures M R ph (Returning R R)) : (exit x : Work α).Ensures M R ph Q := by
  refine Early.Ensures.bind h fun r ph' hph' => Early.ensures_throw ?_
  cases r <;> exact hph'

theorem keeps_exit {x : Work Returned} (h : Returns M I R R x) : (exit x : Work α).Keeps M I R :=
  fun ph hph => ensures_exit (h ph hph)

theorem ensures_orReturn {x : Work Returned} {ph : φ} {Q : φ → Prop}
    (h : x.Ensures M R ph (Returning Q R)) :
    (orReturn x).Ensures M R ph fun _ ph' => Q ph' := by
  refine Early.Ensures.bind h fun r ph' hr => ?_
  cases r with
  | none => exact Early.ensures_pure hr
  | some err => exact Early.ensures_throw hr

theorem keeps_orReturn {x : Work Returned} (h : Returns M I I R x) : (orReturn x).Keeps M I R :=
  fun ph hph => ensures_orReturn (h ph hph)

theorem keeps_forM {β : Type} {f : β → Work Unit} (h : ∀ b, (f b).Keeps M I R) (bs : List β) :
    (bs.forM f).Keeps M I R := by
  induction bs with
  | nil => exact Early.keeps_pure ()
  | cons b bs ih => exact (h b).bind fun _ => ih

/-- One call, from the phase after its answer. -/
theorem ensures_call {op : JobCall} {f : op.Res → Work α} {ph : φ} {Q : α → φ → Prop}
    (hallowed : M.allowed ph op) (hf : ∀ r, (f r).Ensures M R (M.next ph op r) Q) :
    (perform op >>= f).Ensures M R ph Q := by
  refine Early.Ensures.bind (P := fun r ph' => ph' = M.next ph op r)
    (Early.ensures_perform hallowed fun _ => rfl) fun r ph' hph' => ?_
  subst hph'
  exact hf r

/-- An operation of the lease, from the phases after its answers. -/
theorem ensures_holding {call : OwnedCall} {ph : φ} {Q : Returned → φ → Prop}
    (hallowed : M.allowed ph (.owned call))
    (herror : ∀ err, Q (some err) (M.next ph (.owned call) (.error err)))
    (hlost : Q (some leaseLost) (M.next ph (.owned call) (.ok false)))
    (hheld : Q none (M.next ph (.owned call) (.ok true))) :
    (holding call).Ensures M R ph Q := by
  refine ensures_call hallowed fun r => ?_
  rcases r with err | held
  · exact Early.ensures_pure (herror err)
  · cases held with
    | true => exact Early.ensures_pure hheld
    | false => exact Early.ensures_pure hlost

theorem ensures_settling {call : OwnedCall} {ph : φ} {Q : Returned → φ → Prop}
    (hallowed : M.allowed ph (.owned call))
    (herror : ∀ err, Q (some err) (M.next ph (.owned call) (.error err)))
    (hdone : ∀ held, Q none (M.next ph (.owned call) (.ok held))) :
    (settling call).Ensures M R ph Q := by
  refine ensures_call hallowed fun r => ?_
  cases r with
  | error err => exact Early.ensures_pure (herror err)
  | ok held => exact Early.ensures_pure (hdone held)

end Basics

end Worker

namespace Steady

open Worker

/-! ### Operations that may end a run -/

section Settling

variable {φ : Type} {M : Monitor jobs φ} {I N R : φ → Prop} {α : Type} (h : Steady M I N R)
include h

theorem perform {op : JobCall} (hop : op.quiet = true) : (Worker.perform op).Keeps M I R :=
  Early.keeps_perform fun _ hph => h.quiet hph hop

theorem stop (err : GoError) : (Worker.stop err : Work α).Keeps M I R :=
  Early.keeps_throw (fun _ => h.leave) _

theorem holding {call : OwnedCall} (hcall : call.settles = true) :
    Returns M I N R (Worker.holding call) := fun _ hph =>
  ensures_holding (h.owned call hph) (fun _ => h.refused call hph nofun)
    (h.refused call hph (by simp)) (h.ended call hph hcall)

theorem keeping {call : OwnedCall} (hcall : call.settles = false) :
    Returns M I I R (Worker.holding call) := fun _ hph =>
  ensures_holding (h.owned call hph) (fun _ => h.refused call hph nofun)
    (h.refused call hph (by simp)) (h.held call hph hcall)

/-- A failure that finds the lease lost returns no error either. -/
theorem fail (hlapsed : ∀ ph call, I ph → N (M.next ph (.owned call) (.ok false))) (code : String)
    (err : GoError) : Returns M I N R (Worker.fail code err) := by
  intro ph hph
  refine ensures_settling (h.owned _ hph) (fun _ => h.refused _ hph nofun) fun held => ?_
  cases held with
  | true => exact h.ended _ hph rfl
  | false => exact hlapsed ph _ hph

theorem updateUploading (progress : ℤ) (accountID : UUID) :
    Returns M I I R (Worker.updateUploading progress accountID) :=
  h.keeping rfl

theorem updateRunning (pending : Bool) (progress : ℤ) (accountID : UUID)
    (generationID : GenerationID) :
    Returns M I I R (Worker.updateRunning pending progress accountID generationID) := by
  cases pending with
  | true => exact h.keeping rfl
  | false => exact h.keeping rfl

theorem yieldAt (retryAt : Time) : Returns M I N R (Worker.yieldAt retryAt) := h.holding rfl

theorem yieldForReroute : Returns M I N R Worker.yieldForReroute :=
  returns_bind (h.perform rfl) fun _ => h.yieldAt _

theorem yieldForCooldown (account : WorkerAccount) :
    Returns M I N R (Worker.yieldForCooldown account) :=
  returns_bind (h.perform rfl) fun _ => h.yieldAt _

theorem markSubmissionUncertain (accountID : Option UUID) (code message : String) :
    Returns M I N R (Worker.markSubmissionUncertain accountID code message) :=
  h.holding rfl

theorem deadlinePassed (deadline : Option Time) : (Worker.deadlinePassed deadline).Keeps M I R :=
  (h.perform rfl).bind fun _ => Early.keeps_pure _

theorem yieldSubmittedRetry (accountID : UUID) (deadline : Option Time) (message : String)
    (delay : Time) :
    Returns M I N R (Worker.yieldSubmittedRetry accountID deadline message delay) := by
  refine returns_bind (h.deadlinePassed deadline) fun passed => ?_
  split
  · exact h.markSubmissionUncertain _ _ _
  · exact returns_bind (h.perform rfl) fun _ => h.yieldAt _

theorem retrySession (task : Task) (account : WorkerAccount) (err : GoError) :
    Returns M I N R (Worker.retrySession task account err) :=
  h.yieldSubmittedRetry _ _ _ _

theorem routeableNow (account : WorkerAccount) : (Worker.routeableNow account).Keeps M I R :=
  (h.perform rfl).bind fun _ => Early.keeps_pure _

end Settling

/-! ### Checks and fences -/

section Checks

variable {φ : Type} {M : Monitor jobs φ} {I R : φ → Prop} {α : Type} (h : Steady M I R R)
include h

theorem settling (call : OwnedCall) : Returns M I R R (Worker.settling call) := by
  intro ph hph
  refine ensures_settling (h.owned call hph) (fun _ => h.refused call hph nofun) fun held => ?_
  cases held with
  | false => exact h.refused call hph (by simp)
  | true =>
    cases hcall : call.settles with
    | true => exact h.ended call hph hcall
    | false => exact h.leave (h.held call hph hcall)

theorem failTask (code : String) (err : GoError) : Returns M I R R (Worker.fail code err) :=
  h.settling _

theorem failRun (code : String) (err : GoError) : (Worker.failRun code err : Work α).Keeps M I R :=
  keeps_exit (h.failTask code err)

theorem yieldContextDone : Returns M I R R Worker.yieldContextDone :=
  returns_bind (h.perform rfl) fun _ => h.settling _

theorem failAfterSubmission (code message : String) (details : JSON) :
    Returns M I R R (Worker.failAfterSubmission code message details) :=
  h.settling _

theorem complete (accountID : UUID) (generationID : GenerationID) (outputs : List String) :
    Returns M I R R (Worker.complete accountID generationID outputs) :=
  returns_bind (h.perform rfl) fun _ => h.settling _

theorem require (what : Check) (code : String) : (Worker.require what code).Keeps M I R := by
  refine (h.perform rfl).bind fun r => ?_
  cases r with
  | error err => exact keeps_exit (h.failTask code err)
  | ok u => exact Early.keeps_pure ()

theorem requireAPIKey (task : Task) : (Worker.requireAPIKey task).Keeps M I R := by
  have hvalid : (validateTaskAPIKey task).Keeps M I R := by
    unfold validateTaskAPIKey
    split
    · exact Early.keeps_pure _
    · refine (h.perform rfl).bind fun r => ?_
      cases r <;> exact Early.keeps_pure _
  refine hvalid.bind fun r => ?_
  cases r with
  | none => exact Early.keeps_pure ()
  | some err => exact keeps_exit (h.failTask _ err)

theorem requirePricing : Worker.requirePricing.Keeps M I R := by
  refine (h.perform rfl).bind fun r => ?_
  rcases r with err | active
  · exact h.stop err
  · cases active with
    | true => exact Early.keeps_pure ()
    | false => exact keeps_exit (h.failTask _ _)

theorem enforceSubmissionFence (accountID : UUID) :
    (Worker.enforceSubmissionFence accountID).Keeps M I R := by
  refine (h.perform rfl).bind fun r => ?_
  cases r with
  | error err => exact keeps_exit (h.failTask _ err)
  | ok account =>
    refine (h.routeableNow account).bind fun routeable => ?_
    split
    · refine (h.perform rfl).bind fun r => ?_
      rcases r with err | retryAt
      · exact h.stop err
      · cases retryAt with
        | some retryAt => exact keeps_exit (h.yieldAt retryAt)
        | none => exact h.requirePricing.bind fun _ => Early.keeps_pure _
    · exact keeps_exit h.yieldForReroute

theorem waitForSubmit (account : WorkerAccount) : (Worker.waitForSubmit account).Keeps M I R := by
  refine (h.perform rfl).bind fun r => ?_
  cases r with
  | error err => exact keeps_exit (h.failTask _ err)
  | ok u => exact Early.keeps_pure ()

theorem fenceTwice (account : WorkerAccount) : (Worker.fenceTwice account).Keeps M I R :=
  (h.enforceSubmissionFence _).bind fun _ => (h.waitForSubmit _).bind fun _ =>
    (h.enforceSubmissionFence _).bind fun _ => h.requirePricing.bind fun _ => Early.keeps_pure _

end Checks

end Steady

end GenerationGateway
