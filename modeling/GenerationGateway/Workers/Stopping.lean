import GenerationGateway.Workers.Blame
import GenerationGateway.Workers.FleetRuns

/-!
# Runs stop after settling their task

A run that has failed its task, given it back or marked it uncertain may call the provider
no more, and no poll loop is entered without a client. The runs do so except after two of
the helpers: one that resumes a job settles the task and returns no client, and an upload
that failed settles the task and lets the loop go on with the next medium.
-/

namespace GenerationGateway

open Relational Transitions Effects

/-- The operation may have settled the task: it took effect, or nobody knows. -/
def JobCall.maySettle : (op : JobCall) → op.Res → Bool
  | .owned call, .ok held => call.settles && held
  | .owned call, .error _ => call.settles
  | _, _ => false

theorem JobCall.maySettle_of_settled {op : JobCall} {r : op.Res} (h : op.settled r = true) :
    op.maySettle r = true := by
  cases op with
  | owned call =>
    rcases r with err | held
    · cases h
    · exact h
  | _ => cases h

/-- Once the run may have settled its task it calls the provider no more, and it enters no
poll loop without a client. -/
structure Stops (calls : List JobEvent) : Prop where
  silent : ∀ before e after, calls = before ++ e :: after → e.op.maySettle e.answer = true →
    ∀ f ∈ after, f.op.upstream = false
  attended : ∀ e ∈ calls, e.op ≠ .pollInterval false

/-- The run resumes a job of Adobe or Creative Fabrica and has not polled it yet. -/
def Resuming (calls : List JobEvent) : Prop :=
  (∃ r task rest, calls = ⟨.claimTask, r⟩ :: rest ∧ claimedTask r = some task ∧
    task.resumedByHelper = true) ∧ ∀ e ∈ calls, ∀ client, e.op ≠ .pollInterval client

/-- A helper that resumes the job settles the task, and the run goes on. -/
def UnattendedResume (calls : List JobEvent) : Prop :=
  ∃ before e next after, calls = before ++ e :: next :: after ∧ Resuming before ∧
    e.op.settled e.answer = true

/-- An upload that failed settles the task, and the next medium can be read. -/
def SkippedUpload (calls : List JobEvent) : Prop :=
  ∃ before account err retryAt e media data next after,
    calls = before ++ ⟨.recordAccountFailure account err, retryAt⟩ :: e ::
      ⟨.readMedia media, .ok data⟩ :: next :: after ∧ e.op.settled e.answer = true

/-- An operation takes effect although the task was settled. -/
def Unfenced (calls : List JobEvent) : Prop :=
  ∃ before e after f, calls = before ++ e :: after ∧ e.op.settled e.answer = true ∧ f ∈ after ∧
    f.op.effective f.answer = true

theorem Fenced.not_unfenced {calls : List JobEvent} (h : Fenced calls) : ¬Unfenced calls := by
  rintro ⟨before, e, after, f, hcalls, he, hf, heffective⟩
  rw [h before e after hcalls he f hf] at heffective
  cases heffective

section Extend

variable {calls : List JobEvent} (e : JobEvent)

theorem UnattendedResume.snoc (h : UnattendedResume calls) : UnattendedResume (calls ++ [e]) := by
  obtain ⟨before, f, next, after, rfl, hresuming, hf⟩ := h
  exact ⟨before, f, next, after ++ [e], by simp, hresuming, hf⟩

theorem SkippedUpload.snoc (h : SkippedUpload calls) : SkippedUpload (calls ++ [e]) := by
  obtain ⟨before, account, err, retryAt, f, media, data, next, after, rfl, hf⟩ := h
  exact ⟨before, account, err, retryAt, f, media, data, next, after ++ [e], by simp, hf⟩

theorem Unfenced.snoc (h : Unfenced calls) : Unfenced (calls ++ [e]) := by
  obtain ⟨before, f, after, g, rfl, hf, hg, heffective⟩ := h
  exact ⟨before, f, after ++ [e], g, by simp, hf, by simp [hg], heffective⟩

theorem Resuming.snoc (h : Resuming calls) (he : ∀ client, e.op ≠ .pollInterval client) :
    Resuming (calls ++ [e]) := by
  obtain ⟨⟨r, task, rest, rfl, htask, hresumed⟩, hpoll⟩ := h
  refine ⟨⟨r, task, rest ++ [e], by simp, htask, hresumed⟩, fun f hf => ?_⟩
  rcases List.mem_append.mp hf with hf | hf
  · exact hpoll f hf
  · rw [List.mem_singleton.mp hf]
    exact he

end Extend

/-- A call of the provider after the task was settled. -/
def AsksSettled (calls : List JobEvent) : Prop :=
  ∃ before e after f, calls = before ++ e :: after ∧ e.op.settled e.answer = true ∧ f ∈ after ∧
    f.op.upstream = true

theorem AsksSettled.snoc {calls : List JobEvent} (h : AsksSettled calls) (e : JobEvent) :
    AsksSettled (calls ++ [e]) := by
  obtain ⟨before, f, after, g, rfl, hf, hg, hupstream⟩ := h
  exact ⟨before, f, after ++ [e], g, by simp, hf, by simp [hg], hupstream⟩

namespace Standing

/-- What a phase says of the calls that led to it. -/
def Tells : Standing → List JobEvent → Prop
  | start, calls => calls = []
  | blamed, calls => ∃ before account err retryAt,
      calls = before ++ [⟨.recordAccountFailure account err, retryAt⟩]
  | resuming, calls => Resuming calls
  | unattended, calls => ∃ before e, calls = before ++ [e] ∧ Resuming before ∧
      e.op.settled e.answer = true
  | alone, calls => UnattendedResume calls ∧ ∃ e ∈ calls, e.op = .pollInterval false
  | skipped, calls => ∃ before account err retryAt e,
      calls = before ++ [⟨.recordAccountFailure account err, retryAt⟩, e] ∧
        e.op.settled e.answer = true
  | reading, calls => ∃ before account err retryAt e media data,
      calls = before ++ [⟨.recordAccountFailure account err, retryAt⟩, e,
        ⟨.readMedia media, .ok data⟩] ∧ e.op.settled e.answer = true
  | excused, calls => SkippedUpload calls ∧ AsksSettled calls
  | settled, calls => ∃ e ∈ calls, e.op.settled e.answer = true
  | impossible, calls => Unfenced calls
  | _, _ => True

/-- The phases that say only what later calls cannot undo. -/
def lasting : Standing → Bool
  | live | alone | excused | settled | stopped | impossible => true
  | _ => false

theorem Tells.stay {ph : Standing} {calls : List JobEvent} (h : ph.Tells calls)
    (hph : ph.lasting = true) (e : JobEvent) : ph.Tells (calls ++ [e]) := by
  cases ph with
  | live => trivial
  | stopped => trivial
  | alone =>
    obtain ⟨hresume, f, hf, hop⟩ := h
    exact ⟨hresume.snoc e, f, by simp [hf], hop⟩
  | excused => exact ⟨h.1.snoc e, h.2.snoc e⟩
  | settled =>
    obtain ⟨f, hf, hsettled⟩ := h
    exact ⟨f, by simp [hf], hsettled⟩
  | impossible => exact Unfenced.snoc e h
  | _ => cases hph

theorem Tells.settled_of_skipped {calls : List JobEvent} (h : skipped.Tells calls) :
    settled.Tells calls := by
  obtain ⟨before, account, err, retryAt, e, rfl, he⟩ := h
  exact ⟨e, by simp, he⟩

/-- An operation after the task was settled. -/
theorem Tells.ended {calls : List JobEvent} (h : settled.Tells calls) (call : OwnedCall)
    (r : Except GoError Bool) :
    (Standing.ended .settled .impossible r).Tells (calls ++ [⟨.owned call, r⟩]) := by
  rcases r with err | held
  · trivial
  · cases held with
    | false => exact h.stay rfl _
    | true =>
      obtain ⟨f, hf, hsettled⟩ := h
      obtain ⟨before, after, rfl⟩ := List.append_of_mem hf
      exact ⟨before, f, after ++ [⟨.owned call, .ok true⟩], ⟨.owned call, .ok true⟩, by simp,
        hsettled, by simp, rfl⟩

theorem tells_owned {ph : Standing} {calls : List JobEvent} (h : ph.Tells calls)
    {call : OwnedCall} (hallowed : ph.mayHold = true) (r : Except GoError Bool) :
    (ph.owned call r).Tells (calls ++ [⟨.owned call, r⟩]) := by
  have hsettled {held : Bool} (hcall : call.settles = true) (hheld : held = true) :
      JobCall.settled (.owned call) (.ok held) = true := by simp [JobCall.settled, hcall, hheld]
  cases ph with
  | live =>
    unfold owned
    dsimp only
    split
    next hcall =>
      rcases r with err | held
      · trivial
      · cases held with
        | false => trivial
        | true => exact ⟨_, List.mem_append_right _ (List.mem_singleton_self _), hsettled hcall rfl⟩
    next => trivial
  | blamed =>
    unfold owned
    dsimp only
    split
    next hcall =>
      rcases r with err | held
      · trivial
      · cases held with
        | false => trivial
        | true =>
          obtain ⟨before, account, err, retryAt, rfl⟩ := h
          exact ⟨before, account, err, retryAt, ⟨.owned call, .ok true⟩, by simp,
            hsettled hcall rfl⟩
    next => trivial
  | resuming =>
    have hsnoc : resuming.Tells (calls ++ [⟨.owned call, r⟩]) := Resuming.snoc _ h fun _ => nofun
    unfold owned
    dsimp only
    split
    next hcall =>
      rcases r with err | held
      · trivial
      · cases held with
        | false => exact hsnoc
        | true => exact ⟨calls, _, rfl, h, hsettled hcall rfl⟩
    next => exact hsnoc
  | skipped => exact h.settled_of_skipped.ended call r
  | settled => exact h.ended call r
  | alone => exact h.stay rfl _
  | excused => exact h.stay rfl _
  | impossible => exact h.stay rfl _
  | _ => cases hallowed

theorem tells_recorded {ph : Standing} {calls : List JobEvent} (h : ph.Tells calls)
    (hallowed : ph.mayCall = true) (account : WorkerAccount) (err : GoError)
    (retryAt : Option Time) :
    ph.recorded.Tells (calls ++ [⟨.recordAccountFailure account err, retryAt⟩]) := by
  cases ph with
  | live => exact ⟨calls, account, err, retryAt, rfl⟩
  | blamed => exact ⟨calls, account, err, retryAt, rfl⟩
  | resuming => exact Resuming.snoc _ h fun _ => nofun
  | skipped => exact h.settled_of_skipped.stay rfl _
  | alone => exact h.stay rfl _
  | excused => exact h.stay rfl _
  | settled => exact h.stay rfl _
  | stopped => exact h.stay rfl _
  | impossible => exact h.stay rfl _
  | _ => cases hallowed

theorem tells_read {ph : Standing} {calls : List JobEvent} (h : ph.Tells calls)
    (hallowed : ph.mayCall = true) (media : Media) (r : Except GoError MediaData) :
    (ph.read r).Tells (calls ++ [⟨.readMedia media, r⟩]) := by
  cases ph with
  | blamed => trivial
  | resuming => exact Resuming.snoc _ h fun _ => nofun
  | skipped =>
    rcases r with err | data
    · exact h.settled_of_skipped.stay rfl _
    · obtain ⟨before, account, err, retryAt, e, rfl, he⟩ := h
      exact ⟨before, account, err, retryAt, e, media, data, by simp, he⟩
  | live => exact h.stay rfl _
  | alone => exact h.stay rfl _
  | excused => exact h.stay rfl _
  | settled => exact h.stay rfl _
  | stopped => exact h.stay rfl _
  | impossible => exact h.stay rfl _
  | _ => cases hallowed

theorem tells_ticked {ph : Standing} {calls : List JobEvent} (h : ph.Tells calls) {client : Bool}
    (hallowed : ph.mayPoll client = true) :
    ph.ticked.Tells (calls ++ [⟨.pollInterval client, ()⟩]) := by
  cases ph with
  | blamed => trivial
  | resuming => trivial
  | unattended =>
    obtain ⟨before, e, rfl, hresuming, he⟩ := h
    obtain rfl : client = false := by simpa [mayPoll] using hallowed
    exact ⟨⟨before, e, ⟨.pollInterval false, ()⟩, [], by simp, hresuming, he⟩,
      ⟨.pollInterval false, ()⟩, by simp, rfl⟩
  | skipped => exact h.settled_of_skipped.stay rfl _
  | live => exact h.stay rfl _
  | alone => exact h.stay rfl _
  | excused => exact h.stay rfl _
  | settled => exact h.stay rfl _
  | impossible => exact h.stay rfl _
  | _ => cases hallowed

/-- Any other call; only one of the provider may follow the medium that was read. -/
theorem tells_called {ph : Standing} {calls : List JobEvent} (h : ph.Tells calls) {e : JobEvent}
    (hpoll : ∀ client, e.op ≠ .pollInterval client)
    (hallowed : (if e.op.upstream then ph.mayAsk else ph.mayCall) = true) :
    ph.called.Tells (calls ++ [e]) := by
  cases ph with
  | blamed => trivial
  | resuming => exact Resuming.snoc _ h hpoll
  | skipped => exact h.settled_of_skipped.stay rfl _
  | reading =>
    have hupstream : e.op.upstream = true := by
      by_contra hquiet
      simp [hquiet, mayCall] at hallowed
    obtain ⟨before, account, err, retryAt, f, media, data, rfl, hf⟩ := h
    refine ⟨⟨before, account, err, retryAt, f, media, data, e, [], by simp, hf⟩, ?_⟩
    exact ⟨before ++ [⟨.recordAccountFailure account err, retryAt⟩], f,
      [⟨.readMedia media, .ok data⟩, e], e, by simp, hf, by simp, hupstream⟩
  | live => exact h.stay rfl _
  | alone => exact h.stay rfl _
  | excused => exact h.stay rfl _
  | settled => exact h.stay rfl _
  | stopped => exact h.stay rfl _
  | impossible => exact h.stay rfl _
  | _ =>
    cases hupstream : e.op.upstream <;> rw [hupstream] at hallowed <;> cases hallowed

theorem tells_claimTask (r : Except GoError ClaimResult) :
    (ofClaim r).Tells [⟨.claimTask, r⟩] := by
  unfold ofClaim
  cases htask : claimedTask r with
  | none => trivial
  | some task =>
    cases hresumed : task.resumedByHelper with
    | false => simp [ofTask, hresumed, Tells]
    | true =>
      simp only [ofTask, hresumed, if_true]
      refine ⟨⟨r, task, [], rfl, htask, hresumed⟩, fun e he => ?_⟩
      rw [List.mem_singleton.mp he]
      intro _ h
      cases h

/-- What each call adds. -/
theorem tells_next (ph : Standing) (calls : List JobEvent) (e : JobEvent)
    (hallowed : standing.allowed ph e.op) (h : ph.Tells calls) :
    (standing.next ph e.op e.answer).Tells (calls ++ [e]) := by
  obtain ⟨op, r⟩ := e
  cases op with
  | claimTask =>
    obtain rfl : ph = .start := of_decide_eq_true hallowed
    obtain rfl : calls = [] := h
    exact tells_claimTask r
  | owned call => exact tells_owned h hallowed r
  | recordAccountFailure account err => exact tells_recorded h hallowed account err r
  | readMedia media => exact tells_read h hallowed media r
  | pollInterval client => exact tells_ticked h hallowed
  | _ => exact tells_called h (fun _ => nofun) hallowed

/-- The task may have been settled. -/
def isOver : Standing → Bool
  | start | live | blamed | resuming => false
  | _ => true

theorem isOver_owned {ph : Standing} {call : OwnedCall} {r : Except GoError Bool}
    (hallowed : ph.mayHold = true)
    (h : ph.isOver = true ∨ JobCall.maySettle (.owned call) r = true) :
    (ph.owned call r).isOver = true := by
  rcases r with err | held
  · cases hcall : call.settles <;> cases ph <;>
      simp_all [owned, ended, isOver, mayHold, mayCall, JobCall.maySettle]
  · cases hcall : call.settles <;> cases held <;> cases ph <;>
      simp_all [owned, ended, isOver, mayHold, mayCall, JobCall.maySettle]

/-- The run does not get over a settlement. -/
theorem isOver_next {ph : Standing} {op : JobCall} (hallowed : standing.allowed ph op)
    (h : ph.isOver = true) (r : op.Res) : (standing.next ph op r).isOver = true := by
  cases op with
  | claimTask =>
    obtain rfl : ph = .start := of_decide_eq_true hallowed
    cases h
  | owned call => exact isOver_owned hallowed (.inl h)
  | readMedia media => rcases r with err | data <;> cases ph <;> first | rfl | cases h
  | _ => cases ph <;> first | rfl | cases h

theorem of_mayAsk {ph : Standing} (hover : ph.isOver = true) (h : ph.mayAsk = true) :
    ph = .alone ∨ ph = .reading ∨ ph = .excused ∨ ph = .impossible := by
  cases ph <;> simp_all [isOver, mayAsk]

theorem of_mayPoll {ph : Standing} (h : ph.mayPoll false = true) :
    ph = .unattended ∨ ph = .alone ∨ ph = .excused ∨ ph = .impossible := by
  cases ph <;> simp_all [mayPoll]

theorem upstream_of_reading {op : JobCall} (h : reading.allows op = true) : op.upstream = true := by
  cases op <;> first | rfl | cases h

/-- Where a run may stand that records a failure, settles its task, reads a medium and goes
on. -/
theorem of_skippedUpload {ph : Standing} {call : OwnedCall} (hcall : call.settles = true)
    {data : MediaData} {next : JobCall} (hrecord : ph.mayCall = true)
    (hhold : ph.recorded.mayHold = true)
    (hread : (ph.recorded.owned call (.ok true)).mayCall = true)
    (hnext : ((ph.recorded.owned call (.ok true)).read (.ok data)).allows next = true) :
    next.upstream = true ∨ ph = .alone ∨ ph = .excused ∨ ph = .skipped ∨ ph = .settled ∨
      ph = .impossible := by
  have hreading : ph.recorded = .blamed → next.upstream = true := by
    intro hph
    simp only [hph, owned, hcall, if_true, ended] at hnext
    exact upstream_of_reading hnext
  cases ph with
  | live => exact .inl (hreading rfl)
  | blamed => exact .inl (hreading rfl)
  | resuming =>
    simp [recorded, owned, hcall, ended, mayCall] at hread
  | stopped => cases hhold
  | start => cases hrecord
  | unattended => cases hrecord
  | reading => cases hrecord
  | _ => simp

theorem owned_resuming (call : OwnedCall) (r : Except GoError Bool) :
    owned .resuming call r = .resuming ∨ owned .resuming call r = .unattended ∨
      owned .resuming call r = .stopped := by
  rcases r with err | held
  · cases hcall : call.settles <;> simp [owned, ended, hcall]
  · cases hcall : call.settles <;> cases held <;> simp [owned, ended, hcall]

end Standing

section Run

variable {calls : List JobEvent} (haccepts : standing.Accepts .start calls)
include haccepts

theorem tells_standing : (standing.after .start calls).Tells calls :=
  haccepts.invariant rfl Standing.tells_next

/-- Once the task may have been settled the run stays over it. -/
theorem isOver_of_maySettle {e : JobEvent} (he : e ∈ calls)
    (hsettle : e.op.maySettle e.answer = true) : (standing.after .start calls).isOver = true := by
  have hover : (∃ f ∈ calls, f.op.maySettle f.answer = true) →
      (standing.after .start calls).isOver = true := by
    refine haccepts.invariant (I := fun ph (es : List JobEvent) =>
      (∃ f ∈ es, f.op.maySettle f.answer = true) → ph.isOver = true) ?_ ?_
    · rintro ⟨f, hf, -⟩
      cases hf
    rintro ph es e hallowed ih ⟨f, hf, hsettle⟩
    rcases List.mem_append.mp hf with hf | hf
    · exact Standing.isOver_next hallowed (ih ⟨f, hf, hsettle⟩) e.answer
    · rw [List.mem_singleton.mp hf] at hsettle
      obtain ⟨op, r⟩ := e
      cases op with
      | owned call => exact Standing.isOver_owned hallowed (.inr hsettle)
      | _ => cases hsettle
  exact hover ⟨e, he, hsettle⟩

/-- While it resumes, the run has settled nothing or goes on unattended. -/
theorem standing_of_resuming (h : Resuming calls) :
    standing.after .start calls = .resuming ∨ standing.after .start calls = .unattended ∨
      standing.after .start calls = .stopped := by
  revert h
  refine haccepts.invariant (I := fun ph es =>
    Resuming es → ph = .resuming ∨ ph = .unattended ∨ ph = .stopped) ?_ ?_
  · rintro ⟨⟨r, task, rest, hnil, -⟩, -⟩
    cases hnil
  rintro ph es e hallowed ih ⟨⟨r, task, rest, hcalls, htask, hresumed⟩, hpoll⟩
  cases es with
  | nil =>
    obtain ⟨rfl, -⟩ := List.cons.inj hcalls
    refine .inl ?_
    show Standing.ofClaim r = .resuming
    simp [Standing.ofClaim, htask, Standing.ofTask, hresumed]
  | cons f es =>
    obtain ⟨rfl, hrest⟩ := List.cons.inj hcalls
    have hph := ih ⟨⟨r, task, es, rfl, htask, hresumed⟩, fun g hg =>
      hpoll g (List.mem_append_left _ hg)⟩
    have hne := hpoll e (by simp)
    obtain ⟨op, a⟩ := e
    rcases hph with rfl | rfl | rfl
    · cases op with
      | claimTask => cases hallowed
      | pollInterval client => exact absurd rfl (hne client)
      | owned call => exact Standing.owned_resuming call a
      | readMedia media =>
        rcases a with err | data <;> exact .inl rfl
      | _ => exact .inl rfl
    · cases op with
      | pollInterval client => exact absurd rfl (hne client)
      | _ => cases hallowed
    · cases op with
      | pollInterval client => exact absurd rfl (hne client)
      | claimTask => cases hallowed
      | owned call => cases hallowed
      | readMedia media => rcases a with err | data <;> exact .inr (.inr rfl)
      | _ => exact .inr (.inr rfl)

theorem stops_of (hfenced : Fenced calls) (hresume : ¬UnattendedResume calls)
    (hupload : ¬SkippedUpload calls) : Stops calls := by
  have hgone : ∀ before f after, calls = before ++ f :: after → ∀ ph,
      standing.after .start before = ph → ph ≠ .alone ∧ ph ≠ .excused ∧ ph ≠ .impossible := by
    rintro before f after rfl ph hph
    have htells := tells_standing haccepts.left
    rw [hph] at htells
    refine ⟨?_, ?_, ?_⟩
    · rintro rfl
      obtain ⟨⟨b, e, next, rest, rfl, hresuming, he⟩, -⟩ := htells
      exact hresume ⟨b, e, next, rest ++ f :: after, by simp, hresuming, he⟩
    · rintro rfl
      obtain ⟨⟨b, account, err, retryAt, e, media, data, next, rest, rfl, he⟩, -⟩ := htells
      exact hupload ⟨b, account, err, retryAt, e, media, data, next, rest ++ f :: after, by simp, he⟩
    · rintro rfl
      obtain ⟨b, e, rest, g, rfl, he, hg, heffective⟩ := htells
      exact hfenced.not_unfenced
        ⟨b, e, rest ++ f :: after, g, by simp, he, by simp [hg], heffective⟩
  refine ⟨?_, ?_⟩
  · intro before e after hcalls hsettle f hf
    obtain ⟨middle, later, rfl⟩ := List.append_of_mem hf
    have hsplit : calls = (before ++ e :: middle) ++ f :: later := by simp [hcalls]
    obtain ⟨hnotAlone, hnotExcused, hnotImpossible⟩ := hgone _ f later hsplit _ rfl
    rw [hsplit] at haccepts
    have hover := isOver_of_maySettle haccepts.left (e := e) (by simp) hsettle
    have htells := tells_standing haccepts.left
    have hallowed := haccepts.allowed
    by_contra hupstream
    have hmayAsk : (standing.after .start (before ++ e :: middle)).mayAsk = true :=
      (Standing.allows_upstream (by simpa using hupstream)).symm.trans hallowed
    rcases Standing.of_mayAsk hover hmayAsk with hph | hph | hph | hph
    · exact hnotAlone hph
    · rw [hph] at htells
      obtain ⟨b, account, err, retryAt, g, media, data, hb, hg⟩ := htells
      refine hupload ⟨b, account, err, retryAt, g, media, data, f, later, ?_, hg⟩
      rw [hsplit, hb]
      simp
    · exact hnotExcused hph
    · exact hnotImpossible hph
  · intro f hf hop
    obtain ⟨before, after, rfl⟩ := List.append_of_mem hf
    obtain ⟨hnotAlone, hnotExcused, hnotImpossible⟩ := hgone _ f after rfl _ rfl
    have htells := tells_standing haccepts.left
    have hallowed := haccepts.allowed
    rw [hop] at hallowed
    rcases Standing.of_mayPoll hallowed with hph | hph | hph | hph
    · rw [hph] at htells
      obtain ⟨b, e, rfl, hresuming, he⟩ := htells
      exact hresume ⟨b, e, f, after, by simp, hresuming, he⟩
    · exact hnotAlone hph
    · exact hnotExcused hph
    · exact hnotImpossible hph

theorem not_stops_of_unattendedResume (h : UnattendedResume calls) : ¬Stops calls := by
  rintro ⟨-, hattended⟩
  obtain ⟨before, e, next, after, rfl, hresuming, he⟩ := h
  have hallowed := haccepts.allowed
  obtain ⟨-, hnext, -⟩ := by simpa only [Monitor.accepts_cons] using haccepts.right
  obtain ⟨op, r⟩ := e
  cases op with
  | owned call =>
    rcases r with err | held
    · cases he
    · obtain ⟨hcall, rfl⟩ := Bool.and_eq_true_iff.mp he
      rcases standing_of_resuming haccepts.left hresuming with hph | hph | hph
      · have hunattended : standing.next .resuming (.owned call) (.ok true) = .unattended := by
          show Standing.owned .resuming call (.ok true) = .unattended
          simp [Standing.owned, hcall, Standing.ended]
        rw [hph, hunattended] at hnext
        obtain ⟨nextOp, answer⟩ := next
        cases nextOp with
        | pollInterval client =>
          obtain rfl : client = false := by
            simpa [standing, Standing.allows, Standing.mayPoll] using hnext
          exact hattended ⟨.pollInterval false, answer⟩ (by simp) rfl
        | _ => cases hnext
      · rw [hph] at hallowed
        cases hallowed
      · rw [hph] at hallowed
        cases hallowed
  | _ => cases he

theorem not_stops_of_skippedUpload (hfenced : Fenced calls) (h : SkippedUpload calls) :
    ¬Stops calls := by
  rintro ⟨hsilent, hattended⟩
  obtain ⟨before, account, err, retryAt, e, media, data, next, after, rfl, he⟩ := h
  obtain ⟨op, r⟩ := e
  cases op with
  | owned call =>
    rcases r with error | held
    · cases he
    · obtain ⟨hcall, rfl⟩ := Bool.and_eq_true_iff.mp he
      have htells := tells_standing haccepts.left
      have hrest := haccepts.right
      generalize standing.after .start before = ph at htells hrest
      obtain ⟨hrecord, hhold, hread, hnext, -⟩ := by
        simpa only [Monitor.accepts_cons] using hrest
      have hsettled : JobCall.maySettle (.owned call) (.ok true) = true := by
        simp [JobCall.maySettle, hcall]
      have hlater : Standing.Tells .settled before → False := by
        rintro ⟨f, hf, hsettledBefore⟩
        obtain ⟨b, rest, rfl⟩ := List.append_of_mem hf
        exact hfenced.not_unfenced ⟨b, f, _, ⟨.owned call, .ok true⟩, List.append_assoc _ _ _,
          hsettledBefore, by simp, rfl⟩
      rcases Standing.of_skippedUpload hcall hrecord hhold hread hnext with
        hupstream | rfl | rfl | rfl | rfl | rfl
      · have hquiet := hsilent (before ++ [⟨.recordAccountFailure account err, retryAt⟩])
          ⟨.owned call, .ok true⟩ (⟨.readMedia media, .ok data⟩ :: next :: after) (by simp)
          hsettled next (by simp)
        rw [hquiet] at hupstream
        cases hupstream
      · obtain ⟨-, f, hf, hop⟩ := htells
        exact hattended f (by simp [hf]) hop
      · obtain ⟨-, b, f, rest, g, rfl, hf, hg, hupstream⟩ := htells
        have hquiet := hsilent b f _ (List.append_assoc _ _ _) (JobCall.maySettle_of_settled hf) g
          (by simp [hg])
        rw [hquiet] at hupstream
        cases hupstream
      · exact hlater htells.settled_of_skipped
      · exact hlater htells
      · obtain ⟨b, f, rest, g, rfl, hf, hg, heffective⟩ := htells
        exact hfenced.not_unfenced ⟨b, f, _, g, List.append_assoc _ _ _, hf, by simp [hg], heffective⟩
  | _ => cases he

end Run

/-- Runs of the fleet stop after settling their task if and only if no helper that resumes a
job settles the task before the run goes on, and no upload that failed settles the task before
another medium is read. -/
theorem fleet_stops_iff {taskTimeout : Time} {decoder : Decoder} {accounts : Table Account}
    {apiKeys : Table APIKey} {costRules : Table CostRule} {capacity : SystemCapacityConfig}
    {s : Fleet}
    (h : (fleet taskTimeout decoder).Reachable (.initial accounts apiKeys costRules capacity) s)
    {i : ℕ} {run : Run} (hrun : s.runs i = some run) :
    Stops run.calls ↔ ¬UnattendedResume run.calls ∧ ¬SkippedUpload run.calls := by
  have hsound := fleet_sound h hrun
  obtain ⟨kind, ticks, hpath⟩ := hsound.follows
  have haccepts := Worker.accepts_processTask hpath
  constructor
  · intro hstops
    exact ⟨fun hresume => not_stops_of_unattendedResume haccepts hresume hstops,
      fun hupload => not_stops_of_skippedUpload haccepts hsound.fenced hupload hstops⟩
  · rintro ⟨hresume, hupload⟩
    exact stops_of haccepts hsound.fenced hresume hupload

/-! ### An upload that is skipped -/

def adobeAccounts : Table Account :=
  ⟨[{ smallAccount with providerID := .adobe }], by decide⟩

def adobeRules : Table CostRule := ⟨[⟨3, .adobe, true, false⟩], by decide⟩

def adobeFleet : Fleet := .initial adobeAccounts smallKeys adobeRules smallCapacity

/-- The admission of a video with references. -/
def adobeAdmission : Event :=
  admitAt 0 { smallRequest 20 .video 10 with providerID := .adobe }

/-- Its row as the claim returns it. -/
def adobeTask : Task :=
  { reservedTask with
    id := 20
    providerID := .adobe
    apiKeyID := some 7
    accountID := some 1
    kind := .video
    progress := 5
    model := ""
    requestHash := "video:\x7b\x7d"
    estimatedTokens := 10
    pricingRuleID := some 3
    startedAt := some 10
    queueDeadlineAt := some (hours 1)
    executionLeaseID := some 31
    executionLeaseExpiresAt := some (minutes 16 + 10) }

def firstImage : SourceMedia := ⟨"a.png", "image/png", "a.png", 4, ""⟩

def secondImage : SourceMedia := ⟨"b.png", "image/png", "b.png", 4, ""⟩

def twoReferences : Decoder where
  image _ := .error (.new "")
  video _ := .ok { model := "veo-3.1", referenceImages := [firstImage, secondImage] }
  audio _ := .error (.new "")

def adobeAccount : WorkerAccount := { routeableAccount with id := 1, providerID := .adobe }

def uploadError : GoError := .new "adobe upload failed: status 500"

/-- The first image cannot be uploaded, so the task fails; the second one is uploaded. -/
def skippedUpload : List (Env × JobEvent) :=
  [(atTime 10, ⟨.claimTask, .ok ⟨some adobeTask, some 31, true⟩⟩),
    (atTime 11, ⟨.getAPIKey 7, .ok ()⟩), (atTime 11, ⟨.getAccount 1, .ok adobeAccount⟩),
    (atTime 11, ⟨.timeNow, (11 : ℤ)⟩), (atTime 11, ⟨.token adobeAccount, .ok adobeAccount⟩),
    (atTime 11, ⟨.check .client, .ok ()⟩),
    (atTime 12, ⟨.owned (.updateTokens (some 100) none), .ok true⟩),
    (atTime 12, ⟨.check .model, .ok ()⟩), (atTime 12, ⟨.check .size, .ok ()⟩),
    (atTime 13, ⟨.owned (.update
      { status := .uploading, progress := 15, accountID := some 1, generationID := "", result := none
        code := "", message := "", upstreamRequest := none, upstreamDeadline := none } (.inl rfl)),
      .ok true⟩),
    (atTime 14, ⟨.readMedia (.asset firstImage), .ok ⟨4, 1, 1⟩⟩),
    (atTime 15, ⟨.upload (.asset firstImage), .error uploadError⟩),
    (atTime 16, ⟨.recordAccountFailure adobeAccount uploadError, none⟩),
    (atTime 17, ⟨.owned (.fail "upload_failed" uploadError.text none none), .ok true⟩),
    (atTime 18, ⟨.readMedia (.asset secondImage), .ok ⟨4, 1, 1⟩⟩),
    (atTime 19, ⟨.upload (.asset secondImage), .ok "m"⟩)]

theorem skippedUpload_path : ∃ rest, (Run.start 60000 twoReferences 20 .video 1).rest.Path
    (skippedUpload.map Prod.snd) rest := by
  apply Exists.intro
  iterate 16 apply Prog.Path.cons
  exact .nil _

/-- The row as the admission leaves it. -/
def adobeTaskQueued : Task :=
  { adobeTask with
    status := .queued
    progress := 0
    startedAt := none
    executionLeaseID := none
    executionLeaseExpiresAt := none
    executionAttempt := 0 }

theorem skippedUpload_reachable : ∃ s run, (fleet 60000 twoReferences).Reachable adobeFleet s ∧
    s.runs 0 = some run ∧ run.calls = skippedUpload.map Prod.snd :=
  fleet_evaluates (s := adobeFleet) [adobeAdmission] adobeTaskQueued 0 (by decide) (by decide) rfl (by decide +kernel) skippedUpload_path (by decide +kernel)

/-- The run calls the provider after it has failed its task. -/
theorem fleet_not_stops : ∃ s run, (fleet 60000 twoReferences).Reachable
    (.initial adobeAccounts smallKeys adobeRules smallCapacity) s ∧ s.runs 0 = some run ∧
      ¬Stops run.calls := by
  obtain ⟨s, run, hreach, hrun, hcalls⟩ := skippedUpload_reachable
  refine ⟨s, run, hreach, hrun, fun hstops => ?_⟩
  have hsilent := hstops.silent ((skippedUpload.map Prod.snd).take 13)
    ⟨.owned (.fail "upload_failed" uploadError.text none none), .ok true⟩
    ((skippedUpload.map Prod.snd).drop 14) (hcalls.trans rfl) rfl
    ⟨.upload (.asset secondImage), .ok "m"⟩ (by simp [skippedUpload])
  cases hsilent

theorem fleet_stops_skippedUpload : ∃ s run, (fleet 60000 twoReferences).Reachable
    (.initial adobeAccounts smallKeys adobeRules smallCapacity) s ∧ s.runs 0 = some run ∧
      (Stops run.calls ↔ ¬UnattendedResume run.calls ∧ ¬SkippedUpload run.calls) := by
  obtain ⟨s, run, hreach, hrun, -⟩ := skippedUpload_reachable
  exact ⟨s, run, hreach, hrun, fleet_stops_iff hreach hrun⟩

end GenerationGateway
