import GenerationGateway.Library.Among
import GenerationGateway.Store.System

/-!
# The task queue

The dispatcher puts the tasks that the outbox offers into the queues of a broker, under a name that
the broker keeps unique. Workers, other dispatchers and the broker itself go on between its calls,
so an entry may be gone or archived by the time an answer arrives.
-/

namespace GenerationGateway

open Relational Effects

def typeImage : String := "image:generate"
def typeVideo : String := "video:generate"
def typeAudio : String := "audio:generate"

def queueForKind (kind : String) : Except String (String × String) :=
  if kind = "image" then .ok (typeImage, "images")
  else if kind = "video" then .ok (typeVideo, "videos")
  else if kind = "audio" then .ok (typeAudio, "audio")
  else .error ("unsupported task kind \"" ++ kind ++ "\"")

/-- The id of an entry: that of its task, or a new one for a recovery. -/
inductive EntryName
  | task (id : UUID)
  | recovery (id nonce : UUID)
  deriving DecidableEq

def EntryName.text (uuidText : UUID → String) : EntryName → String
  | task id => uuidText id
  | recovery id nonce => "recovery-" ++ uuidText id ++ "-" ++ uuidText nonce

/-! ### The broker -/

/-- The states of an entry without retries that is not kept once it is done. -/
inductive EntryState
  | pending | active | archived
  deriving DecidableEq

abbrev EntryKey := String × EntryName

abbrev Broker := EntryKey → Option EntryState

/-- A worker will run the entry or is running it. -/
def EntryState.live : Option EntryState → Prop
  | some pending | some active => True
  | _ => False

/-- What workers, dispatchers and the broker do to an entry. -/
inductive EntryMove : Option EntryState → Option EntryState → Prop
  | create : EntryMove none (some .pending)
  | start : EntryMove (some .pending) (some .active)
  | giveBack : EntryMove (some .active) (some .pending)
  | complete : EntryMove (some .active) none
  | fail : EntryMove (some .active) (some .archived)
  | rerun : EntryMove (some .archived) (some .pending)
  | forget : EntryMove (some .archived) none

/-- The broker beside the store. -/
structure QueueWorld where
  broker : Broker
  store : StoreState

/-- A step that is not a call of the dispatcher's. -/
inductive QueueWorld.Other (w : QueueWorld) : QueueWorld → Prop
  | entry {key : EntryKey} {state : Option EntryState} (h : EntryMove (w.broker key) state) :
      Other w { w with broker := Function.update w.broker key state }
  | store {e : Event} {s : StoreState} (h : StoreStep w.store e s) : Other w { w with store := s }

/-! ### The calls -/

inductive QueueOp
  | enqueueContext (queue : String) (name : EntryName)
  | getTaskInfo (queue : String) (name : EntryName)
  | runTask (queue : String) (name : EntryName)
  | recordOutboxError (id : UUID) (message : String) (retryAfter : Time)

inductive EnqueueReply
  | ok | conflict | failed (message : String)

inductive InfoReply
  | info (state : EntryState) | notFound | failed (message : String)

abbrev QueueOp.Res : QueueOp → Type
  | enqueueContext _ _ => EnqueueReply
  | getTaskInfo _ _ => InfoReply
  | runTask _ _ => Option String
  | recordOutboxError _ _ _ => Bool

abbrev queueSig : Signature := ⟨QueueOp, QueueOp.Res⟩

abbrev Dispatch := Prog queueSig

/-- What a call does. A call whose answer is lost may still have had its effect. -/
def QueueWorld.step : (op : QueueOp) → QueueWorld → op.Res → QueueWorld → Prop
  | .enqueueContext queue name, w, reply, w' =>
    match (reply : EnqueueReply) with
    | .ok => w.broker (queue, name) = none ∧
        w' = { w with broker := Function.update w.broker (queue, name) (some .pending) }
    | .conflict => w.broker (queue, name) ≠ none ∧ w' = w
    | .failed _ => w' = w ∨ w.broker (queue, name) = none ∧
        w' = { w with broker := Function.update w.broker (queue, name) (some .pending) }
  | .getTaskInfo queue name, w, reply, w' =>
    w' = w ∧ match (reply : InfoReply) with
      | .info state => w.broker (queue, name) = some state
      | .notFound => w.broker (queue, name) = none
      | .failed _ => True
  | .runTask queue name, w, reply, w' =>
    match (reply : Option String) with
    | none => w.broker (queue, name) = some .archived ∧
        w' = { w with broker := Function.update w.broker (queue, name) (some .pending) }
    | some _ => w' = w ∨ w.broker (queue, name) = some .archived ∧
        w' = { w with broker := Function.update w.broker (queue, name) (some .pending) }
  | .recordOutboxError id message retryAfter, w, ok, w' =>
    match (ok : Bool) with
    | true => ∃ env db', recordOutboxError env id message retryAfter w.store.db =
        .ok (.commit (), db') ∧ w' = { w with store := ⟨db', w.store.leases⟩ }
    | false => w' = w

/-- A call of the dispatcher's among the steps of the others. -/
abbrev QueueWorld.call (op : QueueOp) :
    Timeline QueueWorld → op.Res → Timeline QueueWorld → Prop :=
  amongStep (S := queueSig) QueueWorld.Other QueueWorld.step op

section Dispatcher

variable (uuidText : UUID → String)

def enqueueContext (queue : String) (name : EntryName) : Dispatch EnqueueReply :=
  Prog.perform (S := queueSig) (.enqueueContext queue name)

def getTaskInfo (queue : String) (name : EntryName) : Dispatch InfoReply :=
  Prog.perform (S := queueSig) (.getTaskInfo queue name)

def runTask (queue : String) (name : EntryName) : Dispatch (Option String) :=
  Prog.perform (S := queueSig) (.runTask queue name)

/-- The end of `enqueue`, for an entry that was archived. -/
def reactivate (queue : String) (name : EntryName) : Dispatch (Option String) := do
  match ← runTask queue name with
  | none => return none
  | some e =>
    let failed := "reactivate archived asynq task " ++ name.text uuidText ++ ": " ++ e
    match ← getTaskInfo queue name with
    | .info refreshed => return if refreshed ≠ .archived then none else some failed
    | _ => return some failed

/-- `Client.enqueue`; `none` is a nil error. -/
def enqueue (queue : String) (name : EntryName) : Dispatch (Option String) := do
  match ← enqueueContext queue name with
  | .ok => return none
  | .failed e => return some e
  | .conflict =>
    match ← getTaskInfo queue name with
    | .notFound =>
      match ← enqueueContext queue name with
      | .ok | .conflict => return none
      | .failed e => return some e
    | .failed e =>
      return some ("inspect conflicting asynq task " ++ name.text uuidText ++ ": " ++ e)
    | .info state => if state ≠ .archived then return none else reactivate uuidText queue name

def enqueueKind (id : UUID) (kind : String) : Dispatch (Option String) :=
  match queueForKind kind with
  | .error e => return some e
  | .ok (_, queue) => enqueue uuidText queue (.task id)

/-- The nonce is a new UUID. -/
def enqueueRecovery (nonce id : UUID) (kind : String) : Dispatch (Option String) :=
  match queueForKind kind with
  | .error e => return some e
  | .ok (_, queue) => enqueue uuidText queue (.recovery id nonce)

/-- What `dispatchItem` has logged when it returns. -/
inductive DispatchLog
  | nothing
  | retry (error : String)
  | recordFailed (error : String)
  deriving DecidableEq

def recordError (id : UUID) (message : String) (retryAfter : Time) : Dispatch Bool :=
  Prog.perform (S := queueSig) (.recordOutboxError id message retryAfter)

def enqueueItem (nonce : UUID) (item : TaskOutboxMessage) : Dispatch (Option String) :=
  if item.recovery then enqueueRecovery uuidText nonce item.taskID item.kind.name
  else enqueueKind uuidText item.taskID item.kind.name

/-- `dispatchItem`: the log line tells whether the error could be recorded. -/
def dispatchItem (nonce : UUID) (item : TaskOutboxMessage) : Dispatch DispatchLog := do
  match ← enqueueItem uuidText nonce item with
  | none => return .nothing
  | some e =>
    if ← recordError item.taskID e (seconds 5) then return .retry e else return .recordFailed e

end Dispatcher

/-! ### What a nil error says -/

section Live

variable {uuidText : UUID → String} {queue : String} {name : EntryName} {h h' : Timeline QueueWorld}

/-- The entry could be run. -/
def QueueWorld.Live (w : QueueWorld) (key : EntryKey) : Prop := EntryState.live (w.broker key)

theorem QueueWorld.live_update (w : QueueWorld) (key : EntryKey) :
    ({ w with broker := Function.update w.broker key (some .pending) } : QueueWorld).Live key := by
  simp [QueueWorld.Live, EntryState.live]

/-- An entry comes into being as a pending one. -/
theorem QueueWorld.Other.created {w w' : QueueWorld} {key : EntryKey} (hstep : w.Other w')
    (hnone : w.broker key = none) : w'.broker key = none ∨ w'.Live key := by
  cases hstep with
  | store => exact .inl hnone
  | @entry moved state hmove =>
    by_cases hkey : key = moved
    · subst hkey
      rw [hnone] at hmove
      cases hmove
      exact .inr (w.live_update key)
    · left
      rw [← hnone]
      exact Function.update_of_ne hkey _ _

theorem enqueueContext_ok {hist : Timeline QueueWorld}
    (hc : QueueWorld.call (.enqueueContext queue name) h EnqueueReply.ok hist) :
    ∃ w ∈ hist.states, w.Live (queue, name) := by
  obtain ⟨w, w', -, hw', hstep⟩ := amongStep_moment hc
  obtain ⟨-, rfl⟩ : _ ∧ w' = _ := hstep
  exact ⟨_, hw', w.live_update _⟩

theorem runTask_ok {hist : Timeline QueueWorld}
    (hc : QueueWorld.call (.runTask queue name) h (none : Option String) hist) :
    ∃ w ∈ hist.states, w.Live (queue, name) := by
  obtain ⟨w, w', -, hw', hstep⟩ := amongStep_moment hc
  obtain ⟨-, rfl⟩ : _ ∧ w' = _ := hstep
  exact ⟨_, hw', w.live_update _⟩

theorem getTaskInfo_live {hist : Timeline QueueWorld} {state : EntryState}
    (hc : QueueWorld.call (.getTaskInfo queue name) h (InfoReply.info state) hist)
    (hstate : state ≠ .archived) : ∃ w ∈ hist.states, w.Live (queue, name) := by
  obtain ⟨w, w', hw, -, hstep⟩ := amongStep_moment hc
  obtain ⟨-, hinfo⟩ : _ ∧ w.broker (queue, name) = some state := hstep
  refine ⟨w, hw, ?_⟩
  rw [QueueWorld.Live, hinfo]
  cases state with
  | archived => exact absurd rfl hstate
  | pending | active => trivial

/-- An entry that was not there and then is has been pending in between. -/
theorem notFound_conflict {hist : Timeline QueueWorld}
    (hc : QueueWorld.call (.getTaskInfo queue name) h InfoReply.notFound h')
    (hc' : QueueWorld.call (.enqueueContext queue name) h' EnqueueReply.conflict hist) :
    ∃ w ∈ hist.states, w.Live (queue, name) := by
  obtain ⟨h₁, w, -, ⟨rfl, hnone⟩, hafter⟩ := hc
  obtain ⟨h₂, w', hbefore, hstep, hafter'⟩ := hc'
  obtain ⟨hsome, rfl⟩ : h₂.now.broker (queue, name) ≠ none ∧ w' = h₂.now := hstep
  have hpassed := Meanwhile.passes (A := fun w => w.broker (queue, name) = none)
    (L := fun w => w.Live (queue, name)) (hafter.trans hbefore)
    (fun _ _ hother hA => hother.created hA) hnone
  rcases hpassed with hstill | ⟨w', hw', hlive⟩
  · exact absurd hstill hsome
  · exact ⟨w', hafter'.subset (List.mem_cons_of_mem _ hw'), hlive⟩

theorem reactivate_live
    (hr : (reactivate uuidText queue name).Runs QueueWorld.call h none h') :
    ∃ w ∈ h'.states, w.Live (queue, name) := by
  obtain ⟨ran, h₁, hc, hk⟩ := hr
  cases (ran : Option String) with
  | none =>
    obtain ⟨-, rfl⟩ := hk
    exact runTask_ok hc
  | some e =>
    obtain ⟨info, h₂, hc₂, hk⟩ := hk
    cases (info : InfoReply) with
    | notFound => cases hk.1
    | failed e' => cases hk.1
    | info refreshed =>
      obtain ⟨hnone, rfl⟩ := hk
      by_cases hrefreshed : refreshed = .archived
      · rw [if_neg (not_not.mpr hrefreshed)] at hnone
        cases hnone
      · exact getTaskInfo_live hc₂ hrefreshed

/-- When `enqueue` returns nil, the history has a moment when the entry was in the queue and not
archived, whatever others did to it meanwhile. -/
theorem enqueue_live
    (hr : (enqueue uuidText queue name).Runs QueueWorld.call h none h') :
    ∃ w ∈ h'.states, w.Live (queue, name) := by
  obtain ⟨reply, h₁, hc, hk⟩ := hr
  cases (reply : EnqueueReply) with
  | ok =>
    obtain ⟨-, rfl⟩ := hk
    exact enqueueContext_ok hc
  | failed e => cases hk.1
  | conflict =>
    obtain ⟨info, h₂, hc₂, hk⟩ := hk
    cases (info : InfoReply) with
    | failed e => cases hk.1
    | notFound =>
      obtain ⟨again, h₃, hc₃, hk⟩ := hk
      cases (again : EnqueueReply) with
      | ok =>
        obtain ⟨-, rfl⟩ := hk
        exact enqueueContext_ok hc₃
      | conflict =>
        obtain ⟨-, rfl⟩ := hk
        exact notFound_conflict hc₂ hc₃
      | failed e => cases hk.1
    | info state =>
      have hrest : Prog.Runs QueueWorld.call (if state ≠ .archived then pure none
          else reactivate uuidText queue name) h₂ none h' := hk
      split_ifs at hrest with hstate
      · obtain ⟨-, rfl⟩ := hrest
        exact getTaskInfo_live hc₂ hstate
      · exact reactivate_live hrest

/-- A recorded error puts the row back, for five seconds after it was recorded. -/
theorem recordError_due {id : UUID} {message : String} {hist : Timeline QueueWorld}
    (hc : QueueWorld.call (.recordOutboxError id message (seconds 5)) h true hist) :
    ∃ w ∈ hist.states, ∃ wall, ∀ o, w.store.db.outbox.get? id = some o → o.deliveredAt = none →
      o.lastError = message ∧ o.nextAttemptAt = wall + seconds 5 := by
  obtain ⟨w, w', -, hw', hstep⟩ := amongStep_moment hc
  obtain ⟨env, db', hrecord, rfl⟩ : ∃ env db', recordOutboxError env id message (seconds 5)
    w.store.db = .ok (.commit (), db') ∧ w' = { w with store := ⟨db', w.store.leases⟩ } := hstep
  refine ⟨_, hw', env.wall, ?_⟩
  intro o ho hdelivered
  obtain ⟨x, db₁, hupdate, hcommit⟩ := bind_eq_ok.mp hrecord
  obtain ⟨-, rfl⟩ := pure_eq_ok.mp hcommit
  have hcell := congrArg Cell.outbox ((updateOutbox_ok hupdate).1 id)
  have hnew : db'.outbox.get? id = some o := ho
  simp only [Database.cell, Cell.mapOutbox, hnew] at hcell
  obtain ⟨old, hold, hchanged⟩ := Option.map_eq_some_iff.mp hcell.symm
  have hid : old.taskID = id := Table.key_of_get? hold
  by_cases hwhere : (decide (old.taskID = id) && old.deliveredAt.isNone) = true
  · rw [if_pos hwhere, ite_self] at hchanged
    subst hchanged
    exact ⟨rfl, rfl⟩
  · rw [if_neg hwhere] at hchanged
    subst hchanged
    simp [hid, hdelivered] at hwhere

theorem queueForKind_name (kind : Kind) :
    ∃ type queue, queueForKind kind.name = .ok (type, queue) := by
  cases kind <;> exact ⟨_, _, rfl⟩

end Live

/-! ### Two dispatchers -/

def imageEntry : EntryKey := ("images", .task 20)

def QueueWorld.setEntry (w : QueueWorld) (state : Option EntryState) : QueueWorld :=
  { w with broker := Function.update w.broker imageEntry state }

/-- A worker is running the entry. -/
def activeWorld : QueueWorld :=
  QueueWorld.setEntry ⟨fun _ => none, smallStore smallAccounts⟩ (some .active)

def doneWorld : QueueWorld := activeWorld.setEntry none

def renewedWorld : QueueWorld := doneWorld.setEntry (some .pending)

theorem activeWorld_other : activeWorld.Other doneWorld := .entry .complete

theorem doneWorld_other : doneWorld.Other renewedWorld := .entry .create

theorem beside_push {h : Timeline QueueWorld} {w : QueueWorld} (hother : h.now.Other w) :
    Meanwhile QueueWorld.Other h (h.push w) :=
  .single ⟨w, hother, rfl⟩

/-- The worker is done between the first two calls, and another dispatcher comes between the
last two. -/
theorem dispatchItem_overtaken (uuidText : UUID → String) :
    ∃ h', (dispatchItem uuidText 0 ⟨20, .image, 1, false⟩).Runs QueueWorld.call ⟨activeWorld, []⟩
      .nothing h' := by
  set h₀ : Timeline QueueWorld := ⟨activeWorld, []⟩
  set h₁ := (h₀.push activeWorld).push doneWorld with hh₁
  set h₂ := (h₁.push doneWorld).push renewedWorld with hh₂
  have hfirst : QueueWorld.call (.enqueueContext "images" (.task 20)) h₀ EnqueueReply.conflict h₁ :=
    ⟨h₀, activeWorld, .refl, ⟨by decide, rfl⟩, beside_push activeWorld_other⟩
  have hinfo : QueueWorld.call (.getTaskInfo "images" (.task 20)) h₁ InfoReply.notFound h₂ :=
    ⟨h₁, doneWorld, .refl, ⟨rfl, by decide⟩, beside_push doneWorld_other⟩
  have hsecond : QueueWorld.call (.enqueueContext "images" (.task 20)) h₂ EnqueueReply.conflict
      (h₂.push renewedWorld) :=
    ⟨h₂, renewedWorld, .refl, ⟨by decide, rfl⟩, .refl⟩
  exact ⟨_, _, h₁, hfirst, _, h₂, hinfo, _, _, hsecond, rfl, rfl⟩

end GenerationGateway
