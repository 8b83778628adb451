import GenerationGateway.Library.Expiring
import GenerationGateway.Library.Reachability
import GenerationGateway.Store.Schema

/-!
# The control window of a proxy

The processes that share a proxy take turns by three Redis keys. An acquisition is several
commands, so it is followed from command to command; between any two of them the clock goes
on and other processes run.
-/

namespace GenerationGateway.ProxyControl

open Relational Transitions Expiring

/-- Redis counts milliseconds. -/
abbrev Millis := ℤ

/-- Go counts nanoseconds. -/
abbrev Duration := ℤ

def second : Duration := 1000000000

def minute : Duration := 60 * second

/-- `Duration.Milliseconds`. -/
def milliseconds (d : Duration) : Millis := d.tdiv 1000000

/-- The `PX` of a positive duration. -/
def formatMs (d : Duration) : Millis := if 0 < d ∧ d < 1000000 then 1 else d.tdiv 1000000

structure Config where
  proxyControlMinInterval : Duration
  proxyControlLease : Duration
  upstream429Cooldown : Duration
  interval_bounds : second ≤ proxyControlMinInterval ∧ proxyControlMinInterval ≤ 10 * minute
  lease_bounds : proxyControlMinInterval ≤ proxyControlLease ∧ proxyControlLease ≤ 30 * minute

def Config.interval (config : Config) : Millis := milliseconds config.proxyControlMinInterval

def Config.lease (config : Config) : Millis := formatMs config.proxyControlLease

/-- `proxyControlKey` of the one proxy. -/
inductive Key
  | cooldown
  | lock
  | pace
  deriving DecidableEq, Repr

structure ProxyControlUnavailableError where
  retryAfter : Duration
  cooling : Bool
  deriving DecidableEq, Repr

/-- An error of the command reads as no time left. -/
def redisTTL (reached : Bool) (redis : Store Key) (now : Millis) (key : Key) : Duration :=
  if reached then
    let ttl := redis.ttl now key
    if ttl ≤ 0 then 0 else ttl * second
  else 0

def maxDuration (values : List Duration) : Duration :=
  values.foldl (fun maximum value => if maximum < value then value else maximum) 0

/-- Where a call of `acquireProxyControl` stands. Without Redis or for a blank proxy it succeeds
at once and touches no key. -/
inductive Phase
  | called
  /-- The cooldown read as over. -/
  | clear
  /-- `SetNX` found another owner. -/
  | busy
  | waiting (lock : Duration)
  | locked (leaseEnd : Millis)
  /-- The pace has time left, and the lock is to be given back. -/
  | paced (leaseEnd : Millis) (remaining : Duration)
  | refused (err : ProxyControlUnavailableError)
  /-- `SetNX` answered with an error. -/
  | failed
  | holding (leaseEnd : Millis)
  /-- The release function has run. -/
  | released
  deriving DecidableEq, Repr

inductive Delivery
  | answered
  | answerLost
  | notSent
  deriving DecidableEq, Repr

inductive Command
  | readCooldown (reached : Bool)
  | setNX (delivery : Delivery)
  | readLock (reached : Bool)
  | readPace (reached : Bool)
  /-- The script that gives the lock back at once. -/
  | undo (executed : Bool)
  /-- The script of the release function. -/
  | release (executed : Bool)
  deriving DecidableEq, Repr

/-- What the processes share, with the time of the last release that took effect. -/
structure Shared where
  redis : Store Key
  lastRelease : Option Millis

/-- `redis.call('get', lock) == owner`. -/
def owns (redis : Store Key) (now : Millis) (owner : ℕ) : Bool :=
  (redis.get? now .lock).any fun e => e.value = (owner : ℤ)

def undoScript (now : Millis) (owner : ℕ) (shared : Shared) : Shared :=
  if owns shared.redis now owner then { shared with redis := shared.redis.del now .lock }
  else shared

def releaseScript (config : Config) (now : Millis) (owner : ℕ) (shared : Shared) : Shared :=
  if owns shared.redis now owner then
    ⟨(shared.redis.del now .lock).setPX now .pace 0 config.interval, some now⟩
  else shared

/-- The next command of the acquisition of an owner. -/
def advance (config : Config) (now : Millis) (owner : ℕ) (shared : Shared) :
    Phase → Command → Option (Phase × Shared)
  | .called, .readCooldown reached =>
    let remaining := redisTTL reached shared.redis now .cooldown
    some (if 0 < remaining then .refused ⟨remaining, true⟩ else .clear, shared)
  | .clear, .setNX .notSent => some (.failed, shared)
  | .clear, .setNX delivery =>
    let ok := (shared.redis.get? now .lock).isNone
    let shared := { shared with redis := shared.redis.setNX now .lock owner config.lease }
    some (match delivery, ok with
      | .answered, true => .locked (now + config.lease)
      | .answered, false => .busy
      | _, _ => .failed, shared)
  | .busy, .readLock reached =>
    some (.waiting (redisTTL reached shared.redis now .lock), shared)
  | .waiting lock, .readPace reached =>
    let retry := maxDuration [lock, redisTTL reached shared.redis now .pace, second]
    some (.refused ⟨retry, false⟩, shared)
  | .locked leaseEnd, .readPace reached =>
    let remaining := redisTTL reached shared.redis now .pace
    some (if 0 < remaining then .paced leaseEnd remaining else .holding leaseEnd, shared)
  | .paced _ remaining, .undo executed =>
    some (.refused ⟨remaining, false⟩, if executed then undoScript now owner shared else shared)
  | .holding _, .release executed =>
    some (.released, if executed then releaseScript config now owner shared else shared)
  | _, _ => none

/-- `MarkProxyRateLimited`. -/
def markProxyRateLimited (config : Config) (now : Millis) (redis : Store Key) : Store Key :=
  if config.upstream429Cooldown ≤ 0 then redis
  else redis.setPX now .cooldown 429 (formatMs config.upstream429Cooldown)

/-! ### The system -/

structure Acquisition where
  owner : ℕ
  phase : Phase
  deriving DecidableEq, Repr

instance : Keyed ℕ Acquisition := ⟨Acquisition.owner⟩

@[simp] theorem key_acquisition (a : Acquisition) : Keyed.key a = a.owner := rfl

def Acquisition.at (phase : Phase) (a : Acquisition) : Acquisition := { a with phase := phase }

theorem key_at (phase : Phase) (a : Acquisition) : Keyed.key (a.at phase) = Keyed.key a := rfl

structure State where
  clock : Millis
  shared : Shared
  acquisitions : Table Acquisition

def State.initial (now : Millis) : State := ⟨now, ⟨.empty, none⟩, .empty⟩

inductive Act
  | tick (now : Millis)
  | call (owner : ℕ)
  | command (owner : ℕ) (c : Command)
  /-- `MarkProxyRateLimited` reaches Redis. -/
  | mark
  deriving DecidableEq, Repr

namespace State

def phaseOf (s : State) (owner : ℕ) : Option Phase :=
  (s.acquisitions.get? owner).map Acquisition.phase

def moved (s : State) (owner : ℕ) (phase : Phase) (shared : Shared) : State :=
  ⟨s.clock, shared, s.acquisitions.modify owner (Acquisition.at phase) (key_at phase)⟩

def marked (config : Config) (s : State) : State :=
  { s with shared := { s.shared with
    redis := markProxyRateLimited config s.clock s.shared.redis } }

def step (config : Config) (s : State) : Act → Option State
  | .tick now => if s.clock ≤ now then some { s with clock := now } else none
  | .call owner =>
    (s.acquisitions.insert? ⟨owner, .called⟩).map fun acquisitions =>
      { s with acquisitions := acquisitions }
  | .command owner c => do
    let phase ← s.phaseOf owner
    let (phase, shared) ← advance config s.clock owner s.shared phase c
    some (s.moved owner phase shared)
  | .mark => some (s.marked config)

/-- The time left of a key reads as none although the key is there. -/
def overlooked (s : State) (reached : Bool) (key : Key) : Bool :=
  (s.shared.redis.get? s.clock key).any fun e =>
    !reached || e.expiresAt.all fun t => t - s.clock < 500

end State

/-- Between the look at the cooldown and the answer of the pace. -/
def Phase.underWay : Phase → Bool
  | .clear | .locked _ => true
  | _ => false

namespace State

/-- The step does not meet a key in its last half second or on a broken connection, no
cooldown begins while an acquisition is under way, and the pace lasts the whole interval. -/
def orderly (config : Config) (s : State) : Act → Bool
  | .command _ (.readCooldown reached) => !s.overlooked reached .cooldown
  | .command owner (.readPace reached) =>
    match s.phaseOf owner with
    | some (.locked _) => !s.overlooked reached .pace
    | _ => true
  | .command _ (.release _) => config.proxyControlMinInterval % 1000000 = 0
  | .mark =>
    config.upstream429Cooldown ≤ 0 || s.acquisitions.rows.all fun a => !a.phase.underWay
  | _ => true

end State

def proxyControl (config : Config) : LTS State Act := LTS.ofStep (State.step config)

def orderlyProxyControl (config : Config) : LTS State Act :=
  (proxyControl config).restrict fun s act => s.orderly config act = true

/-! ### What the window promises -/

/-- Two holders within their leases are one. -/
def Exclusive (s : State) : Prop :=
  ∀ owner owner' leaseEnd leaseEnd', s.phaseOf owner = some (.holding leaseEnd) →
    s.phaseOf owner' = some (.holding leaseEnd') → s.clock < leaseEnd → s.clock < leaseEnd' →
    owner = owner'

/-- A holder past its lease leaves the lock as it is. -/
def KeepsLock (s : State) (act : Act) (s' : State) : Prop :=
  ∀ owner executed leaseEnd, act = .command owner (.release executed) →
    s.phaseOf owner = some (.holding leaseEnd) → leaseEnd ≤ s.clock →
    s'.shared.redis.get? s'.clock .lock = s.shared.redis.get? s.clock .lock

/-- An acquisition that succeeds meets no cooldown and has let the interval pass. -/
def Admits (config : Config) (s s' : State) : Prop :=
  ∀ owner leaseEnd, s'.phaseOf owner = some (.holding leaseEnd) →
    s.phaseOf owner ≠ some (.holding leaseEnd) →
    s'.shared.redis.get? s'.clock .cooldown = none ∧
      ∀ r, s'.shared.lastRelease = some r →
        r * 1000000 + config.proxyControlMinInterval ≤ s'.clock * 1000000

/-! ### The lock and the pace -/

theorem Config.interval_pos (config : Config) : (0 : ℤ) < config.interval := by
  have h : (1000000000 : ℤ) ≤ config.proxyControlMinInterval := config.interval_bounds.1
  have hround := Int.mul_tdiv_add_tmod config.proxyControlMinInterval 1000000
  have hrest := Int.tmod_lt_of_pos config.proxyControlMinInterval (show (0 : ℤ) < 1000000 by decide)
  unfold Config.interval milliseconds
  omega

theorem Config.lease_pos (config : Config) : (0 : ℤ) < config.lease := by
  have h : (1000000000 : ℤ) ≤ config.proxyControlLease :=
    config.interval_bounds.1.trans config.lease_bounds.1
  have hround := Int.mul_tdiv_add_tmod config.proxyControlLease 1000000
  have hrest := Int.tmod_lt_of_pos config.proxyControlLease (show (0 : ℤ) < 1000000 by decide)
  unfold Config.lease formatMs
  split_ifs
  · decide
  · omega

/-- The end of the lease that an acquisition believes in. -/
def Phase.leaseEnd? : Phase → Option Millis
  | .locked leaseEnd | .paced leaseEnd _ | .holding leaseEnd => some leaseEnd
  | _ => none

/-- The expiry that a lock of the acquisition may have. -/
def Phase.mayOwn (expiry : Option Millis) : Phase → Prop
  | .locked leaseEnd | .paced leaseEnd _ | .holding leaseEnd => expiry = some leaseEnd
  | .failed | .refused _ | .released => True
  | _ => False

structure Sound (config : Config) (s : State) : Prop where
  /-- A lease that has not expired is that of the lock. -/
  lease : ∀ owner phase leaseEnd, s.phaseOf owner = some phase →
    phase.leaseEnd? = some leaseEnd → s.clock < leaseEnd →
    s.shared.redis.get? s.clock .lock = some ⟨owner, some leaseEnd⟩
  /-- The lock belongs to an acquisition that has set it. -/
  owned : ∀ e, s.shared.redis.get? s.clock .lock = some e →
    ∃ owner phase, s.phaseOf owner = some phase ∧ e.value = (owner : ℤ) ∧
      phase.mayOwn e.expiresAt
  /-- The pace is there for an interval from the last release on. -/
  pace : ∀ r, s.shared.lastRelease = some r → s.clock < r + config.interval →
    s.shared.redis.get? s.clock .pace = some ⟨0, some (r + config.interval)⟩

variable {config : Config} {s s' : State}

theorem phaseOf_moved {owner : ℕ} {phase : Phase} (h : s.phaseOf owner = some phase)
    (phase' : Phase) (shared : Shared) (j : ℕ) :
    (s.moved owner phase' shared).phaseOf j = if j = owner then some phase' else s.phaseOf j := by
  unfold State.phaseOf at h ⊢
  obtain ⟨a, ha, -⟩ := Option.map_eq_some_iff.mp h
  simp only [State.moved, Table.get?_modify]
  split_ifs with hj
  · subst hj
    simp [ha, Acquisition.at]
  · rfl

theorem Sound.tick (hs : Sound config s) {now : Millis} (hle : s.clock ≤ now) :
    Sound config { s with clock := now } where
  lease := by
    intro owner phase leaseEnd hphase hend hlt
    exact Store.get?_later_of_lt hle hlt (hs.lease owner phase leaseEnd hphase hend (hle.trans_lt hlt))
  owned := by
    intro e he
    exact hs.owned e (Store.get?_of_later hle he)
  pace := by
    intro r hr hlt
    exact Store.get?_later_of_lt hle hlt (hs.pace r hr (hle.trans_lt hlt))

theorem Sound.called (hs : Sound config s) {owner : ℕ} {acquisitions : Table Acquisition}
    (hinsert : s.acquisitions.insert? ⟨owner, .called⟩ = some acquisitions) :
    Sound config { s with acquisitions := acquisitions } := by
  have hphase : ∀ j, ({ s with acquisitions := acquisitions } : State).phaseOf j =
      if j = owner then some .called else s.phaseOf j := by
    intro j
    simp only [State.phaseOf, Table.get?_insert? hinsert, key_acquisition]
    split_ifs <;> rfl
  have hnew : s.acquisitions.get? owner = none := (Table.insert?_eq_some hinsert).1
  constructor
  · intro j p leaseEnd hj hp hlt
    rw [hphase] at hj
    split_ifs at hj with hjo
    · cases hj
      cases hp
    · exact hs.lease j p leaseEnd hj hp hlt
  · intro e he
    obtain ⟨j, p, hj, hvalue, hp⟩ := hs.owned e he
    refine ⟨j, p, ?_, hvalue, hp⟩
    have hjo : j ≠ owner := by
      rintro rfl
      rw [State.phaseOf, hnew] at hj
      cases hj
    rw [hphase, if_neg hjo]
    exact hj
  · exact hs.pace

/-- An acquisition moves on and leaves the keys as they are. -/
theorem Sound.moved (hs : Sound config s) {owner : ℕ} {phase phase' : Phase}
    (hphase : s.phaseOf owner = some phase)
    (hend : ∀ leaseEnd, phase'.leaseEnd? = some leaseEnd → phase.leaseEnd? = some leaseEnd)
    (hown : ∀ expiry, phase.mayOwn expiry → phase'.mayOwn expiry) :
    Sound config (s.moved owner phase' s.shared) where
  lease := by
    intro j p leaseEnd hj hp hlt
    rw [phaseOf_moved hphase] at hj
    split_ifs at hj with hjo
    · subst hjo
      cases hj
      exact hs.lease j phase leaseEnd hphase (hend leaseEnd hp) hlt
    · exact hs.lease j p leaseEnd hj hp hlt
  owned := by
    intro e he
    obtain ⟨j, p, hj, hvalue, hp⟩ := hs.owned e he
    by_cases hjo : j = owner
    · subst hjo
      cases hphase.symm.trans hj
      refine ⟨j, phase', ?_, hvalue, hown _ hp⟩
      rw [phaseOf_moved hphase, if_pos rfl]
    · refine ⟨j, p, ?_, hvalue, hp⟩
      rw [phaseOf_moved hphase, if_neg hjo]
      exact hj
  pace := hs.pace

/-- An acquisition takes the lock. -/
theorem Sound.locked (hs : Sound config s) {owner : ℕ} {phase phase' : Phase}
    (hphase : s.phaseOf owner = some phase) (hfree : s.shared.redis.get? s.clock .lock = none)
    (hend : ∀ leaseEnd, phase'.leaseEnd? = some leaseEnd → leaseEnd = s.clock + config.lease)
    (hown : phase'.mayOwn (some (s.clock + config.lease))) :
    Sound config (s.moved owner phase'
      { s.shared with redis := s.shared.redis.setPX s.clock .lock owner config.lease }) where
  lease := by
    intro j p leaseEnd hj hp hlt
    rw [phaseOf_moved hphase] at hj
    split_ifs at hj with hjo
    · subst hjo
      cases hj
      rw [hend leaseEnd hp]
      exact Store.get?_setPX_self _ _ _ config.lease_pos
    · cases hfree.symm.trans (hs.lease j p leaseEnd hj hp hlt)
  owned := by
    intro e he
    have hself : (s.shared.redis.setPX s.clock .lock owner config.lease).get? s.clock .lock =
        some ⟨owner, some (s.clock + config.lease)⟩ :=
      Store.get?_setPX_self _ _ _ config.lease_pos
    cases hself.symm.trans he
    refine ⟨owner, phase', ?_, rfl, hown⟩
    rw [phaseOf_moved hphase, if_pos rfl]
  pace := by
    intro r hr hlt
    have hother := s.shared.redis.get?_setPX_of_ne s.clock s.clock
      (show Key.pace ≠ Key.lock by decide) (owner : ℤ) config.lease
    exact hother.trans (hs.pace r hr hlt)

/-- The owner of the lock frees it. -/
theorem Sound.freed (hs : Sound config s) {owner : ℕ} {phase phase' : Phase} {shared : Shared}
    (hphase : s.phaseOf owner = some phase) (howns : owns s.shared.redis s.clock owner = true)
    (hfree : shared.redis.get? s.clock .lock = none) (hend : phase'.leaseEnd? = none)
    (hpace : ∀ r, shared.lastRelease = some r → s.clock < r + config.interval →
      shared.redis.get? s.clock .pace = some ⟨0, some (r + config.interval)⟩) :
    Sound config (s.moved owner phase' shared) where
  lease := by
    intro j p leaseEnd hj hp hlt
    rw [phaseOf_moved hphase] at hj
    split_ifs at hj with hjo
    · cases hj
      cases hend.symm.trans hp
    · have hlock := hs.lease j p leaseEnd hj hp hlt
      rw [owns, hlock] at howns
      simp [hjo] at howns
  owned := by
    intro e he
    cases hfree.symm.trans he
  pace := hpace

/-! ### One command -/

theorem owns_iff {redis : Store Key} {now : Millis} {owner : ℕ} :
    owns redis now owner = true ↔
      ∃ e, redis.get? now .lock = some e ∧ e.value = (owner : ℤ) := by
  simp [owns, Option.any_eq_true]

theorem undo_of_not {now : Millis} {owner : ℕ} {shared : Shared} {executed : Bool}
    (h : ¬ (executed = true ∧ owns shared.redis now owner = true)) :
    (if executed then undoScript now owner shared else shared) = shared := by
  unfold undoScript
  split_ifs with hexecuted howns
  · exact absurd ⟨hexecuted, howns⟩ h
  · rfl
  · rfl

theorem release_of_not {now : Millis} {owner : ℕ} {shared : Shared} {executed : Bool}
    (h : ¬ (executed = true ∧ owns shared.redis now owner = true)) :
    (if executed then releaseScript config now owner shared else shared) = shared := by
  unfold releaseScript
  split_ifs with hexecuted howns
  · exact absurd ⟨hexecuted, howns⟩ h
  · rfl
  · rfl

theorem get?_releaseScript_lock {config : Config} {now : Millis} {owner : ℕ} {shared : Shared}
    (h : owns shared.redis now owner = true) :
    (releaseScript config now owner shared).redis.get? now .lock = none := by
  rw [releaseScript, if_pos h]
  exact (Store.get?_setPX_of_ne _ _ _ (by decide) _ _).trans (Store.get?_del_self _ _ _)

/-- A command leaves the keys as they are, or takes the lock while it is free, or frees the
lock as its owner. -/
theorem sound_advance (hs : Sound config s) {owner : ℕ} {phase phase' : Phase} {c : Command}
    {shared : Shared} (hphase : s.phaseOf owner = some phase)
    (h : advance config s.clock owner s.shared phase c = some (phase', shared)) :
    Sound config (s.moved owner phase' shared) := by
  unfold advance at h
  split at h
  case h_1 =>
    cases h
    refine hs.moved hphase ?_ ?_
    · intro leaseEnd hend
      split_ifs at hend <;> cases hend
    · intro expiry hown
      cases hown
  case h_2 =>
    cases h
    exact hs.moved hphase (fun _ hend => nomatch hend) (fun _ hown => hown.elim)
  case h_3 delivery _ =>
    cases h
    cases hlock : s.shared.redis.get? s.clock .lock with
    | none =>
      rw [Store.setNX_of_none hlock]
      refine hs.locked hphase hlock ?_ ?_
      · intro leaseEnd hend
        cases delivery <;> cases hend
        rfl
      · cases delivery
        · exact rfl
        · trivial
        · trivial
    | some e =>
      rw [Store.setNX_of_some hlock]
      refine hs.moved hphase ?_ (fun _ hown => hown.elim)
      intro leaseEnd hend
      cases delivery <;> cases hend
  case h_4 =>
    cases h
    exact hs.moved hphase (fun _ hend => nomatch hend) (fun _ hown => hown.elim)
  case h_5 =>
    cases h
    exact hs.moved hphase (fun _ hend => nomatch hend) (fun _ hown => hown.elim)
  case h_6 leaseEnd reached =>
    cases h
    split_ifs
    · exact hs.moved hphase (fun _ hend => hend) (fun _ hown => hown)
    · exact hs.moved hphase (fun _ hend => hend) (fun _ hown => hown)
  case h_7 leaseEnd remaining executed =>
    cases h
    by_cases hundo : executed = true ∧ owns s.shared.redis s.clock owner = true
    · rw [if_pos hundo.1, undoScript, if_pos hundo.2]
      refine hs.freed hphase hundo.2 (Store.get?_del_self _ _ _) rfl ?_
      intro r hr hlt
      exact (Store.get?_del_of_ne _ _ _ (by decide)).trans (hs.pace r hr hlt)
    · rw [undo_of_not hundo]
      exact hs.moved hphase (fun _ hend => nomatch hend) (fun _ _ => trivial)
  case h_8 leaseEnd executed =>
    cases h
    by_cases hrelease : executed = true ∧ owns s.shared.redis s.clock owner = true
    · rw [if_pos hrelease.1]
      refine hs.freed hphase hrelease.2 (get?_releaseScript_lock hrelease.2) rfl ?_
      intro r hr _
      rw [releaseScript, if_pos hrelease.2] at hr ⊢
      cases hr
      exact Store.get?_setPX_self _ _ _ config.interval_pos
    · rw [release_of_not hrelease]
      exact hs.moved hphase (fun _ hend => nomatch hend) (fun _ _ => trivial)
  case h_9 => cases h

theorem command_eq_some {owner : ℕ} {c : Command}
    (h : s.step config (.command owner c) = some s') :
    ∃ phase phase' shared, s.phaseOf owner = some phase ∧
      advance config s.clock owner s.shared phase c = some (phase', shared) ∧
      s' = s.moved owner phase' shared := by
  obtain ⟨phase, hphase, h⟩ := Option.bind_eq_some_iff.mp h
  obtain ⟨⟨phase', shared⟩, hadvance, h⟩ := Option.bind_eq_some_iff.mp h
  cases h
  exact ⟨phase, phase', shared, hphase, hadvance, rfl⟩

theorem get?_markProxyRateLimited (config : Config) (now : Millis) (redis : Store Key) {key : Key}
    (h : key ≠ .cooldown) :
    (markProxyRateLimited config now redis).get? now key = redis.get? now key := by
  unfold markProxyRateLimited
  split_ifs
  · rfl
  · exact Store.get?_setPX_of_ne _ _ _ h _ _

theorem sound_step {act : Act} (h : s.step config act = some s') (hs : Sound config s) :
    Sound config s' := by
  cases act with
  | tick now =>
    simp only [State.step] at h
    split_ifs at h with hle
    cases h
    exact hs.tick hle
  | call owner =>
    obtain ⟨acquisitions, hinsert, rfl⟩ := Option.map_eq_some_iff.mp h
    exact hs.called hinsert
  | command owner c =>
    obtain ⟨phase, phase', shared, hphase, hadvance, rfl⟩ := command_eq_some h
    exact sound_advance hs hphase hadvance
  | mark =>
    cases h
    have hlock := get?_markProxyRateLimited config s.clock s.shared.redis
      (show Key.lock ≠ .cooldown by decide)
    have hpace := get?_markProxyRateLimited config s.clock s.shared.redis
      (show Key.pace ≠ .cooldown by decide)
    constructor
    · intro owner phase leaseEnd hphase hend hlt
      exact hlock.trans (hs.lease owner phase leaseEnd hphase hend hlt)
    · intro e he
      exact hs.owned e (hlock.symm.trans he)
    · intro r hr hlt
      exact hpace.trans (hs.pace r hr hlt)

theorem sound_initial (config : Config) (now : Millis) : Sound config (.initial now) where
  lease := by
    intro owner phase leaseEnd hphase
    cases hphase
  owned := by
    intro e he
    cases he
  pace := by
    intro r hr
    cases hr

theorem Sound.exclusive (hs : Sound config s) : Exclusive s := by
  intro owner owner' leaseEnd leaseEnd' h h' hlt hlt'
  have hlock := hs.lease owner _ leaseEnd h rfl hlt
  have hlock' := hs.lease owner' _ leaseEnd' h' rfl hlt'
  have hsame := hlock.symm.trans hlock'
  simp only [Option.some.injEq, Entry.mk.injEq, Nat.cast_inj] at hsame
  exact hsame.1

theorem Sound.keepsLock (hs : Sound config s) {act : Act} (h : s.step config act = some s') :
    KeepsLock s act s' := by
  rintro owner executed leaseEnd rfl hphase hexpired
  obtain ⟨phase, phase', shared, hphase', hadvance, rfl⟩ := command_eq_some h
  cases hphase.symm.trans hphase'
  have hnot : owns s.shared.redis s.clock owner ≠ true := by
    intro howns
    obtain ⟨e, he, hvalue⟩ := owns_iff.mp howns
    obtain ⟨j, p, hj, hvalue', hp⟩ := hs.owned e he
    obtain rfl : owner = j := by exact_mod_cast hvalue.symm.trans hvalue'
    cases hphase.symm.trans hj
    obtain ⟨v, expiry⟩ := e
    obtain rfl : expiry = some leaseEnd := hp
    exact absurd (Store.lt_of_get? he) (not_lt.mpr hexpired)
  simp only [advance, Option.some.injEq, Prod.mk.injEq] at hadvance
  rw [release_of_not fun h => hnot h.2] at hadvance
  obtain ⟨-, rfl⟩ := hadvance
  rfl

/-! ### The cooldown and the interval -/

/-- No acquisition under way has a cooldown, and the pace lasts the whole interval. -/
structure Calm (config : Config) (s : State) : Prop where
  cooldown : ∀ owner phase, s.phaseOf owner = some phase → phase.underWay = true →
    s.shared.redis.get? s.clock .cooldown = none
  whole : s.shared.lastRelease ≠ none → config.proxyControlMinInterval % 1000000 = 0

theorem get?_eq_none_of_redisTTL {reached : Bool} {key : Key}
    (hread : s.overlooked reached key = false)
    (h : ¬ 0 < redisTTL reached s.shared.redis s.clock key) :
    s.shared.redis.get? s.clock key = none := by
  cases hget : s.shared.redis.get? s.clock key with
  | none => rfl
  | some e =>
    rw [State.overlooked, hget] at hread
    obtain ⟨v, expiresAt⟩ := e
    simp only [Option.any_some, Bool.or_eq_false_iff, Bool.not_eq_false'] at hread
    obtain ⟨rfl, hleft⟩ := hread
    cases expiresAt with
    | none => cases hleft
    | some t =>
      have hlong : (500 : ℤ) ≤ t - s.clock := by simpa using hleft
      have hticks : 0 < s.shared.redis.ttl s.clock key := by
        rw [Store.ttl_of_get? hget]
        omega
      simp only [redisTTL, if_true, if_neg (not_le.mpr hticks)] at h
      exact absurd (mul_pos hticks (by decide)) h

theorem advance_cooldown {now : Millis} {owner : ℕ} {phase phase' : Phase} {c : Command}
    {shared shared' : Shared}
    (h : advance config now owner shared phase c = some (phase', shared')) :
    shared'.redis.get? now .cooldown = shared.redis.get? now .cooldown := by
  have hlock : Key.cooldown ≠ Key.lock := by decide
  have hpace : Key.cooldown ≠ Key.pace := by decide
  unfold advance at h
  split at h
  case h_3 =>
    cases h
    dsimp only [Store.setNX]
    split
    · rfl
    · exact Store.get?_setPX_of_ne _ _ _ hlock _ _
  case h_7 =>
    cases h
    unfold undoScript
    split_ifs
    · exact Store.get?_del_of_ne _ _ _ hlock
    · rfl
    · rfl
  case h_8 =>
    cases h
    unfold releaseScript
    split_ifs
    · exact (Store.get?_setPX_of_ne _ _ _ hpace _ _).trans (Store.get?_del_of_ne _ _ _ hlock)
    · rfl
    · rfl
  all_goals
    cases h
    try rfl

/-- An acquisition gets under way by its look at the cooldown. -/
theorem advance_underWay {now : Millis} {owner : ℕ} {phase phase' : Phase} {c : Command}
    {shared shared' : Shared}
    (h : advance config now owner shared phase c = some (phase', shared'))
    (hway : phase'.underWay = true) :
    phase.underWay = true ∨
      ∃ reached, c = .readCooldown reached ∧ ¬ 0 < redisTTL reached shared.redis now .cooldown := by
  unfold advance at h
  split at h
  case h_1 reached =>
    cases h
    split_ifs at hway with hpos
    · cases hway
    · exact .inr ⟨reached, rfl, hpos⟩
  case h_3 => exact .inl rfl
  case h_6 => exact .inl rfl
  all_goals
    cases h
    try cases hway

theorem advance_lastRelease {now : Millis} {owner : ℕ} {phase phase' : Phase} {c : Command}
    {shared shared' : Shared}
    (h : advance config now owner shared phase c = some (phase', shared')) :
    shared'.lastRelease = shared.lastRelease ∨ ∃ executed, c = .release executed := by
  unfold advance at h
  split at h
  case h_7 =>
    cases h
    unfold undoScript
    split_ifs <;> exact .inl rfl
  case h_8 executed =>
    exact .inr ⟨executed, rfl⟩
  all_goals
    cases h
    try exact .inl rfl

/-- An acquisition succeeds by its look at the pace. -/
theorem advance_holding {now : Millis} {owner : ℕ} {phase : Phase} {c : Command}
    {shared shared' : Shared} {leaseEnd : Millis}
    (h : advance config now owner shared phase c = some (.holding leaseEnd, shared')) :
    phase = .locked leaseEnd ∧ shared' = shared ∧
      ∃ reached, c = .readPace reached ∧ ¬ 0 < redisTTL reached shared.redis now .pace := by
  unfold advance at h
  split at h
  case h_1 =>
    dsimp only at h
    split_ifs at h <;> cases h
  case h_3 delivery _ => cases delivery <;> cases hok : (shared.redis.get? now .lock).isNone <;>
    simp [hok] at h
  case h_6 reached =>
    dsimp only at h
    split_ifs at h with hpos
    · cases h
    · cases h
      exact ⟨rfl, rfl, reached, rfl, hpos⟩
  all_goals cases h

theorem calm_step {act : Act} (h : s.step config act = some s')
    (hact : s.orderly config act = true) (hs : Calm config s) : Calm config s' := by
  cases act with
  | tick now =>
    simp only [State.step] at h
    split_ifs at h with hle
    cases h
    refine ⟨fun owner phase hphase hway => ?_, hs.whole⟩
    rcases s.shared.redis.get?_later (k := .cooldown) hle with hsame | ⟨hnone, -⟩
    · exact hsame.trans (hs.cooldown owner phase hphase hway)
    · exact hnone
  | call owner =>
    obtain ⟨acquisitions, hinsert, rfl⟩ := Option.map_eq_some_iff.mp h
    refine ⟨fun j phase hphase hway => ?_, hs.whole⟩
    simp only [State.phaseOf, Table.get?_insert? hinsert, key_acquisition] at hphase
    split_ifs at hphase
    · cases hphase
      cases hway
    · exact hs.cooldown j phase hphase hway
  | command owner c =>
    obtain ⟨phase, phase', shared, hphase, hadvance, rfl⟩ := command_eq_some h
    constructor
    · intro j p hj hway
      refine (advance_cooldown hadvance).trans ?_
      rw [phaseOf_moved hphase] at hj
      split_ifs at hj
      · cases hj
        rcases advance_underWay hadvance hway with hold | ⟨reached, rfl, hread⟩
        · exact hs.cooldown owner phase hphase hold
        · refine get?_eq_none_of_redisTTL ?_ hread
          simpa [State.orderly] using hact
      · exact hs.cooldown j p hj hway
    · intro hlast
      rcases advance_lastRelease hadvance with hsame | ⟨executed, rfl⟩
      · exact hs.whole (hsame ▸ hlast)
      · simpa [State.orderly] using hact
  | mark =>
    cases h
    refine ⟨fun owner phase hphase hway => ?_, hs.whole⟩
    simp only [State.orderly, Bool.or_eq_true, decide_eq_true_eq, List.all_eq_true] at hact
    rcases hact with hoff | hidle
    · have hkeep : markProxyRateLimited config s.clock s.shared.redis = s.shared.redis :=
        if_pos hoff
      show (markProxyRateLimited config s.clock s.shared.redis).get? s.clock .cooldown = none
      rw [hkeep]
      exact hs.cooldown owner phase hphase hway
    · obtain ⟨a, ha, rfl⟩ := Option.map_eq_some_iff.mp hphase
      have hstill := hidle a (Table.mem_of_get? ha)
      rw [hway] at hstill
      cases hstill

theorem calm_initial (config : Config) (now : Millis) : Calm config (.initial now) where
  cooldown := by
    intro owner phase hphase
    cases hphase
  whole := fun hlast => absurd rfl hlast

theorem admits_step {act : Act} (h : s.step config act = some s')
    (hact : s.orderly config act = true) (hs : Sound config s) (hcalm : Calm config s) :
    Admits config s s' := by
  intro owner leaseEnd hholding hnew
  cases act with
  | tick now =>
    simp only [State.step] at h
    split_ifs at h
    cases h
    exact absurd hholding hnew
  | call j =>
    obtain ⟨acquisitions, hinsert, rfl⟩ := Option.map_eq_some_iff.mp h
    simp only [State.phaseOf, Table.get?_insert? hinsert, key_acquisition] at hholding
    split_ifs at hholding
    · cases hholding
    · exact absurd hholding hnew
  | command j c =>
    obtain ⟨phase, phase', shared, hphase, hadvance, rfl⟩ := command_eq_some h
    rw [phaseOf_moved hphase] at hholding
    split_ifs at hholding with howner
    · subst howner
      cases hholding
      obtain ⟨rfl, rfl, reached, rfl, hread⟩ := advance_holding hadvance
      refine ⟨hcalm.cooldown owner _ hphase rfl, fun r hr => ?_⟩
      change s.shared.lastRelease = some r at hr
      simp only [State.orderly, hphase, Bool.not_eq_true'] at hact
      have hpace := get?_eq_none_of_redisTTL hact hread
      have hpassed : (r + config.interval : ℤ) ≤ s.clock := by
        by_contra hearly
        cases hpace.symm.trans (hs.pace r hr (not_le.mp hearly))
      have hwhole : config.proxyControlMinInterval % 1000000 = 0 :=
        hcalm.whole (by rw [hr]; exact Option.some_ne_none r)
      have hexact : config.interval * 1000000 = config.proxyControlMinInterval :=
        Int.tdiv_mul_cancel (Int.dvd_of_emod_eq_zero hwhole)
      calc
        r * 1000000 + config.proxyControlMinInterval = (r + config.interval) * 1000000 := by
          rw [← hexact]
          ring
        _ ≤ s.clock * 1000000 := Int.mul_le_mul_of_nonneg_right hpassed (by decide)
    · exact absurd hholding hnew
  | mark =>
    cases h
    exact absurd hholding hnew

/-- In every run two holders within their leases are one, and a release past its lease leaves
the lock. In a run of orderly steps an acquisition also meets no cooldown and has let the
interval pass. -/
theorem proxyControl_lawful {config : Config} {start : Millis} {s s' : State} {act : Act}
    (hrun : (proxyControl config).Reachable (.initial start) s)
    (hstep : (proxyControl config).step s act s') :
    Exclusive s' ∧ KeepsLock s act s' ∧
      ((orderlyProxyControl config).Reachable (.initial start) s →
        s.orderly config act = true → Admits config s s') := by
  have hs : Sound config s := by
    refine LTS.Reachable.invariant ?_ hrun (sound_initial config start)
    intro t act t' ht
    exact sound_step ht
  refine ⟨(sound_step hstep hs).exclusive, hs.keepsLock hstep, fun hcalmRun hact => ?_⟩
  have hcalm : Calm config s := by
    refine LTS.Reachable.invariant ?_ hcalmRun (calm_initial config start)
    intro t act t' ht
    exact calm_step ht.1 ht.2
  exact admits_step hstep hact hs hcalm

/-- The defaults of the configuration. -/
def standard : Config where
  proxyControlMinInterval := 20 * second
  proxyControlLease := 90 * second
  upstream429Cooldown := 2 * minute
  interval_bounds := by decide
  lease_bounds := by decide

def acquire (owner : ℕ) : List Act :=
  [.call owner, .command owner (.readCooldown true), .command owner (.setNX .answered)]

/-- A release, and the next acquisition after the interval. -/
def inTurn : List Act :=
  acquire 1 ++ [.command 1 (.readPace true), .tick 5000, .command 1 (.release true),
    .tick 25000] ++ acquire 2

theorem proxyControl_lawful_inTurn :
    ∃ s s', (proxyControl standard).step s (.command 2 (.readPace true)) s' ∧
      s'.phaseOf 2 = some (.holding 115000) ∧ Admits standard s s' := by
  have hrun : ((LTS.follow (State.step standard) (State.orderly standard) (.initial 0) inTurn).bind
      fun s => (s.step standard (.command 2 (.readPace true))).map fun s' =>
        (s'.phaseOf 2, s.orderly standard (.command 2 (.readPace true)))) =
      some (some (.holding 115000), true) := by
    decide +kernel
  obtain ⟨s, hs, hlast⟩ := Option.bind_eq_some_iff.mp hrun
  obtain ⟨s', hs', hfinal⟩ := Option.map_eq_some_iff.mp hlast
  simp only [Prod.mk.injEq] at hfinal
  have horderly := LTS.run_of_follow hs
  exact ⟨s, s', hs', hfinal.1,
    (proxyControl_lawful ⟨inTurn, horderly.of_restrict⟩ hs').2.2 ⟨inTurn, horderly⟩ hfinal.2⟩

/-- Another process meets a rate limit when the cooldown has been looked at. -/
def rateLimited : List Act := acquire 1 ++ [.mark]

/-- The next acquisition comes in the last half second of the pace. -/
def hurried : List Act :=
  acquire 1 ++ [.command 1 (.readPace true), .tick 5000, .command 1 (.release true),
    .tick 24501] ++ acquire 2

/-- An acquisition succeeds in the cooldown, and another one before the interval has passed. -/
theorem proxyControl_broken :
    (¬ ∀ s act s' owner leaseEnd, (proxyControl standard).Reachable (.initial 0) s →
      (proxyControl standard).step s act s' → s'.phaseOf owner = some (.holding leaseEnd) →
      s.phaseOf owner ≠ some (.holding leaseEnd) →
      s'.shared.redis.get? s'.clock .cooldown = none) ∧
    ¬ ∀ s act s' owner leaseEnd r, (proxyControl standard).Reachable (.initial 0) s →
      (proxyControl standard).step s act s' → s'.phaseOf owner = some (.holding leaseEnd) →
      s.phaseOf owner ≠ some (.holding leaseEnd) → s'.shared.lastRelease = some r →
      r * 1000000 + standard.proxyControlMinInterval ≤ s'.clock * 1000000 := by
  constructor
  · intro h
    have hrun : ((LTS.follow (State.step standard) (fun _ _ => true) (.initial 0) rateLimited).bind
        fun s => (s.step standard (.command 1 (.readPace true))).map fun s' =>
          (s.phaseOf 1, s'.phaseOf 1, s'.shared.redis.get? s'.clock .cooldown)) =
        some (some (.locked 90000), some (.holding 90000), some ⟨429, some 120000⟩) := by
      decide +kernel
    obtain ⟨s, hs, hlast⟩ := Option.bind_eq_some_iff.mp hrun
    obtain ⟨s', hs', hfinal⟩ := Option.map_eq_some_iff.mp hlast
    simp only [Prod.mk.injEq] at hfinal
    obtain ⟨hbefore, hafter, hcooldown⟩ := hfinal
    have hnone := h s _ s' 1 90000 ⟨_, (LTS.run_of_follow hs).of_restrict⟩ hs' hafter
      (by rw [hbefore]; decide)
    cases hcooldown.symm.trans hnone
  · intro h
    have hrun : ((LTS.follow (State.step standard) (fun _ _ => true) (.initial 0) hurried).bind
        fun s => (s.step standard (.command 2 (.readPace true))).map fun s' =>
          (s.phaseOf 2, s'.phaseOf 2, s'.shared.lastRelease, s'.clock)) =
        some (some (.locked 114501), some (.holding 114501), some 5000, 24501) := by
      decide +kernel
    obtain ⟨s, hs, hlast⟩ := Option.bind_eq_some_iff.mp hrun
    obtain ⟨s', hs', hfinal⟩ := Option.map_eq_some_iff.mp hlast
    simp only [Prod.mk.injEq] at hfinal
    obtain ⟨hbefore, hafter, hrelease, hclock⟩ := hfinal
    have hlate := h s _ s' 2 114501 5000 ⟨_, (LTS.run_of_follow hs).of_restrict⟩ hs' hafter
      (by rw [hbefore]; decide) hrelease
    rw [hclock] at hlate
    exact absurd hlate (by decide)

end GenerationGateway.ProxyControl
