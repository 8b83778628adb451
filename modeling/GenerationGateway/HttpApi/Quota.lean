import GenerationGateway.Library.Expiring
import GenerationGateway.Library.Reachability
import GenerationGateway.Store.Schema

/-!
# The daily quota of the API keys

Admission and rollback are two calls, and each computes the key of the counter from the
clock. A request is followed from the moment its admission knows its key to the end of its
rollback; between any two steps the clock goes on and other requests run.
-/

namespace GenerationGateway.Quota

open Relational Transitions Expiring

/-! ### The scripts -/

/-- A key of the admission script with its arguments. -/
structure Slot (κ : Type) where
  key : κ
  limit : ℤ
  cost : ℤ
  ttl : ℤ

section Scripts

variable {κ : Type} [DecidableEq κ]

/-- The first key over its limit, with the time that is left of it. -/
def refused (now : Time) (redis : Store κ) : ℕ → List (Slot κ) → Option (ℕ × ℤ)
  | _, [] => none
  | i, slot :: rest =>
    if 0 < slot.limit ∧ slot.limit < redis.value now slot.key + slot.cost then
      some (i, match (redis.get? now slot.key).bind Entry.expiresAt with
        | some t => t - now
        | none => slot.ttl)
    else refused now redis (i + 1) rest

def charge (now : Time) : List (Slot κ) → Store κ → Store κ
  | [], redis => redis
  | slot :: rest, redis =>
    let redis := redis.incrBy now slot.key slot.cost
    charge now rest
      (if redis.value now slot.key = slot.cost then
        redis.expireAt now slot.key (now + slot.ttl)
      else redis)

def admissionScript (now : Time) (slots : List (Slot κ)) (redis : Store κ) :
    Except (ℕ × ℤ) (Store κ) :=
  match refused now redis 1 slots with
  | some r => .error r
  | none => .ok (charge now slots redis)

def rollbackScript (now : Time) (key : κ) (n : ℤ) (redis : Store κ) : Store κ :=
  if redis.value now key ≤ n then redis.del now key else redis.incrBy now key (-n)

/-- `rollbackDailyQuota` after its key: nothing for no images, and nothing when the context
has ended. -/
def rollbackDailyQuota (now : Time) (key : κ) (images : ℕ) (reached : Bool) (redis : Store κ) :
    Store κ :=
  if images = 0 then redis else if reached then rollbackScript now key images redis else redis

end Scripts

/-! ### Days -/

/-- `leo:quota:key:day:<key>:<day>`. -/
structure Key where
  keyID : UUID
  day : ℤ
  deriving DecidableEq, Repr

/-- `now.Format("20060102")`. -/
def dayOf (now : Time) : ℤ := now / hours 24

def dayEnd (day : ℤ) : Time := (day + 1) * hours 24

/-- `time.Until(dayEnd).Milliseconds() + 1000`. -/
def ttlAt (day : ℤ) (now : Time) : ℤ := ((dayEnd day - now).tdiv 1000 + 1000) * 1000

theorem dayEnd_le_of_ttl {day : ℤ} {read now : Time} (h : read ≤ now) :
    dayEnd day ≤ now + ttlAt day read := by
  have hround : ∀ rest : ℤ, rest < (rest.tdiv 1000 + 1000) * 1000 := by
    intro rest
    have hdiv := Int.mul_tdiv_add_tmod rest 1000
    have hmod := Int.tmod_lt_of_pos rest (show (0 : ℤ) < 1000 by decide)
    omega
  calc
    dayEnd day = read + (dayEnd day - read) := by ring
    _ ≤ now + ttlAt day read := add_le_add h (hround _).le

/-! ### The system -/

inductive Phase
  | calling
  | refused
  /-- The caller of the admission got an error. -/
  | failed
  | admitted
  /-- The rollback has the key that it read from the clock. -/
  | rollingBack (key : Key)
  | rolledBack
  deriving DecidableEq

structure Admission where
  id : ℕ
  key : Key
  units : ℕ
  phase : Phase
  deriving DecidableEq

instance : Keyed ℕ Admission := ⟨Admission.id⟩

@[simp] theorem key_admission (a : Admission) : Keyed.key a = a.id := rfl

structure State where
  clock : Time
  redis : Store Key
  admissions : Table Admission

def State.initial (now : Time) : State := ⟨now, .empty, .empty⟩

inductive Act
  | tick (now : Time)
  /-- `admitDailyQuota` reads the clock for its key. -/
  | call (id : ℕ) (keyID : UUID) (units : ℕ)
  /-- Its script runs, the time to live was computed at `read`; the reply arrives or is
  lost with the context. -/
  | admission (id : ℕ) (read : Time) (replied : Bool)
  /-- The context ends before the script. -/
  | abandon (id : ℕ)
  /-- `rollbackDailyQuota` reads the clock for its key. -/
  | rollback (id : ℕ)
  /-- Its script reaches Redis, or not because the context has ended. -/
  | undo (id : ℕ) (reached : Bool)

def Admission.at (phase : Phase) (a : Admission) : Admission := { a with phase := phase }

theorem key_at (phase : Phase) (a : Admission) : Keyed.key (a.at phase) = Keyed.key a := rfl

namespace State

def setPhase (s : State) (id : ℕ) (phase : Phase) : State :=
  { s with admissions := s.admissions.modify id (Admission.at phase) (key_at phase) }

/-- The phase a script leads to when its reply arrives. -/
def replyTo (replied : Bool) (phase : Phase) : Phase := if replied then phase else .failed

def step (limit : ℤ) (s : State) : Act → Option State
  | .tick now => if s.clock ≤ now then some { s with clock := now } else none
  | .call id keyID units =>
    (s.admissions.insert? ⟨id, ⟨keyID, dayOf s.clock⟩, units, .calling⟩).map fun admissions =>
      { s with admissions := admissions }
  | .admission id read replied =>
    match s.admissions.get? id with
    | some ⟨_, key, units, .calling⟩ =>
      if read ≤ s.clock then
        match admissionScript s.clock [⟨key, limit, units, ttlAt key.day read⟩] s.redis with
        | .ok redis => some { s.setPhase id (replyTo replied .admitted) with redis := redis }
        | .error _ => some (s.setPhase id (replyTo replied .refused))
      else none
    | _ => none
  | .abandon id =>
    match s.admissions.get? id with
    | some ⟨_, _, _, .calling⟩ => some (s.setPhase id .failed)
    | _ => none
  | .rollback id =>
    match s.admissions.get? id with
    | some ⟨_, key, _, .admitted⟩ =>
      some (s.setPhase id (.rollingBack ⟨key.keyID, dayOf s.clock⟩))
    | _ => none
  | .undo id reached =>
    match s.admissions.get? id with
    | some ⟨_, _, units, .rollingBack key⟩ =>
      some { s.setPhase id .rolledBack with
        redis := rollbackDailyQuota s.clock key units reached s.redis }
    | _ => none

/-- The units admitted under a key, and those of them that were rolled back. -/
def admitted (s : State) (key : Key) : ℤ :=
  s.admissions.total fun a => match a.phase with
    | .admitted | .rollingBack _ | .rolledBack => if a.key = key then (a.units : ℤ) else 0
    | _ => 0

def rolledBack (s : State) (key : Key) : ℤ :=
  s.admissions.total fun a => match a.phase with
    | .rolledBack => if a.key = key then (a.units : ℤ) else 0
    | _ => 0

/-- The admission gets its reply, and its script runs on the day of its key or while the
counter is still there. A rollback begins on the day of its admission, and its script
reaches Redis. -/
def orderly (s : State) : Act → Bool
  | .admission id _ replied =>
    replied && (s.admissions.get? id).all fun a =>
      s.clock < dayEnd a.key.day || (s.redis.get? s.clock a.key).isSome
  | .rollback id => (s.admissions.get? id).all fun a => a.key.day = dayOf s.clock
  | .undo _ reached => reached
  | _ => true

end State

def quota (limit : ℤ) : LTS State Act := LTS.ofStep (State.step limit)

def orderlyQuota (limit : ℤ) : LTS State Act :=
  (quota limit).restrict fun s act => s.orderly act = true

/-! ### What the counters count -/

theorem get?_setPhase (s : State) (id : ℕ) (phase : Phase) (j : ℕ) :
    (s.setPhase id phase).admissions.get? j =
      if j = id then (s.admissions.get? j).map (Admission.at phase) else s.admissions.get? j :=
  Table.get?_modify _ _ _ (key_at phase) _

/-- The units that an admission holds under a key. -/
def Admission.held (key : Key) (a : Admission) : ℤ :=
  match a.phase with
  | .admitted | .rollingBack _ => if a.key = key then (a.units : ℤ) else 0
  | _ => 0

def State.outstanding (s : State) (key : Key) : ℤ := s.admissions.total (Admission.held key)

theorem admitted_eq (s : State) (key : Key) :
    s.admitted key = s.outstanding key + s.rolledBack key := by
  unfold State.admitted State.outstanding State.rolledBack Table.total
  rw [← List.sum_map_add]
  congr 1
  apply List.map_congr_left
  rintro ⟨id, key', units, phase⟩ -
  cases phase <;> simp [Admission.held]

theorem held_nonneg (key : Key) (a : Admission) : 0 ≤ a.held key := by
  obtain ⟨id, key', units, phase⟩ := a
  cases phase <;> simp only [Admission.held] <;> first | exact le_rfl | (split_ifs <;> omega)

theorem outstanding_nonneg (s : State) (key : Key) : 0 ≤ s.outstanding key := by
  refine List.sum_nonneg fun x hx => ?_
  obtain ⟨a, -, rfl⟩ := List.mem_map.mp hx
  exact held_nonneg key a

theorem outstanding_setPhase {s : State} {id : ℕ} {a : Admission}
    (h : s.admissions.get? id = some a) (phase : Phase) (key : Key) :
    (s.setPhase id phase).outstanding key + a.held key =
      s.outstanding key + (a.at phase).held key := by
  have hother : ∀ j, j ≠ id →
      (s.setPhase id phase).admissions.contribution (Admission.held key) j =
        s.admissions.contribution (Admission.held key) j := by
    intro j hj
    unfold Table.contribution
    rw [get?_setPhase, if_neg hj]
  have hmoved := Table.total_add_contribution id hother
  have hnew : (s.setPhase id phase).admissions.get? id = some (a.at phase) := by
    rw [get?_setPhase, if_pos rfl, h]
    rfl
  rwa [Table.contribution_of_get? h, Table.contribution_of_get? hnew] at hmoved

theorem outstanding_insert {s : State} {a : Admission} {admissions : Table Admission}
    (h : s.admissions.insert? a = some admissions) (key : Key) (hheld : a.held key = 0) :
    ({ s with admissions := admissions } : State).outstanding key = s.outstanding key := by
  unfold State.outstanding Table.total
  rw [(Table.insert?_eq_some h).2]
  simp [hheld]

/-- A counter holds what is outstanding and lasts to the end of its day. -/
structure Counted (limit : ℤ) (s : State) (key : Key) : Prop where
  live : ∀ e, s.redis.get? s.clock key = some e →
    e.value = s.outstanding key ∧ (∃ t, e.expiresAt = some t ∧ dayEnd key.day ≤ t) ∧
      (0 < limit → e.value ≤ limit)
  gone : s.redis.get? s.clock key = none → s.outstanding key = 0 ∨ dayEnd key.day ≤ s.clock

structure Sound (limit : ℤ) (s : State) : Prop where
  counted : ∀ key, Counted limit s key
  /-- A rollback under way has the key of its admission. -/
  ownKey : ∀ id a key, s.admissions.get? id = some a → a.phase = .rollingBack key → key = a.key

theorem Counted.congr {limit : ℤ} {s s' : State} {key : Key} (h : Counted limit s key)
    (hget : s'.redis.get? s'.clock key = s.redis.get? s.clock key) (hclock : s'.clock = s.clock)
    (hout : s'.outstanding key = s.outstanding key) : Counted limit s' key where
  live := by
    intro e he
    rw [hout]
    exact h.live e (hget ▸ he)
  gone := by
    intro hnone
    rw [hout, hclock]
    exact h.gone (hget ▸ hnone)

theorem Counted.tick {limit : ℤ} {s : State} {key : Key} (h : Counted limit s key) {now : Time}
    (hle : s.clock ≤ now) : Counted limit { s with clock := now } key := by
  rcases s.redis.get?_later hle with hsame | ⟨hnone, e, t, he, ht, hlate⟩
  · constructor
    · intro e he
      exact h.live e (hsame ▸ he)
    · intro hnone
      exact (h.gone (hsame ▸ hnone)).imp_right fun hend => hend.trans hle
  · constructor
    · intro e' he'
      rw [show s.redis.get? now key = some e' from he'] at hnone
      cases hnone
    · obtain ⟨-, ⟨t', ht', hend⟩, -⟩ := h.live e he
      rw [ht] at ht'
      cases ht'
      exact fun _ => .inr (hend.trans hlate)

/-- A phase that a request reaches keeps the keys of the rollbacks right. -/
theorem ownKey_setPhase {limit : ℤ} {s : State} (hs : Sound limit s) {id : ℕ} {a : Admission}
    (h : s.admissions.get? id = some a) {phase : Phase}
    (hphase : ∀ key, phase = .rollingBack key → key = a.key) :
    ∀ j b key, (s.setPhase id phase).admissions.get? j = some b → b.phase = .rollingBack key →
      key = b.key := by
  intro j b key hb hrolling
  rw [get?_setPhase] at hb
  split_ifs at hb with hj
  · subst hj
    rw [h] at hb
    cases hb
    exact hphase key hrolling
  · exact hs.ownKey j b key hb hrolling

/-- A phase that holds as much as the one before. -/
theorem sound_setPhase {limit : ℤ} {s : State} (hs : Sound limit s) {id : ℕ} {a : Admission}
    (h : s.admissions.get? id = some a) {phase : Phase}
    (hphase : ∀ key, phase = .rollingBack key → key = a.key)
    (hheld : ∀ key, (a.at phase).held key = a.held key) : Sound limit (s.setPhase id phase) where
  counted := by
    intro key
    have hout := outstanding_setPhase h phase key
    rw [hheld key] at hout
    exact (hs.counted key).congr rfl rfl (add_right_cancel hout)
  ownKey := ownKey_setPhase hs h hphase

theorem admissionScript_ok {now : Time} {slot : Slot Key} {redis redis' : Store Key}
    (h : admissionScript now [slot] redis = .ok redis') :
    (0 < slot.limit → redis.value now slot.key + slot.cost ≤ slot.limit) ∧
      redis' = charge now [slot] redis := by
  unfold admissionScript at h
  split at h
  · cases h
  · next hrefused =>
    cases h
    unfold refused at hrefused
    split_ifs at hrefused with hlimit
    exact ⟨fun hpos => not_lt.mp fun hover => hlimit ⟨hpos, hover⟩, rfl⟩

theorem charge_of_ne {κ : Type} [DecidableEq κ] (now now' : Time) (slot : Slot κ) (redis : Store κ)
    {key : κ} (h : key ≠ slot.key) :
    (charge now [slot] redis).get? now' key = redis.get? now' key := by
  simp only [charge]
  split_ifs
  · rw [Store.get?_expireAt_of_ne _ _ _ h, Store.get?_incrBy_of_ne _ _ _ h]
  · rw [Store.get?_incrBy_of_ne _ _ _ h]

/-- A charged counter has grown and has the expiry it had or a new one; with no time left it
is gone. -/
theorem charge_self {κ : Type} [DecidableEq κ] (now : Time) (slot : Slot κ) (redis : Store κ) :
    (∃ e, (charge now [slot] redis).get? now slot.key = some e ∧
      e.value = redis.value now slot.key + slot.cost ∧
      (e.expiresAt = some (now + slot.ttl) ∨
        ∃ e₀, redis.get? now slot.key = some e₀ ∧ e.expiresAt = e₀.expiresAt)) ∨
    (charge now [slot] redis).get? now slot.key = none ∧ slot.ttl ≤ 0 := by
  have hincr := redis.get?_incrBy_self now slot.key slot.cost
  have hvalue := Store.value_of_get? hincr
  simp only [charge]
  split_ifs with hfirst
  · rw [Store.get?_expireAt_self _ hincr]
    split_ifs with hlate
    · exact .inr ⟨rfl, by omega⟩
    · refine .inl ⟨_, rfl, ?_, .inl rfl⟩
      cases hget : redis.get? now slot.key with
      | none => simp [Store.value_of_none hget]
      | some e₀ => simp [Store.value_of_get? hget]
  · rw [hincr]
    cases hget : redis.get? now slot.key with
    | none =>
      rw [hvalue, hget] at hfirst
      exact absurd rfl hfirst
    | some e₀ => exact .inl ⟨_, rfl, by simp [Store.value_of_get? hget], .inr ⟨e₀, rfl, rfl⟩⟩

/-- The script of an admission that gets its reply. -/
theorem sound_admitted {limit : ℤ} {s : State} (hs : Sound limit s) {id : ℕ} {key : Key}
    {units : ℕ} {read : Time} {redis : Store Key}
    (ha : s.admissions.get? id = some ⟨id, key, units, .calling⟩) (hread : read ≤ s.clock)
    (hday : s.clock < dayEnd key.day ∨ (s.redis.get? s.clock key).isSome)
    (hscript : admissionScript s.clock [⟨key, limit, units, ttlAt key.day read⟩] s.redis =
      .ok redis) :
    Sound limit { s.setPhase id .admitted with redis := redis } := by
  obtain ⟨hlimit, rfl⟩ := admissionScript_ok hscript
  have hend : dayEnd key.day ≤ s.clock + ttlAt key.day read := dayEnd_le_of_ttl hread
  refine ⟨fun other => ?_, ownKey_setPhase hs ha (by intro _ h; cases h)⟩
  have hout := outstanding_setPhase ha .admitted other
  by_cases hother : other = key
  · subst hother
    have hgrown : (s.setPhase id .admitted).outstanding other = s.outstanding other + units := by
      simpa [Admission.held, Admission.at] using hout
    have hvalue : s.redis.value s.clock other = s.outstanding other := by
      cases hget : s.redis.get? s.clock other with
      | none =>
        rw [hget] at hday
        rw [Store.value_of_none hget]
        rcases (hs.counted other).gone hget with hzero | hover
        · exact hzero.symm
        · rcases hday with hlt | hsome
          · exact absurd hover (not_le.mpr hlt)
          · cases hsome
      | some e => rw [Store.value_of_get? hget, ((hs.counted other).live e hget).1]
    rcases charge_self s.clock ⟨other, limit, units, ttlAt other.day read⟩ s.redis with
      ⟨e, he, hgrow, hexpiry⟩ | ⟨hnone, hlate⟩
    · constructor
      · intro e' he'
        cases he.symm.trans he'
        refine ⟨?_, ?_, fun hpos => ?_⟩
        · exact hgrow.trans (by rw [hvalue]; exact hgrown.symm)
        · rcases hexpiry with hnew | ⟨e₀, he₀, hsame⟩
          · exact ⟨_, hnew, hend⟩
          · rw [hsame]
            exact ((hs.counted other).live e₀ he₀).2.1
        · rw [hgrow]
          exact hlimit hpos
      · intro hnone
        cases he.symm.trans hnone
    · constructor
      · intro e he
        cases hnone.symm.trans he
      · exact fun _ => .inr (hend.trans (add_le_of_nonpos_right hlate))
  · have hsame : (s.setPhase id .admitted).outstanding other = s.outstanding other := by
      simpa [Admission.held, Admission.at, show ¬ key = other from fun h => hother h.symm] using hout
    exact (hs.counted other).congr (charge_of_ne _ _ _ _ hother) rfl hsame

theorem rollback_of_ne (now : Time) (key : Key) (images : ℕ) (reached : Bool) (redis : Store Key)
    {other : Key} (h : other ≠ key) :
    (rollbackDailyQuota now key images reached redis).get? now other = redis.get? now other := by
  unfold rollbackDailyQuota rollbackScript
  split_ifs
  · rfl
  · exact Store.get?_del_of_ne _ _ _ h
  · exact Store.get?_incrBy_of_ne _ _ _ h _
  · rfl

/-- A counter that is there loses the units, or goes when nothing would be left. -/
theorem rollback_self (now : Time) (key : Key) (images : ℕ) (redis : Store Key) :
    (rollbackDailyQuota now key images true redis).get? now key =
      (redis.get? now key).bind fun e =>
        if images ≠ 0 ∧ e.value ≤ images then none else some { e with value := e.value - images } := by
  unfold rollbackDailyQuota
  cases hget : redis.get? now key with
  | none =>
    by_cases himages : images = 0
    · rw [if_pos himages, hget]
      rfl
    · rw [if_neg himages, if_pos rfl, rollbackScript, Store.value_of_none hget,
        if_pos (Int.natCast_nonneg images)]
      exact Store.get?_del_self _ _ _
  | some e =>
    rw [Option.bind_some]
    by_cases himages : images = 0
    · rw [if_pos himages, if_neg fun h => h.1 himages, hget, himages, Nat.cast_zero, sub_zero]
    · rw [if_neg himages, if_pos rfl, rollbackScript, Store.value_of_get? hget]
      by_cases hle : e.value ≤ images
      · rw [if_pos hle, if_pos ⟨himages, hle⟩]
        exact Store.get?_del_self _ _ _
      · rw [if_neg hle, if_neg fun h => hle h.2, Store.get?_incrBy_self, hget]
        rfl

/-- The script of a rollback under the key of its admission. -/
theorem sound_undo {limit : ℤ} {s : State} (hs : Sound limit s) {id : ℕ} {key : Key} {units : ℕ}
    (ha : s.admissions.get? id = some ⟨id, key, units, .rollingBack key⟩) :
    Sound limit { s.setPhase id .rolledBack with
      redis := rollbackDailyQuota s.clock key units true s.redis } := by
  refine ⟨fun other => ?_, ownKey_setPhase hs ha (by intro _ h; cases h)⟩
  have hout := outstanding_setPhase ha .rolledBack other
  by_cases hother : other = key
  · subst hother
    have hshrunk : (s.setPhase id .rolledBack).outstanding other + units = s.outstanding other := by
      simpa [Admission.held, Admission.at] using hout
    have hnonneg := outstanding_nonneg (s.setPhase id .rolledBack) other
    have hself := rollback_self s.clock other units s.redis
    cases hget : s.redis.get? s.clock other with
    | none =>
      rw [hget, Option.bind_none] at hself
      constructor
      · intro e he
        cases hself.symm.trans he
      · intro _
        refine ((hs.counted other).gone hget).imp_left fun hzero => ?_
        show (s.setPhase id .rolledBack).outstanding other = 0
        omega
    | some e =>
      obtain ⟨hvalue, hexpiry, hlimit⟩ := (hs.counted other).live e hget
      rw [hget, Option.bind_some] at hself
      split_ifs at hself with hgone
      · constructor
        · intro e' he'
          cases hself.symm.trans he'
        · intro _
          left
          show (s.setPhase id .rolledBack).outstanding other = 0
          omega
      · constructor
        · intro e' he'
          cases hself.symm.trans he'
          refine ⟨?_, hexpiry, fun hpos => ?_⟩
          · show e.value - units = (s.setPhase id .rolledBack).outstanding other
            omega
          · have hold := hlimit hpos
            show e.value - units ≤ limit
            omega
        · intro hnone
          cases hself.symm.trans hnone
  · have hsame : (s.setPhase id .rolledBack).outstanding other = s.outstanding other := by
      simpa [Admission.held, Admission.at, show ¬ key = other from fun h => hother h.symm] using hout
    exact (hs.counted other).congr (rollback_of_ne _ _ _ _ _ hother) rfl hsame

theorem sound_step {limit : ℤ} {s s' : State} {act : Act} (h : s.step limit act = some s')
    (hact : s.orderly act = true) (hs : Sound limit s) : Sound limit s' := by
  cases act with
  | tick now =>
    simp only [State.step] at h
    split_ifs at h with hle
    cases h
    exact ⟨fun key => (hs.counted key).tick hle, hs.ownKey⟩
  | call id keyID units =>
    obtain ⟨admissions, hinsert, rfl⟩ := Option.map_eq_some_iff.mp h
    refine ⟨fun key => (hs.counted key).congr rfl rfl (outstanding_insert hinsert key rfl), ?_⟩
    intro j b key hb hrolling
    rw [show ({ s with admissions := admissions } : State).admissions = admissions from rfl,
      Table.get?_insert? hinsert] at hb
    split_ifs at hb
    · cases hb
      cases hrolling
    · exact hs.ownKey j b key hb hrolling
  | admission id read replied =>
    simp only [State.orderly, Bool.and_eq_true] at hact
    obtain ⟨rfl, hday⟩ := hact
    simp only [State.step] at h
    split at h
    · next id' key units ha =>
      obtain rfl : id' = id := Table.key_of_get? ha
      split_ifs at h with hread
      rw [ha, Option.all_some, Bool.or_eq_true, decide_eq_true_eq] at hday
      split at h
      · next redis hscript =>
        cases h
        exact sound_admitted hs ha hread hday hscript
      · cases h
        exact sound_setPhase hs ha (by intro _ h; cases h) fun _ => rfl
    · cases h
  | abandon id =>
    simp only [State.step] at h
    split at h
    · next id' key units ha =>
      cases h
      exact sound_setPhase hs ha (by intro _ h; cases h) fun _ => rfl
    · cases h
  | rollback id =>
    simp only [State.step] at h
    split at h
    · next id' key units ha =>
      cases h
      rw [State.orderly, ha, Option.all_some, decide_eq_true_eq] at hact
      refine sound_setPhase hs ha ?_ fun _ => rfl
      intro key' hkey
      cases hkey
      cases key
      exact congrArg (Key.mk _) hact.symm
    · cases h
  | undo id reached =>
    obtain rfl : reached = true := hact
    simp only [State.step] at h
    split at h
    · next id' key₀ units key ha =>
      cases h
      obtain rfl : id' = id := Table.key_of_get? ha
      obtain rfl : key = key₀ := hs.ownKey _ _ _ ha rfl
      exact sound_undo hs ha
    · cases h

theorem sound_initial (limit : ℤ) (now : Time) : Sound limit (.initial now) where
  counted := by
    intro key
    constructor
    · intro e he
      cases he
    · exact fun _ => Or.inl rfl
  ownKey := by
    intro id a key ha
    cases ha

/-- In every run of admissions and rollbacks that are answered and undone on their own day,
the counter of a day is what was admitted on it and not rolled back, within the limit, and
it is there until the day has ended. -/
theorem quota_exact {limit : ℤ} {now : Time} {s : State}
    (h : (orderlyQuota limit).Reachable (.initial now) s) (key : Key) :
    (∀ e, s.redis.get? s.clock key = some e →
      e.value = s.admitted key - s.rolledBack key ∧ 0 ≤ e.value ∧
        (0 < limit → e.value ≤ limit)) ∧
    (s.redis.get? s.clock key = none →
      s.admitted key - s.rolledBack key = 0 ∨ dayEnd key.day ≤ s.clock) := by
  have hs : Sound limit s := by
    refine LTS.Reachable.invariant ?_ h (sound_initial limit now)
    intro t act t' hstep ht
    exact sound_step hstep.1 hstep.2 ht
  have hnet : s.admitted key - s.rolledBack key = s.outstanding key := by
    rw [admitted_eq]
    ring
  rw [hnet]
  refine ⟨fun e he => ?_, (hs.counted key).gone⟩
  obtain ⟨hvalue, -, hlimit⟩ := (hs.counted key).live e he
  exact ⟨hvalue, hvalue ▸ outstanding_nonneg s key, hlimit⟩

/-- Three images are admitted in the morning, and one of two requests is rolled back. -/
def morning : List Act :=
  [.call 1 7 2, .admission 1 0 true, .tick (hours 1), .call 2 7 1, .admission 2 (hours 1) true,
    .rollback 1, .undo 1 true]

theorem quota_exact_morning :
    ∃ s : State, s.admitted ⟨7, 0⟩ = 3 ∧ ∀ e, s.redis.get? s.clock ⟨7, 0⟩ = some e →
      e.value = s.admitted ⟨7, 0⟩ - s.rolledBack ⟨7, 0⟩ := by
  have hrun : (LTS.follow (State.step 10) State.orderly (.initial 0) morning).map
      (fun s => s.admitted ⟨7, 0⟩) = some 3 := by
    decide +kernel
  obtain ⟨s, hs, hadmitted⟩ := Option.map_eq_some_iff.mp hrun
  refine ⟨s, hadmitted, fun e he => ?_⟩
  exact ((quota_exact ⟨morning, LTS.run_of_follow hs⟩ ⟨7, 0⟩).1 e he).1

/-- A request is admitted before midnight and rolled back after it, when another request has
been admitted on the new day. -/
def acrossMidnight : List Act :=
  [.tick (hours 23), .call 1 7 1, .admission 1 (hours 23) true, .tick (hours 24),
    .call 2 7 1, .admission 2 (hours 24) true, .rollback 1, .undo 1 true]

/-- The counter of the new day is gone while its image is not rolled back. -/
theorem quota_acrossMidnight :
    ¬ ∀ s, (quota 10).Reachable (.initial 0) s → ∀ key, s.clock < dayEnd key.day →
      s.redis.value s.clock key = s.admitted key - s.rolledBack key := by
  intro h
  have hrun : (LTS.follow (State.step 10) (fun _ _ => true) (.initial 0) acrossMidnight).map
      (fun s => (s.clock, s.redis.value s.clock ⟨7, 1⟩, s.admitted ⟨7, 1⟩, s.rolledBack ⟨7, 1⟩)) =
        some (hours 24, 0, 1, 0) := by
    decide +kernel
  obtain ⟨s, hs, hcounts⟩ := Option.map_eq_some_iff.mp hrun
  simp only [Prod.mk.injEq] at hcounts
  obtain ⟨hclock, hvalue, hadmitted, hback⟩ := hcounts
  have hday : s.clock < dayEnd 1 := by
    rw [hclock]
    decide
  have hexact := h s ⟨_, (LTS.run_of_follow hs).of_restrict⟩ ⟨7, 1⟩ hday
  rw [hvalue, hadmitted, hback] at hexact
  cases hexact

end GenerationGateway.Quota
