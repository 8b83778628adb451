import GenerationGateway.HttpApi.Quota

/-!
# The rate limits

A request counts in the minute of its address, and in the minute and the hour of its API key.
It computes the keys of its windows from the clock, the time to live of each a little later, and
sends one script for them all, which may run when the windows are over.
-/

namespace GenerationGateway.RateLimits

open Relational Transitions Expiring

/-! ### Windows -/

inductive Span
  | minute | hour
  deriving DecidableEq, Repr

def Span.length : Span → Time
  | minute => minutes 1
  | hour => hours 1

inductive Subject
  | ip (hash : String)
  | apiKey (id : UUID)
  deriving DecidableEq, Repr

/-- `leo:limit:<subject>:<span>:<window>`. -/
structure WindowKey where
  subject : Subject
  span : Span
  window : ℤ
  deriving DecidableEq, Repr

namespace WindowKey

def closes (k : WindowKey) : Time := (k.window + 1) * k.span.length

/-- `time.Until(end).Milliseconds() + 1000`. -/
def ttlAt (k : WindowKey) (now : Time) : ℤ := ((k.closes - now).tdiv 1000 + 1000) * 1000

/-- Milliseconds that are rounded down, and a second more. -/
theorem lt_milliseconds (rest : ℤ) : rest < (rest.tdiv 1000 + 1000) * 1000 := by
  have hdiv := Int.mul_tdiv_add_tmod rest 1000
  have hmod := Int.tmod_lt_of_pos rest (show (0 : ℤ) < 1000 by decide)
  omega

theorem closes_le_of_ttl (k : WindowKey) {read now : Time} (h : read ≤ now) :
    k.closes ≤ now + k.ttlAt read := by
  have hrest := lt_milliseconds (k.closes - read)
  calc
    k.closes = read + (k.closes - read) := by ring
    _ ≤ now + k.ttlAt read := add_le_add h hrest.le

end WindowKey

def Subject.keyAt (subject : Subject) (span : Span) (now : Time) : WindowKey :=
  ⟨subject, span, now / span.length⟩

/-- The keys of `admitIP` and of `admitAPIKeyRequest`. -/
def Subject.keysAt (subject : Subject) (now : Time) : List WindowKey :=
  match subject with
  | .ip _ => [subject.keyAt .minute now]
  | .apiKey _ => [subject.keyAt .minute now, subject.keyAt .hour now]

structure Config where
  ipRateLimitPerMinute : ℤ
  rateLimitPerMinute : ℤ
  rateLimitPerHour : ℤ

def Config.limit (config : Config) (k : WindowKey) : ℤ :=
  match k.subject, k.span with
  | .ip _, _ => config.ipRateLimitPerMinute
  | .apiKey _, .minute => config.rateLimitPerMinute
  | .apiKey _, .hour => config.rateLimitPerHour

/-- The arguments of the script; the clock is read again for each time to live. -/
def Config.slot (config : Config) (read : Span → Time) (k : WindowKey) : Quota.Slot WindowKey :=
  ⟨k, config.limit k, 1, k.ttlAt (read k.span)⟩

theorem keysAt_nodup (subject : Subject) (now : Time) : (subject.keysAt now).Nodup := by
  cases subject <;> simp [Subject.keysAt, Subject.keyAt]

/-! ### The system -/

inductive Phase
  | calling
  /-- The script answered `ok` at this time. -/
  | passed (time : Time)
  /-- It named this slot and the time that is left of its window. -/
  | refused (slot : ℕ) (retryAfter : ℤ)
  deriving DecidableEq

structure Call where
  id : ℕ
  subject : Subject
  calledAt : Time
  phase : Phase
  deriving DecidableEq

instance : Keyed ℕ Call := ⟨Call.id⟩

def Call.keys (c : Call) : List WindowKey := c.subject.keysAt c.calledAt

def Call.to (phase : Phase) (c : Call) : Call := { c with phase := phase }

theorem key_to (phase : Phase) (c : Call) : Keyed.key (c.to phase) = Keyed.key c := rfl

structure State where
  clock : Time
  redis : Store WindowKey
  calls : Table Call

def State.initial (now : Time) : State := ⟨now, .empty, .empty⟩

/-- Whether the reply of a script arrives changes no counter. -/
inductive Act
  | tick (now : Time)
  | call (id : ℕ) (subject : Subject)
  | script (id : ℕ) (read : Span → Time)

namespace State

def answered (s : State) (id : ℕ) (phase : Phase) (redis : Store WindowKey) : State :=
  { s with redis := redis, calls := s.calls.modify id (Call.to phase) (key_to phase) }

def step (config : Config) (s : State) : Act → Option State
  | .tick now => if s.clock ≤ now then some { s with clock := now } else none
  | .call id subject =>
    (s.calls.insert? ⟨id, subject, s.clock, .calling⟩).map fun calls => { s with calls := calls }
  | .script id read =>
    match s.calls.get? id with
    | some ⟨_, subject, calledAt, .calling⟩ =>
      if read .minute ≤ s.clock ∧ read .hour ≤ s.clock then
        match Quota.admissionScript s.clock ((subject.keysAt calledAt).map (config.slot read))
            s.redis with
        | .ok redis => some (s.answered id (.passed s.clock) redis)
        | .error (slot, ttl) => some (s.answered id (.refused slot ttl) s.redis)
      else none
    | _ => none

end State

def rateLimits (config : Config) : LTS State Act := LTS.ofStep (State.step config)

/-! ### The script on several keys -/

section Script

variable {κ : Type} {now : Time} {slots : List (Quota.Slot κ)} {redis : Store κ}

/-- A slot whose key is over its limit. -/
def Over (now : Time) (redis : Store κ) (slot : Quota.Slot κ) : Prop :=
  0 < slot.limit ∧ slot.limit < redis.value now slot.key + slot.cost

theorem refused_eq_none {i : ℕ} :
    Quota.refused now redis i slots = none ↔ ∀ slot ∈ slots, ¬ Over now redis slot := by
  induction slots generalizing i with
  | nil => simp [Quota.refused]
  | cons slot rest ih =>
    simp only [Quota.refused, List.forall_mem_cons, Over]
    split_ifs with hover
    · simp [hover]
    · rw [ih]
      simp [hover, Over]

/-- The slot that the script names is over its limit, and the time is that of its key. -/
theorem refused_eq_some {i j : ℕ} {ttl : ℤ} (h : Quota.refused now redis i slots = some (j, ttl)) :
    ∃ slot, slots[j - i]? = some slot ∧ i ≤ j ∧ Over now redis slot ∧
      ttl = match (redis.get? now slot.key).bind Entry.expiresAt with
        | some t => t - now
        | none => slot.ttl := by
  induction slots generalizing i with
  | nil => cases h
  | cons slot rest ih =>
    simp only [Quota.refused] at h
    split_ifs at h with hover
    · obtain ⟨rfl, rfl⟩ := Prod.mk.inj (Option.some.inj h)
      exact ⟨slot, by simp, le_rfl, hover, rfl⟩
    · obtain ⟨found, hfound, hle, hrest⟩ := ih h
      refine ⟨found, ?_, by omega, hrest⟩
      rw [show j - i = j - (i + 1) + 1 by omega]
      exact hfound

variable [DecidableEq κ]

theorem charge_cons (slot : Quota.Slot κ) (rest : List (Quota.Slot κ)) :
    Quota.charge now (slot :: rest) redis = Quota.charge now rest (Quota.charge now [slot] redis) :=
  rfl

theorem charge_of_notMem (now' : Time) {key : κ} (h : key ∉ slots.map Quota.Slot.key) :
    (Quota.charge now slots redis).get? now' key = redis.get? now' key := by
  induction slots generalizing redis with
  | nil => rfl
  | cons slot rest ih =>
    simp only [List.map_cons, List.mem_cons, not_or] at h
    rw [charge_cons, ih h.2, Quota.charge_of_ne _ _ _ _ h.1]

/-- Each of several counters is charged as if it stood alone. -/
theorem charge_of_mem {slot : Quota.Slot κ} (hslots : (slots.map Quota.Slot.key).Nodup)
    (h : slot ∈ slots) :
    (∃ e, (Quota.charge now slots redis).get? now slot.key = some e ∧
      e.value = redis.value now slot.key + slot.cost ∧
      (e.expiresAt = some (now + slot.ttl) ∨
        ∃ e₀, redis.get? now slot.key = some e₀ ∧ e.expiresAt = e₀.expiresAt)) ∨
    (Quota.charge now slots redis).get? now slot.key = none ∧ slot.ttl ≤ 0 := by
  induction slots generalizing redis with
  | nil => cases h
  | cons first rest ih =>
    simp only [List.map_cons, List.nodup_cons] at hslots
    obtain ⟨hfirst, hrest⟩ := hslots
    rw [charge_cons]
    rcases List.mem_cons.mp h with rfl | hmem
    · rw [charge_of_notMem now hfirst]
      exact Quota.charge_self now slot redis
    · have hne : slot.key ≠ first.key := by
        intro heq
        exact hfirst (heq ▸ List.mem_map_of_mem hmem)
      have hget := Quota.charge_of_ne now now first redis hne
      have hvalue : (Quota.charge now [first] redis).value now slot.key =
          redis.value now slot.key := by
        rw [Store.value, hget, Store.value]
      have hcharged := @ih (Quota.charge now [first] redis) hrest hmem
      rwa [hvalue, hget] at hcharged

end Script

/-! ### What the counters count -/

/-- The call has passed in the window, before its end. -/
def Call.passedIn (k : WindowKey) (c : Call) : Bool :=
  match c.phase with
  | .passed time => decide (k ∈ c.keys ∧ time < k.closes)
  | _ => false

def State.passed (s : State) (k : WindowKey) : ℤ :=
  s.calls.total fun c => if c.passedIn k then 1 else 0

/-- As long as its window lasts a counter holds the calls that have passed in it. -/
structure Counted (config : Config) (s : State) (k : WindowKey) : Prop where
  value : s.clock < k.closes → s.redis.value s.clock k = s.passed k
  lasts : s.clock < k.closes → ∀ e, s.redis.get? s.clock k = some e →
    ∃ t, e.expiresAt = some t ∧ k.closes ≤ t
  bound : 0 < config.limit k → s.passed k ≤ config.limit k

theorem counted_initial (config : Config) (now : Time) (k : WindowKey) :
    Counted config (.initial now) k where
  value _ := rfl
  lasts _ e he := by cases he
  bound h := h.le

theorem Counted.congr {config : Config} {s s' : State} {k : WindowKey} (h : Counted config s k)
    (hclock : s'.clock = s.clock) (hget : s'.redis.get? s.clock k = s.redis.get? s.clock k)
    (hpassed : s'.passed k = s.passed k) : Counted config s' k where
  value hend := by
    rw [hclock] at hend ⊢
    rw [hpassed, ← h.value hend, Store.value, hget, Store.value]
  lasts hend e he := by
    rw [hclock] at hend he
    rw [hget] at he
    exact h.lasts hend e he
  bound hpos := by
    rw [hpassed]
    exact h.bound hpos

theorem Counted.tick {config : Config} {s : State} {k : WindowKey} (h : Counted config s k)
    {now : Time} (hle : s.clock ≤ now) : Counted config { s with clock := now } k := by
  have hget (hend : now < k.closes) : s.redis.get? now k = s.redis.get? s.clock k := by
    rcases s.redis.get?_later (k := k) hle with hsame | ⟨-, e, t, he, ht, hlate⟩
    · exact hsame
    · obtain ⟨t', ht', hlasts⟩ := h.lasts (hle.trans_lt hend) e he
      obtain rfl : t = t' := Option.some.inj (ht.symm.trans ht')
      exact absurd (hlasts.trans hlate) (not_le.mpr hend)
  refine ⟨fun hend => ?_, fun hend e he => ?_, h.bound⟩
  · have hvalue := h.value (hle.trans_lt hend)
    rw [Store.value] at hvalue ⊢
    rw [hget hend]
    exact hvalue
  · have he' : s.redis.get? now k = some e := he
    rw [hget hend] at he'
    exact h.lasts (hle.trans_lt hend) e he'

theorem passed_answered {s : State} {id : ℕ} {c : Call} (hc : s.calls.get? id = some c)
    (hcalling : c.phase = .calling) (phase : Phase) (redis : Store WindowKey) (k : WindowKey) :
    (s.answered id phase redis).passed k =
      s.passed k + if (c.to phase).passedIn k then 1 else 0 := by
  have hmoved := Table.total_modify hc (Call.to phase) (key_to phase)
    fun c => if c.passedIn k then (1 : ℤ) else 0
  have hbefore : c.passedIn k = false := by simp [Call.passedIn, hcalling]
  simp only [hbefore, Bool.false_eq_true, if_false, add_zero] at hmoved
  exact hmoved

theorem passed_call {s : State} {c : Call} {calls : Table Call}
    (h : s.calls.insert? c = some calls) (hcalling : c.phase = .calling) (k : WindowKey) :
    ({ s with calls := calls } : State).passed k = s.passed k := by
  have htotal := Table.total_insert? h fun c => if c.passedIn k then (1 : ℤ) else 0
  simpa [State.passed, Call.passedIn, hcalling] using htotal

theorem map_slot_key (config : Config) (read : Span → Time) (keys : List WindowKey) :
    (keys.map (config.slot read)).map Quota.Slot.key = keys := by
  simp [Config.slot, Function.comp_def]

/-- A script runs for a call that waits for it, with a clock that was read before. -/
theorem script_cases {config : Config} {s s' : State} {id : ℕ} {read : Span → Time}
    (h : s.step config (.script id read) = some s') :
    ∃ c, s.calls.get? id = some c ∧ c.phase = .calling ∧ (∀ span, read span ≤ s.clock) ∧
      s' = match Quota.refused s.clock s.redis 1 (c.keys.map (config.slot read)) with
        | none => s.answered id (.passed s.clock)
            (Quota.charge s.clock (c.keys.map (config.slot read)) s.redis)
        | some r => s.answered id (.refused r.1 r.2) s.redis := by
  simp only [State.step] at h
  split at h
  · next id' subject calledAt hc =>
    split_ifs at h with hread
    refine ⟨_, hc, rfl, ?_, ?_⟩
    · rintro (_ | _)
      · exact hread.1
      · exact hread.2
    · have hkeys : (⟨id', subject, calledAt, .calling⟩ : Call).keys = subject.keysAt calledAt := rfl
      unfold Quota.admissionScript at h
      rw [hkeys]
      cases hrefused : Quota.refused s.clock s.redis 1
          ((subject.keysAt calledAt).map (config.slot read)) with
      | none =>
        simp only [hrefused, Option.some.injEq] at h
        exact h.symm
      | some r =>
        simp only [hrefused, Option.some.injEq] at h
        exact h.symm
  · cases h

/-- The script of a call that passes. -/
theorem Counted.passes {config : Config} {s : State} {k : WindowKey} (h : Counted config s k)
    {id : ℕ} {c : Call} (hc : s.calls.get? id = some c) (hcalling : c.phase = .calling)
    {read : Span → Time} (hread : ∀ span, read span ≤ s.clock)
    (hnone : Quota.refused s.clock s.redis 1 (c.keys.map (config.slot read)) = none) :
    Counted config (s.answered id (.passed s.clock)
      (Quota.charge s.clock (c.keys.map (config.slot read)) s.redis)) k := by
  have hpassed := passed_answered hc hcalling (.passed s.clock)
    (Quota.charge s.clock (c.keys.map (config.slot read)) s.redis) k
  by_cases hk : k ∈ c.keys
  · have hmem : config.slot read k ∈ c.keys.map (config.slot read) := List.mem_map_of_mem hk
    have hnodup : ((c.keys.map (config.slot read)).map Quota.Slot.key).Nodup := by
      rw [map_slot_key]
      exact keysAt_nodup _ _
    have hunder := refused_eq_none.mp hnone _ hmem
    have hlimit (hpos : 0 < config.limit k) : s.redis.value s.clock k + 1 ≤ config.limit k :=
      not_lt.mp fun hover => hunder ⟨hpos, hover⟩
    have hnew : k.closes ≤ s.clock + k.ttlAt (read k.span) := k.closes_le_of_ttl (hread k.span)
    have hgrown (hend : s.clock < k.closes) : (s.answered id (.passed s.clock)
        (Quota.charge s.clock (c.keys.map (config.slot read)) s.redis)).passed k =
          s.passed k + 1 := by
      rw [hpassed, if_pos]
      exact decide_eq_true ⟨hk, hend⟩
    have hcharged (hend : s.clock < k.closes) : ∃ e, (Quota.charge s.clock
        (c.keys.map (config.slot read)) s.redis).get? s.clock k = some e ∧
          e.value = s.redis.value s.clock k + 1 ∧ ∃ t, e.expiresAt = some t ∧ k.closes ≤ t := by
      rcases @charge_of_mem WindowKey s.clock _ s.redis _ _ hnodup hmem with
        ⟨e, he, hvalue, hexpiry⟩ | ⟨-, hlate⟩
      · refine ⟨e, he, hvalue, ?_⟩
        rcases hexpiry with hset | ⟨e₀, he₀, hsame⟩
        · exact ⟨_, hset, hnew⟩
        · obtain ⟨t, ht, hlasts⟩ := h.lasts hend e₀ he₀
          exact ⟨t, hsame.trans ht, hlasts⟩
      · have hover : k.closes ≤ s.clock := hnew.trans (add_le_of_nonpos_right hlate)
        exact absurd hover (not_le.mpr hend)
    constructor
    · intro hend
      obtain ⟨e, he, hvalue, -⟩ := hcharged hend
      rw [hgrown hend, ← h.value hend, ← hvalue]
      exact Store.value_of_get? he
    · intro hend e he
      obtain ⟨e', he', -, hlasts⟩ := hcharged hend
      obtain rfl : e' = e := Option.some.inj (he'.symm.trans he)
      exact hlasts
    · intro hpos
      by_cases hend : s.clock < k.closes
      · rw [hgrown hend, ← h.value hend]
        exact hlimit hpos
      · rw [hpassed, if_neg, add_zero]
        · exact h.bound hpos
        · simp [Call.to, Call.passedIn, hend]
  · refine h.congr rfl ?_ ?_
    · apply charge_of_notMem
      rw [map_slot_key]
      exact hk
    · rw [hpassed, if_neg, add_zero]
      exact fun hin => hk (of_decide_eq_true hin).1

theorem counted_step {config : Config} {s s' : State} {act : Act} (h : s.step config act = some s')
    (hs : ∀ k, Counted config s k) (k : WindowKey) : Counted config s' k := by
  cases act with
  | tick now =>
    simp only [State.step] at h
    split_ifs at h with hle
    cases h
    exact (hs k).tick hle
  | call id subject =>
    obtain ⟨calls, hcalls, rfl⟩ := Option.map_eq_some_iff.mp h
    exact (hs k).congr rfl rfl (passed_call hcalls rfl k)
  | script id read =>
    obtain ⟨c, hc, hcalling, hread, hanswer⟩ := script_cases h
    cases hrefused : Quota.refused s.clock s.redis 1 (c.keys.map (config.slot read)) with
    | none =>
      rw [hrefused] at hanswer
      subst hanswer
      exact (hs k).passes hc hcalling hread hrefused
    | some r =>
      rw [hrefused] at hanswer
      subst hanswer
      refine (hs k).congr rfl rfl ?_
      rw [passed_answered hc hcalling, if_neg, add_zero]
      simp [Call.to, Call.passedIn]

theorem counted_reachable {config : Config} {now : Time} {s : State}
    (h : (rateLimits config).Reachable (.initial now) s) (k : WindowKey) : Counted config s k := by
  refine h.invariant (I := fun s => ∀ k, Counted config s k) ?_ (counted_initial config now) k
  intro t act t' hstep ht
  exact counted_step hstep ht

/-- What the script of a call answers. -/
theorem script_answers {config : Config} {s s' : State} {id : ℕ} {c : Call} {read : Span → Time}
    (hc : s.calls.get? id = some c) (h : s.step config (.script id read) = some s') :
    (s'.calls.get? id).map Call.phase = some (
      match Quota.refused s.clock s.redis 1 (c.keys.map (config.slot read)) with
      | none => .passed s.clock
      | some r => .refused r.1 r.2) := by
  obtain ⟨c', hc', -, -, hanswer⟩ := script_cases h
  obtain rfl : c = c' := Option.some.inj (hc.symm.trans hc')
  cases hrefused : Quota.refused s.clock s.redis 1 (c.keys.map (config.slot read)) with
  | none =>
    rw [hrefused] at hanswer
    subst hanswer
    simp [State.answered, hc, Call.to]
  | some r =>
    rw [hrefused] at hanswer
    subst hanswer
    simp [State.answered, hc, Call.to]

/-- A counter that is over its limit is there, and lasts as long as the script tells. -/
theorem Counted.retryAfter {config : Config} {s : State} {k : WindowKey} (h : Counted config s k)
    {read : Span → Time} (hend : s.clock < k.closes)
    (hover : Over s.clock s.redis (config.slot read k)) :
    ∃ t, (s.redis.get? s.clock k).bind Entry.expiresAt = some t ∧ k.closes ≤ t := by
  obtain ⟨hpos, hlt⟩ := hover
  cases hget : s.redis.get? s.clock k with
  | none =>
    have hvalue : s.redis.value s.clock k = 0 := Store.value_of_none hget
    have hpos' : 0 < config.limit k := hpos
    have hlt' : config.limit k < s.redis.value s.clock k + 1 := hlt
    omega
  | some e => exact h.lasts hend e hget

/-- However the scripts of the requests follow one another: before the end of a window no more of
them pass in it than its limit. A script that comes before the ends of its windows passes exactly
when fewer have passed in each, and one that is refused may be tried again when the window that
refused it is over. -/
theorem rateLimits_exact {config : Config} {now : Time} {s : State}
    (h : (rateLimits config).Reachable (.initial now) s) :
    (∀ k, 0 < config.limit k → s.passed k ≤ config.limit k) ∧
    ∀ id c read s', s.calls.get? id = some c → c.phase = .calling →
      (∀ k ∈ c.keys, s.clock < k.closes) → (rateLimits config).step s (.script id read) s' →
      ((s'.calls.get? id).map Call.phase = some (.passed s.clock) ↔
        ∀ k ∈ c.keys, 0 < config.limit k → s.passed k < config.limit k) ∧
      ∀ slot retryAfter, (s'.calls.get? id).map Call.phase = some (.refused slot retryAfter) →
        ∃ k, c.keys[slot - 1]? = some k ∧ s.passed k = config.limit k ∧
          k.closes ≤ s.clock + retryAfter := by
  have hcounted := counted_reachable h
  refine ⟨fun k => (hcounted k).bound, ?_⟩
  intro id c read s' hc _ hbefore hstep
  have hphase := script_answers hc hstep
  have hover (k : WindowKey) (hk : k ∈ c.keys) : Over s.clock s.redis (config.slot read k) ↔
      0 < config.limit k ∧ config.limit k < s.passed k + 1 := by
    rw [← (hcounted k).value (hbefore k hk)]
    exact Iff.rfl
  rw [hphase]
  constructor
  · cases hrefused : Quota.refused s.clock s.redis 1 (c.keys.map (config.slot read)) with
    | none =>
      have hunder := refused_eq_none.mp hrefused
      refine ⟨fun _ k hk hpos => ?_, fun _ => rfl⟩
      have hnot := hunder _ (List.mem_map_of_mem hk)
      rw [hover k hk] at hnot
      omega
    | some r =>
      refine ⟨fun hpassed => by simp at hpassed, fun hunder => ?_⟩
      have hnone : Quota.refused s.clock s.redis 1 (c.keys.map (config.slot read)) = none := by
        rw [refused_eq_none]
        intro slot hslot
        obtain ⟨k, hk, rfl⟩ := List.mem_map.mp hslot
        rw [hover k hk]
        intro hboth
        have hlt := hunder k hk hboth.1
        omega
      rw [hrefused] at hnone
      cases hnone
  · intro slot retryAfter hrefused
    cases hr : Quota.refused s.clock s.redis 1 (c.keys.map (config.slot read)) with
    | none =>
      rw [hr] at hrefused
      simp at hrefused
    | some r =>
      rw [hr] at hrefused
      simp only [Option.some.injEq, Phase.refused.injEq] at hrefused
      obtain ⟨rfl, rfl⟩ := hrefused
      obtain ⟨found, hfound, -, hfoundOver, httl⟩ := refused_eq_some hr
      rw [List.getElem?_map] at hfound
      obtain ⟨k, hk, rfl⟩ := Option.map_eq_some_iff.mp hfound
      have hmem : k ∈ c.keys := List.mem_of_getElem? hk
      obtain ⟨t, ht, hlasts⟩ := (hcounted k).retryAfter (hbefore k hmem) hfoundOver
      have hkey : (config.slot read k).key = k := rfl
      rw [hkey, ht] at httl
      have hboth := (hover k hmem).mp hfoundOver
      have hbound := (hcounted k).bound hboth.1
      refine ⟨k, hk, by omega, ?_⟩
      rw [httl]
      exact hlasts.trans (add_sub_cancel s.clock t).ge

/-- Two requests a minute, three an hour. -/
def slowConfig : Config := ⟨10, 2, 3⟩

/-- The third request of the minute has not passed, and its script comes last. -/
def thirdRequest : List Act :=
  [.call 1 (.apiKey 7), .script 1 (fun _ => 0), .call 2 (.apiKey 7), .call 3 (.apiKey 7),
    .tick (seconds 30), .script 2 (fun _ => 0)]

theorem rateLimits_exact_thirdRequest :
    ∃ s s' : State, s.passed ⟨.apiKey 7, .minute, 0⟩ = 2 ∧
      (rateLimits slowConfig).step s (.script 3 fun _ => 0) s' ∧
      ¬ (s'.calls.get? 3).map Call.phase = some (.passed s.clock) := by
  have hrun : (LTS.follow (State.step slowConfig) (fun _ _ => true) (.initial 0) thirdRequest).map
      (fun s => (s.clock, s.passed ⟨.apiKey 7, .minute, 0⟩, s.calls.get? 3,
        (s.step slowConfig (.script 3 fun _ => 0)).isSome)) =
        some (seconds 30, 2, some ⟨3, .apiKey 7, 0, .calling⟩, true) := by
    decide +kernel
  obtain ⟨s, hs, hfound⟩ := Option.map_eq_some_iff.mp hrun
  simp only [Prod.mk.injEq] at hfound
  obtain ⟨hclock, hpassed, hc, hsome⟩ := hfound
  obtain ⟨s', hs'⟩ := Option.isSome_iff_exists.mp hsome
  have hreach : (rateLimits slowConfig).Reachable (.initial 0) s :=
    ⟨thirdRequest, (LTS.run_of_follow hs).of_restrict⟩
  have hbefore : ∀ k ∈ (⟨3, .apiKey 7, 0, .calling⟩ : Call).keys, s.clock < k.closes := by
    rw [hclock]
    decide
  refine ⟨s, s', hpassed, hs', fun hphase => ?_⟩
  have hunder := (((rateLimits_exact hreach).2 3 _ _ s' hc rfl hbefore hs').1.mp hphase)
    ⟨.apiKey 7, .minute, 0⟩ (by decide) (by decide)
  rw [hpassed] at hunder
  exact absurd hunder (by decide)

end GenerationGateway.RateLimits
