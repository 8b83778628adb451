import GenerationGateway.Circuit.Breaker

/-!
# Agreement of failures and checks

What the circuit is for, on the failures so far: each scope counts them in windows, and the
newest one at the limit keeps the circuit open for the cooldown. The keys in Redis follow
this history, but a recorded failure reports from its own counters alone.
-/

namespace GenerationGateway.Circuit

open Expiring Transitions

/-! ### The history -/

def Scope.limit (b : Breaker) : Scope → ℤ
  | provider _ => b.providerFailures
  | proxy _ _ => b.proxyFailures

section History

variable (b : Breaker) (hash : ProxyHash)

/-- A failure counts for its provider and for its proxy. -/
def Failure.scopes (f : Failure) : List Scope :=
  [providerScope f.providerID, proxyScope hash f.providerID f.proxyURL]

/-- The window of the newest failure of the scope. -/
def windowOf (scope : Scope) : List Failure → Option Window
  | [] => none
  | f :: earlier =>
    if scope ∈ f.scopes hash then
      some (Window.after (milliseconds b.window) f.time (windowOf scope earlier))
    else windowOf scope earlier

/-- The place of a failure in its window, when it comes after the others. -/
def ordinal (scope : Scope) (now : ℤ) (earlier : List Failure) : ℤ :=
  (Window.after (milliseconds b.window) now (windowOf b hash scope earlier)).hits

/-- The failure is one of the scope, and at least the one at its limit. -/
def Opens (scope : Scope) (f : Failure) (earlier : List Failure) : Prop :=
  scope ∈ f.scopes hash ∧ scope.limit b ≤ ordinal b hash scope f.time earlier

instance (scope : Scope) (f : Failure) (earlier : List Failure) :
    Decidable (Opens b hash scope f earlier) := inferInstanceAs (Decidable (_ ∧ _))

def openUntil (scope : Scope) : List Failure → Option ℤ
  | [] => none
  | f :: earlier =>
    if Opens b hash scope f earlier then some (f.time + milliseconds b.cooldown)
    else openUntil scope earlier

/-- The key of an open period that is not over. -/
def openEntry (now : ℤ) (untilAt : Option ℤ) : Option Entry :=
  untilAt.bind fun t => if now < t then some ⟨t, some t⟩ else none

/-- The keys in Redis hold what the history says. -/
structure Tracks (s : State) : Prop where
  clock : 0 ≤ s.clock
  past : ∀ f ∈ s.log, f.time ≤ s.clock
  sorted : s.log.Pairwise fun f earlier => earlier.time ≤ f.time
  counts : ∀ scope : Scope, s.redis.get? s.clock scope.failureKey =
    Window.entry (milliseconds b.window) s.clock (windowOf b hash scope s.log)
  opens : ∀ scope : Scope, s.redis.get? s.clock scope.openKey =
    openEntry s.clock (openUntil b hash scope s.log)

end History

/-! ### The script -/

section Script

variable {now window cooldown : ℤ} {P X : Scope} {redis : Store String}

/-- A key of an open period, written when its counter is at the limit. -/
def opened (now cooldown : ℤ) (reached : Prop) [Decidable reached] (key : String)
    (redis : Store String) : Store String :=
  if reached then redis.setPX now key (now + cooldown) cooldown else redis

theorem get?_opened_self (hcooldown : 0 < cooldown) (reached : Prop) [Decidable reached]
    (key : String) (redis : Store String) :
    (opened now cooldown reached key redis).get? now key =
      if reached then some ⟨now + cooldown, some (now + cooldown)⟩ else redis.get? now key := by
  unfold opened
  split_ifs
  · exact Store.get?_setPX_self _ _ _ hcooldown
  · rfl

theorem get?_opened_of_ne {key key' : String} (h : key' ≠ key) (reached : Prop)
    [Decidable reached] (redis : Store String) :
    (opened now cooldown reached key redis).get? now key' = redis.get? now key' := by
  unfold opened
  split_ifs
  · exact Store.get?_setPX_of_ne _ _ _ h _ _
  · rfl

/-- The two counters after the script. -/
def counted (now window : ℤ) (P X : Scope) (redis : Store String) : Store String :=
  ((redis.hit now P.failureKey window).2.hit now X.failureKey window).2

theorem get?_counted_open (scope : Scope) :
    (counted now window P X redis).get? now scope.openKey = redis.get? now scope.openKey := by
  rw [counted, Store.get?_hit_of_ne _ _ _ (failureKey_ne_openKey X scope).symm,
    Store.get?_hit_of_ne _ _ _ (failureKey_ne_openKey P scope).symm]

theorem get?_counted_other {scope : Scope} (hP : scope ≠ P) (hX : scope ≠ X) :
    (counted now window P X redis).get? now scope.failureKey =
      redis.get? now scope.failureKey := by
  rw [counted, Store.get?_hit_of_ne _ _ _ (failureKey_ne hX),
    Store.get?_hit_of_ne _ _ _ (failureKey_ne hP)]

variable {w v : Option Window} (hne : P ≠ X)
  (hP : redis.get? now P.failureKey = Window.entry window now w)
  (hX : redis.get? now X.failureKey = Window.entry window now v)

include hne hX in
theorem hit_second : (redis.hit now P.failureKey window).2.get? now X.failureKey =
    Window.entry window now v := by
  rw [Store.get?_hit_of_ne _ _ _ (failureKey_ne hne.symm), hX]

include hne hP in
theorem get?_counted_first : (counted now window P X redis).get? now P.failureKey =
    Window.entry window now (some (Window.after window now w)) := by
  rw [counted, Store.get?_hit_of_ne _ _ _ (failureKey_ne hne)]
  exact (Store.hit_window hP).2

include hne hX in
theorem get?_counted_second : (counted now window P X redis).get? now X.failureKey =
    Window.entry window now (some (Window.after window now v)) :=
  (Store.hit_window (hit_second hne hX)).2

include hne hP hX in
/-- What the script answers and writes, on the windows of its two counters. -/
theorem recordFailureScript_eq (hnow : 0 ≤ now) (pl xl : ℤ) :
    let n := (Window.after window now w).hits
    let m := (Window.after window now v).hits
    recordFailureScript P.failureKey P.openKey X.failureKey X.openKey now window cooldown pl xl
        redis =
      if 0 < cooldown then
        (.ok (if pl ≤ n ∨ xl ≤ m then now + cooldown else 0),
          opened now cooldown (xl ≤ m) X.openKey
            (opened now cooldown (pl ≤ n) P.openKey (counted now window P X redis)))
      else
        (if pl ≤ n ∨ xl ≤ m then .error .invalidExpireTime else .ok 0,
          counted now window P X redis) := by
  intro n m
  have hn : (redis.hit now P.failureKey window).1 = n := (Store.hit_window hP).1
  have hm : ((redis.hit now P.failureKey window).2.hit now X.failureKey window).1 = m :=
    (Store.hit_window (hit_second hne hX)).1
  unfold recordFailureScript opened setUntil
  dsimp only
  rw [hn, hm, ← counted]
  by_cases hcooldown : 0 < cooldown
  · by_cases hfirst : pl ≤ n
    · by_cases hsecond : xl ≤ m <;> simp [hcooldown, hfirst, hsecond, Except.map]
    · by_cases hsecond : xl ≤ m
      · have hpositive : 0 < now + cooldown := by omega
        simp [hcooldown, hfirst, hsecond, hpositive]
      · simp [hcooldown, hfirst, hsecond]
  · by_cases hfirst : pl ≤ n
    · simp [hcooldown, hfirst, Except.map]
    · by_cases hsecond : xl ≤ m <;> simp [hcooldown, hfirst, hsecond]

end Script

/-! ### What every step keeps -/

section Steps

variable {b : Breaker} {hash : ProxyHash} {s : State}

/-- The scopes of a call. -/
def callScopes (hash : ProxyHash) (providerID proxyURL : String) : List Scope :=
  [providerScope providerID, proxyScope hash providerID proxyURL]

/-- The state after a recorded failure. -/
def State.failed (b : Breaker) (hash : ProxyHash) (s : State) (providerID proxyURL : String) :
    State :=
  { s with
    redis := (b.recordFailure hash s.clock providerID proxyURL s.redis).2
    log := ⟨s.clock, providerID, proxyURL⟩ :: s.log }

/-- One of the two counters of the call reaches its limit. -/
def Reaches (b : Breaker) (hash : ProxyHash) (s : State) (providerID proxyURL : String) : Prop :=
  ∃ scope ∈ callScopes hash providerID proxyURL,
    scope.limit b ≤ ordinal b hash scope s.clock s.log

theorem openUntil_eq_some {scope : Scope} {log : List Failure} {t : ℤ}
    (h : openUntil b hash scope log = some t) :
    ∃ newer f earlier, log = newer ++ f :: earlier ∧ Opens b hash scope f earlier ∧
      t = f.time + milliseconds b.cooldown := by
  induction log with
  | nil => cases h
  | cons f earlier ih =>
    rw [openUntil] at h
    split_ifs at h with hopens
    · exact ⟨[], f, earlier, rfl, hopens, (Option.some.inj h).symm⟩
    · obtain ⟨newer, g, rest, rfl, hg, ht⟩ := ih h
      exact ⟨f :: newer, g, rest, rfl, hg, ht⟩

theorem openUntil_le {scope : Scope} {log : List Failure} {t now : ℤ}
    (hpast : ∀ f ∈ log, f.time ≤ now) (h : openUntil b hash scope log = some t) :
    t ≤ now + milliseconds b.cooldown := by
  obtain ⟨newer, f, earlier, rfl, -, rfl⟩ := openUntil_eq_some h
  have htime := hpast f (by simp)
  omega

theorem openEntry_eq_none {now : ℤ} {untilAt : Option ℤ} (h : ∀ t, untilAt = some t → t ≤ now) :
    openEntry now untilAt = none := by
  cases untilAt with
  | none => rfl
  | some t => exact if_neg (not_lt.mpr (h t rfl))

theorem tracks_initial (b : Breaker) (hash : ProxyHash) (now : ℕ) :
    Tracks b hash (State.initial now) := by
  constructor
  · exact Int.natCast_nonneg now
  · intro f hf
    cases hf
  · exact .nil
  · intro scope
    rfl
  · intro scope
    rfl

theorem Tracks.tick (h : Tracks b hash s) {now : ℤ} (hle : s.clock ≤ now) :
    Tracks b hash { s with clock := now } := by
  constructor
  · exact h.clock.trans hle
  · intro f hf
    exact (h.past f hf).trans hle
  · exact h.sorted
  · intro scope
    exact Store.window_later hle (h.counts scope)
  · intro scope
    have hopens := h.opens scope
    cases huntil : openUntil b hash scope s.log with
    | none =>
      rw [huntil] at hopens
      rcases s.redis.get?_later (k := scope.openKey) hle with hsame | ⟨hnone, -⟩
      · exact hsame.trans hopens
      · exact hnone
    | some t =>
      rw [huntil] at hopens
      exact Store.get?_until_later hle hopens

/-- The script on a state that tracks its history. -/
theorem Tracks.recordFailure_eq (h : Tracks b hash s) (providerID proxyURL : String) :
    let P := providerScope providerID
    let X := proxyScope hash providerID proxyURL
    let redis := counted s.clock (milliseconds b.window) P X s.redis
    recordFailureScript P.failureKey P.openKey X.failureKey X.openKey s.clock
        (milliseconds b.window) (milliseconds b.cooldown) b.providerFailures b.proxyFailures
        s.redis =
      if 0 < milliseconds b.cooldown then
        (.ok (if b.providerFailures ≤ ordinal b hash P s.clock s.log ∨
            b.proxyFailures ≤ ordinal b hash X s.clock s.log then
              s.clock + milliseconds b.cooldown else 0),
          opened s.clock (milliseconds b.cooldown)
            (b.proxyFailures ≤ ordinal b hash X s.clock s.log) X.openKey
            (opened s.clock (milliseconds b.cooldown)
              (b.providerFailures ≤ ordinal b hash P s.clock s.log) P.openKey redis))
      else
        (if b.providerFailures ≤ ordinal b hash P s.clock s.log ∨
            b.proxyFailures ≤ ordinal b hash X s.clock s.log then
              .error .invalidExpireTime else .ok 0, redis) :=
  recordFailureScript_eq (providerScope_ne_proxyScope hash providerID providerID proxyURL)
    (h.counts _) (h.counts _) h.clock _ _

/-- The counters after a failure, whatever it answers. -/
theorem Tracks.failed_counts (h : Tracks b hash s) (providerID proxyURL : String) (scope : Scope) :
    (s.failed b hash providerID proxyURL).redis.get? s.clock scope.failureKey =
      (counted s.clock (milliseconds b.window) (providerScope providerID)
        (proxyScope hash providerID proxyURL) s.redis).get? s.clock scope.failureKey := by
  have hprovider := failureKey_ne_openKey scope (providerScope providerID)
  have hproxy := failureKey_ne_openKey scope (proxyScope hash providerID proxyURL)
  simp only [State.failed, Breaker.recordFailure]
  rw [h.recordFailure_eq providerID proxyURL]
  by_cases hcooldown : 0 < milliseconds b.cooldown
  · rw [if_pos hcooldown]
    dsimp only
    rw [get?_opened_of_ne hproxy, get?_opened_of_ne hprovider]
  · rw [if_neg hcooldown]

theorem mem_callScopes {scope : Scope} {providerID proxyURL : String} :
    scope ∈ callScopes hash providerID proxyURL ↔
      scope = providerScope providerID ∨ scope = proxyScope hash providerID proxyURL := by
  simp [callScopes]

/-- What a failure opens now. -/
theorem opens_iff {scope : Scope} {providerID proxyURL : String} :
    Opens b hash scope ⟨s.clock, providerID, proxyURL⟩ s.log ↔
      scope ∈ callScopes hash providerID proxyURL ∧
        scope.limit b ≤ ordinal b hash scope s.clock s.log := Iff.rfl

/-- The open periods after a failure. -/
theorem Tracks.failed_opens (h : Tracks b hash s) (providerID proxyURL : String) (scope : Scope) :
    (s.failed b hash providerID proxyURL).redis.get? s.clock scope.openKey =
      if 0 < milliseconds b.cooldown ∧
          Opens b hash scope ⟨s.clock, providerID, proxyURL⟩ s.log then
        some ⟨s.clock + milliseconds b.cooldown, some (s.clock + milliseconds b.cooldown)⟩
      else s.redis.get? s.clock scope.openKey := by
  have hne := providerScope_ne_proxyScope hash providerID providerID proxyURL
  simp only [State.failed, Breaker.recordFailure]
  rw [h.recordFailure_eq providerID proxyURL]
  by_cases hcooldown : 0 < milliseconds b.cooldown
  · rw [if_pos hcooldown]
    dsimp only
    by_cases hprovider : scope = providerScope providerID
    · subst hprovider
      rw [get?_opened_of_ne (openKey_ne hne), get?_opened_self hcooldown, get?_counted_open]
      refine if_congr ?_ rfl rfl
      rw [opens_iff, mem_callScopes]
      exact ⟨fun hlimit => ⟨hcooldown, .inl rfl, hlimit⟩, fun hopens => hopens.2.2⟩
    · by_cases hproxy : scope = proxyScope hash providerID proxyURL
      · subst hproxy
        rw [get?_opened_self hcooldown, get?_opened_of_ne (openKey_ne hne.symm),
          get?_counted_open]
        refine if_congr ?_ rfl rfl
        rw [opens_iff, mem_callScopes]
        exact ⟨fun hlimit => ⟨hcooldown, .inr rfl, hlimit⟩, fun hopens => hopens.2.2⟩
      · rw [get?_opened_of_ne (openKey_ne hproxy), get?_opened_of_ne (openKey_ne hprovider),
          get?_counted_open, if_neg]
        rw [opens_iff, mem_callScopes]
        rintro ⟨-, hscope | hscope, -⟩
        · exact hprovider hscope
        · exact hproxy hscope
  · have hclosed : ¬(0 < milliseconds b.cooldown ∧
        Opens b hash scope ⟨s.clock, providerID, proxyURL⟩ s.log) := fun hboth => hcooldown hboth.1
    rw [if_neg hcooldown, if_neg hclosed]
    exact get?_counted_open scope

theorem Tracks.failed (h : Tracks b hash s) (providerID proxyURL : String) :
    Tracks b hash (s.failed b hash providerID proxyURL) := by
  have hne := providerScope_ne_proxyScope hash providerID providerID proxyURL
  constructor
  · exact h.clock
  · intro f hf
    rcases List.mem_cons.mp hf with rfl | hlog
    · exact le_rfl
    · exact h.past f hlog
  · exact List.pairwise_cons.mpr ⟨h.past, h.sorted⟩
  · intro scope
    refine (h.failed_counts providerID proxyURL scope).trans ?_
    simp only [State.failed, windowOf, Failure.scopes, List.mem_cons, List.not_mem_nil, or_false]
    by_cases hprovider : scope = providerScope providerID
    · rw [if_pos (.inl hprovider), hprovider]
      exact get?_counted_first hne (h.counts _)
    · by_cases hproxy : scope = proxyScope hash providerID proxyURL
      · rw [if_pos (.inr hproxy), hproxy]
        exact get?_counted_second hne (h.counts _)
      · rw [if_neg (not_or.mpr ⟨hprovider, hproxy⟩), get?_counted_other hprovider hproxy]
        exact h.counts scope
  · intro scope
    refine (h.failed_opens providerID proxyURL scope).trans ?_
    simp only [State.failed, openUntil]
    by_cases hopens : Opens b hash scope ⟨s.clock, providerID, proxyURL⟩ s.log
    · rw [if_pos hopens]
      by_cases hcooldown : 0 < milliseconds b.cooldown
      · rw [if_pos ⟨hcooldown, hopens⟩, openEntry, Option.bind_some, if_pos (by omega)]
      · rw [if_neg fun hboth => hcooldown hboth.1, h.opens scope]
        have hpast : openEntry s.clock (openUntil b hash scope s.log) = none := by
          apply openEntry_eq_none
          intro t ht
          have hle := openUntil_le h.past ht
          omega
        have hnow : openEntry s.clock (some (s.clock + milliseconds b.cooldown)) = none := by
          apply openEntry_eq_none
          intro t ht
          obtain rfl := Option.some.inj ht
          omega
        rw [hpast, hnow]
    · rw [if_neg hopens, if_neg fun hboth => hopens hboth.2]
      exact h.opens scope

theorem tracks_step (b : Breaker) (hash : ProxyHash) (s : State) (act : Act) (s' : State)
    (hstep : (system b hash).step s act s') (h : Tracks b hash s) : Tracks b hash s' := by
  cases hstep with
  | tick hle => exact h.tick hle
  | recordFailure providerID proxyURL => exact h.failed providerID proxyURL
  | check providerID proxyURL => exact h

/-! ### What calls report -/

/-- The time until which a failure of the history keeps the scope open. -/
def openNow (b : Breaker) (hash : ProxyHash) (s : State) (scope : Scope) : Option ℤ :=
  (openUntil b hash scope s.log).filter fun t => s.clock < t

theorem openNow_eq_some {scope : Scope} {t : ℤ} :
    openNow b hash s scope = some t ↔ openUntil b hash scope s.log = some t ∧ s.clock < t := by
  rw [openNow, Option.filter_eq_some_iff, decide_eq_true_eq]

theorem openEntry_value (now : ℤ) (untilAt : Option ℤ) :
    (openEntry now untilAt).map Entry.value = untilAt.filter fun t => now < t := by
  cases untilAt with
  | none => rfl
  | some t =>
    rw [openEntry, Option.bind_some, Option.filter_some]
    by_cases ht : now < t <;> simp [ht]

/-- The latest of the open periods that are not over. -/
theorem latestOpen_eq_some {now : ℤ} {u v : Option ℤ} (hnow : 0 ≤ now)
    (hu : ∀ t, u = some t → now < t) (hv : ∀ t, v = some t → now < t) (t : ℤ) :
    latestOpen now [u, v] = some t ↔
      (u = some t ∨ v = some t) ∧ (∀ t', u = some t' → t' ≤ t) ∧ ∀ t', v = some t' → t' ≤ t := by
  unfold latestOpen
  simp only [List.foldl_cons, List.foldl_nil]
  cases u with
  | none =>
    cases v with
    | none => simp [hnow]
    | some q =>
      have hq := hv q rfl
      have hpositive : 0 < q := by omega
      simp [hpositive, hq]
      omega
  | some p =>
    have hp := hu p rfl
    have hpositive : 0 < p := by omega
    cases v with
    | none =>
      simp [hpositive, hp]
      omega
    | some q =>
      have hq := hv q rfl
      simp only [hpositive, if_true, Option.some.injEq, forall_eq']
      split_ifs <;> simp <;> omega

/-- A check reports the latest open period of its provider and its proxy. -/
theorem Tracks.check_eq_some (h : Tracks b hash s) (providerID proxyURL : String) (t : ℤ) :
    Breaker.check hash s.clock providerID proxyURL s.redis = some t ↔
      (∃ scope ∈ callScopes hash providerID proxyURL, openNow b hash s scope = some t) ∧
        ∀ scope ∈ callScopes hash providerID proxyURL, ∀ t', openNow b hash s scope = some t' →
          t' ≤ t := by
  have hlive (scope : Scope) (t : ℤ) (ht : openNow b hash s scope = some t) : s.clock < t :=
    (openNow_eq_some.mp ht).2
  rw [Breaker.check, h.opens, h.opens, openEntry_value, openEntry_value]
  refine (latestOpen_eq_some h.clock (hlive _) (hlive _) t).trans ?_
  simp only [callScopes, List.mem_cons, List.not_mem_nil, or_false, exists_eq_or_imp,
    exists_eq_left, forall_eq_or_imp, forall_eq, openNow]

/-- A failure less than the cooldown ago was at the limit of the provider or of the proxy. -/
def InForce (b : Breaker) (hash : ProxyHash) (s : State) (providerID proxyURL : String) : Prop :=
  ∃ newer f earlier, s.log = newer ++ f :: earlier ∧
    s.clock < f.time + milliseconds b.cooldown ∧
    ∃ scope ∈ callScopes hash providerID proxyURL, Opens b hash scope f earlier

/-- Of the failures that opened a scope the newest one lasts longest. -/
theorem le_openUntil {scope : Scope} {log newer earlier : List Failure} {f : Failure}
    (hsorted : log.Pairwise fun f earlier => earlier.time ≤ f.time)
    (hlog : log = newer ++ f :: earlier) (hopens : Opens b hash scope f earlier) :
    ∃ t, openUntil b hash scope log = some t ∧ f.time + milliseconds b.cooldown ≤ t := by
  subst hlog
  induction newer with
  | nil => exact ⟨_, if_pos hopens, le_rfl⟩
  | cons g rest ih =>
    obtain ⟨hg, hrest⟩ := List.pairwise_cons.mp hsorted
    rw [List.cons_append, openUntil]
    split_ifs with hnewer
    · refine ⟨_, rfl, ?_⟩
      have htime := hg f (by simp)
      omega
    · exact ih hrest

theorem Tracks.inForce_iff (h : Tracks b hash s) {providerID proxyURL : String} :
    InForce b hash s providerID proxyURL ↔
      ∃ scope ∈ callScopes hash providerID proxyURL, ∃ t, openNow b hash s scope = some t := by
  constructor
  · rintro ⟨newer, f, earlier, hlog, hrecent, scope, hscope, hopens⟩
    obtain ⟨t, ht, hle⟩ := le_openUntil h.sorted hlog hopens
    exact ⟨scope, hscope, t, openNow_eq_some.mpr ⟨ht, by omega⟩⟩
  · rintro ⟨scope, hscope, t, ht⟩
    obtain ⟨huntil, hlive⟩ := openNow_eq_some.mp ht
    obtain ⟨newer, f, earlier, hlog, hopens, rfl⟩ := openUntil_eq_some huntil
    exact ⟨newer, f, earlier, hlog, hlive, scope, hscope, hopens⟩

/-- Of finitely many open periods one is the latest. -/
theorem Tracks.check_of_openNow (h : Tracks b hash s) {providerID proxyURL : String}
    {scope : Scope} {t : ℤ} (hscope : scope ∈ callScopes hash providerID proxyURL)
    (ht : openNow b hash s scope = some t) :
    ∃ t', t ≤ t' ∧ Breaker.check hash s.clock providerID proxyURL s.redis = some t' := by
  have hcheck := h.check_eq_some providerID proxyURL
  cases hfound : Breaker.check hash s.clock providerID proxyURL s.redis with
  | some t' => exact ⟨t', ((hcheck t').mp hfound).2 scope hscope t ht, rfl⟩
  | none =>
    exfalso
    have hnot (t' : ℤ) : ¬((∃ scope ∈ callScopes hash providerID proxyURL,
        openNow b hash s scope = some t') ∧
          ∀ scope ∈ callScopes hash providerID proxyURL, ∀ u, openNow b hash s scope = some u →
            u ≤ t') := by
      rw [← hcheck t', hfound]
      simp
    simp only [callScopes, List.mem_cons, List.not_mem_nil, or_false, forall_eq_or_imp,
      forall_eq, exists_eq_or_imp, exists_eq_left] at hnot hscope
    cases hprovider : openNow b hash s (providerScope providerID) with
    | none =>
      rcases hscope with rfl | rfl
      · rw [hprovider] at ht
        cases ht
      · exact hnot t (by simp [hprovider, ht])
    | some u =>
      cases hproxy : openNow b hash s (proxyScope hash providerID proxyURL) with
      | none => exact hnot u (by simp [hprovider, hproxy])
      | some v =>
        rcases le_total u v with huv | hvu
        · exact hnot v (by simp [hprovider, hproxy, huv])
        · exact hnot u (by simp [hprovider, hproxy, hvu])

theorem Tracks.check_isSome_iff (h : Tracks b hash s) {providerID proxyURL : String} :
    (∃ t, Breaker.check hash s.clock providerID proxyURL s.redis = some t) ↔
      InForce b hash s providerID proxyURL := by
  rw [h.inForce_iff]
  constructor
  · rintro ⟨t, ht⟩
    obtain ⟨⟨scope, hscope, hopen⟩, -⟩ := (h.check_eq_some providerID proxyURL t).mp ht
    exact ⟨scope, hscope, t, hopen⟩
  · rintro ⟨scope, hscope, t, ht⟩
    obtain ⟨t', -, hcheck⟩ := h.check_of_openNow hscope ht
    exact ⟨t', hcheck⟩

/-- The answer of a failure. -/
theorem Tracks.recordFailure_eq_some (h : Tracks b hash s) {providerID proxyURL : String} {t : ℤ} :
    (b.recordFailure hash s.clock providerID proxyURL s.redis).1 = .ok (some t) ↔
      0 < milliseconds b.cooldown ∧ Reaches b hash s providerID proxyURL ∧
        t = s.clock + milliseconds b.cooldown := by
  have hreaches : Reaches b hash s providerID proxyURL ↔
      b.providerFailures ≤ ordinal b hash (providerScope providerID) s.clock s.log ∨
        b.proxyFailures ≤ ordinal b hash (proxyScope hash providerID proxyURL) s.clock s.log := by
    simp only [Reaches, callScopes, List.mem_cons, List.not_mem_nil, or_false, exists_eq_or_imp,
      exists_eq_left]
    rfl
  have hclock := h.clock
  rw [hreaches, Breaker.recordFailure, h.recordFailure_eq providerID proxyURL]
  by_cases hcooldown : 0 < milliseconds b.cooldown
  · rw [if_pos hcooldown]
    dsimp only
    split_ifs with hlimit
    · have hlate : ¬s.clock + milliseconds b.cooldown ≤ s.clock := by omega
      simp only [Except.map, if_neg hlate, Except.ok.injEq, Option.some.injEq]
      exact ⟨fun ht => ⟨hcooldown, hlimit, ht.symm⟩, fun h => h.2.2.symm⟩
    · simp only [Except.map, if_pos hclock, Except.ok.injEq, reduceCtorEq, false_iff]
      exact fun h => hlimit h.2.1
  · rw [if_neg hcooldown]
    dsimp only
    split_ifs with hlimit
    · simp [Except.map, hcooldown]
    · simp [Except.map, hcooldown, hclock]

/-- The open periods of a scope after a failure of its own. -/
theorem openNow_failed {providerID proxyURL : String} (scope : Scope) :
    openNow b hash (s.failed b hash providerID proxyURL) scope =
      if Opens b hash scope ⟨s.clock, providerID, proxyURL⟩ s.log then
        (some (s.clock + milliseconds b.cooldown)).filter fun t => s.clock < t
      else openNow b hash s scope := by
  rw [openNow, State.failed, openUntil]
  split_ifs <;> rfl

/-- A failure does not end an open period, nor shorten it. -/
theorem Tracks.failed_keeps (h : Tracks b hash s) (providerID proxyURL providerID' proxyURL' : String)
    {t : ℤ} (ht : Breaker.check hash s.clock providerID' proxyURL' s.redis = some t) :
    ∃ t', t ≤ t' ∧ Breaker.check hash s.clock providerID' proxyURL'
      (s.failed b hash providerID proxyURL).redis = some t' := by
  obtain ⟨⟨scope, hscope, hopen⟩, -⟩ := (h.check_eq_some providerID' proxyURL' t).mp ht
  obtain ⟨huntil, hlive⟩ := openNow_eq_some.mp hopen
  have hbound := openUntil_le h.past huntil
  have hkept : ∃ u, t ≤ u ∧ openNow b hash (s.failed b hash providerID proxyURL) scope = some u := by
    rw [openNow_failed]
    split_ifs
    · exact ⟨s.clock + milliseconds b.cooldown, hbound,
        Option.filter_eq_some_iff.mpr ⟨rfl, decide_eq_true (by omega)⟩⟩
    · exact ⟨t, le_rfl, hopen⟩
  obtain ⟨u, hle, hu⟩ := hkept
  obtain ⟨t', hle', hcheck⟩ := (h.failed providerID proxyURL).check_of_openNow hscope hu
  exact ⟨t', hle.trans hle', hcheck⟩

/-- A failure and the check after it agree when a counter of the failure is at its limit, or
nothing else keeps the circuit open. -/
theorem Tracks.agree_iff (h : Tracks b hash s) (providerID proxyURL : String) :
    (∀ t, (b.recordFailure hash s.clock providerID proxyURL s.redis).1 = .ok (some t) ↔
      Breaker.check hash s.clock providerID proxyURL
        (b.recordFailure hash s.clock providerID proxyURL s.redis).2 = some t) ↔
      Reaches b hash s providerID proxyURL ∨ ¬InForce b hash s providerID proxyURL := by
  have hfailed := h.failed providerID proxyURL
  have hcheck := hfailed.check_eq_some providerID proxyURL
  change (∀ t, _ ↔ Breaker.check hash s.clock providerID proxyURL
    (s.failed b hash providerID proxyURL).redis = some t) ↔ _
  have hclock : (s.failed b hash providerID proxyURL).clock = s.clock := rfl
  rw [hclock] at hcheck
  simp only [h.recordFailure_eq_some, hcheck]
  by_cases hreaches : Reaches b hash s providerID proxyURL
  · refine iff_of_true (fun t => ?_) (.inl hreaches)
    obtain ⟨scope, hscope, hlimit⟩ := hreaches
    have hopens : Opens b hash scope ⟨s.clock, providerID, proxyURL⟩ s.log := ⟨hscope, hlimit⟩
    have hlatest (scope' : Scope) (u : ℤ)
        (hu : openNow b hash (s.failed b hash providerID proxyURL) scope' = some u) :
        s.clock < u ∧ u ≤ s.clock + milliseconds b.cooldown := by
      obtain ⟨huntil, hlive⟩ := openNow_eq_some.mp hu
      exact ⟨hlive, openUntil_le hfailed.past huntil⟩
    constructor
    · rintro ⟨hcooldown, -, rfl⟩
      refine ⟨⟨scope, hscope, ?_⟩, fun scope' _ u hu => (hlatest scope' u hu).2⟩
      rw [openNow_failed, if_pos hopens]
      exact Option.filter_eq_some_iff.mpr ⟨rfl, decide_eq_true (by omega)⟩
    · rintro ⟨⟨scope', -, hu⟩, hmax⟩
      have hbounds := hlatest scope' t hu
      have hopen : openNow b hash (s.failed b hash providerID proxyURL) scope =
          some (s.clock + milliseconds b.cooldown) := by
        rw [openNow_failed, if_pos hopens]
        exact Option.filter_eq_some_iff.mpr ⟨rfl, decide_eq_true (by omega)⟩
      have hle := hmax scope hscope _ hopen
      exact ⟨by omega, ⟨scope, hscope, hlimit⟩, by omega⟩
  · have hsame (scope : Scope) (hscope : scope ∈ callScopes hash providerID proxyURL) :
        openNow b hash (s.failed b hash providerID proxyURL) scope = openNow b hash s scope := by
      rw [openNow_failed, if_neg]
      exact fun hopens => hreaches ⟨scope, hscope, hopens.2⟩
    have hquiet : (∃ t, (∃ scope ∈ callScopes hash providerID proxyURL,
        openNow b hash (s.failed b hash providerID proxyURL) scope = some t) ∧
          ∀ scope ∈ callScopes hash providerID proxyURL, ∀ t',
            openNow b hash (s.failed b hash providerID proxyURL) scope = some t' → t' ≤ t) ↔
        InForce b hash s providerID proxyURL := by
      rw [h.inForce_iff]
      constructor
      · rintro ⟨t, ⟨scope, hscope, ht⟩, -⟩
        exact ⟨scope, hscope, t, hsame scope hscope ▸ ht⟩
      · rintro ⟨scope, hscope, t, ht⟩
        rw [← hsame scope hscope] at ht
        obtain ⟨t', -, hfound⟩ := hfailed.check_of_openNow hscope ht
        exact ⟨t', (hcheck t').mp hfound⟩
    simp only [hreaches, false_and, and_false, false_iff, false_or]
    rw [← hquiet, not_exists]

/-- A check that reports an open circuit names a failure which opened it. -/
theorem Tracks.check_blames (h : Tracks b hash s) {providerID proxyURL : String} {t : ℤ}
    (ht : Breaker.check hash s.clock providerID proxyURL s.redis = some t) :
    ∃ newer f earlier, s.log = newer ++ f :: earlier ∧ t = f.time + milliseconds b.cooldown ∧
      s.clock < t ∧ ∃ scope ∈ callScopes hash providerID proxyURL, Opens b hash scope f earlier := by
  obtain ⟨⟨scope, hscope, hopen⟩, -⟩ := (h.check_eq_some providerID proxyURL t).mp ht
  obtain ⟨huntil, hlive⟩ := openNow_eq_some.mp hopen
  obtain ⟨newer, f, earlier, hlog, hopens, rfl⟩ := openUntil_eq_some huntil
  exact ⟨newer, f, earlier, hlog, rfl, hlive, scope, hscope, hopens⟩

end Steps

/-- In every reachable state: when a failure and the check after it agree, that a failure does
not shorten what is open, and what an open circuit goes back to. -/
theorem circuit_agrees_iff (b : Breaker) (hash : ProxyHash) (start : ℕ) (s : State)
    (hreachable : (system b hash).Reachable (State.initial start) s)
    (providerID proxyURL : String) :
    ((∀ t, (b.recordFailure hash s.clock providerID proxyURL s.redis).1 = .ok (some t) ↔
        Breaker.check hash s.clock providerID proxyURL
          (b.recordFailure hash s.clock providerID proxyURL s.redis).2 = some t) ↔
      Reaches b hash s providerID proxyURL ∨ ¬InForce b hash s providerID proxyURL) ∧
    (∀ providerID' proxyURL' t,
      Breaker.check hash s.clock providerID' proxyURL' s.redis = some t →
      ∃ t', t ≤ t' ∧ Breaker.check hash s.clock providerID' proxyURL'
        (b.recordFailure hash s.clock providerID proxyURL s.redis).2 = some t') ∧
    ∀ t, Breaker.check hash s.clock providerID proxyURL s.redis = some t →
      ∃ newer f earlier, s.log = newer ++ f :: earlier ∧ t = f.time + milliseconds b.cooldown ∧
        s.clock < t ∧
          ∃ scope ∈ callScopes hash providerID proxyURL, Opens b hash scope f earlier := by
  have h : Tracks b hash s :=
    hreachable.invariant (tracks_step b hash) (tracks_initial b hash start)
  refine ⟨h.agree_iff providerID proxyURL, ?_, fun t ht => h.check_blames ht⟩
  intro providerID' proxyURL' t ht
  exact h.failed_keeps providerID proxyURL providerID' proxyURL' ht

/-- The default settings: three failures of a proxy in half a minute open it for a minute. -/
def defaultBreaker : Breaker := ⟨30 * 10 ^ 9, 60 * 10 ^ 9, 5, 3⟩

def sampleHash : ProxyHash := fun _ => ⟨"0123456789abcdef", by decide⟩

/-- Three failures in two seconds. -/
def openedState : State :=
  let s := (State.initial 0).failed defaultBreaker sampleHash "adobe" ""
  let s := ({ s with clock := 1000 } : State).failed defaultBreaker sampleHash "adobe" ""
  ({ s with clock := 2000 } : State).failed defaultBreaker sampleHash "adobe" ""

/-- The window of the three failures is over, and the circuit is still open. -/
def laterState : State := { openedState with clock := 31000 }

theorem laterState_reachable :
    (system defaultBreaker sampleHash).Reachable (State.initial 0) laterState :=
  ⟨[.recordFailure "adobe" "", .tick 1000, .recordFailure "adobe" "", .tick 2000,
      .recordFailure "adobe" "", .tick 31000],
    _, .recordFailure _ _ _, _, .tick (by decide), _, .recordFailure _ _ _, _, .tick (by decide), _,
    .recordFailure _ _ _, _, .tick (by decide), rfl⟩

/-- The fourth failure is the first of a new window: it reports a closed circuit, and the check
at the same instant reports an open one. -/
theorem fourth_failure_disagrees :
    ∃ s, (system defaultBreaker sampleHash).Reachable (State.initial 0) s ∧
      (defaultBreaker.recordFailure sampleHash s.clock "adobe" "" s.redis).1 = .ok none ∧
      Breaker.check sampleHash s.clock "adobe" ""
        (defaultBreaker.recordFailure sampleHash s.clock "adobe" "" s.redis).2 = some 62000 := by
  refine ⟨laterState, laterState_reachable, ?_, ?_⟩
  · decide +kernel
  · decide +kernel

/-- Two failures, and the third is about to be counted. -/
def secondState : State :=
  let s := (State.initial 0).failed defaultBreaker sampleHash "adobe" ""
  let s := ({ s with clock := 1000 } : State).failed defaultBreaker sampleHash "adobe" ""
  { s with clock := 2000 }

theorem secondState_reachable :
    (system defaultBreaker sampleHash).Reachable (State.initial 0) secondState :=
  ⟨[.recordFailure "adobe" "", .tick 1000, .recordFailure "adobe" "", .tick 2000],
    _, .recordFailure _ _ _, _, .tick (by decide), _, .recordFailure _ _ _, _, .tick (by decide), rfl⟩

/-- The third failure and the check after it both report what that failure opens. -/
theorem third_failure_agrees :
    (defaultBreaker.recordFailure sampleHash 2000 "adobe" "" secondState.redis).1 =
        .ok (some 62000) ∧
      Breaker.check sampleHash 2000 "adobe" ""
        (defaultBreaker.recordFailure sampleHash 2000 "adobe" "" secondState.redis).2 =
          some 62000 := by
  have hreported : (defaultBreaker.recordFailure sampleHash 2000 "adobe" ""
      secondState.redis).1 = .ok (some 62000) := by decide +kernel
  have hreaches : Reaches defaultBreaker sampleHash secondState "adobe" "" := by
    refine ⟨proxyScope sampleHash "adobe" "", by simp [callScopes], ?_⟩
    decide +kernel
  refine ⟨hreported, ?_⟩
  exact ((circuit_agrees_iff defaultBreaker sampleHash 0 secondState secondState_reachable "adobe"
    "").1.mpr (.inl hreaches) 62000).mp hreported

end GenerationGateway.Circuit
