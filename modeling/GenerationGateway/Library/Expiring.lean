import Mathlib.Logic.Function.Basic
import Mathlib.Tactic

/-!
# Counters that expire

A key-value store of counters in which a key may carry the moment of its expiry; from that
moment on the key is not there. The operations are those of Redis.
-/

namespace Expiring

structure Entry where
  value : ℤ
  expiresAt : Option ℤ
  deriving DecidableEq, Repr

def Entry.live (now : ℤ) (e : Entry) : Bool := e.expiresAt.all fun t => now < t

/-! ### Windows -/

/-- A window of hits: it begins with its first one. -/
structure Window where
  start : ℤ
  hits : ℤ
  pos : 1 ≤ hits

namespace Window

/-- The window after a hit: the current one, or a new one when its time is over. -/
def after (length now : ℤ) (w : Option Window) : Window :=
  match w with
  | some w => if now < w.start + length then ⟨w.start, w.hits + 1, by have := w.pos; omega⟩
    else ⟨now, 1, le_rfl⟩
  | none => ⟨now, 1, le_rfl⟩

/-- The counter of a window, until its time is over. -/
def entry (length now : ℤ) (w : Option Window) : Option Entry :=
  w.bind fun w => if now < w.start + length then some ⟨w.hits, some (w.start + length)⟩ else none

end Window

/-! ### Stores -/

structure Store (κ : Type) where
  entries : κ → Option Entry

namespace Store

variable {κ : Type}

def empty : Store κ := ⟨fun _ => none⟩

/-- The entry that a command sees. -/
def get? (s : Store κ) (now : ℤ) (k : κ) : Option Entry := (s.entries k).filter (Entry.live now)

/-- `tonumber(redis.call('get',k) or '0')`. -/
def value (s : Store κ) (now : ℤ) (k : κ) : ℤ := ((s.get? now k).map Entry.value).getD 0

/-- `TTL`, for a clock of milliseconds: the time that is left in whole seconds, -1 without an
expiry, -2 without the key. -/
def ttl (s : Store κ) (now : ℤ) (k : κ) : ℤ :=
  match s.get? now k with
  | some e => match e.expiresAt with
    | some t => (t - now + 500) / 1000
    | none => -1
  | none => -2

theorem live_of_get? {s : Store κ} {now : ℤ} {k : κ} {e : Entry} (h : s.get? now k = some e) :
    e.live now = true :=
  (Option.filter_eq_some_iff.mp h).2

theorem value_of_get? {s : Store κ} {now : ℤ} {k : κ} {e : Entry} (h : s.get? now k = some e) :
    s.value now k = e.value := by
  simp [value, h]

theorem value_of_none {s : Store κ} {now : ℤ} {k : κ} (h : s.get? now k = none) :
    s.value now k = 0 := by
  simp [value, h]

theorem ttl_of_get? {s : Store κ} {now t v : ℤ} {k : κ} (h : s.get? now k = some ⟨v, some t⟩) :
    s.ttl now k = (t - now + 500) / 1000 := by
  simp [ttl, h]

theorem lt_of_get? {s : Store κ} {now t v : ℤ} {k : κ} (h : s.get? now k = some ⟨v, some t⟩) :
    now < t := by
  simpa [Entry.live] using live_of_get? h

/-- As the time goes on a key stays what it is until it expires. -/
theorem get?_later {s : Store κ} {now now' : ℤ} {k : κ} (hle : now ≤ now') :
    s.get? now' k = s.get? now k ∨
      s.get? now' k = none ∧ ∃ e t, s.get? now k = some e ∧ e.expiresAt = some t ∧ t ≤ now' := by
  unfold get?
  cases hk : s.entries k with
  | none => exact .inl rfl
  | some e =>
    obtain ⟨v, expiresAt⟩ := e
    simp only [Option.filter_some, Entry.live]
    cases expiresAt with
    | none => exact .inl rfl
    | some t =>
      simp only [Option.all_some, decide_eq_true_eq]
      by_cases hlate : now' < t
      · exact .inl (by rw [if_pos hlate, if_pos (hle.trans_lt hlate)])
      · by_cases hearly : now < t
        · exact .inr ⟨if_neg hlate, ⟨v, some t⟩, t, if_pos hearly, rfl, not_lt.mp hlate⟩
        · exact .inl (by rw [if_neg hlate, if_neg hearly])

theorem get?_of_later {s : Store κ} {now now' : ℤ} {k : κ} {e : Entry} (hle : now ≤ now')
    (h : s.get? now' k = some e) : s.get? now k = some e := by
  rcases s.get?_later (k := k) hle with hsame | ⟨hnone, -⟩
  · rwa [hsame] at h
  · cases hnone.symm.trans h

theorem get?_later_of_lt {s : Store κ} {now now' t v : ℤ} {k : κ} (hle : now ≤ now')
    (hlt : now' < t) (h : s.get? now k = some ⟨v, some t⟩) :
    s.get? now' k = some ⟨v, some t⟩ := by
  rcases s.get?_later (k := k) hle with hsame | ⟨-, e, t', he, ht, hlate⟩
  · rwa [hsame]
  · rw [h] at he
    cases he
    cases ht
    omega

/-- An entry that is there until `t` is still so later. -/
theorem get?_until_later {s : Store κ} {now now' t v : ℤ} {k : κ} (hle : now ≤ now')
    (h : s.get? now k = if now < t then some ⟨v, some t⟩ else none) :
    s.get? now' k = if now' < t then some ⟨v, some t⟩ else none := by
  by_cases hlive : now < t
  · rw [if_pos hlive] at h
    by_cases hlater : now' < t
    · rw [if_pos hlater]
      exact get?_later_of_lt hle hlater h
    · rw [if_neg hlater]
      rcases s.get?_later (k := k) hle with hsame | ⟨hnone, -⟩
      · rw [h] at hsame
        exact absurd (lt_of_get? hsame) hlater
      · exact hnone
  · rw [if_neg hlive] at h
    rw [if_neg (by omega)]
    rcases s.get?_later (k := k) hle with hsame | ⟨hnone, -⟩
    · rw [hsame, h]
    · exact hnone

theorem window_later {s : Store κ} {now now' length : ℤ} {k : κ} {w : Option Window}
    (hle : now ≤ now') (h : s.get? now k = Window.entry length now w) :
    s.get? now' k = Window.entry length now' w := by
  cases w with
  | none =>
    rcases s.get?_later (k := k) hle with hsame | ⟨hnone, -⟩
    · rw [hsame, h]
      rfl
    · exact hnone
  | some w => exact get?_until_later hle h

/-! ### Commands -/

variable [DecidableEq κ]

def set (s : Store κ) (k : κ) (e : Option Entry) : Store κ := ⟨Function.update s.entries k e⟩

/-- `SET … PX`. -/
def setPX (s : Store κ) (now : ℤ) (k : κ) (v duration : ℤ) : Store κ :=
  s.set k (some ⟨v, some (now + duration)⟩)

/-- `SET … PX NX`. -/
def setNX (s : Store κ) (now : ℤ) (k : κ) (v duration : ℤ) : Store κ :=
  match s.get? now k with
  | some _ => s
  | none => s.setPX now k v duration

/-- `INCRBY`; a new key has no expiry. -/
def incrBy (s : Store κ) (now : ℤ) (k : κ) (n : ℤ) : Store κ :=
  s.set k (some (match s.get? now k with
    | some e => { e with value := e.value + n }
    | none => ⟨n, none⟩))

/-- `PEXPIRE`; a time that is not ahead deletes the key. -/
def expireAt (s : Store κ) (now : ℤ) (k : κ) (t : ℤ) : Store κ :=
  match s.get? now k with
  | some e => s.set k (if t ≤ now then none else some { e with expiresAt := some t })
  | none => s

/-- `DEL`. -/
def del (s : Store κ) (now : ℤ) (k : κ) : Store κ :=
  match s.get? now k with
  | some _ => s.set k none
  | none => s

theorem get?_set_self (s : Store κ) (now : ℤ) (k : κ) (e : Option Entry) :
    (s.set k e).get? now k = e.filter (Entry.live now) := by
  simp [get?, set]

theorem get?_set_of_ne (s : Store κ) (now : ℤ) {j k : κ} (h : j ≠ k) (e : Option Entry) :
    (s.set k e).get? now j = s.get? now j := by
  simp [get?, set, h]

theorem get?_setPX_self (s : Store κ) {now duration : ℤ} (k : κ) (v : ℤ) (h : 0 < duration) :
    (s.setPX now k v duration).get? now k = some ⟨v, some (now + duration)⟩ := by
  rw [setPX, get?_set_self, Option.filter_some]
  exact if_pos (by simp [Entry.live, h])

theorem get?_setPX_of_ne (s : Store κ) (now now' : ℤ) {j k : κ} (h : j ≠ k) (v duration : ℤ) :
    (s.setPX now k v duration).get? now' j = s.get? now' j :=
  get?_set_of_ne s now' h _

theorem setNX_of_none {s : Store κ} {now : ℤ} {k : κ} (h : s.get? now k = none)
    (v duration : ℤ) : s.setNX now k v duration = s.setPX now k v duration := by
  simp [setNX, h]

theorem setNX_of_some {s : Store κ} {now : ℤ} {k : κ} {e : Entry} (h : s.get? now k = some e)
    (v duration : ℤ) : s.setNX now k v duration = s := by
  simp [setNX, h]

theorem get?_incrBy_self (s : Store κ) (now : ℤ) (k : κ) (n : ℤ) :
    (s.incrBy now k n).get? now k = some (match s.get? now k with
      | some e => { e with value := e.value + n }
      | none => ⟨n, none⟩) := by
  rw [incrBy, get?_set_self, Option.filter_some]
  cases h : s.get? now k with
  | none => rfl
  | some e => exact if_pos (live_of_get? h)

theorem get?_incrBy_of_ne (s : Store κ) (now now' : ℤ) {j k : κ} (h : j ≠ k) (n : ℤ) :
    (s.incrBy now k n).get? now' j = s.get? now' j :=
  get?_set_of_ne s now' h _

theorem get?_expireAt_of_ne (s : Store κ) (now now' : ℤ) {j k : κ} (h : j ≠ k) (t : ℤ) :
    (s.expireAt now k t).get? now' j = s.get? now' j := by
  unfold expireAt
  split
  · exact get?_set_of_ne s now' h _
  · rfl

theorem get?_expireAt_self {s : Store κ} {now : ℤ} {k : κ} {e : Entry} (t : ℤ)
    (h : s.get? now k = some e) :
    (s.expireAt now k t).get? now k =
      if t ≤ now then none else some { e with expiresAt := some t } := by
  simp only [expireAt, h, get?_set_self]
  split_ifs with ht
  · rfl
  · simp [Option.filter_some, Entry.live, not_le.mp ht]

theorem get?_del_self (s : Store κ) (now : ℤ) (k : κ) : (s.del now k).get? now k = none := by
  unfold del
  split
  · rw [get?_set_self]
    rfl
  · assumption

theorem get?_del_of_ne (s : Store κ) (now now' : ℤ) {j k : κ} (h : j ≠ k) :
    (s.del now k).get? now' j = s.get? now' j := by
  unfold del
  split
  · exact get?_set_of_ne s now' h _
  · rfl

/-- `INCR`, and `PEXPIRE` for the first hit. -/
def hit (s : Store κ) (now : ℤ) (k : κ) (length : ℤ) : ℤ × Store κ :=
  let s := s.incrBy now k 1
  (s.value now k, if s.value now k = 1 then s.expireAt now k (now + length) else s)

theorem get?_hit_of_ne (s : Store κ) (now now' : ℤ) {j k : κ} (h : j ≠ k) (length : ℤ) :
    (s.hit now k length).2.get? now' j = s.get? now' j := by
  unfold hit
  dsimp only
  split_ifs
  · rw [get?_expireAt_of_ne _ _ _ h, get?_incrBy_of_ne _ _ _ h]
  · rw [get?_incrBy_of_ne _ _ _ h]

/-- The counter counts the hits of the window. -/
theorem hit_window {s : Store κ} {now length : ℤ} {k : κ} {w : Option Window}
    (h : s.get? now k = Window.entry length now w) :
    (s.hit now k length).1 = (Window.after length now w).hits ∧
      (s.hit now k length).2.get? now k =
        Window.entry length now (some (Window.after length now w)) := by
  have hself := s.get?_incrBy_self now k 1
  by_cases hlive : ∃ v, w = some v ∧ now < v.start + length
  · obtain ⟨v, rfl, hv⟩ := hlive
    have hpos := v.pos
    have hentry : s.get? now k = some ⟨v.hits, some (v.start + length)⟩ := by
      rw [h, Window.entry, Option.bind_some, if_pos hv]
    rw [hentry] at hself
    have hvalue := value_of_get? hself
    have hnext : (Window.after length now (some v)).hits = v.hits + 1 := by
      simp only [Window.after, if_pos hv]
    have hstart : (Window.after length now (some v)).start = v.start := by
      simp only [Window.after, if_pos hv]
    unfold hit
    dsimp only at hvalue ⊢
    rw [hvalue, if_neg (by omega), hself, Window.entry, Option.bind_some, hnext, hstart, if_pos hv]
    exact ⟨rfl, rfl⟩
  · have hnone : s.get? now k = none := by
      rw [h]
      cases w with
      | none => rfl
      | some v => exact if_neg fun hv => hlive ⟨v, rfl, hv⟩
    have hnext : Window.after length now w = ⟨now, 1, le_rfl⟩ := by
      cases w with
      | none => rfl
      | some v => exact if_neg fun hv => hlive ⟨v, rfl, hv⟩
    rw [hnone] at hself
    have hvalue := value_of_get? hself
    unfold hit
    dsimp only at hvalue ⊢
    rw [hvalue, if_pos rfl, get?_expireAt_self _ hself, hnext, Window.entry, Option.bind_some]
    refine ⟨rfl, ?_⟩
    by_cases hlength : now + length ≤ now
    · rw [if_pos hlength, if_neg (not_lt.mpr hlength)]
    · rw [if_neg hlength, if_pos (not_le.mp hlength)]

end Store

end Expiring
