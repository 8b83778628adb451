import GenerationGateway.Library.Bytes
import GenerationGateway.Library.Reachability
import GenerationGateway.Library.Sweeps
import GenerationGateway.Store.Schema

/-!
# Sessions of the administrator

A login reads the credential, and stores a session for twelve hours when the password matches. A
change of the password writes a new credential and then sweeps the sessions away. The steps of
logins and changes interleave with one another.
-/

namespace GenerationGateway.Admin

open Bytes Sweeps Transitions

/-- The row of the administrator in the database. -/
structure Credential where
  salt : ByteString
  hash : ByteString
  deriving DecidableEq

/-- The configuration, with the credential of its password and the two hash functions. -/
structure Config where
  adminUsername : String
  adminCredential : Credential
  /-- `argon2.IDKey` with the parameters of the source. -/
  idKey : String → ByteString → ByteString
  sha256 : String → ByteString

/-- Without a row the password of the configuration counts. -/
def verifyAdminPassword (cfg : Config) (row : Option Credential) (username password : String) :
    Bool :=
  username = cfg.adminUsername &&
    cfg.idKey password (row.getD cfg.adminCredential).salt =
      (row.getD cfg.adminCredential).hash

/-- A login whose password has been accepted, with the row that it was checked against. -/
structure Login where
  username : String
  password : String
  checked : Option Credential
  deriving DecidableEq

/-- A key under "leo:admin:session:" with the login that it was stored for. -/
structure Session where
  hash : ByteString
  expiresAt : Time
  login : Login
  deriving DecidableEq

inductive Change
  /-- The current password has been accepted. -/
  | verified (newPassword : String)
  /-- The new credential is written. -/
  | written
  | clearing (sweep : Sweep ByteString)
  deriving DecidableEq

structure State where
  clock : Time
  credential : Option Credential
  sessions : List Session
  logins : List Login
  changes : List Change

def State.initial (now : Time) : State := ⟨now, none, [], [], []⟩

def Session.live (now : Time) (x : Session) : Bool := now < x.expiresAt

def State.present (s : State) (hash : ByteString) : Bool :=
  s.sessions.any fun x => decide (x.hash = hash) && x.live s.clock

/-- The session of a cookie is there. -/
def adminAuth (cfg : Config) (s : State) (cookie : String) : Bool := s.present (cfg.sha256 cookie)

inductive Act
  | tick (now : Time)
  /-- `adminLogin` up to the check of the password. -/
  | login (username password : String)
  /-- The session of a login is stored under a new token. -/
  | store (i : ℕ) (token : String)
  | fail (i : ℕ)
  /-- `adminChangePassword` up to the check of the current password. -/
  | change (cookie current newPassword : String)
  | write (i : ℕ) (salt : ByteString)
  /-- `SCAN` returns a batch of keys. -/
  | scan (i : ℕ) (batch : List ByteString)
  /-- `DEL` of the batch, which reaches Redis or not. -/
  | delete (i : ℕ) (reached : Bool)
  /-- The cursor is back at zero. -/
  | finish (i : ℕ)
  /-- The change ends early: a read or a write fails, or the scan does. -/
  | abandon (i : ℕ)

namespace State

/-- The sweep of a change that takes its next batch. -/
def sweepOf (s : State) : Change → Option (Sweep ByteString)
  | .verified _ => none
  | .written => some (.start ((s.sessions.filter (Session.live s.clock)).map Session.hash))
  | .clearing sweep => if sweep.found = [] then some sweep else none

def put (s : State) (x : Session) : State :=
  { s with
    sessions := s.sessions.filter (fun y => y.hash ≠ x.hash) ++ [x]
    changes := if s.present x.hash then s.changes
      else s.changes.map fun
        | .clearing sweep => .clearing (sweep.arrive x.hash)
        | c => c }

def setChange (s : State) (i : ℕ) (c : Change) : State := { s with changes := s.changes.set i c }

def endChange (s : State) (i : ℕ) : State := { s with changes := s.changes.eraseIdx i }

def step (cfg : Config) (s : State) : Act → Option State
  | .tick now => if s.clock ≤ now then some { s with clock := now } else none
  | .login username password =>
    if verifyAdminPassword cfg s.credential username password then
      some { s with logins := s.logins ++ [⟨username, password, s.credential⟩] }
    else none
  | .store i token =>
    s.logins[i]?.map fun l =>
      { s with logins := s.logins.eraseIdx i }.put
        ⟨cfg.sha256 token, s.clock + hours 12, l⟩
  | .fail i => s.logins[i]?.map fun _ => { s with logins := s.logins.eraseIdx i }
  | .change cookie current newPassword =>
    if adminAuth cfg s cookie && 8 ≤ newPassword.utf8ByteSize && current ≠ newPassword &&
        verifyAdminPassword cfg s.credential cfg.adminUsername current then
      some { s with changes := s.changes ++ [.verified newPassword] }
    else none
  | .write i salt =>
    match s.changes[i]? with
    | some (.verified newPassword) =>
      some { s.setChange i .written with
        credential := some ⟨salt, cfg.idKey newPassword salt⟩ }
    | _ => none
  | .scan i batch =>
    (s.changes[i]?.bind s.sweepOf).bind fun sweep =>
      if batch.all s.present then some (s.setChange i (.clearing (sweep.take batch))) else none
  | .delete i reached =>
    match s.changes[i]? with
    | some (.clearing sweep) =>
      some { s.setChange i (.clearing sweep.clear) with
        sessions := if reached then s.sessions.filter fun x => !sweep.found.contains x.hash
          else s.sessions }
    | _ => none
  | .finish i =>
    match s.changes[i]? with
    | some (.clearing sweep) =>
      if sweep.found = [] ∧ sweep.pending.all (fun k => !s.present k) then some (s.endChange i)
      else none
    | _ => none
  | .abandon i => s.changes[i]?.map fun _ => s.endChange i

/-- No login is between its check and its session when a credential is written, the deletions reach
Redis, and a change that has begun to sweep comes to its end. -/
def orderly (s : State) : Act → Bool
  | .write _ _ => s.logins.isEmpty
  | .delete _ reached => reached
  | .abandon i => s.changes[i]?.all fun
    | .verified _ => true
    | _ => false
  | _ => true

end State

def sessions (cfg : Config) : LTS State Act := .ofStep (State.step cfg)

def orderlySessions (cfg : Config) : LTS State Act :=
  (sessions cfg).restrict fun s act => s.orderly act = true

/-! ### What the sweeps owe -/

/-- The change has still to deal with the key. -/
def Change.Owes (k : ByteString) : Change → Prop
  | .verified _ => False
  | .written => True
  | .clearing sweep => sweep.Owes k

def Owed (changes : List Change) (k : ByteString) : Prop := ∃ c ∈ changes, c.Owes k

section Owed

variable {changes : List Change} {i : ℕ} {c c' : Change} {k : ByteString}

theorem mem_set (hi : changes[i]? = some c) : c' ∈ changes.set i c' :=
  List.mem_set (List.getElem?_eq_some_iff.mp hi).1 c'

theorem owed_set (hi : changes[i]? = some c) (hc : c.Owes k → c'.Owes k) (h : Owed changes k) :
    Owed (changes.set i c') k := by
  obtain ⟨d, hd, howes⟩ := h
  obtain ⟨j, hj⟩ := List.mem_iff_getElem?.mp hd
  by_cases hij : i = j
  · subst hij
    rw [hi, Option.some.injEq] at hj
    subst hj
    exact ⟨c', mem_set hi, hc howes⟩
  · exact ⟨d, List.mem_iff_getElem?.mpr ⟨j, by rw [List.getElem?_set_ne hij, hj]⟩, howes⟩

theorem owed_erase (hi : changes[i]? = some c) (hc : ¬ c.Owes k) (h : Owed changes k) :
    Owed (changes.eraseIdx i) k := by
  obtain ⟨d, hd, howes⟩ := h
  obtain ⟨j, hj⟩ := List.mem_iff_getElem?.mp hd
  have hij : j ≠ i := by
    rintro rfl
    rw [hi, Option.some.injEq] at hj
    exact hc (hj ▸ howes)
  exact ⟨d, List.mem_eraseIdx_iff_getElem?.mpr ⟨j, hij, hj⟩, howes⟩

theorem owed_map {f : Change → Change} (hf : ∀ c, c.Owes k → (f c).Owes k) (h : Owed changes k) :
    Owed (changes.map f) k := by
  obtain ⟨d, hd, howes⟩ := h
  exact ⟨f d, List.mem_map_of_mem hd, hf d howes⟩

end Owed

/-! ### Runs -/

/-- The password of the login matches the row that it was checked against. -/
def Login.Passed (cfg : Config) (l : Login) : Prop :=
  verifyAdminPassword cfg l.checked l.username l.password = true

structure Sound (cfg : Config) (s : State) : Prop where
  passed : ∀ l ∈ s.logins, l.Passed cfg
  current : ∀ l ∈ s.logins, l.checked = s.credential
  stored : ∀ x ∈ s.sessions, x.login.Passed cfg ∧ x.expiresAt ≤ s.clock + hours 12
  swept : ∀ x ∈ s.sessions, x.live s.clock = true →
    x.login.checked = s.credential ∨ Owed s.changes x.hash

section Steps

variable {cfg : Config} {s : State} {i : ℕ}

theorem present_of_mem {x : Session} (hx : x ∈ s.sessions) (hlive : x.live s.clock = true) :
    s.present x.hash = true := by
  rw [State.present, List.any_eq_true]
  exact ⟨x, hx, by simp [hlive]⟩

/-- A step of a change that keeps what the change owes. -/
theorem Sound.setChange {c c' : Change} (h : Sound cfg s) (hi : s.changes[i]? = some c)
    (hc : ∀ x ∈ s.sessions, x.live s.clock = true → c.Owes x.hash → c'.Owes x.hash) :
    Sound cfg (s.setChange i c') where
  passed := h.passed
  current := h.current
  stored := h.stored
  swept := by
    intro x hx hlive
    exact (h.swept x hx hlive).imp_right (owed_set hi (hc x hx hlive))

theorem Sound.endChange {c : Change} (h : Sound cfg s) (hi : s.changes[i]? = some c)
    (hc : ∀ x ∈ s.sessions, x.live s.clock = true → ¬ c.Owes x.hash) :
    Sound cfg (s.endChange i) where
  passed := h.passed
  current := h.current
  stored := h.stored
  swept := by
    intro x hx hlive
    exact (h.swept x hx hlive).imp_right (owed_erase hi (hc x hx hlive))

theorem Sound.dropLogin (h : Sound cfg s) : Sound cfg { s with logins := s.logins.eraseIdx i } where
  passed := fun l hl => h.passed l ((List.eraseIdx_sublist _ _).subset hl)
  current := fun l hl => h.current l ((List.eraseIdx_sublist _ _).subset hl)
  stored := h.stored
  swept := h.swept

theorem Sound.put {hash : ByteString} {l : Login} (h : Sound cfg s) (hpassed : l.Passed cfg)
    (hcurrent : l.checked = s.credential) :
    Sound cfg (s.put ⟨hash, s.clock + hours 12, l⟩) where
  passed := h.passed
  current := h.current
  stored := by
    intro x hx
    rcases List.mem_append.mp hx with hold | hnew
    · exact h.stored x (List.mem_of_mem_filter hold)
    · rw [List.mem_singleton] at hnew
      subst hnew
      exact ⟨hpassed, le_rfl⟩
  swept := by
    intro x hx hlive
    rcases List.mem_append.mp hx with hold | hnew
    · obtain ⟨hx, hne⟩ := List.mem_filter.mp hold
      rw [decide_eq_true_eq] at hne
      apply (h.swept x hx hlive).imp_right
      intro howed
      unfold State.put
      dsimp only
      split_ifs
      · exact howed
      · apply owed_map _ howed
        intro c howes
        cases c with
        | verified _ => exact howes
        | written => exact howes
        | clearing sweep => exact Sweep.owes_arrive howes hne
    · rw [List.mem_singleton] at hnew
      subst hnew
      exact .inl hcurrent

theorem Sound.tick {now : Time} (h : Sound cfg s) (hle : s.clock ≤ now) :
    Sound cfg { s with clock := now } where
  passed := h.passed
  current := h.current
  stored := by
    intro x hx
    obtain ⟨hpassed, hyoung⟩ := h.stored x hx
    exact ⟨hpassed, hyoung.trans (by linarith)⟩
  swept := by
    intro x hx hlive
    have hnow : now < x.expiresAt := of_decide_eq_true hlive
    exact h.swept x hx (decide_eq_true (hle.trans_lt hnow))

/-- The new credential makes every session an old one, which its change owes. -/
theorem Sound.write {newPassword : String} {row : Credential} (h : Sound cfg s)
    (hi : s.changes[i]? = some (.verified newPassword)) (hlogins : s.logins = []) :
    Sound cfg { s.setChange i .written with credential := some row } where
  passed := h.passed
  current := by
    intro l hl
    change l ∈ s.logins at hl
    rw [hlogins] at hl
    cases hl
  stored := h.stored
  swept := by
    intro x _ _
    right
    exact ⟨.written, mem_set hi, trivial⟩

/-- The deleted keys are those that the change has found. -/
theorem Sound.delete {sweep : Sweep ByteString} (h : Sound cfg s)
    (hi : s.changes[i]? = some (.clearing sweep)) :
    Sound cfg { s.setChange i (.clearing sweep.clear) with
      sessions := s.sessions.filter fun x => !sweep.found.contains x.hash } where
  passed := h.passed
  current := h.current
  stored := fun x hx => h.stored x (List.mem_of_mem_filter hx)
  swept := by
    intro x hx hlive
    obtain ⟨hx, hkept⟩ := List.mem_filter.mp hx
    apply (h.swept x hx hlive).imp_right
    exact owed_set hi fun howes => Sweep.owes_clear howes (by simpa using hkept)

theorem sound_step {s' : State} {act : Act} (h : s.step cfg act = some s')
    (horderly : s.orderly act = true) (hs : Sound cfg s) : Sound cfg s' := by
  cases act with
  | tick now =>
    simp only [State.step, Option.ite_none_right_eq_some, Option.some.injEq] at h
    obtain ⟨hle, rfl⟩ := h
    exact hs.tick hle
  | login username password =>
    simp only [State.step, Option.ite_none_right_eq_some, Option.some.injEq] at h
    obtain ⟨hpassed, rfl⟩ := h
    refine ⟨?_, ?_, hs.stored, hs.swept⟩
    · intro l hl
      rcases List.mem_append.mp hl with hold | hnew
      · exact hs.passed l hold
      · rw [List.mem_singleton] at hnew
        subst hnew
        exact hpassed
    · intro l hl
      rcases List.mem_append.mp hl with hold | hnew
      · exact hs.current l hold
      · rw [List.mem_singleton] at hnew
        subst hnew
        rfl
  | store i token =>
    obtain ⟨l, hl, rfl⟩ := Option.map_eq_some_iff.mp h
    have hmem : l ∈ s.logins := List.mem_of_getElem? hl
    exact hs.dropLogin.put (hs.passed l hmem) (hs.current l hmem)
  | fail i =>
    obtain ⟨l, hl, rfl⟩ := Option.map_eq_some_iff.mp h
    exact hs.dropLogin
  | change cookie current newPassword =>
    simp only [State.step, Option.ite_none_right_eq_some, Option.some.injEq] at h
    obtain ⟨-, rfl⟩ := h
    refine ⟨hs.passed, hs.current, hs.stored, fun x hx hlive => ?_⟩
    apply (hs.swept x hx hlive).imp_right
    rintro ⟨c, hc, howes⟩
    exact ⟨c, List.mem_append_left _ hc, howes⟩
  | write i salt =>
    simp only [State.step] at h
    split at h
    · rename_i newPassword hi
      rw [Option.some.injEq] at h
      subst h
      exact hs.write hi (List.isEmpty_iff.mp horderly)
    · cases h
  | scan i batch =>
    simp only [State.step] at h
    obtain ⟨sweep, hsweep, h⟩ := Option.bind_eq_some_iff.mp h
    obtain ⟨c, hi, hsweep⟩ := Option.bind_eq_some_iff.mp hsweep
    simp only [Option.ite_none_right_eq_some, Option.some.injEq] at h
    obtain ⟨-, rfl⟩ := h
    apply hs.setChange hi
    intro x hx hlive howes
    cases c with
    | verified _ => exact howes.elim
    | written =>
      simp only [State.sweepOf, Option.some.injEq] at hsweep
      subst hsweep
      apply Sweep.owes_take _ rfl
      apply Sweep.owes_start
      exact List.mem_map_of_mem (List.mem_filter.mpr ⟨hx, hlive⟩)
    | clearing old =>
      simp only [State.sweepOf, Option.ite_none_right_eq_some, Option.some.injEq] at hsweep
      obtain ⟨hfound, rfl⟩ := hsweep
      exact Sweep.owes_take howes hfound
  | delete i reached =>
    simp only [State.step] at h
    split at h
    · rename_i sweep hi
      rw [Option.some.injEq] at h
      subst h
      have hreached : reached = true := horderly
      rw [if_pos hreached]
      exact hs.delete hi
    · cases h
  | finish i =>
    simp only [State.step] at h
    split at h
    · rename_i sweep hi
      simp only [Option.ite_none_right_eq_some, Option.some.injEq] at h
      obtain ⟨⟨hfound, hpending⟩, rfl⟩ := h
      apply hs.endChange hi
      intro x hx hlive
      apply Sweep.not_owes (p := fun k => s.present k = true) hfound _ (present_of_mem hx hlive)
      intro k hk
      simpa using List.all_eq_true.mp hpending k hk
    · cases h
  | abandon i =>
    obtain ⟨c, hi, rfl⟩ := Option.map_eq_some_iff.mp h
    apply hs.endChange hi
    intro x _ _ howes
    simp only [State.orderly, hi, Option.all_some] at horderly
    cases c with
    | verified _ => exact howes
    | written => cases horderly
    | clearing _ => cases horderly

end Steps

theorem sound_initial (cfg : Config) (now : Time) : Sound cfg (.initial now) where
  passed := by simp [State.initial]
  current := by simp [State.initial]
  stored := by simp [State.initial]
  swept := by simp [State.initial]

/-- In every orderly run a cookie that is accepted is that of a login of the last twelve hours,
whose password matches the credential that counts now, unless the session is one that a change of
the password is about to remove. -/
theorem sessions_current {cfg : Config} {now : Time} {s : State} {cookie : String}
    (h : (orderlySessions cfg).Reachable (.initial now) s) (hauth : adminAuth cfg s cookie = true) :
    ∃ x ∈ s.sessions, x.hash = cfg.sha256 cookie ∧ s.clock < x.expiresAt ∧
      x.expiresAt ≤ s.clock + hours 12 ∧
      verifyAdminPassword cfg x.login.checked x.login.username x.login.password = true ∧
      (x.login.checked = s.credential ∨ ∃ c ∈ s.changes, c.Owes x.hash) := by
  have hs : Sound cfg s := by
    refine LTS.Reachable.invariant ?_ h (sound_initial cfg now)
    intro t act t' hstep ht
    exact sound_step hstep.1 hstep.2 ht
  rw [adminAuth, State.present, List.any_eq_true] at hauth
  obtain ⟨x, hx, hlive⟩ := hauth
  rw [Bool.and_eq_true, decide_eq_true_eq] at hlive
  obtain ⟨hpassed, hyoung⟩ := hs.stored x hx
  exact ⟨x, hx, hlive.1, of_decide_eq_true hlive.2, hyoung, hpassed, hs.swept x hx hlive.2⟩

/-- A password hash that keeps the password, and a token hash that keeps the token. -/
def plainConfig : Config where
  adminUsername := "admin"
  adminCredential := ⟨[], "old password".toList.map fun c => c.toNat.toUInt8⟩
  idKey password salt := salt ++ password.toList.map fun c => c.toNat.toUInt8
  sha256 token := token.toList.map fun c => c.toNat.toUInt8

def firstKey : ByteString := plainConfig.sha256 "first"

def passwordChanged : List Act :=
  [.login "admin" "old password", .store 0 "first", .change "first" "old password" "new password",
    .write 0 [7], .scan 0 [firstKey], .delete 0 true, .finish 0, .login "admin" "new password",
    .store 0 "second"]

theorem sessions_current_passwordChanged :
    ∃ s : State, adminAuth plainConfig s "first" = false ∧
      ∃ x ∈ s.sessions, x.hash = plainConfig.sha256 "second" ∧ x.login.checked = s.credential := by
  have hrun : (LTS.follow (State.step plainConfig) State.orderly (.initial 0) passwordChanged).map
      (fun s => (adminAuth plainConfig s "first", adminAuth plainConfig s "second", s.changes)) =
        some (false, true, []) := by
    decide +kernel
  obtain ⟨s, hs, hfacts⟩ := Option.map_eq_some_iff.mp hrun
  simp only [Prod.mk.injEq] at hfacts
  obtain ⟨x, hx, hhash, -, -, -, hchecked⟩ :=
    sessions_current ⟨passwordChanged, LTS.run_of_follow hs⟩ hfacts.2.1
  refine ⟨s, hfacts.1, x, hx, hhash, ?_⟩
  rcases hchecked with hsame | ⟨c, hc, -⟩
  · exact hsame
  · rw [hfacts.2.2] at hc
    cases hc

/-- A login is checked before the change of the password and stored after it. -/
def loginRaced : List Act :=
  [.login "admin" "old password", .store 0 "first", .login "admin" "old password",
    .change "first" "old password" "new password", .write 0 [7], .scan 0 [firstKey],
    .delete 0 true, .finish 0, .store 0 "late"]

/-- The session of the old password stays. -/
theorem sessions_loginRaced :
    ¬ ∀ s, (sessions plainConfig).Reachable (.initial 0) s → s.changes = [] →
      ∀ x ∈ s.sessions, x.login.checked = s.credential := by
  intro h
  have hrun : (LTS.follow (State.step plainConfig) (fun _ _ => true) (.initial 0) loginRaced).map
      (fun s => (s.changes, s.credential, s.sessions)) =
        some ([], some ⟨[7], 7 :: "new password".toList.map fun c => c.toNat.toUInt8⟩,
          [⟨plainConfig.sha256 "late", hours 12, ⟨"admin", "old password", none⟩⟩]) := by
    decide +kernel
  obtain ⟨s, hs, hfacts⟩ := Option.map_eq_some_iff.mp hrun
  simp only [Prod.mk.injEq] at hfacts
  have hreach : (sessions plainConfig).Reachable (.initial 0) s :=
    ⟨loginRaced, (LTS.run_of_follow hs).of_restrict⟩
  have hsame := h s hreach hfacts.1
  rw [hfacts.2.2, hfacts.2.1] at hsame
  simp at hsame

end GenerationGateway.Admin
