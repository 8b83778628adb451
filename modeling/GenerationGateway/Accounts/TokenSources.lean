import GenerationGateway.Accounts.Refresh

/-!
# The token sources of a Creative Fabrica refresh

A refresh tries its token sources one after the other. What it should do when none of
them has a token is said over the outcomes of the sources; what it does is read from
its program.
-/

namespace GenerationGateway.Refresh

open Effects

/-- The requests to the provider. -/
def RefreshCall.upstream : RefreshCall → Bool
  | readBalance _ | getSession _ | refreshAccessToken _ | profile _ | queryUserToken _
  | login _ _ => true
  | _ => false

/-- The statements that change tokens, expiry, credentials, cookies, balance or status. -/
def RefreshCall.changesAccount : RefreshCall → Bool
  | updateAccountTokens _ _ _ | updateAccountSession _ _ _ _ _ | setAccountCookieJSON _
  | setAccountCookieCiphertext _ | setAccountCredentialCiphertext _ _ | setAccountError _ => true
  | _ => false

/-! ### The sources of a token -/

inductive TokenSource
  | storedAccessToken | cookieSession | storedRPCToken | passwordLogin
  deriving DecidableEq

structure Attempt where
  source : TokenSource
  outcome : Answer TokenSet
  deriving DecidableEq

/-- The source has a token. -/
def Attempt.yields (a : Attempt) : Prop := ∃ tokens, a.outcome = .ok tokens ∧ tokens.rpcToken ≠ ""

/-- The sources that a refresh tries, in their order, and the cookie header that it found. -/
structure Gathering where
  attempts : List Attempt
  cookieHeader : String

/-- The error of the source tried last. -/
def Gathering.lastError (g : Gathering) : Option RefreshError :=
  g.attempts.getLast?.bind fun a =>
    match a.outcome with
    | .ok _ => none
    | .error err => some err

/-- The source after a cookie session that failed. -/
def sourceAfterCookies (envelope : CreativeFabricaCredentialEnvelope) : Script Attempt := do
  let now : Time ← invoke .timeNow
  if envelope.rpcTokenValid now then
    return ⟨.storedRPCToken, .ok (← tokenSetFromStored envelope envelope.rpcToken)⟩
  else
    return ⟨.passwordLogin, ← loginFallback envelope⟩

/-- The token sources of a refresh with their outcomes. -/
def sourcesTried (account : AccountView) (envelope : CreativeFabricaCredentialEnvelope)
    (force : Bool) (refreshAhead : Time) : Script Gathering := do
  let now : Time ← invoke .timeNow
  if !force && account.accessToken ≠ "" &&
      account.accessTokenExpiresAt.any (fun e => now + refreshAhead < e) then
    match ← invoke (.decrypt account.accessToken) with
    | .error err => return ⟨[⟨.storedAccessToken, .error err⟩], ""⟩
    | .ok token => return ⟨[⟨.storedAccessToken, .ok (← tokenSetFromStored envelope token)⟩], ""⟩
  else
    match ← (accountCookieHeader account).caught with
    | .error err => return ⟨[⟨.cookieSession, .error err⟩], ""⟩
    | .ok cookieHeader =>
      if cookieHeader ≠ "" then
        match ← userToken cookieHeader with
        | .ok sessionToken =>
          return ⟨[⟨.cookieSession, ← exchangeCreativeFabricaSession sessionToken cookieHeader⟩],
            cookieHeader⟩
        | .error err =>
          return ⟨[⟨.cookieSession, .error err⟩, ← sourceAfterCookies envelope], cookieHeader⟩
      else if envelope.email ≠ "" && envelope.password ≠ "" then
        return ⟨[⟨.passwordLogin, ← loginFallback envelope⟩], cookieHeader⟩
      else if envelope.rpcTokenValid (← invoke .timeNow) then
        return ⟨[⟨.storedRPCToken, .ok (← tokenSetFromStored envelope envelope.rpcToken)⟩],
          cookieHeader⟩
      else
        return ⟨[⟨.storedRPCToken, .error .browserSessionRequired⟩], cookieHeader⟩

/-- A refresh up to the moment at which the last source has answered. -/
def gathering (account : AccountView) (force : Bool) (refreshAhead : Time) :
    Script (CreativeFabricaCredentialEnvelope × Gathering) := do
  let envelope ← returned (← invoke .credentials)
  returned (← invoke .prepare)
  return (envelope, ← sourcesTried account envelope force refreshAhead)

/-- What the code makes of the outcomes: a second error is dropped. -/
def tokensOf (g : Gathering) : Answer TokenSet :=
  match g.attempts with
  | [a] => a.outcome
  | [_, b] => .ok (b.outcome.toOption.getD .empty)
  | _ => .ok .empty

/-- The refresh after its sources. -/
def refreshWith (envelope : CreativeFabricaCredentialEnvelope) (g : Gathering) : Script Unit := do
  let tokens ← returned (tokensOf g)
  refreshCreativeFabricaWithTokens envelope g.cookieHeader tokens

theorem storedTokenOrLogin_eq (envelope : CreativeFabricaCredentialEnvelope) :
    storedTokenOrLogin envelope =
      sourceAfterCookies envelope >>= fun a => pure (a.outcome.toOption.getD .empty) := by
  unfold storedTokenOrLogin sourceAfterCookies
  simp only [bind_assoc]
  congr 1
  funext now
  split
  · simp only [bind_assoc, pure_bind]
    exact (bind_pure _).symm
  · simp only [bind_assoc, pure_bind]
    congr 1
    funext r
    cases r <;> rfl

/-- The code's token gathering is the trial of its sources. -/
theorem creativeFabricaTokens_eq (account : AccountView)
    (envelope : CreativeFabricaCredentialEnvelope) (force : Bool) (refreshAhead : Time) :
    creativeFabricaTokens account envelope force refreshAhead =
      sourcesTried account envelope force refreshAhead >>= fun g =>
        returned (tokensOf g) >>= fun tokens => pure (tokens, g.cookieHeader) := by
  unfold creativeFabricaTokens sourcesTried
  simp only [bind_assoc]
  congr 1
  funext now
  split
  · simp only [bind_assoc]
    congr 1
    funext r
    cases r
    · rfl
    · rfl
  · rw [Early.bind_eq_caught_bind (accountCookieHeader account)]
    simp only [bind_assoc]
    congr 1
    funext r
    cases r with
    | error err => rfl
    | ok cookieHeader =>
      dsimp only
      split
      · simp only [bind_assoc]
        congr 1
        funext r
        cases r with
        | ok sessionToken => rfl
        | error err =>
          simp only [storedTokenOrLogin_eq, bind_assoc, pure_bind]
          rfl
      · split
        · simp only [bind_assoc, pure_bind]
          rfl
        · simp only [bind_assoc]
          congr 1
          funext now
          split
          · simp only [bind_assoc, pure_bind]
            rfl
          · rfl

theorem refreshCreativeFabrica_eq (account : AccountView) (force : Bool) (refreshAhead : Time) :
    refreshCreativeFabrica account force refreshAhead =
      gathering account force refreshAhead >>= fun found => refreshWith found.1 found.2 := by
  unfold refreshCreativeFabrica gathering refreshWith
  simp only [creativeFabricaTokens_eq, bind_assoc, pure_bind]

/-- The refresh that the tokens bring about asks for the profile first, where the cookies can
be read. -/
theorem refreshCreativeFabricaWithTokens_eq (envelope : CreativeFabricaCredentialEnvelope)
    (cookieHeader : String) (tokens : TokenSet) :
    ∃ rest : Answer String → Script Unit,
      refreshCreativeFabricaWithTokens envelope cookieHeader tokens =
        if Text.trimSpace cookieHeader = "" then
          creativeFabricaCookieHeader >>= fun header => returned header >>= fun _ =>
            invoke (.profile tokens.rpcToken) >>= rest
        else invoke (.profile tokens.rpcToken) >>= rest := by
  unfold refreshCreativeFabricaWithTokens creativeFabricaProfile
  simp only [bind_assoc]
  exact ⟨_, rfl⟩

/-! ### The calls before the last source has answered -/

/-- The calls of the balance protocol. -/
def RefreshCall.concernsBalance : RefreshCall → Bool
  | beginAccountBalanceRefresh | readBalance _ | updateAccountTokens _ _ _
  | updateAccountSession _ _ _ _ _ => true
  | _ => false

/-- A call that keeps the account as it is and has no part in the balance protocol. -/
def RefreshCall.Reads (op : RefreshCall) : Prop :=
  op.changesAccount = false ∧ op.concernsBalance = false

/-- Such a call that does not leave the process and its store. -/
def RefreshCall.Local (op : RefreshCall) : Prop := op.Reads ∧ op.upstream = false

section Calls

variable {P : RefreshCall → Prop} {α : Type}

theorem sends_invoke {op : RefreshCall} (h : P op) : (invoke op).Sends P := Early.sends_perform h

theorem sends_returned (r : Answer α) : (returned r).Sends P := by
  cases r with
  | ok a => exact Early.sends_pure a
  | error err => exact Early.sends_throw err

theorem sends_invoke_returned {op : RefreshCall} {r : op.Res → Answer α} (h : P op) :
    (invoke op >>= fun a => returned (r a)).Sends P :=
  (sends_invoke h).bind fun a => sends_returned (r a)

theorem creativeFabricaCookieJSON_local : creativeFabricaCookieJSON.Sends RefreshCall.Local := by
  unfold creativeFabricaCookieJSON
  refine (sends_invoke ⟨⟨rfl, rfl⟩, rfl⟩).bind fun account => ?_
  split
  · exact Early.sends_pure _
  · split
    · exact Early.sends_pure _
    · refine (sends_invoke ⟨⟨rfl, rfl⟩, rfl⟩).bind fun plaintext => ?_
      split
      · exact Early.sends_pure _
      · exact sends_invoke ⟨⟨rfl, rfl⟩, rfl⟩

theorem creativeFabricaCookieHeader_local :
    creativeFabricaCookieHeader.Sends RefreshCall.Local := by
  unfold creativeFabricaCookieHeader
  refine creativeFabricaCookieJSON_local.bind fun cookieJSON => ?_
  split
  · exact Early.sends_pure _
  · split
    · exact sends_invoke ⟨⟨rfl, rfl⟩, rfl⟩
    · refine (sends_invoke ⟨⟨rfl, rfl⟩, rfl⟩).bind fun account => ?_
      split
      · exact Early.sends_pure _
      · split
        · exact Early.sends_pure _
        · exact sends_invoke ⟨⟨rfl, rfl⟩, rfl⟩

theorem accountCookieHeader_local (account : AccountView) :
    (accountCookieHeader account).Sends RefreshCall.Local := by
  unfold accountCookieHeader
  refine creativeFabricaCookieJSON_local.bind fun r => (sends_returned r).bind fun cookieJSON => ?_
  have hheader : ∀ header : String,
      (if header = "" && account.cookie ≠ "" then
        invoke (.decrypt account.cookie) >>= fun r => returned r
      else pure header : Script String).Sends RefreshCall.Local := by
    intro header
    split
    · exact sends_invoke_returned ⟨⟨rfl, rfl⟩, rfl⟩
    · exact Early.sends_pure _
  split
  · exact (sends_invoke ⟨⟨rfl, rfl⟩, rfl⟩).bind fun r => (sends_returned r).bind hheader
  · exact hheader ""

theorem tokenSetFromStored_local (envelope : CreativeFabricaCredentialEnvelope) (token : String) :
    (tokenSetFromStored envelope token).Sends RefreshCall.Local := by
  unfold tokenSetFromStored
  exact (sends_invoke ⟨⟨rfl, rfl⟩, rfl⟩).bind fun _ => (sends_invoke ⟨⟨rfl, rfl⟩, rfl⟩).bind fun _ =>
    (sends_invoke ⟨⟨rfl, rfl⟩, rfl⟩).bind fun _ => Early.sends_pure _

theorem exchangeCreativeFabricaSession_local (sessionToken cookieHeader : String) :
    (exchangeCreativeFabricaSession sessionToken cookieHeader).Sends RefreshCall.Local := by
  unfold exchangeCreativeFabricaSession creativeFabricaSessionTokenSet
  exact ((sends_invoke ⟨⟨rfl, rfl⟩, rfl⟩).bind fun _ => Early.sends_pure _).bind fun _ =>
    Early.sends_pure _

theorem mergeCreativeFabricaCookies_local (stored new : String) :
    (mergeCreativeFabricaCookies stored new).Sends RefreshCall.Local := by
  unfold mergeCreativeFabricaCookies
  refine (sends_invoke ⟨⟨rfl, rfl⟩, rfl⟩).bind fun merged => ?_
  split
  · exact Early.sends_pure _
  · split
    · exact Early.sends_pure _
    · refine (sends_invoke ⟨⟨rfl, rfl⟩, rfl⟩).bind fun header => ?_
      split <;> exact Early.sends_pure _

theorem userToken_reads (cookieHeader : String) :
    (userToken cookieHeader).Sends RefreshCall.Reads := by
  unfold userToken
  refine (sends_invoke ⟨rfl, rfl⟩).bind fun token => ?_
  split
  · exact Early.sends_pure _
  · split <;> exact Early.sends_pure _

theorem RefreshCall.Local.reads {op : RefreshCall} (h : op.Local) : op.Reads := h.1

theorem loginFallback_reads (envelope : CreativeFabricaCredentialEnvelope) :
    (loginFallback envelope).Sends RefreshCall.Reads := by
  unfold loginFallback
  split
  · exact Early.sends_pure _
  · refine (sends_invoke ⟨rfl, rfl⟩).bind fun login => ?_
    split
    · exact Early.sends_pure _
    · split
      · exact Early.sends_pure _
      · split
        · exact Early.sends_pure _
        · refine ((exchangeCreativeFabricaSession_local _ _).mono fun _ => RefreshCall.Local.reads).bind
            fun tokens => ?_
          split
          · exact Early.sends_pure _
          · split
            · refine ((mergeCreativeFabricaCookies_local _ _).mono fun _ =>
                RefreshCall.Local.reads).bind fun merged => ?_
              split <;> exact Early.sends_pure _
            · exact Early.sends_pure _

theorem tokenSetFromStored_reads (envelope : CreativeFabricaCredentialEnvelope) (token : String) :
    (tokenSetFromStored envelope token).Sends RefreshCall.Reads :=
  (tokenSetFromStored_local envelope token).mono fun _ => RefreshCall.Local.reads

theorem sourceAfterCookies_reads (envelope : CreativeFabricaCredentialEnvelope) :
    (sourceAfterCookies envelope).Sends RefreshCall.Reads := by
  unfold sourceAfterCookies
  refine (sends_invoke ⟨rfl, rfl⟩).bind fun now => ?_
  split
  · exact (tokenSetFromStored_reads _ _).bind fun _ => Early.sends_pure _
  · exact (loginFallback_reads _).bind fun _ => Early.sends_pure _

theorem sourcesTried_reads (account : AccountView) (envelope : CreativeFabricaCredentialEnvelope)
    (force : Bool) (refreshAhead : Time) :
    (sourcesTried account envelope force refreshAhead).Sends RefreshCall.Reads := by
  unfold sourcesTried
  refine (sends_invoke ⟨rfl, rfl⟩).bind fun now => ?_
  split
  · refine (sends_invoke ⟨rfl, rfl⟩).bind fun token => ?_
    split
    · exact Early.sends_pure _
    · exact (tokenSetFromStored_reads _ _).bind fun _ => Early.sends_pure _
  · refine ((accountCookieHeader_local account).mono fun _ =>
      RefreshCall.Local.reads).caught.bind fun cookieHeader => ?_
    split
    · exact Early.sends_pure _
    · split
      · refine (userToken_reads _).bind fun sessionToken => ?_
        split
        · exact ((exchangeCreativeFabricaSession_local _ _).mono fun _ =>
            RefreshCall.Local.reads).bind fun _ => Early.sends_pure _
        · exact (sourceAfterCookies_reads _).bind fun _ => Early.sends_pure _
      · split
        · exact (loginFallback_reads _).bind fun _ => Early.sends_pure _
        · refine (sends_invoke ⟨rfl, rfl⟩).bind fun now => ?_
          split
          · exact (tokenSetFromStored_reads _ _).bind fun _ => Early.sends_pure _
          · exact Early.sends_pure _

theorem gathering_reads (account : AccountView) (force : Bool) (refreshAhead : Time) :
    (gathering account force refreshAhead).Sends RefreshCall.Reads := by
  unfold gathering
  refine (sends_invoke ⟨rfl, rfl⟩).bind fun r => (sends_returned r).bind
    fun envelope => (sends_invoke ⟨rfl, rfl⟩).bind fun r =>
      (sends_returned r).bind fun _ => ?_
  exact (sourcesTried_reads _ _ _ _).bind fun _ => Early.sends_pure _

end Calls

/-! ### What the refresh does where no source has a token -/

/-- The refresh ends with the error of the source tried last: it asks the provider for
nothing more, and changes nothing of the account. -/
def EndsWithLastError (g : Gathering) (sent : List RefreshCall)
    (outcome : Except RefreshError Unit × List RefreshCall) : Prop :=
  ∃ err later, g.lastError = some err ∧ outcome = (.error err, sent ++ later) ∧
    (∀ op ∈ sent ++ later, op.changesAccount = false) ∧ ∀ op ∈ later, op.upstream = false

/-- A single source was tried, and it failed. -/
def Gathering.FailedAtOnce (g : Gathering) : Prop :=
  ∃ source err, g.attempts = [⟨source, .error err⟩]

/-- The cookies as a refresh with a blank header reads them. -/
def cookiesReadAgain : Script String := do
  returned (← creativeFabricaCookieHeader)

/-- The cookie header is blank, and the cookies cannot be read again, for the reason for which
the last source failed. -/
def Gathering.FailedAgain (g : Gathering) (w : Prog.Answers refreshes) (sent : List RefreshCall) :
    Prop :=
  Text.trimSpace g.cookieHeader = "" ∧
    ∃ err, g.lastError = some err ∧ (cookiesReadAgain.answered w sent).1 = .error err

section Outcome

variable (w : Prog.Answers refreshes) (sent : List RefreshCall)

theorem tokensOf_failed {g : Gathering} {err : RefreshError} (hlast : g.lastError = some err) :
    g.FailedAtOnce ∧ tokensOf g = .error err ∨ ¬ g.FailedAtOnce ∧ tokensOf g = .ok .empty := by
  rcases g with ⟨attempts, cookieHeader⟩
  rcases attempts with _ | ⟨⟨source, outcome⟩, _ | ⟨⟨source', outcome'⟩, _ | ⟨a, rest⟩⟩⟩
  · simp [Gathering.lastError] at hlast
  · left
    cases outcome with
    | ok tokens => simp [Gathering.lastError] at hlast
    | error e =>
      have he : e = err := by simpa [Gathering.lastError] using hlast
      exact ⟨⟨source, e, rfl⟩, by rw [he]; rfl⟩
  · right
    cases outcome' with
    | ok tokens => simp [Gathering.lastError] at hlast
    | error e => exact ⟨by simp [Gathering.FailedAtOnce], rfl⟩
  · right
    exact ⟨by simp [Gathering.FailedAtOnce], rfl⟩

variable {w sent}

/-- After its sources the refresh does not ask for the profile when it ends cleanly. -/
theorem not_profile_first {t : String} {rest : Answer String → Script Unit}
    {earlier later : List RefreshCall} {outcome : Except RefreshError Unit}
    (h : (invoke (.profile t) >>= rest).answered w (sent ++ earlier) = (outcome, sent ++ later))
    (hlater : ∀ op ∈ later, op.upstream = false) : False := by
  obtain ⟨more, hmore⟩ : ∃ more, ((invoke (.profile t) >>= rest).answered w (sent ++ earlier)).2 =
      sent ++ earlier ++ .profile t :: more := Early.mem_answered_perform_bind (S := refreshes) (.profile t) rest
  rw [h, List.append_assoc, List.append_cancel_left_eq] at hmore
  have hprofile := hlater (.profile t) (by rw [hmore]; simp)
  cases hprofile

theorem refreshWith_failedAtOnce (envelope : CreativeFabricaCredentialEnvelope) {g : Gathering}
    (hsent : ∀ op ∈ sent, op.changesAccount = false) (h : g.FailedAtOnce) :
    EndsWithLastError g sent ((refreshWith envelope g).answered w sent) := by
  obtain ⟨source, err, hg⟩ := h
  refine ⟨err, [], by simp [Gathering.lastError, hg], ?_, by simpa using hsent, by simp⟩
  simp [refreshWith, tokensOf, hg, returned]

/-- With no token and no single failure the refresh goes on to the profile, unless the
cookies cannot be read again. -/
theorem refreshWith_eq (envelope : CreativeFabricaCredentialEnvelope) {g : Gathering}
    {err : RefreshError} (hlast : g.lastError = some err) (hnot : ¬ g.FailedAtOnce) :
    ∃ rest : Answer String → Script Unit,
      refreshWith envelope g =
        if Text.trimSpace g.cookieHeader = "" then
          cookiesReadAgain >>= fun _ => invoke (.profile "") >>= rest
        else invoke (.profile "") >>= rest := by
  have htokens : tokensOf g = .ok .empty := by
    rcases tokensOf_failed hlast with ⟨h, -⟩ | ⟨-, h⟩
    · exact absurd h hnot
    · exact h
  obtain ⟨rest, hrest⟩ := refreshCreativeFabricaWithTokens_eq envelope g.cookieHeader .empty
  refine ⟨rest, ?_⟩
  unfold refreshWith cookiesReadAgain
  simp only [htokens, returned, pure_bind, hrest, bind_assoc]
  rfl

theorem cookiesReadAgain_local : cookiesReadAgain.Sends RefreshCall.Local :=
  creativeFabricaCookieHeader_local.bind sends_returned

theorem refreshWith_failedAgain (envelope : CreativeFabricaCredentialEnvelope) {g : Gathering}
    (hsent : ∀ op ∈ sent, op.changesAccount = false) (hnot : ¬ g.FailedAtOnce)
    (h : g.FailedAgain w sent) :
    EndsWithLastError g sent ((refreshWith envelope g).answered w sent) := by
  obtain ⟨hblank, err, hlast, hread⟩ := h
  obtain ⟨rest, hrest⟩ := refreshWith_eq envelope hlast hnot
  obtain ⟨later, hlater, hP⟩ : ∃ later, (cookiesReadAgain.answered w sent).2 = sent ++ later ∧
      ∀ op ∈ later, op.Local := cookiesReadAgain_local.answered
  refine ⟨err, later, hlast, ?_, ?_, fun op hop => (hP op hop).2⟩
  · rw [hrest, if_pos hblank, Early.answered_bind]
    rcases hanswer : cookiesReadAgain.answered w sent with ⟨a | e, sent'⟩
    · rw [hanswer] at hread hlater
      cases hread
      cases hlater
      rfl
    · rw [hanswer] at hread
      cases hread
  · intro op hop
    rcases List.mem_append.mp hop with hop | hop
    · exact hsent op hop
    · exact (hP op hop).1.1

theorem failedAgain_of_endsWithLastError (envelope : CreativeFabricaCredentialEnvelope)
    {g : Gathering} (hnot : ¬ g.FailedAtOnce)
    (h : EndsWithLastError g sent ((refreshWith envelope g).answered w sent)) :
    g.FailedAgain w sent := by
  obtain ⟨err, later, hlast, hout, -, hlater⟩ := h
  obtain ⟨rest, hrest⟩ := refreshWith_eq envelope hlast hnot
  rw [hrest] at hout
  split at hout
  case isTrue hblank =>
    rw [Early.answered_bind] at hout
    refine ⟨hblank, err, hlast, ?_⟩
    obtain ⟨earlier, hearlier, -⟩ : ∃ earlier,
        (cookiesReadAgain.answered w sent).2 = sent ++ earlier ∧ ∀ op ∈ earlier, op.Local :=
      cookiesReadAgain_local.answered
    rcases hanswer : cookiesReadAgain.answered w sent with ⟨e | a, sent'⟩
    · rw [hanswer] at hout
      cases hout
      rfl
    · rw [hanswer] at hout hearlier
      cases hearlier
      exact (not_profile_first hout hlater).elim
  case isFalse hblank =>
    have hfirst : (invoke (.profile "") >>= rest).answered w (sent ++ []) =
        (.error err, sent ++ later) := by simpa using hout
    exact (not_profile_first hfirst hlater).elim

theorem refreshWith_endsWithLastError_iff (envelope : CreativeFabricaCredentialEnvelope)
    (g : Gathering) (hsent : ∀ op ∈ sent, op.changesAccount = false) :
    EndsWithLastError g sent ((refreshWith envelope g).answered w sent) ↔
      g.FailedAtOnce ∨ g.FailedAgain w sent := by
  by_cases honce : g.FailedAtOnce
  · exact iff_of_true (refreshWith_failedAtOnce envelope hsent honce) (Or.inl honce)
  · rw [or_iff_right honce]
    constructor
    · exact failedAgain_of_endsWithLastError envelope honce
    · exact refreshWith_failedAgain envelope hsent honce

end Outcome

/-- Where no source has a token, the refresh ends with the last error and changes nothing. -/
def FailsCleanly (g : Gathering) (sent : List RefreshCall)
    (outcome : Except RefreshError Unit × List RefreshCall) : Prop :=
  (∀ a ∈ g.attempts, ¬ a.yields) → EndsWithLastError g sent outcome

/-- A refresh fails cleanly exactly when some source has a token, or a single source was
tried and failed, or the cookies cannot be read again. -/
theorem failedLogin_clean_iff (account : AccountView) (force : Bool) (refreshAhead : Time)
    (w : Prog.Answers refreshes) (envelope : CreativeFabricaCredentialEnvelope) (g : Gathering)
    (sent : List RefreshCall)
    (hg : (gathering account force refreshAhead).answered w [] = (.ok (envelope, g), sent)) :
    FailsCleanly g sent ((refreshCreativeFabrica account force refreshAhead).answered w []) ↔
      (∃ a ∈ g.attempts, a.yields) ∨ g.FailedAtOnce ∨ g.FailedAgain w sent := by
  have hsent : ∀ op ∈ sent, op.changesAccount = false := by
    obtain ⟨later, hlater, hP⟩ : ∃ later,
        ((gathering account force refreshAhead).answered w []).2 = [] ++ later ∧
          ∀ op ∈ later, op.Reads :=
      (gathering_reads account force refreshAhead).answered
    rw [hg] at hlater
    cases hlater
    exact fun op hop => (hP op hop).1
  rw [refreshCreativeFabrica_eq, Early.answered_bind_of_ok w [] hg,
    ← refreshWith_endsWithLastError_iff envelope g hsent]
  unfold FailsCleanly
  constructor
  · intro h
    by_cases hyields : ∃ a ∈ g.attempts, a.yields
    · exact Or.inl hyields
    · exact Or.inr (h fun a ha hy => hyields ⟨a, ha, hy⟩)
  · rintro (⟨a, ha, hy⟩ | h) hnone
    · exact absurd hy (hnone a ha)
    · exact h

/-- An account with a cookie header and without a stored token. -/
def signedIn (cookie : String) : AccountView := ⟨.creativefabrica, "", none, cookie, ""⟩

def withoutCredentials : CreativeFabricaCredentialEnvelope := ⟨"", "", "", "", "", none, none, none⟩

/-- A provider that takes no session, but answers the profile and the balance. -/
def sessionRejected (cookie : String) : Prog.Answers refreshes := fun _ op =>
  match op with
  | .getAccount => .ok (signedIn cookie)
  | .credentials => .ok withoutCredentials
  | .beginAccountBalanceRefresh => .ok 1
  | .updateAccountTokens _ _ _ | .updateAccountSession _ _ _ _ _ => .ok true
  | .setAccountCookieJSON _ | .setAccountCookieCiphertext _ | .setAccountCredentialCiphertext _ _
  | .setAccountError _ | .prepare | .acquireProxyControl | .encryptEnvelope _ => .ok ()
  | .timeNow => (0 : Time)
  | .decrypt text | .encrypt text | .normalizeCookieJSON text | .cookieHeaderFromJSON text
  | .mergeCookieJSON _ text => .ok text
  | .tokenExpiresAt _ => none
  | .parseAccessToken _ => .ok 0
  | .readBalance _ => .ok ⟨7, 0, 0⟩
  | .getSession _ => .error (.upstream "unauthorized")
  | .refreshAccessToken _ | .queryUserToken _ => .error (.upstream "unauthorized")
  | .profile _ => .ok ""
  | .login _ _ => .error (.upstream "unauthorized")

theorem failedLogin_clean_noCookies :
    FailsCleanly ⟨[⟨.storedRPCToken, .error .browserSessionRequired⟩], ""⟩
      [.credentials, .prepare, .timeNow, .getAccount, .timeNow]
      ((refreshCreativeFabrica (signedIn "") true 0).answered (sessionRejected "") []) :=
  (failedLogin_clean_iff (signedIn "") true 0 (sessionRejected "") withoutCredentials _ _ rfl).mpr
    (Or.inr (Or.inl ⟨_, _, rfl⟩))

/-- The calls up to the rejected cookies. -/
def callsBefore : List RefreshCall :=
  [.credentials, .prepare, .timeNow, .getAccount, .decrypt "session=1",
    .queryUserToken "session=1", .timeNow]

/-- The calls with the empty token. -/
def callsAfter : List RefreshCall :=
  [.profile "", .readBalance "", .encryptEnvelope withoutCredentials,
    .setAccountCredentialCiphertext withoutCredentials false, .beginAccountBalanceRefresh,
    .encrypt "", .timeNow, .updateAccountSession 1 "" (minutes 30) 0 ⟨7, 0, 0⟩, .getAccount]

/-- The provider rejects the cookies and there is no password: the account gets an empty token
and a balance. -/
theorem failedLogin_storesEmptyToken :
    ∃ g,
      (gathering (signedIn "session=1") true 0).answered (sessionRejected "session=1") [] =
        (.ok (withoutCredentials, g), callsBefore) ∧
      (refreshCreativeFabrica (signedIn "session=1") true 0).answered
        (sessionRejected "session=1") [] = (.ok (), callsBefore ++ callsAfter) ∧
      ¬ FailsCleanly g callsBefore (.ok (), callsBefore ++ callsAfter) := by
  refine ⟨_, rfl, rfl, ?_⟩
  intro h
  obtain ⟨err, later, -, hout, -⟩ := h (by simp [Attempt.yields])
  cases hout

end GenerationGateway.Refresh
