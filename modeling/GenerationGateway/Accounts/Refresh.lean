import GenerationGateway.Library.Program
import GenerationGateway.Library.Text
import GenerationGateway.Accounts.Session

/-!
# Refreshing an account

The refreshes of the three providers as programs over their calls: statements on the
account, requests to the provider, and local steps that may fail. A ciphertext is
written as the text that it holds.
-/

namespace GenerationGateway.Refresh

open Effects

inductive RefreshError
  | notFound
  | database
  | cipher
  | cookies
  | config
  | context
  | proxyControl
  /-- What a provider answered. -/
  | upstream (message : String)
  | browserSessionRequired
  | staleBalanceRefresh
  | lockTimeout
  | otpRequired (challenge : String)
  | noSessionToken
  | noUserToken
  | balanceUnverified (persisted : Bool)
  deriving DecidableEq

abbrev Answer (α : Type) := Except RefreshError α

/-- The account as `GetAccount` returns it, as far as a refresh reads it. -/
structure AccountView where
  providerID : ProviderID
  accessToken : String
  accessTokenExpiresAt : Option Time
  cookie : String
  cookieJSON : String
  deriving DecidableEq

structure CreativeFabricaCredentialEnvelope where
  email : String
  password : String
  sessionToken : String
  accessToken : String
  rpcToken : String
  sessionTokenExpiresAt : Option Time
  accessTokenExpiresAt : Option Time
  rpcTokenExpiresAt : Option Time
  deriving DecidableEq

/-- The tokens of a Creative Fabrica session; an expiry is what `ParseTokenInfo` reads in
the token. -/
structure TokenSet where
  sessionToken : String
  accessToken : String
  rpcToken : String
  sessionExpiresAt : Option Time
  accessExpiresAt : Option Time
  rpcExpiresAt : Option Time
  cookieHeader : String
  cookieJSON : String
  deriving DecidableEq

def TokenSet.empty : TokenSet := ⟨"", "", "", none, none, none, "", ""⟩

structure LoginResult where
  sessionToken : String
  challenge : Option String
  cookieHeader : String
  cookieJSON : String
  deriving DecidableEq

structure LeonardoSession where
  accessToken : String
  accessTokenExpiry : Time
  deriving DecidableEq

inductive RefreshCall
  | getAccount
  | credentials
  | beginAccountBalanceRefresh
  | updateAccountTokens (version : ℤ) (startedAt : Time) (credits : SessionAccount.Credits)
  | updateAccountSession (version : ℤ) (token : String) (expiry startedAt : Time)
    (credits : SessionAccount.Credits)
  | setAccountCookieJSON (cookieJSON : String)
  | setAccountCookieCiphertext (cookie : String)
  | setAccountCredentialCiphertext (envelope : CreativeFabricaCredentialEnvelope)
    (configured : Bool)
  | setAccountError (message : String)
  | timeNow
  /-- A lock, a wait or a client that may be refused. -/
  | prepare
  | acquireProxyControl
  | decrypt (ciphertext : String)
  | encrypt (plaintext : String)
  | encryptEnvelope (envelope : CreativeFabricaCredentialEnvelope)
  | normalizeCookieJSON (cookieJSON : String)
  | cookieHeaderFromJSON (cookieJSON : String)
  | mergeCookieJSON (stored new : String)
  | tokenExpiresAt (token : String)
  | parseAccessToken (token : String)
  /-- `GetTokens`, `Credits`, `Coins`: the provider reads the balance. -/
  | readBalance (token : String)
  | getSession (cookie : String)
  | refreshAccessToken (cookie : String)
  /-- The e-mail address of the profile. -/
  | profile (token : String)
  /-- The token that the answer of the `UserToken` query holds, empty where it has none. -/
  | queryUserToken (cookie : String)
  | login (email password : String)

@[reducible] def RefreshCall.Res : RefreshCall → Type
  | getAccount => Answer AccountView
  | credentials => Answer CreativeFabricaCredentialEnvelope
  | beginAccountBalanceRefresh => Answer ℤ
  | updateAccountTokens _ _ _ | updateAccountSession _ _ _ _ _ => Answer Bool
  | setAccountCookieJSON _ | setAccountCookieCiphertext _ | setAccountCredentialCiphertext _ _
  | setAccountError _ => Answer Unit
  | timeNow => Time
  | prepare | acquireProxyControl | encryptEnvelope _ => Answer Unit
  | decrypt _ | encrypt _ | normalizeCookieJSON _ | cookieHeaderFromJSON _
  | mergeCookieJSON _ _ => Answer String
  | tokenExpiresAt _ => Option Time
  | parseAccessToken _ => Answer Time
  | readBalance _ => Answer SessionAccount.Credits
  | getSession _ => Answer LeonardoSession
  | refreshAccessToken _ => Answer String
  | profile _ => Answer String
  | queryUserToken _ => Answer String
  | login _ _ => Answer LoginResult

abbrev refreshes : Signature := ⟨RefreshCall, RefreshCall.Res⟩

abbrev Script (α : Type) := Early refreshes RefreshError α

abbrev invoke (op : RefreshCall) : Script op.Res := Early.perform (S := refreshes) op

/-- `if err != nil { return account, err }`. -/
def returned {α : Type} : Answer α → Script α
  | .ok a => pure a
  | .error err => throw err

/-- The balance of a provider that has one number for it. -/
def available (coins : SessionAccount.Credits) : SessionAccount.Credits :=
  ⟨coins.subscription, 0, 0⟩

/-! ### Leonardo -/

def refreshTokensLocked (token : String) : Script Unit := do
  returned (← invoke .prepare)
  let version ← returned (← invoke .beginAccountBalanceRefresh)
  let _ ← returned (← invoke .getAccount)
  returned (← invoke .acquireProxyControl)
  returned (← invoke .prepare)
  let snapshotStartedAt ← invoke .timeNow
  let tokens ← returned (← invoke (.readBalance token))
  let updated ← returned (← invoke (.updateAccountTokens version snapshotStartedAt tokens))
  if !updated then
    throw .staleBalanceRefresh
  let _ ← returned (← invoke .getAccount)

def refresh (force : Bool) (refreshAhead : Time) : Script Unit := do
  let a ← returned (← invoke .getAccount)
  let now : Time ← invoke .timeNow
  if !force && a.accessTokenExpiresAt.any (fun e => now + refreshAhead < e) && a.accessToken ≠ "" then
    return ()
  returned (← invoke .prepare)
  let cookie ← returned (← invoke (.decrypt a.cookie))
  returned (← invoke .prepare)
  returned (← invoke .acquireProxyControl)
  let session ← returned (← invoke (.getSession cookie))
  let version ← returned (← invoke .beginAccountBalanceRefresh)
  let snapshotStartedAt ← invoke .timeNow
  let tokens ← returned (← invoke (.readBalance session.accessToken))
  let token ← returned (← invoke (.encrypt session.accessToken))
  let _ ← returned (← invoke (.updateAccountSession version token session.accessTokenExpiry
    snapshotStartedAt tokens))
  let _ ← returned (← invoke .getAccount)

/-! ### Adobe -/

def refreshAdobeWithToken (token : String) : Script Unit := do
  let expiresAt ← returned (← invoke (.parseAccessToken token))
  let _ ← returned (← invoke (.profile token))
  let credits ← returned (← invoke (.readBalance token))
  let tokenCipher ← returned (← invoke (.encrypt token))
  let version ← returned (← invoke .beginAccountBalanceRefresh)
  let startedAt ← invoke .timeNow
  let updated ← returned (← invoke (.updateAccountSession version tokenCipher expiresAt startedAt
    (available credits)))
  if !updated then
    throw .staleBalanceRefresh
  let _ ← returned (← invoke .getAccount)

def refreshAdobeBalance (token : String) : Script Unit := do
  let credits ← returned (← invoke (.readBalance token))
  let version ← returned (← invoke .beginAccountBalanceRefresh)
  let now : Time ← invoke .timeNow
  let updated ← returned (← invoke (.updateAccountTokens version now (available credits)))
  if !updated then
    throw .staleBalanceRefresh
  let _ ← returned (← invoke .getAccount)

def refreshAdobe (account : AccountView) (force : Bool) (refreshAhead : Time) : Script Unit := do
  returned (← invoke .prepare)
  let now : Time ← invoke .timeNow
  if !force && account.accessToken ≠ "" &&
      account.accessTokenExpiresAt.any (fun e => now + refreshAhead < e) then
    let token ← returned (← invoke (.decrypt account.accessToken))
    refreshAdobeBalance token
  else if account.cookie = "" then
    if account.accessToken = "" || account.accessTokenExpiresAt.all (fun e => e ≤ now) then
      throw .browserSessionRequired
    let token ← returned (← invoke (.decrypt account.accessToken))
    refreshAdobeBalance token
  else
    let cookieHeader ← returned (← invoke (.decrypt account.cookie))
    let token ← returned (← invoke (.refreshAccessToken cookieHeader))
    refreshAdobeWithToken token

/-! ### Creative Fabrica -/

def userToken (cookieHeader : String) : Script (Answer String) := do
  match ← invoke (.queryUserToken cookieHeader) with
  | .error err => return .error err
  | .ok token => if token = "" then return .error .noUserToken else return .ok token

def tokenSetFromStored (envelope : CreativeFabricaCredentialEnvelope) (token : String) :
    Script TokenSet := do
  let sessionExpiresAt ← invoke (.tokenExpiresAt envelope.sessionToken)
  let accessExpiresAt ← invoke (.tokenExpiresAt envelope.accessToken)
  let rpcExpiresAt ← invoke (.tokenExpiresAt token)
  return ⟨envelope.sessionToken, envelope.accessToken, token, sessionExpiresAt, accessExpiresAt,
    rpcExpiresAt, "", ""⟩

/-- The session token itself serves the GraphQL and the Connect RPC calls. -/
def creativeFabricaSessionTokenSet (sessionToken cookieHeader : String) : Script TokenSet := do
  let info ← invoke (.tokenExpiresAt sessionToken)
  return ⟨sessionToken, sessionToken, sessionToken, info, info, info, cookieHeader, ""⟩

def exchangeCreativeFabricaSession (sessionToken cookieHeader : String) :
    Script (Answer TokenSet) := do
  return .ok (← creativeFabricaSessionTokenSet sessionToken cookieHeader)

def tokenExpiry (tokens : TokenSet) (now : Time) : Time :=
  (tokens.rpcExpiresAt.orElse fun _ => tokens.accessExpiresAt).getD (now + minutes 30)

def creativeFabricaCookieJSON : Script (Answer String) := do
  match ← invoke .getAccount with
  | .error err => return .error err
  | .ok account =>
    if Text.trimSpace account.cookieJSON = "" then
      return .ok ""
    match ← invoke (.decrypt account.cookieJSON) with
    | .error err => return .error err
    | .ok plaintext => invoke (.normalizeCookieJSON plaintext)

def creativeFabricaCookieHeader : Script (Answer String) := do
  match ← creativeFabricaCookieJSON with
  | .error err => return .error err
  | .ok cookieJSON =>
    if cookieJSON ≠ "" then
      invoke (.cookieHeaderFromJSON cookieJSON)
    else
      match ← invoke .getAccount with
      | .error err => return .error err
      | .ok account =>
        if Text.trimSpace account.cookie = "" then
          return .ok ""
        invoke (.decrypt account.cookie)

def mergeCreativeFabricaCookies (stored new : String) : Script (Answer (String × String)) := do
  match ← invoke (.mergeCookieJSON stored new) with
  | .error err => return .error err
  | .ok merged =>
    if merged = "" then
      return .ok ("", "")
    match ← invoke (.cookieHeaderFromJSON merged) with
    | .error err => return .error err
    | .ok header => return .ok (merged, header)

/-- A balance that cannot be read is not zero: the account leaves the routing. -/
def invalidateCreativeFabricaBalance : Script Unit := do
  match ← invoke (.setAccountError "Creative Fabrica balance could not be verified; account invalid")
    with
  | .error _ => throw (.balanceUnverified false)
  | .ok () => throw (.balanceUnverified true)

/-- The ciphertexts of a cookie header and a cookie document, of which the empty text is
none. -/
def encryptCreativeFabricaCookies (cookieHeader cookieJSON : String) :
    Script (Answer (String × String)) := do
  let cookieCipher ← if Text.trimSpace cookieHeader ≠ "" then invoke (.encrypt cookieHeader)
    else pure (.ok "")
  match cookieCipher with
  | .error err => return .error err
  | .ok cookieCipher =>
    let cookieJSONCipher ← if cookieJSON ≠ "" then invoke (.encrypt cookieJSON) else pure (.ok "")
    match cookieJSONCipher with
    | .error err => return .error err
    | .ok cookieJSONCipher => return .ok (cookieCipher, cookieJSONCipher)

/-- The cookies that a login or an exchange brought. -/
def storeCreativeFabricaCookies (new : String) : Script Unit := do
  let stored ← returned (← creativeFabricaCookieJSON)
  let (cookieJSON, cookieHeader) ← returned (← mergeCreativeFabricaCookies stored new)
  let (cookieCipher, cookieJSONCipher) ← returned
    (← encryptCreativeFabricaCookies cookieHeader cookieJSON)
  if cookieJSONCipher ≠ "" then
    returned (← invoke (.setAccountCookieJSON cookieJSONCipher))
  if cookieCipher ≠ "" then
    returned (← invoke (.setAccountCookieCiphertext cookieCipher))

/-- The profile by the RPC token, then by the session token. -/
def creativeFabricaProfile (tokens : TokenSet) : Script (Answer String) := do
  match ← invoke (.profile tokens.rpcToken) with
  | .ok email => return .ok email
  | .error err =>
    if tokens.sessionToken ≠ "" then invoke (.profile tokens.sessionToken) else return .error err

def CreativeFabricaCredentialEnvelope.withTokens (envelope : CreativeFabricaCredentialEnvelope)
    (tokens : TokenSet) (email : String) : CreativeFabricaCredentialEnvelope :=
  { envelope with
    sessionToken := tokens.sessionToken
    accessToken := tokens.accessToken
    rpcToken := tokens.rpcToken
    sessionTokenExpiresAt := tokens.sessionExpiresAt
    accessTokenExpiresAt := tokens.accessExpiresAt
    rpcTokenExpiresAt := tokens.rpcExpiresAt
    email := if email ≠ "" then email else envelope.email }

def refreshCreativeFabricaWithTokens (envelope : CreativeFabricaCredentialEnvelope)
    (cookieHeader : String) (tokens : TokenSet) : Script Unit := do
  if Text.trimSpace cookieHeader = "" then
    let _ ← returned (← creativeFabricaCookieHeader)
  let email ← returned (← creativeFabricaProfile tokens)
  match ← invoke (.readBalance tokens.rpcToken) with
  | .error _ => invalidateCreativeFabricaBalance
  | .ok coins =>
    let envelope := envelope.withTokens tokens email
    if tokens.cookieJSON ≠ "" then
      storeCreativeFabricaCookies tokens.cookieJSON
    returned (← invoke (.encryptEnvelope envelope))
    returned (← invoke (.setAccountCredentialCiphertext envelope
      (envelope.email ≠ "" && envelope.password ≠ "")))
    let version ← returned (← invoke .beginAccountBalanceRefresh)
    let tokenCipher ← returned (← invoke (.encrypt tokens.rpcToken))
    let now : Time ← invoke .timeNow
    let updated ← returned (← invoke (.updateAccountSession version tokenCipher
      (tokenExpiry tokens now) now (available coins)))
    if !updated then
      throw .staleBalanceRefresh
    let _ ← returned (← invoke .getAccount)

/-- Password login, the last source of tokens. -/
def loginFallback (envelope : CreativeFabricaCredentialEnvelope) : Script (Answer TokenSet) := do
  if envelope.email = "" || envelope.password = "" then
    return .error .browserSessionRequired
  match ← invoke (.login envelope.email envelope.password) with
  | .error err => return .error err
  | .ok login =>
    if login.challenge.isSome && login.sessionToken = "" then
      return .error (.otpRequired (login.challenge.getD ""))
    if Text.trimSpace login.sessionToken = "" then
      return .error .noSessionToken
    match ← exchangeCreativeFabricaSession login.sessionToken login.cookieHeader with
    | .error err => return .error err
    | .ok loginTokens =>
      if login.cookieJSON ≠ "" || loginTokens.cookieJSON ≠ "" then
        match ← mergeCreativeFabricaCookies login.cookieJSON loginTokens.cookieJSON with
        | .error err => return .error err
        | .ok (mergedJSON, mergedHeader) =>
          return .ok { loginTokens with cookieJSON := mergedJSON, cookieHeader := mergedHeader }
      else
        return .ok loginTokens

/-- `envelope.RPCToken != "" && envelope.RPCTokenExpiresAt != nil &&
envelope.RPCTokenExpiresAt.After(time.Now())`. -/
def CreativeFabricaCredentialEnvelope.rpcTokenValid (envelope : CreativeFabricaCredentialEnvelope)
    (now : Time) : Bool :=
  envelope.rpcToken ≠ "" && envelope.rpcTokenExpiresAt.any fun e => now < e

/-- The stored RPC token when it is valid, or the login. An error of the login is assigned
to a variable that nothing reads, and the tokens are then empty. -/
def storedTokenOrLogin (envelope : CreativeFabricaCredentialEnvelope) : Script TokenSet := do
  let now : Time ← invoke .timeNow
  if envelope.rpcTokenValid now then
    tokenSetFromStored envelope envelope.rpcToken
  else
    match ← loginFallback envelope with
    | .ok tokens => return tokens
    | .error _ => return .empty

/-- The header of the account's cookies, from the document or the plain header. -/
def accountCookieHeader (account : AccountView) : Script String := do
  let cookieJSON ← returned (← creativeFabricaCookieJSON)
  let cookieHeader ← if cookieJSON ≠ "" then
      returned (← invoke (.cookieHeaderFromJSON cookieJSON))
    else pure ""
  if cookieHeader = "" && account.cookie ≠ "" then
    returned (← invoke (.decrypt account.cookie))
  else
    return cookieHeader

/-- The tokens of a refresh, and the cookie header of the client. -/
def creativeFabricaTokens (account : AccountView) (envelope : CreativeFabricaCredentialEnvelope)
    (force : Bool) (refreshAhead : Time) : Script (TokenSet × String) := do
  let now : Time ← invoke .timeNow
  if !force && account.accessToken ≠ "" &&
      account.accessTokenExpiresAt.any (fun e => now + refreshAhead < e) then
    let token ← returned (← invoke (.decrypt account.accessToken))
    return (← tokenSetFromStored envelope token, "")
  let cookieHeader ← accountCookieHeader account
  if cookieHeader ≠ "" then
    match ← userToken cookieHeader with
    | .ok sessionToken =>
      match ← exchangeCreativeFabricaSession sessionToken cookieHeader with
      | .ok tokens => return (tokens, cookieHeader)
      | .error _ => return (← storedTokenOrLogin envelope, cookieHeader)
    | .error _ => return (← storedTokenOrLogin envelope, cookieHeader)
  else if envelope.email ≠ "" && envelope.password ≠ "" then
    return (← returned (← loginFallback envelope), cookieHeader)
  else if envelope.rpcTokenValid (← invoke .timeNow) then
    return (← tokenSetFromStored envelope envelope.rpcToken, cookieHeader)
  else
    throw .browserSessionRequired

def refreshCreativeFabrica (account : AccountView) (force : Bool) (refreshAhead : Time) :
    Script Unit := do
  let envelope ← returned (← invoke .credentials)
  returned (← invoke .prepare)
  let (tokens, cookieHeader) ← creativeFabricaTokens account envelope force refreshAhead
  refreshCreativeFabricaWithTokens envelope cookieHeader tokens

end GenerationGateway.Refresh
