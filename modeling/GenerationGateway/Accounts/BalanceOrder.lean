import GenerationGateway.Accounts.TokenSources

/-!
# The order of a balance refresh

What a refresh has done so far, as its calls and their answers tell: the version it took,
the balance it read, and which of the two came first. Every path writes the balance that
it read with the version that it took, once.
-/

namespace GenerationGateway.Refresh

open Effects

inductive RefreshPath
  | leonardoTokens (token : String)
  | leonardoSession (force : Bool) (refreshAhead : Time)
  | adobe (account : AccountView) (force : Bool) (refreshAhead : Time)
  | creativeFabrica (account : AccountView) (force : Bool) (refreshAhead : Time)

namespace RefreshPath

def program : RefreshPath → Script Unit
  | leonardoTokens token => refreshTokensLocked token
  | leonardoSession force refreshAhead => refresh force refreshAhead
  | adobe account force refreshAhead => refreshAdobe account force refreshAhead
  | creativeFabrica account force refreshAhead => refreshCreativeFabrica account force refreshAhead

/-- Adobe and Creative Fabrica refreshes ask for the balance before they take a version. -/
def readsFirst : RefreshPath → Bool
  | leonardoTokens _ | leonardoSession _ _ => false
  | adobe _ _ _ | creativeFabrica _ _ _ => true

/-- The balance that an answer of the provider tells. -/
def balance (path : RefreshPath) (credits : SessionAccount.Credits) : SessionAccount.Credits :=
  if path.readsFirst then available credits else credits

end RefreshPath

/-- What a refresh has done. -/
structure Notes where
  version : Option ℤ
  credits : Option SessionAccount.Credits
  /-- The balance was read after the version was taken. -/
  ordered : Bool
  written : Bool

namespace Notes

def initial : Notes := ⟨none, none, false, false⟩

def begin (n : Notes) : Answer ℤ → Notes
  | .ok version => { n with version := some version, ordered := false }
  | .error _ => n

def readBalance (path : RefreshPath) (n : Notes) : Answer SessionAccount.Credits → Notes
  | .ok credits =>
    { n with credits := some (path.balance credits), ordered := n.version.isSome }
  | .error _ => n

def after (path : RefreshPath) (n : Notes) : (op : RefreshCall) → op.Res → Notes
  | .beginAccountBalanceRefresh, r => n.begin r
  | .readBalance _, r => n.readBalance path r
  | .updateAccountTokens _ _ _, _ | .updateAccountSession _ _ _ _ _, _ => { n with written := true }
  | _, _ => n

/-- The refresh may write these credits with this version. -/
structure MayWrite (path : RefreshPath) (n : Notes) (version : ℤ)
    (credits : SessionAccount.Credits) : Prop where
  version : n.version = some version
  credits : n.credits = some credits
  once : n.written = false
  ordered : n.ordered = !path.readsFirst

def Allows (path : RefreshPath) (n : Notes) : RefreshCall → Prop
  | .beginAccountBalanceRefresh => n.version = none
  | .updateAccountTokens version _ credits => n.MayWrite path version credits
  | .updateAccountSession version _ _ _ credits => n.MayWrite path version credits
  | _ => True

end Notes

def balanceOrder (path : RefreshPath) : Monitor refreshes Notes :=
  ⟨Notes.Allows path, Notes.after path⟩

/-! ### The paths -/

section Paths

variable {path : RefreshPath} {n : Notes} {α β : Type} {Q : β → Notes → Prop}

/-- A call outside the balance protocol changes no notes. -/
def RefreshCall.Plain (op : RefreshCall) : Prop := op.concernsBalance = false

theorem RefreshCall.Plain.kept {op : RefreshCall} (h : op.Plain) :
    (balanceOrder path).allowed n op ∧ ∀ r, (balanceOrder path).next n op r = n := by
  cases op <;> first | exact ⟨trivial, fun _ => rfl⟩ | cases h

theorem RefreshCall.Reads.plain {op : RefreshCall} (h : op.Reads) : op.Plain := h.2

theorem RefreshCall.Local.plain {op : RefreshCall} (h : op.Local) : op.Plain := h.1.2

theorem Plain.obeys_bind {p : Script α} {f : α → Script β} (hp : p.Sends RefreshCall.Plain)
    (hf : ∀ a, (f a).Obeys (balanceOrder path) n Q) :
    (p >>= f).Obeys (balanceOrder path) n Q :=
  Early.Sends.obeys_bind (fun _ => RefreshCall.Plain.kept) hp hf

theorem Plain.obeys {p : Script α} (hp : p.Sends RefreshCall.Plain) :
    p.Obeys (balanceOrder path) n fun _ _ => True :=
  Early.Obeys.mono (Early.Sends.obeys (fun _ => RefreshCall.Plain.kept) hp) fun _ _ _ => trivial

theorem invoke_plain (op : RefreshCall) (h : op.Plain) : (invoke op).Sends RefreshCall.Plain :=
  sends_invoke h

/-- A plain call, and the return where it failed. -/
theorem obeys_checked {op : RefreshCall} {r : op.Res → Answer α} {f : α → Script β}
    (h : op.Plain) (hf : ∀ a, (f a).Obeys (balanceOrder path) n Q) :
    (invoke op >>= fun x => returned (r x) >>= f).Obeys (balanceOrder path) n Q :=
  Plain.obeys_bind (invoke_plain _ h) fun x => Plain.obeys_bind (sends_returned (r x)) hf

/-- The version is taken. -/
theorem obeys_begin {f : ℤ → Script β} (hfirst : n.version = none)
    (hf : ∀ version,
      (f version).Obeys (balanceOrder path) { n with version := some version, ordered := false } Q) :
    (invoke .beginAccountBalanceRefresh >>= fun r => returned r >>= f).Obeys
      (balanceOrder path) n Q := by
  refine Early.Obeys.bind (Early.obeys_perform hfirst (Q := fun r n' => n' = n.begin r)
    fun r => rfl) fun r n' hn' => ?_
  subst hn'
  cases r with
  | error err => exact Early.obeys_throw
  | ok version => exact hf version

/-- The provider reads the balance. -/
theorem obeys_readBalance {token : String} {f : Answer SessionAccount.Credits → Script β}
    (hf : ∀ r, (f r).Obeys (balanceOrder path) (n.readBalance path r) Q) :
    (invoke (.readBalance token) >>= f).Obeys (balanceOrder path) n Q := by
  refine Early.Obeys.bind (Early.obeys_perform trivial
    (Q := fun r n' => n' = n.readBalance path r) fun r => rfl) fun r n' hn' => ?_
  subst hn'
  exact hf r

/-- The balance is written, and only plain calls follow. -/
theorem obeys_write {op : RefreshCall} {p : op.Res → Script β}
    (hop : (balanceOrder path).allowed n op) (hp : ∀ r, (p r).Sends RefreshCall.Plain) :
    (invoke op >>= p).Obeys (balanceOrder path) n fun _ _ => True := by
  refine Early.Obeys.bind (Early.obeys_perform hop (Q := fun _ _ => True) fun _ => trivial)
    fun r n' _ => ?_
  exact Plain.obeys (hp r)

/-- The end of a refresh: a stale one reports it, the others read the account. -/
theorem finish_plain (r : Answer Bool) :
    (returned r >>= fun updated => do
      if !updated then
        throw .staleBalanceRefresh
      let _ ← returned (← invoke .getAccount)
      : Script Unit).Sends RefreshCall.Plain := by
  refine (sends_returned r).bind fun updated => ?_
  have hrest : (invoke .getAccount >>= fun a => returned a >>= fun _ => pure () :
      Script Unit).Sends RefreshCall.Plain :=
    (invoke_plain .getAccount rfl).bind fun a => (sends_returned a).bind fun _ => Early.sends_pure _
  split
  · exact (Early.sends_throw _).bind fun _ => hrest
  · exact hrest

theorem refreshTokensLocked_obeys (token : String) :
    (refreshTokensLocked token).Obeys (balanceOrder (.leonardoTokens token)) .initial
      fun _ _ => True := by
  unfold refreshTokensLocked
  refine obeys_checked rfl fun _ => obeys_begin rfl fun version => obeys_checked rfl fun _ =>
    obeys_checked rfl fun _ => obeys_checked rfl fun _ => ?_
  refine Plain.obeys_bind (invoke_plain _ rfl) fun startedAt => obeys_readBalance fun r => ?_
  cases r with
  | error err => exact Early.obeys_throw
  | ok credits => exact obeys_write ⟨rfl, rfl, rfl, rfl⟩ finish_plain

theorem refresh_obeys (force : Bool) (refreshAhead : Time) :
    (refresh force refreshAhead).Obeys (balanceOrder (.leonardoSession force refreshAhead)) .initial
      fun _ _ => True := by
  unfold refresh
  refine obeys_checked rfl fun a => Plain.obeys_bind (invoke_plain _ rfl) fun now => ?_
  split
  · exact Early.obeys_pure trivial
  · refine obeys_checked rfl fun _ => obeys_checked rfl fun cookie => obeys_checked rfl fun _ =>
      obeys_checked rfl fun _ => obeys_checked rfl fun session => obeys_begin rfl fun version =>
        Plain.obeys_bind (invoke_plain _ rfl) fun startedAt => obeys_readBalance fun r => ?_
    cases r with
    | error err => exact Early.obeys_throw
    | ok credits =>
      refine obeys_checked rfl fun cipher => obeys_write ⟨rfl, rfl, rfl, rfl⟩ fun r => ?_
      exact (sends_returned r).bind fun _ => (invoke_plain .getAccount rfl).bind fun a =>
        (sends_returned a).bind fun _ => Early.sends_pure _

section Adobe

variable (account : AccountView) (force : Bool) (refreshAhead : Time) (token : String)

theorem refreshAdobeWithToken_obeys :
    (refreshAdobeWithToken token).Obeys (balanceOrder (.adobe account force refreshAhead)) .initial
      fun _ _ => True := by
  unfold refreshAdobeWithToken
  refine obeys_checked rfl fun expiresAt => obeys_checked rfl fun _ => obeys_readBalance fun r => ?_
  cases r with
  | error err => exact Early.obeys_throw
  | ok credits =>
    exact obeys_checked rfl fun cipher => obeys_begin rfl fun version =>
      Plain.obeys_bind (invoke_plain _ rfl) fun startedAt =>
        obeys_write ⟨rfl, rfl, rfl, rfl⟩ finish_plain

theorem refreshAdobeBalance_obeys :
    (refreshAdobeBalance token).Obeys (balanceOrder (.adobe account force refreshAhead)) .initial
      fun _ _ => True := by
  unfold refreshAdobeBalance
  refine obeys_readBalance fun r => ?_
  cases r with
  | error err => exact Early.obeys_throw
  | ok credits =>
    exact obeys_begin rfl fun version => Plain.obeys_bind (invoke_plain _ rfl) fun now =>
      obeys_write ⟨rfl, rfl, rfl, rfl⟩ finish_plain

theorem refreshAdobe_obeys :
    (refreshAdobe account force refreshAhead).Obeys
      (balanceOrder (.adobe account force refreshAhead)) .initial fun _ _ => True := by
  unfold refreshAdobe
  refine obeys_checked rfl fun _ => Plain.obeys_bind (invoke_plain _ rfl) fun now => ?_
  split
  · exact obeys_checked rfl fun token => refreshAdobeBalance_obeys account force refreshAhead token
  · split
    · split
      · exact Early.Obeys.bind (R := fun _ _ => False) Early.obeys_throw fun _ _ h => h.elim
      · exact obeys_checked rfl fun token =>
          refreshAdobeBalance_obeys account force refreshAhead token
    · exact obeys_checked rfl fun header => obeys_checked rfl fun token =>
        refreshAdobeWithToken_obeys account force refreshAhead token

end Adobe

section CreativeFabrica

variable (account : AccountView) (force : Bool) (refreshAhead : Time)
  (envelope : CreativeFabricaCredentialEnvelope) (tokens : TokenSet)

theorem creativeFabricaTokens_plain :
    (creativeFabricaTokens account envelope force refreshAhead).Sends RefreshCall.Plain := by
  rw [creativeFabricaTokens_eq]
  refine ((sourcesTried_reads account envelope force refreshAhead).mono fun _ =>
    RefreshCall.Reads.plain).bind fun g => ?_
  exact (sends_returned _).bind fun _ => Early.sends_pure _

theorem creativeFabricaCookieHeader_plain : creativeFabricaCookieHeader.Sends RefreshCall.Plain :=
  creativeFabricaCookieHeader_local.mono fun _ => RefreshCall.Local.plain

theorem creativeFabricaProfile_plain : (creativeFabricaProfile tokens).Sends RefreshCall.Plain := by
  unfold creativeFabricaProfile
  refine (invoke_plain (.profile tokens.rpcToken) rfl).bind fun r => ?_
  cases r with
  | ok email => exact Early.sends_pure _
  | error err =>
    dsimp only
    split
    · exact invoke_plain _ rfl
    · exact Early.sends_pure _

theorem invalidateCreativeFabricaBalance_plain :
    invalidateCreativeFabricaBalance.Sends RefreshCall.Plain := by
  unfold invalidateCreativeFabricaBalance
  refine (invoke_plain (.setAccountError _) rfl).bind fun r => ?_
  cases r <;> exact Early.sends_throw _

theorem encryptCreativeFabricaCookies_plain (cookieHeader cookieJSON : String) :
    (encryptCreativeFabricaCookies cookieHeader cookieJSON).Sends RefreshCall.Plain := by
  unfold encryptCreativeFabricaCookies
  extract_lets document
  have hdocument (cipher : Answer String) : (document cipher).Sends RefreshCall.Plain := by
    cases cipher with
    | error err => exact Early.sends_pure _
    | ok cookieCipher =>
      dsimp only [document]
      split
      · refine (invoke_plain (.encrypt cookieJSON) rfl).bind fun cipher => ?_
        cases cipher <;> exact Early.sends_pure _
      · exact Early.sends_pure _
  split
  · exact (invoke_plain (.encrypt cookieHeader) rfl).bind hdocument
  · exact (Early.sends_pure _).bind hdocument

theorem storeCreativeFabricaCookies_plain (new : String) :
    (storeCreativeFabricaCookies new).Sends RefreshCall.Plain := by
  unfold storeCreativeFabricaCookies
  refine (creativeFabricaCookieJSON_local.mono fun _ => RefreshCall.Local.plain).bind fun r =>
    (sends_returned r).bind fun stored => ?_
  refine ((mergeCreativeFabricaCookies_local stored new).mono fun _ =>
    RefreshCall.Local.plain).bind fun r => (sends_returned r).bind fun (cookieJSON, cookieHeader) => ?_
  refine (encryptCreativeFabricaCookies_plain cookieHeader cookieJSON).bind fun r =>
    (sends_returned r).bind fun (cookieCipher, cookieJSONCipher) => ?_
  dsimp only
  have hheader : (if cookieCipher ≠ "" then
      invoke (.setAccountCookieCiphertext cookieCipher) >>= fun r => returned r
    else pure () : Script Unit).Sends RefreshCall.Plain := by
    split
    · exact (invoke_plain (.setAccountCookieCiphertext cookieCipher) rfl).bind sends_returned
    · exact Early.sends_pure _
  split
  · exact (invoke_plain (.setAccountCookieJSON cookieJSONCipher) rfl).bind fun r =>
      (sends_returned r).bind fun _ => hheader
  · exact hheader

theorem refreshCreativeFabricaWithTokens_obeys (cookieHeader : String) :
    (refreshCreativeFabricaWithTokens envelope cookieHeader tokens).Obeys
      (balanceOrder (.creativeFabrica account force refreshAhead)) .initial fun _ _ => True := by
  unfold refreshCreativeFabricaWithTokens
  extract_lets finish readProfile
  have hprofile (u : Unit) : (readProfile u).Obeys
      (balanceOrder (.creativeFabrica account force refreshAhead)) .initial fun _ _ => True := by
    refine Plain.obeys_bind (creativeFabricaProfile_plain tokens) fun r =>
      Plain.obeys_bind (sends_returned r) fun email => obeys_readBalance fun r => ?_
    cases r with
    | error err => exact Plain.obeys invalidateCreativeFabricaBalance_plain
    | ok coins =>
      dsimp only
      split
      on_goal 1 => refine Plain.obeys_bind (storeCreativeFabricaCookies_plain _) fun _ => ?_
      -- with or without new cookies, the session is stored in the same way
      all_goals
        exact obeys_checked rfl fun _ => obeys_checked rfl fun _ => obeys_begin rfl fun version =>
          obeys_checked rfl fun cipher => Plain.obeys_bind (invoke_plain _ rfl) fun now =>
            obeys_write ⟨rfl, rfl, rfl, rfl⟩ finish_plain
  split
  · exact Plain.obeys_bind creativeFabricaCookieHeader_plain fun r =>
      Plain.obeys_bind (sends_returned r) fun _ => hprofile ()
  · exact hprofile ()

theorem refreshCreativeFabrica_obeys :
    (refreshCreativeFabrica account force refreshAhead).Obeys
      (balanceOrder (.creativeFabrica account force refreshAhead)) .initial fun _ _ => True := by
  unfold refreshCreativeFabrica
  exact obeys_checked rfl fun envelope => obeys_checked rfl fun _ =>
    Plain.obeys_bind (creativeFabricaTokens_plain account force refreshAhead envelope) fun found =>
      refreshCreativeFabricaWithTokens_obeys account force refreshAhead envelope found.1 found.2

end CreativeFabrica

theorem RefreshPath.obeys (path : RefreshPath) :
    path.program.Obeys (balanceOrder path) .initial fun _ _ => True := by
  cases path with
  | leonardoTokens token => exact refreshTokensLocked_obeys token
  | leonardoSession force refreshAhead => exact refresh_obeys force refreshAhead
  | adobe account force refreshAhead => exact refreshAdobe_obeys account force refreshAhead
  | creativeFabrica account force refreshAhead =>
    exact refreshCreativeFabrica_obeys account force refreshAhead

end Paths

end GenerationGateway.Refresh
