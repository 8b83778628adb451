import GenerationGateway.Library.Expiring
import GenerationGateway.Library.Reachability
import GenerationGateway.Library.Text

/-!
# The shared circuit breaker

Failures of a provider and of a proxy are counted in Redis, and a count at its limit opens
the circuit for the cooldown. Instants are milliseconds of one clock.
-/

namespace GenerationGateway.Circuit

open Expiring Text Transitions

/-! ### Keys -/

/-- The hexadecimal text of eight bytes. -/
abbrev ProxyID := {id : String // id.length = 16}

/-- The first eight bytes of a SHA-256 sum. -/
abbrev ProxyHash := String → ProxyID

def normalizedProvider (providerID : String) : String :=
  let providerID := toLower (trimSpace providerID)
  if providerID = "" then "unknown" else providerID

def proxyID (hash : ProxyHash) (proxyURL : String) : ProxyID :=
  let proxyURL := trimSpace (toLower proxyURL)
  hash (if proxyURL = "" then "direct" else proxyURL)

/-- What failures are counted for. -/
inductive Scope
  | provider (providerID : String)
  | proxy (providerID : String) (id : ProxyID)
  deriving DecidableEq

def Scope.name : Scope → String
  | provider providerID => "aiv2api:circuit:provider:" ++ providerID
  | proxy providerID id => "aiv2api:circuit:proxy:" ++ providerID ++ ":" ++ id.val

@[irreducible] def Scope.failureKey (scope : Scope) : String := scope.name ++ ":failures"

@[irreducible] def Scope.openKey (scope : Scope) : String := scope.name ++ ":open-until"

def providerScope (providerID : String) : Scope := .provider (normalizedProvider providerID)

def proxyScope (hash : ProxyHash) (providerID proxyURL : String) : Scope :=
  .proxy (normalizedProvider providerID) (proxyID hash proxyURL)

/-! ### Calls -/

inductive RedisError
  | invalidExpireTime
  deriving DecidableEq

/-- `redis.call('set', key, until, 'px', cooldown)`; an expiry has to be positive. -/
def setUntil (now cooldown : ℤ) (key : String) (redis : Store String) :
    Except RedisError (Store String) :=
  if 0 < cooldown then .ok (redis.setPX now key (now + cooldown) cooldown)
  else .error .invalidExpireTime

/-- What a script wrote before an error stays. -/
def recordFailureScript (providerFailures providerOpen proxyFailures proxyOpen : String)
    (now window cooldown providerLimit proxyLimit : ℤ) (redis : Store String) :
    Except RedisError ℤ × Store String :=
  let (providerCount, redis) := redis.hit now providerFailures window
  let (proxyCount, redis) := redis.hit now proxyFailures window
  let opened : Except RedisError (ℤ × Store String) :=
    if providerLimit ≤ providerCount then
      (setUntil now cooldown providerOpen redis).map fun redis => (now + cooldown, redis)
    else .ok (0, redis)
  match opened with
  | .error e => (.error e, redis)
  | .ok (untilAt, redis) =>
    if proxyLimit ≤ proxyCount then
      match setUntil now cooldown proxyOpen redis with
      | .error e => (.error e, redis)
      | .ok redis => (.ok (if untilAt < now + cooldown then now + cooldown else untilAt), redis)
    else (.ok untilAt, redis)

/-- Durations are in nanoseconds. -/
structure Breaker where
  window : ℤ
  cooldown : ℤ
  providerFailures : ℤ
  proxyFailures : ℤ

def milliseconds (duration : ℤ) : ℤ := duration.tdiv 1000000

def latestOpen (now : ℤ) (values : List (Option ℤ)) : Option ℤ :=
  let latest := values.foldl (fun latest value =>
    match value with
    | some parsed => if latest < parsed then parsed else latest
    | none => latest) 0
  if latest ≤ now then none else some latest

namespace Breaker

variable (b : Breaker) (hash : ProxyHash)

/-- The time until which the circuit is open, or none. -/
def check (now : ℤ) (providerID proxyURL : String) (redis : Store String) : Option ℤ :=
  latestOpen now
    [(redis.get? now (providerScope providerID).openKey).map Entry.value,
      (redis.get? now (proxyScope hash providerID proxyURL).openKey).map Entry.value]

def recordFailure (now : ℤ) (providerID proxyURL : String) (redis : Store String) :
    Except RedisError (Option ℤ) × Store String :=
  let provider := providerScope providerID
  let proxy := proxyScope hash providerID proxyURL
  let (result, redis) := recordFailureScript provider.failureKey provider.openKey proxy.failureKey
    proxy.openKey now (milliseconds b.window) (milliseconds b.cooldown) b.providerFailures
    b.proxyFailures redis
  (result.map fun untilMS => if untilMS ≤ now then none else some untilMS, redis)

end Breaker

/-! ### Runs -/

/-- A recorded failure. -/
structure Failure where
  time : ℤ
  providerID : String
  proxyURL : String

structure State where
  clock : ℤ
  redis : Store String
  /-- The failures so far, the newest first. -/
  log : List Failure

def State.initial (now : ℕ) : State := ⟨now, .empty, []⟩

inductive Act
  | tick (now : ℤ)
  | recordFailure (providerID proxyURL : String)
  | check (providerID proxyURL : String)

/-- A check reads, a failure counts, and the clock goes on. -/
inductive Step (b : Breaker) (hash : ProxyHash) : State → Act → State → Prop
  | tick {s : State} {now : ℤ} : s.clock ≤ now → Step b hash s (.tick now) { s with clock := now }
  | recordFailure (s : State) (providerID proxyURL : String) :
    Step b hash s (.recordFailure providerID proxyURL)
      { s with
        redis := (b.recordFailure hash s.clock providerID proxyURL s.redis).2
        log := ⟨s.clock, providerID, proxyURL⟩ :: s.log }
  | check (s : State) (providerID proxyURL : String) : Step b hash s (.check providerID proxyURL) s

def system (b : Breaker) (hash : ProxyHash) : LTS State Act := ⟨Step b hash⟩

/-! ### Different keys -/

theorem failureKey_ne_openKey (scope scope' : Scope) : scope.failureKey ≠ scope'.openKey := by
  unfold Scope.failureKey Scope.openKey
  exact append_ne_of_last (by decide) (by decide) (by decide) _ _

theorem name_provider_ne_proxy (providerID providerID' : String) (id : ProxyID) :
    (Scope.provider providerID).name ≠ (Scope.proxy providerID' id).name := by
  have hproxy : (Scope.proxy providerID' id).name =
      "aiv2api:circuit:proxy:" ++ (providerID' ++ ":" ++ id.val) := by
    unfold Scope.name
    simp only [String.append_assoc]
  rw [hproxy]
  exact append_ne_of_char (s := "aiv2api:circuit:provider:") 19 (by decide) (by decide)
    (by decide) _ _

theorem name_injective {scope scope' : Scope} (h : scope.name = scope'.name) : scope = scope' := by
  cases scope with
  | provider providerID =>
    cases scope' with
    | provider providerID' =>
      unfold Scope.name at h
      rw [append_cancel_left h]
    | proxy providerID' id => exact absurd h (name_provider_ne_proxy _ _ _)
  | proxy providerID id =>
    cases scope' with
    | provider providerID' => exact absurd h.symm (name_provider_ne_proxy _ _ _)
    | proxy providerID' id' =>
      unfold Scope.name at h
      obtain ⟨hname, hid⟩ := append_inj_of_length h (id.property.trans id'.property.symm)
      rw [append_cancel_left (append_cancel_right hname), Subtype.ext hid]

theorem failureKey_ne {scope scope' : Scope} (h : scope ≠ scope') :
    scope.failureKey ≠ scope'.failureKey := by
  unfold Scope.failureKey
  exact fun hkey => h (name_injective (append_cancel_right hkey))

theorem openKey_ne {scope scope' : Scope} (h : scope ≠ scope') :
    scope.openKey ≠ scope'.openKey := by
  unfold Scope.openKey
  exact fun hkey => h (name_injective (append_cancel_right hkey))

theorem providerScope_ne_proxyScope (hash : ProxyHash) (providerID providerID' proxyURL : String) :
    providerScope providerID ≠ proxyScope hash providerID' proxyURL := by
  intro h
  cases h

end GenerationGateway.Circuit
