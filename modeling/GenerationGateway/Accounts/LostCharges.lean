import GenerationGateway.Accounts.BalanceFencing

/-!
# Charges beside a balance refresh

A refresh writes what the provider told it, whatever was charged since it asked. So a
stored balance is the balance that was read less the charges since, as long as no charge
falls between a read and its write.
-/

namespace GenerationGateway.Refresh

open Relational Transitions Effects

/-- The columns hold the charge in full. -/
def coversCharge (tokens : ℕ) (c : SessionAccount.Credits) : Bool :=
  decide (tokens = 0) || decide ((c.charge tokens).total + tokens ≤ c.total)

theorem coversCharge_of_nonneg {tokens : ℕ} {c : SessionAccount.Credits}
    (hroll : 0 ≤ c.rollover) (hpaid : 0 ≤ c.paid) (htotal : tokens ≤ c.total) :
    coversCharge tokens c = true := by
  have hle : (c.charge tokens).total + tokens ≤ c.total := by
    simp only [SessionAccount.Credits.charge, SessionAccount.Credits.total] at htotal ⊢
    omega
  simp [coversCharge, hle]

namespace Balances

/-- A refresh writes a balance that was read before the latest charge. -/
def writesOld (id : UUID) (s : Balances) : BalanceAct → Bool
  | .call i committed _ => committed && (s.writing i).any fun (run, version) =>
      s.current id version && decide (run.chargedBefore < s.charged)
  | _ => false

/-- A charge is more than a balance that a refresh has stored. -/
def overcharges (id : UUID) (s : Balances) (act : BalanceAct) : Bool :=
  s.stored.isSome && (s.fence id).any fun f => !coversCharge (s.charges id act) f.columns.credits

def losesCharge (id : UUID) (s : Balances) (act : BalanceAct) : Bool :=
  s.writesOld id act || s.overcharges id act

/-- The stored balance is at most the balance that was read, less every charge since. -/
def ChargesKept (id : UUID) (s : Balances) : Prop :=
  ∀ o f, s.stored = some o → s.fence id = some f → ∃ credits, o.credits = some credits ∧
    f.columns.credits.total ≤ credits.total - ((s.charged : ℤ) - o.chargedBefore)

variable {id : UUID} {s s' : Balances} {act : BalanceAct}

theorem Stores.chargesKept (hstores : s.Stores id act s') (h : s.Sound id)
    (hact : s.losesCharge id act = false) (hkept : s.ChargesKept id) : s'.ChargesKept id := by
  obtain ⟨hold, hover⟩ := Bool.or_eq_false_iff.mp hact
  intro o' f' ho' hf'
  cases hstores with
  | kept hstored hcharged hfence =>
    rw [hstored] at ho'
    obtain ⟨o, ho, rfl⟩ := Option.map_eq_some_iff.mp ho'
    obtain ⟨f, -, hf, -⟩ := (h.stored o ho).balance
    obtain ⟨f'', hf'', hcolumns⟩ := hfence f hf
    cases hf'.symm.trans hf''
    obtain ⟨credits, hcredits, hle⟩ := hkept o f ho hf
    have hcovers : coversCharge (s.charges id act) f.columns.credits = true := by
      simpa [overcharges, ho, hf] using hover
    rw [hcharged, hcolumns, Fence.credits_charge]
    by_cases hzero : s.charges id act = 0
    · refine ⟨credits, by simpa [hzero, Origin.charge] using hcredits, ?_⟩
      simpa [hzero, Origin.charge] using hle
    · have hpos : 0 < s.charges id act := Nat.pos_of_ne_zero hzero
      have htotal : (f.columns.credits.charge (s.charges id act)).total + s.charges id act ≤
          f.columns.credits.total := by
        simpa [coversCharge, hzero] using hcovers
      simp only [Origin.charge, if_pos hpos]
      refine ⟨credits, hcredits, ?_⟩
      push_cast
      omega
  | written i now run f g hcall hrun hfence hversion honce hordered hwriting hfence' hsnapshot
      hcredits hcharged hstored =>
    cases hstored.symm.trans ho'
    cases hf'.symm.trans hfence'
    have hcurrent : s.current id f.refreshVersion = true := Balances.current_iff.mpr ⟨f, hfence, rfl⟩
    have hlate : s.charged ≤ run.chargedBefore := by
      simpa [hcall, writesOld, hwriting, hcurrent] using hold
    refine ⟨f'.columns.credits, hcredits, ?_⟩
    rw [hcharged]
    show f'.columns.credits.total ≤
      f'.columns.credits.total - ((s.charged : ℤ) - run.chargedBefore)
    omega

end Balances

/-- In every run in which no refresh writes a balance that was read before the latest charge,
and every charge of a stored balance is covered by it, no charge is lost. -/
theorem charges_kept {id : UUID} {s₀ s : Balances} {acts : List BalanceAct}
    (hinit : s₀.Initial id)
    (hrun : ((balances id).restrict fun s act => s.losesCharge id act = false).Run s₀ acts s) :
    s.ChargesKept id := by
  have hinv : s.Sound id ∧ s.ChargesKept id := by
    refine LTS.Run.invariant (I := fun s => s.Sound id ∧ s.ChargesKept id) ?_ hrun
      ⟨hinit.sound, by simp [Balances.ChargesKept, hinit.stored]⟩
    intro t act t' hstep ht
    exact ⟨BalanceStep.sound hstep.1 ht.1,
      (BalanceStep.stores hstep.1 ht.1).chargesKept ht.1 hstep.2 ht.2⟩
  exact hinv.2

/-- The task 20 up to the moment at which its job is known. -/
def submittedTask : Database :=
  ((smallStore smallAccounts).after (smallLife.take 4)).db

/-- The refresh has read the balance when the task is charged. -/
def readBeforeCharge : List BalanceAct :=
  .start 0 (.leonardoTokens "token") :: List.replicate 7 (.call 0 true 0) ++
    [.complete (atTime 4) 20 900 1 "" "r" none]

/-- The refresh stores the balance before the task is charged. -/
def storedBeforeCharge : List BalanceAct :=
  .start 0 (.leonardoTokens "token") :: List.replicate 8 (.call 0 true 0) ++
    [.complete (atTime 4) 20 900 1 "" "r" none]

theorem charges_kept_storedBefore :
    ∃ s : Balances, s.ChargesKept 1 ∧ s.charged = 5 ∧
      (s.fence 1).map (fun f => f.columns.credits.subscription) = some 85 := by
  have hrun : (LTS.follow (fun s act => s.proceed 1 (openProvider fun _ => 90) act)
      (fun s act => !s.losesCharge 1 act) (smallBalances submittedTask) storedBeforeCharge).map
        (fun s => (s.charged, (s.fence 1).map fun f => f.columns.credits.subscription)) =
      some (5, some 85) := by decide +kernel
  obtain ⟨s, hs, hobserved⟩ := Option.map_eq_some_iff.mp hrun
  obtain ⟨hcharged, hbalance⟩ := Prod.mk.inj hobserved
  have hpath : ((balances 1).restrict fun s act => s.losesCharge 1 act = false).Run _ _ s :=
    (Balances.run_of_proceed 1 _ hs).mono fun t act t' hstep => by
      simpa [LTS.restrict] using hstep
  exact ⟨s, charges_kept (smallBalances_initial _) hpath, hcharged, hbalance⟩

/-- The provider answers 90 credits, a task is charged 5, and then the refresh stores 90. -/
theorem charge_lost :
    ¬ ∀ (s₀ s : Balances) (acts : List BalanceAct), s₀.Initial 1 → (balances 1).Run s₀ acts s →
      s.ChargesKept 1 := by
  intro hall
  have hrun : (LTS.follow (fun s act => s.proceed 1 (openProvider fun _ => 90) act)
      (fun _ _ => true) (smallBalances submittedTask)
      (readBeforeCharge ++ [.call 0 true 0])).map (fun s =>
        (s.charged, s.stored.map fun o => (o.credits.map SessionAccount.Credits.total,
          o.chargedBefore), (s.fence 1).map fun f => f.columns.credits.total)) =
      some (5, some (some 90, 0), some 90) := by decide +kernel
  obtain ⟨s, hs, hobserved⟩ := Option.map_eq_some_iff.mp hrun
  simp only [Prod.mk.injEq] at hobserved
  obtain ⟨hcharged, hstored, hbalance⟩ := hobserved
  obtain ⟨o, ho, horigin⟩ := Option.map_eq_some_iff.mp hstored
  obtain ⟨f, hf, htotal⟩ := Option.map_eq_some_iff.mp hbalance
  obtain ⟨hread, hbefore⟩ := Prod.mk.inj horigin
  obtain ⟨credits, hcredits, hle⟩ := hall _ s _ (smallBalances_initial _)
    (LTS.Run.of_restrict (Balances.run_of_proceed 1 _ hs)) o f ho hf
  rw [hcredits] at hread
  have hninety : credits.total = 90 := by simpa using hread
  omega

end GenerationGateway.Refresh
