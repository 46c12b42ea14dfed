import TokensFlux.Billing.Equiv.Open
import TokensFlux.Lib.Guarded

/-!
# Pre-consumption and overdrafts

Two calls that read before either decreases overdraw the balance together.
-/

namespace TokensFlux

open Store

namespace WalletCall

variable {env : BillingEnv} {info : RelayInfo} {quota : ℤ}

/-! ### The balances a statement leaves -/

/-- At a decrease, the balance is not below what the call has read. -/
def ReadsCurrent (s : Store) : WalletCall info quota → Prop
  | .tokenRead _ remainQuota _ _ _ => remainQuota ≤ s.ledger (.token info.tokenId)
  | .tokenTaken userQuota _ _ => userQuota ≤ s.ledger (.wallet info.userId)
  | _ => True

instance (s : Store) : DecidablePred (ReadsCurrent s : WalletCall info quota → Prop)
  | .tokenRead .. | .tokenTaken .. => Int.decLe _ _
  | .new | .userRead .. | .walletFailed .. | .opened _ | .refused _ => instDecidableTrue

def Covered (u t : ℤ) (s : Store) : Prop :=
  0 ≤ s.ledger (.wallet u) ∧ 0 ≤ s.ledger (.token t)

variable {fault : Option Err} {s s' : Store} {q t u : ℤ}

theorem Covered.decreaseTokenQuota (h : Covered u t s) (hq : q ≤ s.ledger (.token t))
    (hs : s.decreaseTokenQuota fault t q = .ok s') : Covered u t s' := by
  rw [Covered, (decreaseTokenQuota_spec hs).1]
  refine ⟨by simpa using h.1, ?_⟩
  simp only [Pi.add_apply, Pi.single_eq_same, Pi.single_apply, reduceCtorEq, if_false]
  omega

theorem Covered.increaseTokenQuota (h : Covered u t s) (hq : 0 < q)
    (hs : s.increaseTokenQuota fault t q = .ok s') :
    Covered u t s' := by
  rw [Covered, (increaseTokenQuota_spec hs).1]
  refine ⟨by simpa using h.1, ?_⟩
  simp only [Pi.add_apply, Pi.single_eq_same, Pi.single_apply, reduceCtorEq, if_false]
  have := h.2
  omega

theorem Covered.decreaseUserQuota {db : Bool} (h : Covered u t s) (hq : q ≤ s.ledger (.wallet u))
    (hs : s.decreaseUserQuota fault u q db = .ok s') : Covered u t s' := by
  rw [Covered, (decreaseUserQuota_spec hs).1]
  refine ⟨?_, by simpa using h.2⟩
  simp only [Pi.add_apply, Pi.single_eq_same]
  omega

/-- **One statement.** The checks of the call cover its decreases. -/
theorem Covered.advance (h : Covered info.userId info.tokenId s)
    (hlimited : info.tokenUnlimited = false)
    (c : WalletCall info quota) (hc : c.ReadsCurrent s) (fault : Option Err) :
    Covered info.userId info.tokenId (c.advance env s fault).1 := by
  cases c with
  | new =>
    rw [WalletCall.advance]
    cases s.getUserQuota none fault info.userId with
    | error => exact h
    | ok =>
      dsimp only
      split_ifs <;> exact h
  | userRead =>
    rw [WalletCall.advance]
    cases s.getTokenByKey none fault info.tokenKey with
    | error => exact h
    | ok =>
      dsimp only
      split_ifs <;> exact h
  | tokenRead _ _ _ remains =>
    rw [WalletCall.advance]
    cases hs : s.decreaseTokenQuota fault info.tokenId quota with
    | error => exact h
    | ok => exact h.decreaseTokenQuota ((remains hlimited).trans hc) hs
  | tokenTaken _ enough =>
    rw [WalletCall.advance]
    cases hs : s.decreaseUserQuota fault info.userId quota false with
    | error => exact h
    | ok => exact h.decreaseUserQuota (enough.trans hc) hs
  | walletFailed e positive =>
    rw [WalletCall.advance]
    split_ifs
    · exact h
    · cases hs : s.increaseTokenQuota fault info.tokenId quota with
      | error => exact h
      | ok => exact h.increaseTokenQuota positive hs
  | opened | refused => exact h

end WalletCall

/-! ### Interleavings -/

variable {P : Type} [DecidableEq P] {info : P → RelayInfo} {quota : P → ℤ}

def WalletRace.ReadsCurrent (s : WalletRace P info quota) (e : P × Option Err) : Prop :=
  (s.calls e.1).ReadsCurrent s.store

instance (s : WalletRace P info quota) (e : P × Option Err) : Decidable (s.ReadsCurrent e) :=
  inferInstanceAs (Decidable ((s.calls e.1).ReadsCurrent s.store))

/-- **No overdraft** in any interleaving of calls of one user with one limited token, if no balance
has fallen between a call's read and its decrease. -/
theorem preConsumption_covered (env : BillingEnv) (u t : ℤ) (huser : ∀ p, (info p).userId = u)
    (htoken : ∀ p, (info p).tokenId = t) (hlimited : ∀ p, (info p).tokenUnlimited = false)
    (s : Store) (hwallet : 0 ≤ s.ledger (.wallet u)) (hremain : 0 ≤ s.ledger (.token t))
    (es : List (P × Option Err))
    (hguard : Guarded (WalletRace.step env) WalletRace.ReadsCurrent (.start info quota s) es) :
    let s' := es.foldl (WalletRace.step env) (.start info quota s)
    0 ≤ s'.store.ledger (.wallet u) ∧ 0 ≤ s'.store.ledger (.token t) := by
  have hstep : ∀ (r : WalletRace P info quota) (e : P × Option Err),
      WalletCall.Covered u t r.store → r.ReadsCurrent e →
        WalletCall.Covered u t (r.step env e).store := by
    rintro r ⟨p, fault⟩ hr hcurrent
    rw [← huser p, ← htoken p] at hr ⊢
    exact hr.advance (hlimited p) (r.calls p) hcurrent fault
  exact Guarded.invariant hstep (show WalletCall.Covered u t _ from ⟨hwallet, hremain⟩) hguard

theorem preConsumption_covered_of_sequential :
    let es : List (Bool × Option Err) :=
      [(false, none), (false, none), (false, none), (false, none), (true, none), (true, none)]
    let s' := es.foldl (WalletRace.step .standard)
      (.start (fun _ => .sample "wallet_only") (fun _ => 20) .sample)
    (0 ≤ s'.store.ledger (.wallet 1) ∧ 0 ≤ s'.store.ledger (.token 7)) ∧
      s'.store.ledger (.wallet 1) = 10 ∧ s'.store.ledger (.token 7) = 30 :=
  ⟨preConsumption_covered .standard 1 7 (fun _ => rfl) (fun _ => rfl) (fun _ => rfl) .sample
    (by decide) (by decide) _ (by decide +kernel), by decide +kernel⟩

/-- Two calls for 20 that both read the balance of 30 first. -/
theorem preConsumption_overdraws :
    let es : List (Bool × Option Err) := [(false, none), (true, none), (false, none), (true, none),
      (false, none), (true, none), (false, none), (true, none)]
    let s' := es.foldl (WalletRace.step .standard)
      (.start (fun _ => .sample "wallet_only") (fun _ => 20) .sample)
    (Store.sample.ledger (.wallet 1) = 30 ∧ Store.sample.ledger (.token 7) = 50) ∧
      s'.store.ledger (.wallet 1) = -10 ∧ s'.store.ledger (.token 7) = 10 := by
  decide +kernel

end TokensFlux
