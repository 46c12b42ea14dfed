import TokensFlux.Billing.Session
import TokensFlux.Subscription.Equiv.Basic
import Mathlib.Algebra.Group.Pi.Lemmas

/-!
# Postings of the billing operations

A request pays from one account and from its token: `charge account info n`, which is additive in
`n`.
-/

namespace TokensFlux

def accountPosting (account : Account) : ℤ →+ (Account → ℤ) :=
  -AddMonoidHom.single (fun _ => ℤ) account

def tokenPosting (info : RelayInfo) : ℤ →+ (Account → ℤ) :=
  if info.isPlayground then 0
  else AddMonoidHom.single (fun _ => ℤ) (.tokenUsed info.tokenId)
    - AddMonoidHom.single (fun _ => ℤ) (.token info.tokenId)

def charge (account : Account) (info : RelayInfo) : ℤ →+ (Account → ℤ) :=
  accountPosting account + tokenPosting info

theorem accountPosting_apply (account : Account) (n : ℤ) :
    accountPosting account n = Pi.single account (-n) := by
  rw [accountPosting, AddMonoidHom.neg_apply, AddMonoidHom.single_apply, Pi.single_neg]

variable {b : Billing} {src : FundingSource} {info : RelayInfo} {s s' : Store}
  {actualQuota delta : ℤ}

theorem tokenPosting_of_playground (h : info.isPlayground = true) (n : ℤ) :
    tokenPosting info n = 0 := by
  rw [tokenPosting, if_pos h, AddMonoidHom.zero_apply]

theorem tokenPosting_of_not_playground (h : info.isPlayground = false) (n : ℤ) : tokenPosting info n
      = Pi.single (.token info.tokenId) (-n) + Pi.single (.tokenUsed info.tokenId) n := by
  rw [tokenPosting, if_neg (by simp [h]), AddMonoidHom.sub_apply, AddMonoidHom.single_apply,
    AddMonoidHom.single_apply, Pi.single_neg]
  abel

theorem charge_apply (account : Account) (info : RelayInfo) (n : ℤ) :
    charge account info n = accountPosting account n + tokenPosting info n :=
  AddMonoidHom.add_apply _ _ _

theorem charge_congr {info' : RelayInfo} (htoken : info'.tokenId = info.tokenId)
    (hplayground : info'.isPlayground = info.isPlayground) (account : Account) :
    charge account info' = charge account info := by
  rw [charge, charge, tokenPosting, tokenPosting, htoken, hplayground]

theorem charge_self {account : Account} (h : ∀ id, account ≠ .token id ∧ account ≠ .tokenUsed id)
    (info : RelayInfo) (n : ℤ) : charge account info n account = -n := by
  rw [charge_apply, Pi.add_apply, accountPosting_apply, Pi.single_eq_same]
  cases hp : info.isPlayground with
  | true => rw [tokenPosting_of_playground hp, Pi.zero_apply, add_zero]
  | false =>
    rw [tokenPosting_of_not_playground hp, Pi.add_apply, Pi.single_eq_of_ne (h _).1,
      Pi.single_eq_of_ne (h _).2, add_zero, add_zero]

theorem charge_token {account : Account} (h : ∀ id, account ≠ .token id)
    (hp : info.isPlayground = false) (n : ℤ) :
    charge account info n (.token info.tokenId) = -n := by
  rw [charge_apply, Pi.add_apply, accountPosting_apply, Pi.single_eq_of_ne (h _).symm,
    tokenPosting_of_not_playground hp, Pi.add_apply, Pi.single_eq_same,
    Pi.single_eq_of_ne (by simp), zero_add, add_zero]

/-! ### Tokens and wallets -/

open Billing Except FundingSource Option Pi Store

theorem adjustTokenQuota_spec {fault : Option Err} (hp : info.isPlayground = false)
    (h : adjustTokenQuota s fault info.tokenId delta = .ok s') :
    s'.ledger = s.ledger + tokenPosting info delta ∧ SameTables s s' := by
  rw [tokenPosting_of_not_playground hp]
  unfold adjustTokenQuota at h
  split_ifs at h
  · exact decreaseTokenQuota_spec h
  · have := increaseTokenQuota_spec h
    rwa [neg_neg] at this

theorem adjustTokenQuota_isOk (s : Store) (tokenId delta : ℤ) :
    ∃ s', adjustTokenQuota s none tokenId delta = .ok s' := by
  unfold adjustTokenQuota
  split_ifs with h
  · exact decreaseTokenQuota_isOk s h.le
  · exact increaseTokenQuota_isOk s (by omega)

theorem adjustUserQuota_spec {fault : Option Err} {userId : ℤ}
    (h : adjustUserQuota s fault userId delta = .ok s') :
    s'.ledger = s.ledger + accountPosting (.wallet userId) delta ∧ SameTables s s' := by
  rw [accountPosting_apply]
  unfold adjustUserQuota at h
  split_ifs at h
  · exact decreaseUserQuota_spec h
  · exact increaseUserQuota_spec h

theorem adjustUserQuota_isOk (s : Store) (userId delta : ℤ) :
    ∃ s', adjustUserQuota s none userId delta = .ok s' := by
  unfold adjustUserQuota
  split_ifs with h
  · exact decreaseUserQuota_isOk s h.le _
  · exact increaseUserQuota_isOk s (by omega) _

/-- Giving the amount back undoes it exactly. -/
theorem preConsumeTokenQuota_spec {env : BillingEnv} {f : TokenFaults} {quota : ℤ}
    (h : preConsumeTokenQuota env s f info quota = .ok s') :
    s'.ledger = s.ledger + tokenPosting info quota ∧ SameTables s s' ∧
      (if info.isPlayground then s' = s
        else s'.increaseTokenQuota none info.tokenId quota = .ok s) := by
  unfold preConsumeTokenQuota at h
  split_ifs at h with hneg hp
  · cases h
    rw [if_pos hp, tokenPosting_of_playground hp, add_zero]
    exact ⟨rfl, SameTables.refl s, rfl⟩
  split at h
  · cases h
  split_ifs at h
  rw [if_neg hp, tokenPosting_of_not_playground (by simpa using hp)]
  obtain ⟨hledger, htables⟩ := decreaseTokenQuota_spec h
  exact ⟨hledger, htables, increaseTokenQuota_of_decreaseTokenQuota h⟩

/-! ### Settling -/

def FundingSource.account : FundingSource → Account
  | .wallet w => .wallet w.userId
  | .subscription f => .subscription f.subscriptionId

theorem FundingSource.account_ne_token (src : FundingSource) (id : ℤ) :
    src.account ≠ .token id ∧ src.account ≠ .tokenUsed id := by
  cases src <;> simp [account]

def FundingSource.Uncut (src : FundingSource) (s : Store) (delta : ℤ) : Prop :=
  match src with
  | .wallet _ => True
  | .subscription f => 0 ≤ s.amountUsed f.subscriptionId + delta

instance (src : FundingSource) (s : Store) (delta : ℤ) : Decidable (src.Uncut s delta) := by
  unfold FundingSource.Uncut
  split <;> infer_instance

/-- A settlement posts the difference to the account of its source. -/
theorem FundingSource.settle_ledger {f : FundingFaults} (h : src.settle s f delta = .ok s')
    (hcut : src.Uncut s delta) : s'.ledger = s.ledger + accountPosting src.account delta := by
  unfold FundingSource.settle at h
  split_ifs at h with hd
  · cases h
    rw [hd, map_zero, add_zero]
  cases src with
  | wallet => exact (adjustUserQuota_spec h).1
  | subscription =>
    rw [accountPosting_apply]
    exact postConsumeUserSubscriptionDelta_ledger h hcut

/-- A wallet takes any charge, a subscription one that does not pass its total. -/
def FundingSource.Accepts (src : FundingSource) (s : Store) (delta : ℤ) : Prop :=
  match src with
  | .wallet _ => True
  | .subscription f =>
    ∃ sub ∈ s.subs.lookup f.subscriptionId, sub.amountTotal ≤ 0 ∨
      sub.amountUsed + delta ≤ sub.amountTotal

instance (src : FundingSource) (s : Store) (delta : ℤ) : Decidable (src.Accepts s delta) :=
  match src with
  | .wallet _ => instDecidableTrue
  | .subscription f => inferInstanceAs (Decidable (∃ sub ∈ s.subs.lookup f.subscriptionId, _ ∨ _))

theorem FundingSource.settle_isOk (hids : ∀ f, src = .subscription f → 0 < f.subscriptionId)
    (h : delta = 0 ∨ src.Accepts s delta) : ∃ s', src.settle s {} delta = .ok s' := by
  unfold settle
  split_ifs with hzero
  · exact ⟨s, rfl⟩
  have haccepts := h.resolve_left hzero
  cases src with
  | wallet w => exact adjustUserQuota_isOk s w.userId delta
  | subscription f =>
    obtain ⟨_, hsub, htotal⟩ := haccepts
    exact postConsumeUserSubscriptionDelta_isOk (hids f rfl) hsub htotal

theorem FundingSource.uncut_zero (src : FundingSource) (s : Store) : src.Uncut s 0 := by
  cases src with
  | wallet => trivial
  | subscription f =>
    show 0 ≤ s.amountUsed f.subscriptionId + 0
    rw [add_zero]
    exact s.amountUsed_nonneg f.subscriptionId

/-- **`Settle`** of an open session posts the difference to the pre-consumed amount. -/
theorem Billing.settle_spec {b' : Billing} {f : SettleFaults} (hsettled : b.session.settled = false)
    (hfunding : b.session.fundingSettled = false) (h : b.settle f actualQuota = (b', none))
    (hcut : b.session.funding.Uncut b.store (actualQuota - b.session.preConsumedQuota)) :
    b'.session.settled = true ∧ b'.store.ledger = b.store.ledger
        + charge b.session.funding.account b.info (actualQuota - b.session.preConsumedQuota) := by
  unfold settle at h
  rw [if_neg (by simp [hsettled])] at h
  by_cases hdelta : actualQuota - b.session.preConsumedQuota = 0
  · rw [if_pos hdelta] at h
    obtain rfl := (Prod.mk.inj h).1
    rw [hdelta, map_zero, add_zero]
    exact ⟨rfl, rfl⟩
  rw [if_neg hdelta, if_neg (by simp [hfunding])] at h
  rcases hset : b.session.funding.settle b.store f.funding
    (actualQuota - b.session.preConsumedQuota) with _ | s
  · rw [hset] at h; cases h
  rw [hset] at h
  -- The funding source has paid its part of the charge; what remains is the token's.
  have hpaid := settle_ledger hset hcut
  rw [charge_apply, ← add_assoc, ← hpaid]
  cases hp : b.info.isPlayground with
  | true =>
    simp only [hp, if_true] at h
    obtain rfl := (Prod.mk.inj h).1
    rw [tokenPosting_of_playground hp, add_zero]
    exact ⟨rfl, rfl⟩
  | false =>
    cases htoken : adjustTokenQuota s f.token b.info.tokenId
      (actualQuota - b.session.preConsumedQuota) with
    | error => simp [hp, htoken] at h
    | ok =>
      simp only [hp, htoken, Bool.false_eq_true, if_false] at h
      obtain rfl := (Prod.mk.inj h).1
      exact ⟨rfl, (adjustTokenQuota_spec hp htoken).1⟩

/-- `Settle` fails only if the funding source refuses, and then nothing has happened. -/
theorem Billing.settle_error {b' : Billing} {e : Err} (h : b.settle {} actualQuota = (b', some e)) :
    b' = b ∧ b.session.funding.settle b.store {}
    (actualQuota - b.session.preConsumedQuota) = .error e := by
  unfold settle at h
  by_cases hsettled : b.session.settled = true
  · rw [if_pos hsettled] at h
    cases h
  by_cases hdelta : actualQuota - b.session.preConsumedQuota = 0
  · rw [if_neg hsettled, if_pos hdelta] at h
    cases h
  rw [if_neg hsettled, if_neg hdelta] at h
  split at h
  · rename_i e' he
    obtain ⟨rfl, he'⟩ := Prod.mk.inj h
    rw [some.inj he'] at he
    split_ifs at he
    exact ⟨rfl, he⟩
  rename_i s _
  -- Past the funding source only the token could fail, and without a fault it does not.
  obtain ⟨s', hs⟩ := adjustTokenQuota_isOk s b.info.tokenId
    (actualQuota - b.session.preConsumedQuota)
  cases hp : b.info.isPlayground <;> simp [hp, hs] at h

theorem Billing.settle_of_accepts (hsettled : b.session.settled = false)
    (hfunding : b.session.fundingSettled = false)
    (hids : ∀ f, b.session.funding = .subscription f → 0 < f.subscriptionId)
    (h : actualQuota = b.session.preConsumedQuota ∨
      b.session.funding.Accepts b.store (actualQuota - b.session.preConsumedQuota) ∧
      b.session.funding.Uncut b.store (actualQuota - b.session.preConsumedQuota)) :
    (b.settle {} actualQuota).1.store.ledger = b.store.ledger
      + charge b.session.funding.account b.info (actualQuota - b.session.preConsumedQuota) := by
  have hcut : b.session.funding.Uncut b.store (actualQuota - b.session.preConsumedQuota) := by
    rcases h with rfl | ⟨-, hcut⟩
    · rw [sub_self]
      exact b.session.funding.uncut_zero b.store
    · exact hcut
  obtain ⟨s', hs'⟩ : ∃ s', b.session.funding.settle b.store {}
      (actualQuota - b.session.preConsumedQuota) = .ok s' := by
    apply settle_isOk hids
    rcases h with rfl | ⟨haccepts, -⟩
    · exact .inl (sub_self _)
    · exact .inr haccepts
  cases hres : b.settle {} actualQuota with
  | mk _ err =>
    cases err with
    | none => exact (settle_spec hsettled hfunding hres hcut).2
    | some =>
      have hrefused := (settle_error hres).2
      rw [hs'] at hrefused
      cases hrefused

theorem Billing.settle_info (b : Billing) (f : SettleFaults) (actualQuota : ℤ) :
    ∃ subscriptionPostDelta, (b.settle f actualQuota).1.info =
      { b.info with subscriptionPostDelta } := by
  unfold settle
  by_cases hsettled : b.session.settled = true
  · rw [if_pos hsettled]
    exact ⟨_, rfl⟩
  rw [if_neg hsettled]
  by_cases hdelta : actualQuota - b.session.preConsumedQuota = 0
  · rw [if_pos hdelta]
    exact ⟨_, rfl⟩
  rw [if_neg hdelta]
  -- Neither the funding source nor the token touches the `RelayInfo`, so both stay abstract.
  generalize (if b.session.fundingSettled = true then Except.ok b.store else _) = funded
  obtain _ | s := funded
  · exact ⟨_, rfl⟩
  have hinfo : ∃ subscriptionPostDelta, (if b.session.funding.source = .subscription then
      { b.info with subscriptionPostDelta := b.info.subscriptionPostDelta
          + (actualQuota - b.session.preConsumedQuota) }
      else b.info) = { b.info with subscriptionPostDelta } := by
    split_ifs <;> exact ⟨_, rfl⟩
  dsimp only
  generalize (if b.info.isPlayground = true then Except.ok s else _) = adjusted
  cases adjusted with
  | error | ok => exact hinfo

/-! ### The log -/

def SameLogs (s s' : Store) : Prop :=
  s'.logs = s.logs ∧ s'.logConsumeEnabled = s.logConsumeEnabled

theorem SameLogs.trans {s₁ s₂ s₃ : Store} (h : SameLogs s₁ s₂)
    (h' : SameLogs s₂ s₃) : SameLogs s₁ s₃ :=
  ⟨h'.1.trans h.1, h'.2.trans h.2⟩

theorem Store.SameTables.sameLogs (h : SameTables s s') : SameLogs s s' :=
  ⟨h.logs, h.logConsumeEnabled⟩

/-- The funding source, then the token unless that fails. -/
theorem Billing.settle_store (hsettled : b.session.settled = false)
    (hfunding : b.session.fundingSettled = false) (f : SettleFaults)
    (hdelta : actualQuota - b.session.preConsumedQuota = delta) :
    match b.session.funding.settle b.store f.funding delta with
    | .error _ => (b.settle f actualQuota).1.store = b.store
    | .ok s => (b.settle f actualQuota).1.store = s ∨ b.info.isPlayground = false ∧
        adjustTokenQuota s f.token b.info.tokenId delta = .ok (b.settle f actualQuota).1.store := by
  unfold Billing.settle
  rw [if_neg (by simp [hsettled]), hdelta]
  by_cases hzero : delta = 0
  · have hkept : b.session.funding.settle b.store f.funding delta = .ok b.store := by
      unfold FundingSource.settle
      rw [if_pos hzero]
    rw [if_pos hzero, hkept]
    exact .inl rfl
  rw [if_neg hzero, if_neg (by simp [hfunding])]
  obtain _ | s := b.session.funding.settle b.store f.funding delta
  · rfl
  dsimp only
  cases hp : b.info.isPlayground with
  | true => exact .inl rfl
  | false =>
    cases adjustTokenQuota s f.token b.info.tokenId delta with
    | error => exact .inl rfl
    | ok => exact .inr ⟨rfl, rfl⟩

theorem FundingSource.settle_sameLogs {f : FundingFaults} (h : src.settle s f delta = .ok s') :
    SameLogs s s' ∧ ∀ userId, s'.ledger (.userUsed userId) = s.ledger (.userUsed userId) := by
  unfold FundingSource.settle at h
  split_ifs at h with hd
  · cases h
    exact ⟨⟨rfl, rfl⟩, fun _ => rfl⟩
  cases src with
  | wallet =>
    obtain ⟨hledger, htables⟩ := adjustUserQuota_spec h
    refine ⟨htables.sameLogs, fun userId => ?_⟩
    rw [hledger, accountPosting_apply, Pi.add_apply, Pi.single_eq_of_ne (by simp), add_zero]
  | subscription =>
    obtain ⟨-, -, -, -, rfl⟩ := postConsumeUserSubscriptionDelta_ok hd h
    exact ⟨⟨rfl, rfl⟩, fun _ => rfl⟩

theorem Billing.settle_sameLogs (hsettled : b.session.settled = false)
    (hfunding : b.session.fundingSettled = false) (f : SettleFaults) (actualQuota : ℤ) :
    SameLogs b.store (b.settle f actualQuota).1.store ∧
      ∀ userId, (b.settle f actualQuota).1.store.ledger (.userUsed userId) =
      b.store.ledger (.userUsed userId) := by
  have hstore := Billing.settle_store hsettled hfunding f (Eq.refl (actualQuota - _))
  split at hstore
  · rw [hstore]
    exact ⟨⟨rfl, rfl⟩, fun _ => rfl⟩
  rename_i s hs
  obtain ⟨hlogs, hused⟩ := FundingSource.settle_sameLogs hs
  rcases hstore with h | ⟨hp, h⟩
  · rw [h]
    exact ⟨hlogs, hused⟩
  obtain ⟨hledger, htables⟩ := adjustTokenQuota_spec hp h
  refine ⟨hlogs.trans htables.sameLogs, fun userId => ?_⟩
  rw [hledger, tokenPosting_of_not_playground hp, Pi.add_apply, Pi.add_apply,
    Pi.single_eq_of_ne (by simp), Pi.single_eq_of_ne (by simp), add_zero, add_zero, hused]

/-- Past the total is refused, below zero is cut. -/
theorem Billing.settle_amountUsed {funding : SubscriptionFunding} {sub : UserSubscription}
    (hsettled : b.session.settled = false) (hopen : b.session.fundingSettled = false)
    (hfunding : b.session.funding = .subscription funding) (hid : 0 < funding.subscriptionId)
    (hsub : b.store.subs.lookup funding.subscriptionId = some sub)
    (hdelta : actualQuota - b.session.preConsumedQuota = delta) :
    (b.settle {} actualQuota).1.store.amountUsed funding.subscriptionId
      = if delta = 0 ∨ sub.amountTotal ≤ 0 ∨ sub.amountUsed + delta ≤ sub.amountTotal then
          max (sub.amountUsed + delta) 0
        else sub.amountUsed := by
  have hstore := Billing.settle_store hsettled hopen {} hdelta
  have hused := amountUsed_of_lookup hsub
  rw [hfunding] at hstore
  unfold FundingSource.settle at hstore
  by_cases hd : delta = 0
  · have hkept : (b.settle {} actualQuota).1.store.subs = b.store.subs := by
      rw [if_pos hd] at hstore
      rcases hstore with h | ⟨hp, h⟩
      · rw [h]
      · exact (adjustTokenQuota_spec hp h).2.subs
    rw [if_pos (Or.inl hd), amountUsed, hkept, hsub]
    dsimp only
    omega
  rw [if_neg hd] at hstore
  dsimp only at hstore
  -- The token is adjusted after the subscription and leaves its row alone.
  cases hpost : b.store.postConsumeUserSubscriptionDelta {} funding.subscriptionId delta with
  | error =>
    rw [hpost] at hstore
    have hrefused : ¬(sub.amountTotal ≤ 0 ∨ sub.amountUsed + delta ≤ sub.amountTotal) := by
      intro htotal
      obtain ⟨s', hs'⟩ := postConsumeUserSubscriptionDelta_isOk hid hsub htotal
      rw [hpost] at hs'
      cases hs'
    rw [if_neg (by tauto), hstore, hused]
  | ok s' =>
    rw [hpost] at hstore
    obtain ⟨sub', hsub', -, htotal, hs'⟩ := postConsumeUserSubscriptionDelta_ok hd hpost
    obtain rfl : sub = sub' := some.inj (hsub.symm.trans hsub')
    have hsubs : (b.settle {} actualQuota).1.store.subs = s'.subs := by
      rcases hstore with h | ⟨hp, h⟩
      · rw [h]
      · exact (adjustTokenQuota_spec hp h).2.subs
    rw [if_pos (Or.inr htotal), amountUsed, hsubs, hs', AList.lookup_insert]
    dsimp only
    omega

theorem Billing.settle_wallet_isOk {w : WalletFunding} (hw : b.session.funding = .wallet w)
    (actualQuota : ℤ) :
    ∃ b', b.settle {} actualQuota = (b', none) := by
  cases hres : b.settle {} actualQuota with
  | mk b' err =>
    obtain _ | _ := err
    · exact ⟨b', rfl⟩
    obtain ⟨-, he⟩ := Billing.settle_error hres
    obtain ⟨s, hs⟩ := adjustUserQuota_isOk b.store w.userId
      (actualQuota - b.session.preConsumedQuota)
    rw [hw, FundingSource.settle] at he
    split_ifs at he
    rw [hs] at he
    cases he

/-! ### Settling without a session -/

theorem postConsumeQuota_wallet (h : info.billingSource ≠ .subscription) (s : Store) (quota : ℤ) :
    ∃ s', postConsumeQuota info s {} quota = (s', info, none) ∧
      s'.ledger = s.ledger + charge (.wallet info.userId) info quota ∧ SameTables s s' := by
  obtain ⟨s₁, hs₁⟩ := adjustUserQuota_isOk s info.userId quota
  obtain ⟨hledger₁, htables₁⟩ := adjustUserQuota_spec hs₁
  unfold postConsumeQuota
  rw [if_neg h, hs₁]
  cases hp : info.isPlayground with
  | true =>
    refine ⟨s₁, by simp [Except.map, hp], ?_, htables₁⟩
    rw [hledger₁, charge_apply, tokenPosting_of_playground hp, add_zero]
  | false =>
    obtain ⟨s₂, hs₂⟩ := adjustTokenQuota_isOk s₁ info.tokenId quota
    obtain ⟨hledger₂, htables₂⟩ := adjustTokenQuota_spec hp hs₂
    refine ⟨s₂, by simp [Except.map, hp, hs₂], ?_, htables₁.trans htables₂⟩
    rw [hledger₂, hledger₁, charge_apply, add_assoc]

end TokensFlux
