import Mathlib.Tactic.Positivity
import TokensFlux.TopUp.Equiv.Basic

/-!
# What an order is worth

An administrator takes the amount for units of money unless the provider is Stripe; Epay stores
whole units.
-/

namespace TokensFlux

open TopUpStore Fulfilment TopUpRun

theorem max_truncate_eq_iff {x : ℚ} {n : ℤ} (hn : 0 < n) :
    max 0 (truncate x) = n ↔ n ≤ x ∧ x < n + 1 := by
  rcases le_total 0 x with hx | hx
  · have hfloor := Int.floor_nonneg.mpr hx
    rw [truncate_of_nonneg hx, max_eq_right hfloor, Int.floor_eq_iff]
  have hpos : (0 : ℚ) < n := by exact_mod_cast hn
  have htruncate := truncate_nonpos hx
  constructor
  · intro h
    omega
  · rintro ⟨h, -⟩
    linarith

namespace TopUpRun

variable {P : Type} [DecidableEq P]

/-- Without faults. -/
def completion (p : P) (tradeNo notice : String) : PaymentProvider → List (TopUpEvent P)
  | .epay => [.epayLock p tradeNo notice, .epayRead p tradeNo none, .epaySave p tradeNo none,
      .epayCredit p tradeNo none]
  | .stripe => [.fulfil p tradeNo (.recharge notice) {}]
  | .creem => [.fulfil p tradeNo (.rechargeCreem notice) {}]
  | .waffo => [.fulfil p tradeNo .rechargeWaffo {}]
  | .waffoPancake => [.fulfil p tradeNo .rechargeWaffoPancake {}]
  | .unset => []
  | .balance => []

def quotaAdded (env : TopUpEnv) (r : TopUpRun P) (userId : ℤ) (es : List (TopUpEvent P)) : ℤ :=
  (es.foldl (step env) r).store.billing.userQuota userId - r.store.billing.userQuota userId

def worth (env : TopUpEnv) (topUp : TopUp) : ℤ :=
  match topUp.paymentProvider with
  | .stripe => env.addedFloat (topUp.money * env.quotaPerUnit)
  | .creem => topUp.amount
  | .unset | .balance => 0
  | .epay | .waffo | .waffoPancake => max 0 (env.quotaOfAmount topUp)

/-- Stripe's money is cut down to whole quota by the database too, and Creem's amount, which is
quota, is hardly changed by the price of a unit. -/
def SameWorth (env : TopUpEnv) (topUp : TopUp) : Prop :=
  match topUp.paymentProvider with
  | .stripe => env.addedFloat (topUp.money * env.quotaPerUnit) = max 0 (env.quotaOfMoney topUp)
  | .creem =>
    topUp.amount = 0 ∨ 0 < topUp.amount ∧ 1 ≤ env.quotaPerUnit ∧
      topUp.amount * (env.quotaPerUnit - 1) < 1
  | _ => True

variable {env : TopUpEnv} {r : TopUpRun P} {p : P} {tradeNo : String} {topUp : TopUp}

theorem completeTopUp_noFaults (s : TopUpStore) (quota : ℤ) :
    s.completeTopUp {} tradeNo topUp quota = .ok ({ s with
        topUps := s.topUps.insert tradeNo { topUp with completeTime := 0, status := .success }
        billing := { s.billing with
          userQuota := Function.update s.billing.userQuota topUp.userId
            (s.billing.userQuota topUp.userId + quota) } }, some ⟨topUp.userId, quota⟩) :=
  rfl

theorem lockTopUp_noFaults {s : TopUpStore} {notFound : Err}
    (h : s.topUps.lookup tradeNo = some topUp) :
    s.lockTopUp {} tradeNo notFound = .ok topUp := by
  simp [lockTopUp, h]

section Fulfilment

variable {how : Fulfilment} (hfree : r.phase p tradeNo = none)

include hfree

theorem quotaAdded_of_error {e : Err} (hrun : how.run env r.store {} tradeNo = .error e)
    (userId : ℤ) : quotaAdded env r userId [.fulfil p tradeNo how {}] = 0 := by
  simp [quotaAdded, step, hfree, hrun]

theorem quotaAdded_of_complete {s : TopUpStore} {quota : ℤ}
    (hrun : how.run env r.store {} tradeNo = s.completeTopUp {} tradeNo topUp quota)
    (hbilling : s.billing = r.store.billing) :
    quotaAdded env r topUp.userId [.fulfil p tradeNo how {}] = quota := by
  rw [completeTopUp_noFaults, hbilling] at hrun
  simp [quotaAdded, step, hfree, hrun, commit]

theorem quotaAdded_of_positive {quota : ℤ} {e : Err} (hrun : how.run env r.store {} tradeNo =
      if quota ≤ 0 then .error e else r.store.completeTopUp {} tradeNo topUp quota) :
    quotaAdded env r topUp.userId [.fulfil p tradeNo how {}] = max 0 quota := by
  split_ifs at hrun with hquota
  · rw [quotaAdded_of_error hfree hrun, max_eq_left hquota]
  · rw [quotaAdded_of_complete hfree hrun rfl, max_eq_right (not_le.mp hquota).le]

end Fulfilment

section Order

variable (hlookup : r.store.topUps.lookup tradeNo = some topUp) (hpending : topUp.status = .pending)
  (hfree : r.phase p tradeNo = none)

include hlookup hpending hfree

theorem quotaAdded_epay (hprovider : topUp.paymentProvider = .epay) (notice : String) :
    quotaAdded env r topUp.userId (completion p tradeNo notice .epay) =
      max 0 (env.quotaOfAmount topUp) := by
  have hread : r.store.epayRead none tradeNo notice =
      some (.saving { topUp with paymentMethod := notice }) := by
    simp [epayRead, hlookup, hprovider, hpending]
  have hworth : env.quotaOfAmount { topUp with paymentMethod := notice } =
    env.quotaOfAmount topUp := rfl
  -- A negative quota is refused by `IncreaseUserQuota`, with the order saved.
  by_cases hneg : env.quotaOfAmount topUp < 0
  · rw [max_eq_left hneg.le]
    simp [quotaAdded, completion, step, hfree, hread, setPhase, saveTopUp, hworth,
      Store.increaseUserQuota, hneg]
  · rw [max_eq_right (not_lt.mp hneg)]
    simp [quotaAdded, completion, step, hfree, hread, setPhase, saveTopUp, hworth,
      Store.increaseUserQuota, Store.addUserQuota, hneg, commit]

variable (htradeNo : tradeNo ≠ "")

include htradeNo

theorem quotaAdded_manual :
    quotaAdded env r topUp.userId [.fulfil p tradeNo .manualCompleteTopUp {}] =
      max 0 (if topUp.paymentProvider = .stripe then env.quotaOfMoney topUp
        else env.quotaOfAmount topUp) := by
  apply quotaAdded_of_positive (e := "无效的充值额度") hfree
  simp [run, TopUpStore.manualCompleteTopUp, htradeNo, lockTopUp_noFaults hlookup, hpending]

theorem quotaAdded_byAmount {how : Fulfilment} (hhow : how.run env r.store {} tradeNo =
      rechargeByAmount env topUp.paymentProvider r.store {} tradeNo) :
    quotaAdded env r topUp.userId [.fulfil p tradeNo how {}] = max 0 (env.quotaOfAmount topUp) := by
  apply quotaAdded_of_positive (e := "充值失败，请稍后重试") hfree
  rw [hhow, rechargeByAmount, if_neg htradeNo, lockTopUp_noFaults hlookup]
  split_ifs with hquota
  · simp [hpending, hquota, orFailed, Except.mapError]
  · simp [hpending, hquota, completeTopUp_noFaults, orFailed, Except.mapError]

theorem quotaAdded_completion (notice : String) :
    quotaAdded env r topUp.userId (completion p tradeNo notice topUp.paymentProvider) =
      worth env topUp := by
  have hlock (notFound : Err) : r.store.lockTopUp {} tradeNo notFound = .ok topUp :=
    lockTopUp_noFaults hlookup
  unfold worth
  cases hprovider : topUp.paymentProvider with
  | unset | balance => simp [completion, quotaAdded]
  | epay => exact quotaAdded_epay hlookup hpending hfree hprovider notice
  | stripe =>
    let stripeCustomer := Function.update r.store.stripeCustomer topUp.userId notice
    apply quotaAdded_of_complete (s := { r.store with stripeCustomer }) hfree _ rfl
    simp [run, TopUpStore.recharge, htradeNo, hlock, hprovider, hpending, completeTopUp_noFaults,
      orFailed, Except.mapError, stripeCustomer]
  | creem =>
    let email :=
      if notice ≠ "" ∧ r.store.email topUp.userId = "" then
        Function.update r.store.email topUp.userId notice
      else r.store.email
    apply quotaAdded_of_complete (s := { r.store with email }) hfree _ rfl
    by_cases hnotice : notice = ""
    all_goals
      simp [run, TopUpStore.rechargeCreem, htradeNo, hlock, hprovider, hpending,
        hnotice, completeTopUp_noFaults, orFailed, Except.mapError, email]
  | waffo =>
    apply quotaAdded_byAmount hlookup hpending hfree htradeNo
    rw [hprovider, run, TopUpStore.rechargeWaffo]
  | waffoPancake =>
    apply quotaAdded_byAmount hlookup hpending hfree htradeNo
    rw [hprovider, run, TopUpStore.rechargeWaffoPancake]

/-- **An administrator credits what the provider's notice would** just where the order is worth the
same to both: always at Epay and Waffo. -/
theorem manualCompleteTopUp_addsSame_iff (hprovider : topUp.paymentProvider ∈
      [PaymentProvider.epay, .stripe, .creem, .waffo, .waffoPancake]) (notice : String) :
    quotaAdded env r topUp.userId [.fulfil p tradeNo .manualCompleteTopUp {}] =
        quotaAdded env r topUp.userId (completion p tradeNo notice topUp.paymentProvider) ↔
      SameWorth env topUp := by
  rw [quotaAdded_manual hlookup hpending hfree htradeNo,
    quotaAdded_completion hlookup hpending hfree htradeNo]
  unfold worth SameWorth
  cases h : topUp.paymentProvider with
  | unset | balance => simp [h] at hprovider
  | epay | waffo | waffoPancake => simp
  | stripe =>
    exact eq_comm
  | creem =>
    change max 0 (env.quotaOfAmount topUp) = topUp.amount ↔ topUp.amount = 0 ∨ _
    rcases lt_trichotomy topUp.amount 0 with _ | hzero | hpos
    · constructor
      · intro hadded
        omega
      · omega
    · simp [hzero, TopUpEnv.quotaOfAmount, truncate]
    have hpos' : (0 : ℚ) < topUp.amount := by exact_mod_cast hpos
    rw [TopUpEnv.quotaOfAmount, max_truncate_eq_iff hpos, le_mul_iff_one_le_right hpos']
    constructor
    · rintro ⟨hle, hlt⟩
      exact .inr ⟨hpos, hle, by linarith⟩
    · rintro (hzero | ⟨-, hle, hlt⟩)
      · omega
      · exact ⟨hle, by linarith⟩

end Order

/-- A product of Creem that sells 5 quota: an administrator credits 50. -/
theorem manualCompleteTopUp_creem : let topUp : TopUp :=
  { TopUp.sample with amount := 5, paymentProvider := .creem }
    let r : TopUpRun (Fin 2) := { sample with
      store := { sample.store with topUps := AList.singleton "T" topUp } }
    quotaAdded .ten r 1 [.fulfil 0 "T" .manualCompleteTopUp {}] = 50 ∧
      quotaAdded .ten r 1 (completion 0 "T" "" .creem) = 5 := by
  decide +kernel

/-- The administrator credits an order at Stripe of 2 units as the notice does. -/
theorem manualCompleteTopUp_stripe : let topUp : TopUp :=
  { TopUp.sample with paymentProvider := .stripe }
    let r : TopUpRun (Fin 2) := { sample with
      store := { sample.store with topUps := AList.singleton "T" topUp } }
    topUp.paymentProvider ∈ [PaymentProvider.epay, .stripe, .creem, .waffo, .waffoPancake] ∧
      SameWorth .ten topUp ∧ quotaAdded .ten r 1 [.fulfil 0 "T" .manualCompleteTopUp {}] =
        quotaAdded .ten r 1 (completion 0 "T" "" .stripe) := by
  intro topUp r
  have hworth : SameWorth .ten topUp := by
    change (_ : ℤ) = _
    decide +kernel
  have hlookup : r.store.topUps.lookup "T" = some topUp := rfl
  have hfree : r.phase 0 "T" = none := rfl
  exact ⟨by decide, hworth,
    (manualCompleteTopUp_addsSame_iff hlookup rfl hfree (by decide) (by decide) "").mpr hworth⟩

end TopUpRun

/-! ### The worth of an order at Epay -/

namespace EpayEnv

variable {env : EpayEnv}

def askedQuota (env : EpayEnv) (amount : ℤ) : ℚ :=
  if env.tokens then amount else amount * env.quotaPerUnit

/-- It is worth whole units of money, or whole quota if it is in a currency. -/
def Whole (env : EpayEnv) (amount : ℤ) : Prop :=
  0 < amount ∧ if env.tokens then ∃ units : ℤ, (amount : ℚ) = units * env.quotaPerUnit
    else ∃ quota : ℤ, (amount : ℚ) * env.quotaPerUnit = quota

theorem getPayMoney_eq {group : String} {amount : ℤ} (hunit : 0 < env.quotaPerUnit)
    (hratio : env.getTopupGroupRatio group = 1) (hdiscount : env.discount amount = 1) :
    env.getPayMoney amount group = env.askedQuota amount / env.quotaPerUnit * env.price := by
  simp only [getPayMoney, askedQuota, hdiscount, hratio]
  cases env.tokens
  · simp [hunit.ne']
  · simp

theorem requestEpay_ok {s s' : TopUpStore} {f : EpayFaults} {id : ℤ} {group tradeNo : String}
    {req : EpayRequest} (h : env.requestEpay s f id group tradeNo req = .ok s') :
    0 < env.getPayMoney req.amount group ∧ s'.topUps.lookup tradeNo =
      some (env.topUp id f.now group req) := by
  unfold requestEpay at h
  split_ifs at h with _ _ hlow
  constructor
  · linarith
  · rw [← Except.ok.inj h]
    exact AList.lookup_insert _

theorem quotaOfAmount_eq_asked_iff {id now : ℤ} {group : String} {req : EpayRequest}
    (hunit : 0 < env.quotaPerUnit) (hamount : req.amount ≠ 0) :
    ((max 0 (env.quotaOfAmount (env.topUp id now group req)) : ℤ) : ℚ) =
      env.askedQuota req.amount ↔ env.Whole req.amount := by
  unfold TopUpEnv.quotaOfAmount topUp askedQuota Whole
  rcases lt_or_gt_of_ne hamount with hneg | hpos
  · have hneg' : (req.amount : ℚ) < 0 := by exact_mod_cast hneg
    have hworth := mul_neg_of_neg_of_pos hneg' hunit
    constructor
    · intro h
      have hadded : (0 : ℚ) ≤ (max 0 (env.quotaOfAmount (env.topUp id now group req)) : ℤ) := by
        exact_mod_cast le_max_left _ _
      have hasked : (0 : ℚ) ≤ if env.tokens then (req.amount : ℚ)
          else req.amount * env.quotaPerUnit :=
        h ▸ hadded
      split_ifs at hasked <;> linarith
    · omega
  have hpos' : (0 : ℚ) < req.amount := by exact_mod_cast hpos
  simp only [hpos, true_and]
  cases env.tokens with
  | false =>
    have hworth := (mul_pos hpos' hunit).le
    simp only [Bool.false_eq_true, if_false]
    rw [truncate_of_nonneg hworth, max_eq_right (Int.floor_nonneg.mpr hworth)]
    constructor
    · intro h
      exact ⟨_, h.symm⟩
    · rintro ⟨_, h⟩
      rw [h, Int.floor_intCast]
  | true =>
    simp only [if_true]
    rw [Int.cast_inj, max_truncate_eq_iff hpos, truncate_of_nonneg (div_pos hpos' hunit).le]
    constructor
    · rintro ⟨hle, -⟩
      have hfloor := (le_div_iff₀ hunit).mp (Int.floor_le (req.amount / env.quotaPerUnit))
      exact ⟨_, le_antisymm hle hfloor⟩
    · rintro ⟨_, h⟩
      rw [h, mul_div_cancel_right₀ _ hunit.ne', Int.floor_intCast]
      exact ⟨le_rfl, by linarith⟩

/-- **An order at Epay credits what was charged for** just where that is whole units of money, if
amounts are quota, or whole quota. -/
theorem epay_credits_asked_iff {P : Type} [DecidableEq P] {s s' : TopUpStore} {f : EpayFaults}
    {id : ℤ} {group tradeNo : String} {req : EpayRequest}
    (hunit : 0 < env.quotaPerUnit) (hratio : env.getTopupGroupRatio group = 1)
    (hdiscount : env.discount req.amount = 1)
    (hrequest : env.requestEpay s f id group tradeNo req = .ok s') {r : TopUpRun P} {p : P}
    (hrow : r.store.topUps.lookup tradeNo = s'.topUps.lookup tradeNo)
    (hfree : r.phase p tradeNo = none) (notice : String) :
    env.getPayMoney req.amount group = env.askedQuota req.amount / env.quotaPerUnit * env.price ∧
      ((quotaAdded env.toTopUpEnv r id (completion p tradeNo notice .epay) : ℚ) =
        env.askedQuota req.amount ↔ env.Whole req.amount) := by
  have hmoney := env.getPayMoney_eq hunit hratio hdiscount
  obtain ⟨hpaid, hlookup⟩ := requestEpay_ok hrequest
  have hamount : req.amount ≠ 0 := by
    intro hzero
    rw [hmoney] at hpaid
    simp [askedQuota, hzero] at hpaid
  refine ⟨hmoney, ?_⟩
  rw [← quotaOfAmount_eq_asked_iff hunit hamount,
    ← quotaAdded_epay (hrow.trans hlookup) rfl hfree rfl notice]
  rfl

def ten (tokens : Bool) : EpayEnv where
  toTopUpEnv := .ten
  tokens
  minTopUp := 1
  price := 1
  getTopupGroupRatio _ := 1
  amountDiscount _ := none
  containsPayMethod _ := true
  configured := true

def unrequested : TopUpStore :=
  { sample.store with topUps := ∅ }

def requested (env : EpayEnv) (amount : ℤ) : TopUpRun (Fin 2) :=
  { sample with store := { unrequested with
      topUps := unrequested.topUps.insert "T" (env.topUp 1 0 "default" ⟨amount, "alipay"⟩) } }

theorem requestEpay_requested {amount : ℤ}
    (h : (env.requestEpay unrequested {} 1 "default" "T" ⟨amount, "alipay"⟩).isOk) :
    env.requestEpay unrequested {} 1 "default" "T" ⟨amount, "alipay"⟩ =
      .ok (env.requested amount).store := by
  unfold requestEpay at *
  split_ifs at *
  all_goals first | rfl | cases h

/-- Whoever asks for 19 quota pays for 19 and gets 10. -/
theorem epay_credits_less : (ten true).requestEpay unrequested {} 1 "default" "T" ⟨19, "alipay"⟩ =
        .ok ((ten true).requested 19).store ∧
      (ten true).getPayMoney 19 "default" = 19 / 10 ∧
      quotaAdded .ten ((ten true).requested 19) 1 (completion 0 "T" "alipay" .epay) = 10 :=
  ⟨requestEpay_requested (by decide +kernel), by decide +kernel, by decide +kernel⟩

theorem epay_credits_whole : (ten true).requestEpay unrequested {} 1 "default" "T" ⟨20, "alipay"⟩ =
        .ok ((ten true).requested 20).store ∧
      (ten true).Whole 20 ∧
      (quotaAdded .ten ((ten true).requested 20) 1
        (completion 0 "T" "alipay" .epay) : ℚ) = (ten true).askedQuota 20 := by
  have hrequest : (ten true).requestEpay unrequested {} 1 "default" "T" ⟨20, "alipay"⟩ =
      .ok ((ten true).requested 20).store := requestEpay_requested (by decide +kernel)
  have hwhole : (ten true).Whole 20 := by
    refine ⟨by decide, ?_⟩
    exact ⟨2, by decide +kernel⟩
  have hcredits := epay_credits_asked_iff (by decide +kernel) rfl rfl hrequest
    (r := (ten true).requested 20) (p := 0) rfl rfl "alipay"
  exact ⟨hrequest, hwhole, hcredits.2.mpr hwhole⟩

end EpayEnv

end TokensFlux
