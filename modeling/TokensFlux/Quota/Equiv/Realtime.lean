import TokensFlux.Billing.Equiv.Open
import TokensFlux.Lib.Guarded
import TokensFlux.Quota.Realtime

/-!
# What a realtime session pays

`Settle` counts only what the session itself has pre-consumed, so whatever the increments have paid
is paid twice.
-/

namespace TokensFlux

open Store

/-! ### The price of an increment -/

variable (env : BillingEnv)

variable (ratios : RatioSetting)

theorem calculateAudioQuota_of_ratio {info : QuotaInfo}
    (h : info.usePrice = false) :
    calculateAudioQuota env ratios info
      = quotaFromDecimal
        (if info.groupRatio * info.modelRatio ≠ 0 ∧
            weightedTokens ratios info * (info.groupRatio * info.modelRatio) ≤ 0 then 1
          else weightedTokens ratios info * (info.groupRatio * info.modelRatio)) := by
  unfold calculateAudioQuota
  rw [if_neg (by simp [h])]

theorem audioDecimal_nonneg (weight ratio : ℚ) :
    0 ≤ if ratio ≠ 0 ∧ weight * ratio ≤ 0 then 1 else weight * ratio := by
  split_ifs with h
  · exact zero_le_one
  · by_cases hr : ratio = 0
    · rw [hr, mul_zero]
    · exact (not_le.mp fun hle => h ⟨hr, hle⟩).le

theorem calculateAudioQuota_nonneg {info : QuotaInfo}
    (h : info.usePrice = false) : 0 ≤ calculateAudioQuota env ratios info := by
  rw [calculateAudioQuota_of_ratio env ratios h]
  exact quotaFromDecimal_nonneg (audioDecimal_nonneg _ _)

def QuotaInfo.WorthNothing (info : QuotaInfo) : Prop :=
  info.groupRatio * info.modelRatio = 0 ∨
    (0 < weightedTokens ratios info * (info.groupRatio * info.modelRatio) ∧
      weightedTokens ratios info * (info.groupRatio * info.modelRatio) < 1 / 2)

instance (ratios : RatioSetting) (info : QuotaInfo) : Decidable (info.WorthNothing ratios) := by
  unfold QuotaInfo.WorthNothing
  infer_instance

theorem calculateAudioQuota_eq_zero_iff {info : QuotaInfo} (h : info.usePrice = false) :
    calculateAudioQuota env ratios info = 0 ↔ info.WorthNothing ratios := by
  rw [calculateAudioQuota_of_ratio env ratios h,
    quotaFromDecimal_eq_zero_iff (audioDecimal_nonneg _ _), QuotaInfo.WorthNothing]
  generalize info.groupRatio * info.modelRatio = ratio
  generalize weightedTokens ratios info = weight
  by_cases hr : ratio = 0
  · simp [hr]
  by_cases hw : weight * ratio ≤ 0
  · rw [if_pos ⟨hr, hw⟩]
    constructor
    · intro h1
      norm_num at h1
    · rintro (h0 | h0)
      · exact absurd h0 hr
      · exact absurd h0.1 (not_lt.mpr hw)
  · rw [if_neg fun h => hw h.2]
    simp [hr, not_le.mp hw]

/-! ### One increment -/

structure Increment where
  usage : RealtimeUsage
  userQuotaCache : Option ℤ := none
  tokenCache : Option Token := none

namespace Realtime

variable (env : BillingEnv) (ratios : RatioSetting) (autoGroup : Option String)

variable (r : Realtime)

variable (i : Increment)

def step : Realtime :=
  (preConsumeUsage env ratios autoGroup r
    { userQuotaCache := i.userQuotaCache, tokenCache := i.tokenCache } i.usage).1

/-- The balance of the user or of the token does not cover it, or there is no such token. -/
def Refused : Prop :=
  let quota := calculateAudioQuota env ratios (wssQuotaInfo ratios autoGroup r.info i.usage)
  match r.store.getUserQuota i.userQuotaCache none r.info.userId,
    r.store.getTokenByKey i.tokenCache none (trimPrefix r.info.tokenKey "sk-") with
  | .ok userQuota, .ok token =>
    userQuota < quota ∨ (token.unlimitedQuota = false ∧ token.remainQuota < quota)
  | _, _ => True

instance (r : Realtime) (i : Increment) : Decidable (Refused env ratios autoGroup r i) := by
  unfold Refused
  split <;> infer_instance

def Unbilled : Prop :=
  (wssQuotaInfo ratios autoGroup r.info i.usage).WorthNothing ratios ∨
    Refused env ratios autoGroup r i

instance (r : Realtime) (i : Increment) : Decidable (Unbilled env ratios autoGroup r i) := by
  unfold Unbilled
  infer_instance

variable {env ratios autoGroup}

/-- **One increment** charges some amount, by the wallet and the token alike. -/
theorem step_spec {r : Realtime} (husePrice : r.info.usePrice = false)
    (hsource : r.info.billingSource ≠ .subscription) (i : Increment) :
    ∃ n, 0 ≤ n ∧ (n = 0 ↔ Unbilled env ratios autoGroup r i) ∧
      (step env ratios autoGroup r i).store.ledger
        = r.store.ledger + charge (.wallet r.info.userId) r.info n ∧
      SameTables r.store (step env ratios autoGroup r i).store ∧
      ∃ usingGroup, (step env ratios autoGroup r i).info = { r.info with usingGroup } := by
  have hprice : (wssQuotaInfo ratios autoGroup r.info i.usage).usePrice = false := husePrice
  have hzero := calculateAudioQuota_eq_zero_iff env ratios hprice
  have hpos := calculateAudioQuota_nonneg env ratios hprice
  have hrefl := SameTables.refl r.store
  unfold step preConsumeUsage preWssConsumeQuota Unbilled Refused
  rw [if_neg (by simp [husePrice])]
  generalize calculateAudioQuota env ratios (wssQuotaInfo ratios autoGroup r.info i.usage) = quota
    at hzero hpos ⊢
  -- Every way out before `PostConsumeQuota` is a refusal and charges 0; only the last branch below
  -- charges the computed quota.
  cases hu : r.store.getUserQuota i.userQuotaCache none r.info.userId with
  | error e =>
    exact ⟨0, le_rfl, by simp, by rw [map_zero, add_zero], hrefl, r.info.usingGroup, rfl⟩
  | ok userQuota =>
  rcases ht : r.store.getTokenByKey i.tokenCache none (trimPrefix r.info.tokenKey "sk-") with e |
    token
  · exact ⟨0, le_rfl, by simp, by rw [map_zero, add_zero], hrefl, r.info.usingGroup, rfl⟩
  dsimp only
  split_ifs with huser htoken
  · exact ⟨0, le_rfl, by simp [huser], by rw [map_zero, add_zero], hrefl, _, rfl⟩
  · have htoken : token.unlimitedQuota = false ∧ token.remainQuota < quota := by
      simpa using htoken
    exact ⟨0, le_rfl, by simp [htoken], by rw [map_zero, add_zero], hrefl, _, rfl⟩
  have hallowed : ¬(userQuota < quota ∨
      (token.unlimitedQuota = false ∧ token.remainQuota < quota)) := by
    simp only [Bool.and_eq_true, Bool.not_eq_true', decide_eq_true_eq] at htoken
    tauto
  obtain ⟨s', hs', hledger, htables⟩ := postConsumeQuota_wallet
    (show ({ r.info with usingGroup := wssUsingGroup autoGroup r.info } : RelayInfo).billingSource
      ≠ .subscription from hsource) r.store quota
  rw [hs']
  exact ⟨quota, hpos, hzero.trans (or_iff_left hallowed).symm, hledger, htables, _, rfl⟩

/-! ### The whole session -/

/-- **All increments of a socket**, by induction. -/
theorem run_spec (is : List Increment) {r : Realtime} (husePrice : r.info.usePrice = false)
    (hsource : r.info.billingSource ≠ .subscription) : ∃ n, 0 ≤ n ∧
      (n = 0 ↔ Guarded (step env ratios autoGroup) (Unbilled env ratios autoGroup) r is) ∧
      (is.foldl (step env ratios autoGroup) r).store.ledger
        = r.store.ledger + charge (.wallet r.info.userId) r.info n ∧
      SameTables r.store (is.foldl (step env ratios autoGroup) r).store ∧
      ∃ usingGroup,
        (is.foldl (step env ratios autoGroup) r).info = { r.info with usingGroup } := by
  induction is generalizing r with
  | nil =>
    exact ⟨0, le_rfl, by simp [Guarded], by rw [map_zero, add_zero]; rfl, SameTables.refl _,
      r.info.usingGroup, rfl⟩
  | cons i is ih =>
    obtain ⟨m, hm, hm0, hledger, htables, usingGroup, hinfo⟩ :=
      step_spec husePrice hsource i
    have husePrice' : (step env ratios autoGroup r i).info.usePrice = false := by
      rw [hinfo]
      exact husePrice
    have hsource' : (step env ratios autoGroup r i).info.billingSource ≠ .subscription := by
      rw [hinfo]
      exact hsource
    obtain ⟨n, hn, hn0, hledger', htables', usingGroup', hinfo'⟩ := ih husePrice' hsource'
    refine ⟨m + n, by omega, ?_, ?_, htables.trans htables', usingGroup', ?_⟩
    -- Both amounts are at least 0, so their sum is 0 exactly when each of them is.
    · rw [Guarded.cons_iff, ← hm0, ← hn0]
      omega
    · rw [List.foldl_cons, hledger', hledger, hinfo, map_add, add_assoc]
      rfl
    · rw [List.foldl_cons, hinfo', hinfo]

end Realtime

theorem postWssConsumeQuota_wallet {b : BillingSession}
    {w : WalletFunding} {s : Store} (info : RelayInfo) (modelName : String) {usage : RealtimeUsage}
    (hw : b.funding = .wallet w) (hsettled : b.settled = false)
    (hfunding : b.fundingSettled = false) (hlog : s.logConsumeEnabled = true)
    (htokens : usage.totalTokens ≠ 0) :
    ∃ log, (postWssConsumeQuota env ratios (some b) info s {} modelName usage none).2.2.logs
        = s.logs ++ [log] ∧
      (postWssConsumeQuota env ratios (some b) info s {} modelName usage none).2.2.ledger
        = s.ledger + Pi.single (.userUsed info.userId) log.quota
          + charge (.wallet w.userId) info (log.quota - b.preConsumedQuota) := by
  unfold postWssConsumeQuota
  simp only [if_neg htokens, Option.getD_none]
  generalize calculateAudioQuota env ratios _ = quota
  -- The counters: only the used quota of the user is an account.
  obtain ⟨hledger₁, htables₁⟩ := updateUserUsedQuotaAndRequestCount_spec s info.userId quota
  obtain ⟨hledger₂, htables₂⟩ := updateChannelUsedQuota_spec
    (s.updateUserUsedQuotaAndRequestCount none info.userId quota) none info.channelId quota
  generalize (s.updateUserUsedQuotaAndRequestCount none info.userId quota).updateChannelUsedQuota
    none info.channelId quota = s₁ at hledger₂ htables₂ ⊢
  rw [settleBilling]
  obtain ⟨b', hb'⟩ := Billing.settle_wallet_isOk (b := ⟨b, info, s₁⟩) hw quota
  have huncut : b.funding.Uncut s₁ (quota - b.preConsumedQuota) := by
    rw [hw]
    trivial
  obtain ⟨-, hledger₃⟩ := Billing.settle_spec (b := ⟨b, info, s₁⟩) hsettled hfunding hb' huncut
  have hframe := (Billing.settle_sameLogs (b := ⟨b, info, s₁⟩) hsettled hfunding {} quota).1
  rw [hb'] at hframe ⊢
  have hlogs := ((htables₁.trans htables₂).sameLogs).trans hframe
  refine ⟨_, (recordLog_logs (hlogs.2.trans hlog) _).trans (by rw [hlogs.1]), ?_⟩
  rw [ledger_recordLog, hledger₃, hledger₂, hledger₁, hw, FundingSource.account]

/-- Its quota is what the wallet, and the token unless from the playground, have paid. -/
def ChargedAsLogged (info : RelayInfo) (s s' : Store) : Prop :=
  ∃ log, s'.logs = s.logs ++ [log] ∧
    s.ledger (.wallet info.userId) - s'.ledger (.wallet info.userId) = log.quota ∧
    (info.isPlayground = false →
      s.ledger (.token info.tokenId) - s'.ledger (.token info.tokenId) = log.quota)

/-- **A realtime session pays what is logged if and only if no increment was charged.** A negative
pre-consumed quota, which is not charged but is settled against, breaks it too. -/
theorem realtime_chargedAsLogged_iff {env : BillingEnv} {ratios : RatioSetting}
    {autoGroup : Option String} {info info' : RelayInfo} {s s' : Store} {f : OpenFaults} {q : ℤ}
    {b : BillingSession} (hlog : s.logConsumeEnabled = true) (husePrice : info.usePrice = false)
    (hfresh : s.records.lookup info.requestId = none) (hroll : f.wallet.rollback = none)
    (hroll' : f.subscription.rollback = none)
    (hopen : newBillingSession env info s f q = (s', info', .ok b))
    (hwallet : b.funding.source = .wallet) (is : List Increment) {r : Realtime}
    (hrun : is.foldl (Realtime.step env ratios autoGroup) ⟨info', s', {}⟩ = r)
    (htokens : 0 < r.sumUsage.totalTokens) :
    ChargedAsLogged info s (postWssConsumeQuota env ratios (some b) r.info r.store {}
        r.info.upstreamModelName r.sumUsage none).2.2 ↔
      0 ≤ b.preConsumedQuota ∧
        Guarded (Realtime.step env ratios autoGroup) (Realtime.Unbilled env ratios autoGroup)
          ⟨info', s', {}⟩ is := by
  rcases newBillingSession_opened hfresh hroll hroll' hopen with
    ⟨hsession, hfunding, htables, hledger, -⟩ | ⟨_, _, _, funding, -, -, hsub, -⟩
  swap
  · rw [hsub] at hwallet
    cases hwallet
  obtain ⟨huser, htokenId, hplayground, hprice, hsource, -⟩ := hsession.frame
  rw [← hsession.preConsumedQuota] at hfunding hledger
  -- The increments.
  obtain ⟨n, hn, hn0, hledger', htables', _, hinfo'⟩ :=
    @Realtime.run_spec env ratios autoGroup is ⟨info', s', {}⟩ (hprice.trans husePrice)
      (by rw [hsource, hwallet]; simp)
  rw [hrun] at hledger' htables' hinfo'
  rw [huser, charge_congr htokenId hplayground] at hledger'
  -- The final settlement.
  have hlogs := (htables.trans htables').sameLogs
  obtain ⟨log, hlog', hledger''⟩ := postWssConsumeQuota_wallet env ratios r.info
    r.info.upstreamModelName hfunding hsession.settled hsession.fundingSettled
    (hlogs.2.trans hlog) htokens.ne'
  rw [hlogs.1] at hlog'
  have htotal : (postWssConsumeQuota env ratios (some b) r.info r.store {}
        r.info.upstreamModelName r.sumUsage none).2.2.ledger
      = s.ledger + Pi.single (.userUsed info.userId) log.quota
        + charge (.wallet info.userId) info
          (max b.preConsumedQuota 0 + n + (log.quota - b.preConsumedQuota)) := by
    have hr : charge (.wallet info.userId) r.info = charge (.wallet info.userId) info := by
      rw [hinfo']
      exact charge_congr htokenId hplayground _
    have hruser : r.info.userId = info.userId := by
      rw [hinfo']
      exact huser
    rw [hledger'', hledger', hledger, hr, hruser, map_add, map_add]
    abel
  have hpaid := congrFun htotal (.wallet info.userId)
  have htoken := congrFun htotal (.token info.tokenId)
  rw [Pi.add_apply, Pi.add_apply, charge_self (by simp), Pi.single_eq_of_ne (by simp)] at hpaid
  rw [← hn0]
  unfold ChargedAsLogged
  rw [hlog']
  constructor
  · rintro ⟨log', heq, _, -⟩
    obtain rfl : log = log' := by simpa using heq
    omega
  rintro ⟨_, rfl⟩
  refine ⟨log, rfl, by omega, fun hp => ?_⟩
  rw [Pi.add_apply, Pi.add_apply, charge_token (by simp) hp, Pi.single_eq_of_ne (by simp)] at htoken
  omega

def RatioSetting.ones : RatioSetting where
  getGroupRatio _ := 1
  getGroupGroupRatio _ _ := none
  getModelRatio _ := 1
  getCompletionRatio _ := 1
  getAudioRatio _ := 1
  getAudioCompletionRatio _ := 1

def RelayInfo.priced : RelayInfo :=
  { RelayInfo.sample "wallet_only" with priceData := { modelRatio := 1, groupRatio := 1 } }

def Increment.text (n : ℤ) : Increment where
  usage := { totalTokens := n, inputTokens := n, inputDetails := ⟨n, 0⟩ }

theorem realtime_chargedAsLogged_of_refused :
    ∃ s' info' b, newBillingSession .standard .priced .sample {} 5 = (s', info', .ok b) ∧
      let r := [Increment.text 40].foldl (Realtime.step .standard .ones none) ⟨info', s', {}⟩
      ChargedAsLogged .priced .sample
        (postWssConsumeQuota .standard .ones (some b) r.info r.store {} r.info.upstreamModelName
          r.sumUsage none).2.2 := by
  have hcheck : checkOpened
      (fun s' info' b =>
        let r₀ : Realtime := ⟨info', s', {}⟩
        b.funding.source = .wallet ∧ 0 ≤ b.preConsumedQuota ∧
          Guarded (Realtime.step .standard .ones none) (Realtime.Unbilled .standard .ones none) r₀
            [Increment.text 40] ∧
          0 < ([Increment.text 40].foldl (Realtime.step .standard .ones none)
            r₀).sumUsage.totalTokens)
      (newBillingSession .standard .priced .sample {} 5) = true := by
    decide +kernel
  obtain ⟨s', info', b, hopen, hb⟩ := exists_of_checkOpened hcheck
  obtain ⟨hwallet, hpre, hguard, htokens⟩ := of_decide_eq_true hb
  exact ⟨s', info', b, hopen,
    (realtime_chargedAsLogged_iff rfl rfl (by decide) rfl rfl hopen hwallet
    [Increment.text 40] rfl htokens).mpr ⟨hpre, hguard⟩⟩

/-- One increment of 10 tokens at 1 each: the log says 10, the wallet pays 20. -/
theorem realtime_charges_twice :
    ∃ s' info' b, newBillingSession .standard .priced .sample {} 5 = (s', info', .ok b) ∧
      let r := [Increment.text 10].foldl (Realtime.step .standard .ones none) ⟨info', s', {}⟩
      ¬ChargedAsLogged .priced .sample
        (postWssConsumeQuota .standard .ones (some b) r.info r.store {} r.info.upstreamModelName
          r.sumUsage none).2.2 := by
  have hcheck : checkOpened
      (fun s' info' b =>
        let r := [Increment.text 10].foldl (Realtime.step .standard .ones none) ⟨info', s', {}⟩
        let s'' := (postWssConsumeQuota .standard .ones (some b) r.info r.store {}
          r.info.upstreamModelName r.sumUsage none).2.2
        s''.logs.map Log.quota = [10] ∧ s''.ledger (.wallet 1) = 10)
      (newBillingSession .standard .priced .sample {} 5) = true := by
    decide +kernel
  obtain ⟨s', info', b, hopen, hb⟩ := exists_of_checkOpened hcheck
  obtain ⟨hlogs, hpaid⟩ := of_decide_eq_true hb
  refine ⟨s', info', b, hopen, ?_⟩
  rintro _ ⟨log, hlog, hcharged, -⟩
  have hquota : log.quota = 10 := by
    have hmap := congrArg (List.map Log.quota) hlog
    rw [hlogs] at hmap
    simpa [Store.sample, Store.empty, eq_comm] using hmap
  have hbefore : Store.sample.ledger (.wallet 1) = 30 := by decide
  rw [hquota] at hcharged
  have hafter := hcharged.symm.trans (congrArg₂ (· - ·) hbefore hpaid)
  exact absurd hafter (by decide)

end TokensFlux
