import TokensFlux.Quota.Text
import TokensFlux.Quota.Equiv.Realtime

/-!
# What a text request pays

`PostTextConsumeQuota` writes statistics and log whether or not `SettleBilling` could charge the
quota.
-/

namespace TokensFlux

open Store

section Settle

variable (env : BillingEnv) (prices : TextPrices) (ctx : TextContext)

theorem userUsed_postTextConsumeQuota (info : RelayInfo) {b : BillingSession} (s : Store)
    (hsettled : b.settled = false) (hopen : b.fundingSettled = false) (usage : Option Usage)
    (tiered : Option TieredSettle) :
    (postTextConsumeQuota env prices ctx info (some b) s {} usage tiered).2.2.ledger
      (.userUsed info.userId)
      = s.ledger (.userUsed info.userId)
        + if (calculateTextQuotaSummary env prices ctx info usage).totalTokens = 0 then 0
          else textQuota env prices ctx info usage tiered := by
  unfold postTextConsumeQuota
  generalize textQuota env prices ctx info usage tiered = quota
  generalize calculateTextQuotaSummary env prices ctx info usage = summary
  dsimp only
  rw [settleBilling, ledger_recordLog]
  by_cases htokens : summary.totalTokens = 0
  · simp only [if_pos htokens, add_zero]
    exact (Billing.settle_sameLogs (b := ⟨b, info, s⟩) hsettled hopen {} quota).2 info.userId
  simp only [if_neg htokens]
  have hkept := (Billing.settle_sameLogs (b := ⟨b, info,
    (s.updateUserUsedQuotaAndRequestCount none info.userId
      quota).updateChannelUsedQuota none info.channelId quota⟩) hsettled hopen {} quota).2
  have hledger := (updateUserUsedQuotaAndRequestCount_spec s info.userId quota).1
  rw [hkept, (updateChannelUsedQuota_spec _ none info.channelId quota).1, hledger, Pi.add_apply,
    Pi.single_eq_same]

theorem postTextConsumeQuota_subscription (info : RelayInfo) {b : BillingSession} {s : Store}
    {funding : SubscriptionFunding} {sub : UserSubscription} (hsettled : b.settled = false)
    (hopen : b.fundingSettled = false) (hfunding : b.funding = .subscription funding)
    (hid : 0 < funding.subscriptionId) (hsub : s.subs.lookup funding.subscriptionId = some sub)
    (hlog : s.logConsumeEnabled = true) (usage : Option Usage) (tiered : Option TieredSettle)
    {quota delta : ℤ} (hquota : textQuota env prices ctx info usage tiered = quota)
    (hdelta : quota - b.preConsumedQuota = delta) :
    ∃ log, (postTextConsumeQuota env prices ctx info (some b) s {} usage tiered).2.2.logs
        = s.logs ++ [log] ∧ log.quota = quota ∧
      (postTextConsumeQuota env prices ctx info (some b) s {} usage tiered).2.2.amountUsed
          funding.subscriptionId = if delta = 0 ∨ sub.amountTotal ≤ 0 ∨
          sub.amountUsed + delta ≤ sub.amountTotal then
            max (sub.amountUsed + delta) 0
          else sub.amountUsed := by
  unfold postTextConsumeQuota
  rw [hquota]
  generalize calculateTextQuotaSummary env prices ctx info usage = summary
  dsimp only
  -- The counters leave the tables alone.
  have htables : SameTables s (if summary.totalTokens = 0 then s
      else (s.updateUserUsedQuotaAndRequestCount none info.userId quota).updateChannelUsedQuota
        none info.channelId quota) := by
    split_ifs
    · exact SameTables.refl s
    · exact (updateUserUsedQuotaAndRequestCount_spec s info.userId quota).2.trans
        (updateChannelUsedQuota_spec _ none info.channelId quota).2
  generalize (if summary.totalTokens = 0 then s
    else (s.updateUserUsedQuotaAndRequestCount none info.userId quota).updateChannelUsedQuota
      none info.channelId quota) = s₁ at htables ⊢
  have hframe := (Billing.settle_sameLogs (b := ⟨b, info, s₁⟩) hsettled hopen {} quota).1
  have hused := Billing.settle_amountUsed (b := ⟨b, info, s₁⟩) hsettled hopen hfunding hid
    (by rw [← hsub]; exact congrArg _ htables.subs) hdelta
  have hlogs := htables.sameLogs.trans hframe
  refine ⟨_, (recordLog_logs (hlogs.2.trans hlog) _).trans (by rw [hlogs.1]), rfl, ?_⟩
  rw [amountUsed_recordLog]
  exact hused

end Settle

/-- The request took from the subscription what its log says and what its user's statistics grew by.
-/
def LoggedAsTaken (id userId : ℤ) (t s s₁ s₂ : Store) : Prop :=
  ∃ log, s₂.logs = s₁.logs ++ [log] ∧
    (s.amountUsed id - t.amountUsed id) + (s₂.amountUsed id - s₁.amountUsed id) = log.quota ∧
    s₂.ledger (.userUsed userId) - s₁.ledger (.userUsed userId) = log.quota

/-- **A text request paid by a subscription is logged as it is charged if and only if its quota
fits.** A tiered price without any reported tokens is logged but not added to the statistics. The
tables `s₁` at the settlement may be any. -/
theorem textRequest_loggedAsTaken_iff {env : BillingEnv} {info info' : RelayInfo} {s s' : Store}
    {f : OpenFaults} {q : ℤ} {b : BillingSession} {funding : SubscriptionFunding}
    (hfresh : s.records.lookup info.requestId = none) (hroll : f.wallet.rollback = none)
    (hroll' : f.subscription.rollback = none) (hids : ∀ id ∈ s.subs, 0 < id)
    (hopen : newBillingSession env info s f q = (s', info', .ok b))
    (hfunding : b.funding = .subscription funding) :
    ∃ t, DueResets env.calendar f.subscription.now s t ∧
      ∀ (prices : TextPrices) (ctx : TextContext) (info₁ : RelayInfo) (s₁ : Store)
        (sub : UserSubscription) (usage : Option Usage) (tiered : Option TieredSettle),
        s₁.logConsumeEnabled = true → s₁.subs.lookup funding.subscriptionId = some sub →
        let quota := textQuota env prices ctx info₁ usage tiered
        let delta := quota - b.preConsumedQuota
        (LoggedAsTaken funding.subscriptionId info₁.userId t s' s₁
            (postTextConsumeQuota env prices ctx info₁ (some b) s₁ {} usage tiered).2.2 ↔
          (delta = 0 ∨ sub.amountTotal ≤ 0 ∨ sub.amountUsed + delta ≤ sub.amountTotal) ∧
            0 ≤ sub.amountUsed + delta ∧
            ((calculateTextQuotaSummary env prices ctx info₁ usage).totalTokens ≠
              0 ∨ quota = 0)) := by
  rcases newBillingSession_opened hfresh hroll hroll' hopen with ⟨-, hwallet, -⟩ |
    ⟨t, id, row, funding', hsession, -, hfunding', -, hsid, hpre, -, hdue, hrow, -, hsubs, -⟩
  · rw [hfunding] at hwallet
    cases hwallet
  obtain rfl : funding = funding' := by
    rw [hfunding] at hfunding'
    exact FundingSource.subscription.inj hfunding'
  refine ⟨t, hdue, ?_⟩
  intro prices ctx info₁ s₁ sub usage tiered hlog hsub
  -- Opening has taken the pre-consumed quota.
  have htaken : s'.amountUsed funding.subscriptionId - t.amountUsed funding.subscriptionId =
      b.preConsumedQuota := by
    have hbefore := amountUsed_of_lookup hrow
    have hafter : s'.amountUsed id = (row.amountUsed + max q 1).toNat := by
      rw [amountUsed, hsubs, AList.lookup_insert]
    rw [hsid, hbefore, hafter, hsession.preConsumedQuota]
    omega
  have hid : 0 < funding.subscriptionId := by
    rw [hsid]
    exact hids id (hdue.mem_of_lookup hrow)
  obtain ⟨log, hlogs, _, hused⟩ := postTextConsumeQuota_subscription env prices ctx info₁
    hsession.settled hsession.fundingSettled hfunding hid hsub hlog usage tiered rfl rfl
  have hstats := userUsed_postTextConsumeQuota env prices ctx info₁ s₁ hsession.settled
    hsession.fundingSettled usage tiered
  have hbefore := amountUsed_of_lookup hsub
  unfold LoggedAsTaken
  rw [hlogs, htaken, hused, hstats, hbefore]
  constructor
  · rintro ⟨log', heq, hcharged, hcounted⟩
    obtain rfl : log = log' := by simpa using heq
    split_ifs at hcharged hcounted with haccepted htokens <;> omega
  rintro ⟨haccepted, _, _⟩
  refine ⟨log, rfl, ?_, ?_⟩
  · omega
  · split_ifs <;> omega

def TextPrices.free : TextPrices where
  getToolPriceForModel _ _ := 0
  getToolPrice _ := 0
  getGPTImage1PriceOnceCall _ _ := 0
  getGeminiInputAudioPricePerMillionTokens _ := 0
  defaultModelRatio _ := none
  calcOpenRouterCacheCreateTokens _ _ := 0

def RelayInfo.subscribed : RelayInfo :=
  { RelayInfo.sample "subscription_only" with priceData := { modelRatio := 1, groupRatio := 1 } }

def textRequest (s' : Store) (info' : RelayInfo) (b : BillingSession) (n : ℤ) : Store :=
  (postTextConsumeQuota .standard .free {} info' (some b) s' {}
    (some { promptTokens := n, completionTokens := 0 }) none).2.2

def textRequestFits (s : Store) (info : RelayInfo) (session : BillingSession) (n : ℤ) : Bool :=
  match session.funding, s.subs.lookup 3 with
  | .subscription funding, some sub =>
    let usage : Option Usage := some { promptTokens := n, completionTokens := 0 }
    let quota := textQuota .standard .free {} info usage none
    let delta := quota - session.preConsumedQuota
    funding.subscriptionId = 3 ∧ s.logConsumeEnabled = true ∧
      (delta = 0 ∨ sub.amountTotal ≤ 0 ∨ sub.amountUsed + delta ≤ sub.amountTotal) ∧
      0 ≤ sub.amountUsed + delta ∧
      ((calculateTextQuotaSummary .standard .free {} info usage).totalTokens ≠ 0 ∨ quota = 0)
  | _, _ => false

theorem textRequest_loggedAsTaken_of_exhausting :
    ∃ s' info' b t, newBillingSession .standard .subscribed .sample {} 10 = (s', info', .ok b) ∧
      DueResets BillingEnv.standard.calendar 0 .sample t ∧
      LoggedAsTaken 3 info'.userId t s' s' (textRequest s' info' b 80) := by
  have hcheck : checkOpened (textRequestFits · · · 80)
      (newBillingSession .standard .subscribed .sample {} 10) = true := by
    decide +kernel
  obtain ⟨s', info', b, hopen, hb⟩ := exists_of_checkOpened hcheck
  unfold textRequestFits at hb
  split at hb
  · rename_i funding sub hfunding hsub
    obtain ⟨hsid, hlog, hfits⟩ := of_decide_eq_true hb
    obtain ⟨t, hdue, hall⟩ :=
      textRequest_loggedAsTaken_iff (by decide) rfl rfl (by decide) hopen hfunding
    refine ⟨s', info', b, t, hopen, hdue, ?_⟩
    rw [hsid] at hall
    exact (hall .free {} info' s' sub _ none hlog hsub).mpr hfits
  · cases hb

/-- 200 tokens at 1 each: the log says 200, and the subscription has given 10. -/
theorem textRequest_logged_not_taken :
    ∃ s' info' b, newBillingSession .standard .subscribed .sample {} 10 = (s', info', .ok b) ∧
      ¬LoggedAsTaken 3 info'.userId .sample s' s' (textRequest s' info' b 200) := by
  have hcheck : checkOpened (fun s' info' b =>
        let s₂ := textRequest s' info' b 200
        s'.logs = [] ∧ s₂.logs.map Log.quota = [200] ∧ s'.amountUsed 3 = 30 ∧ s₂.amountUsed 3 = 30)
      (newBillingSession .standard .subscribed .sample {} 10) = true := by
    decide +kernel
  obtain ⟨s', info', b, hopen, hb⟩ := exists_of_checkOpened hcheck
  obtain ⟨hnone, hlogs, hused, hused'⟩ := of_decide_eq_true hb
  refine ⟨s', info', b, hopen, ?_⟩
  rintro ⟨log, hlog, htaken, -⟩
  have hquota : log.quota = 200 := by
    have hmap := congrArg (List.map Log.quota) hlog
    rw [hlogs, hnone] at hmap
    simpa [eq_comm] using hmap
  have hbefore : Store.sample.amountUsed 3 = 20 := by decide
  rw [hquota, hused, hused', hbefore] at htaken
  exact absurd htaken (by decide)

end TokensFlux
