import TokensFlux.Quota.Equiv.Text

/-!
# Statistics and charges of a text request

The statistics skip a usage without tokens, where a tiered price and its surcharge for tools need
not be zero.
-/

namespace TokensFlux

open Account Except FundingSource Store

/-! ### Statistics -/

def Store.channelUsed (s : Store) (id : ℤ) : ℤ :=
  s.channelUsedQuota id + s.batchUpdateStores .channelUsedQuota id

def SameStatistics (s s' : Store) : Prop :=
  (∀ id, s'.ledger (.userUsed id) = s.ledger (.userUsed id)) ∧ ∀ id,
    s'.channelUsed id = s.channelUsed id

theorem SameStatistics.refl (s : Store) : SameStatistics s s :=
  ⟨fun _ => rfl, fun _ => rfl⟩

variable {account : Account} {fault : Option Err} {info : RelayInfo}
  {f : SettleFaults} {s s' s₁ : Store}
  {delta quota : ℤ}

theorem SameStatistics.trans {s₂ s₃ : Store} (h : SameStatistics s₁ s₂)
    (h' : SameStatistics s₂ s₃) :
    SameStatistics s₁ s₃ :=
  ⟨fun id => (h'.1 id).trans (h.1 id), fun id => (h'.2 id).trans (h.2 id)⟩

theorem sameStatistics_addNewRecord (s : Store) {t : BatchUpdateType} (hused : t ≠ .usedQuota)
    (hchannel : t ≠ .channelUsedQuota) (id value : ℤ) :
    SameStatistics s (s.addNewRecord t id value) := by
  constructor
  · intro k
    simp [ledger, addNewRecord, hused.symm]
  · intro k
    simp [channelUsed, addNewRecord, hchannel.symm]

theorem adjustUserQuota_sameStatistics {userId : ℤ}
    (h : adjustUserQuota s fault userId delta = .ok s') :
    SameStatistics s s' := by
  have hwritten : ∀ d s', s.addUserQuota fault userId d = .ok s' → SameStatistics s s' := by
    intro d s' h
    unfold addUserQuota at h
    split at h
    · cases h
    · cases h
      exact ⟨fun _ => rfl, fun _ => rfl⟩
  unfold adjustUserQuota decreaseUserQuota increaseUserQuota at h
  split_ifs at h
  · cases h
    exact sameStatistics_addNewRecord s (by simp) (by simp) _ _
  · exact hwritten _ s' h
  · cases h
    exact sameStatistics_addNewRecord s (by simp) (by simp) _ _
  · exact hwritten _ s' h

theorem adjustTokenQuota_sameStatistics {tokenId : ℤ}
    (h : adjustTokenQuota s fault tokenId delta = .ok s') :
    SameStatistics s s' := by
  have hwritten : ∀ d s', s.addTokenQuota fault tokenId d = .ok s' → SameStatistics s s' := by
    intro d s' h
    unfold addTokenQuota at h
    split at h
    · cases h
    · cases h
      exact ⟨fun _ => rfl, fun _ => rfl⟩
  unfold adjustTokenQuota decreaseTokenQuota increaseTokenQuota at h
  split_ifs at h
  · cases h
    exact sameStatistics_addNewRecord s (by simp) (by simp) _ _
  · exact hwritten _ s' h
  · cases h
    exact sameStatistics_addNewRecord s (by simp) (by simp) _ _
  · exact hwritten _ s' h

theorem channelUsed_recordLog (s : Store) (log : Log) (id : ℤ) :
    (s.recordLog log).channelUsed id = s.channelUsed id := by
  unfold recordLog
  split_ifs <;> rfl

theorem textStatistics_written (s : Store) (info : RelayInfo) (quota : ℤ) :
    let s' := (s.updateUserUsedQuotaAndRequestCount none info.userId quota).updateChannelUsedQuota
      none info.channelId quota
    s'.ledger (.userUsed info.userId) = s.ledger (.userUsed info.userId) + quota ∧
      s'.channelUsed info.channelId = s.channelUsed info.channelId + quota := by
  constructor
  · rw [(updateChannelUsedQuota_spec _ none info.channelId quota).1,
      (updateUserUsedQuotaAndRequestCount_spec s info.userId quota).1, Pi.add_apply,
      Pi.single_eq_same]
  unfold updateUserUsedQuotaAndRequestCount
  split_ifs with hbatch
  · simp [updateChannelUsedQuota, addNewRecord, hbatch, channelUsed, add_assoc]
  · simp only [updateChannelUsedQuota, hbatch, channelUsed, Function.update_self,
      Bool.false_eq_true, if_false]
    omega

/-! ### Charges -/

/-- Without a session, that of its billing source. -/
def payer : Option BillingSession → RelayInfo → Account
  | some b, _ => b.funding.account
  | none, info =>
    if info.billingSource = .subscription then .subscription info.subscriptionId
    else .wallet info.userId

def takenBefore : Option BillingSession → RelayInfo → ℤ
  | some b, _ => b.preConsumedQuota
  | none, info => info.finalPreConsumedQuota

def chargedInTotal (billing : Option BillingSession) (info : RelayInfo) (s s' : Store) : ℤ :=
  takenBefore billing info + (s.ledger (payer billing info) - s'.ledger (payer billing info))

/-- A subscription is not paid back below zero. -/
def Account.given (account : Account) (s : Store) (delta : ℤ) : ℤ :=
  match account with
  | .subscription id => max delta (-s.amountUsed id)
  | _ => delta

theorem Account.given_eq_iff (account : Account) (s : Store) (delta : ℤ) :
    account.given s delta = delta ↔
      ∀ id, account = .subscription id → 0 ≤ s.amountUsed id + delta := by
  cases account with
  | subscription =>
    simp only [given, subscription.injEq, forall_eq']
    omega
  | _ => simp [given]

def Gave (account : Account) (n : ℤ) (s s' : Store) : Prop :=
  s'.ledger account = s.ledger account - n ∧ SameStatistics s s'

theorem adjustUserQuota_gave {userId : ℤ} (h : adjustUserQuota s fault userId delta = .ok s') :
    Gave (.wallet userId) (given (.wallet userId) s delta) s s' := by
  refine ⟨?_, adjustUserQuota_sameStatistics h⟩
  show s'.ledger (.wallet userId) = s.ledger (.wallet userId) - delta
  rw [(adjustUserQuota_spec h).1, accountPosting_apply, Pi.add_apply,
    Pi.single_eq_same, sub_eq_add_neg]

theorem postConsumeUserSubscriptionDelta_gave {f : TxFaults} {id : ℤ} (hd : delta ≠ 0)
    (h : s.postConsumeUserSubscriptionDelta f id delta = .ok s') :
    Gave (.subscription id) (given (.subscription id) s delta) s s' := by
  obtain ⟨_, hsub, -, -, rfl⟩ := postConsumeUserSubscriptionDelta_ok hd h
  refine ⟨?_, fun _ => rfl, fun _ => rfl⟩
  simp only [ledger, given, amountUsed, AList.lookup_insert, hsub]
  omega

theorem Gave.zero : Gave account (account.given s 0) s s := by
  refine ⟨?_, SameStatistics.refl s⟩
  have hzero : account.given s 0 = 0 := by
    rw [given_eq_iff]
    intro id _
    rw [add_zero]
    exact s.amountUsed_nonneg id
  rw [hzero, sub_zero]

theorem FundingSource.settle_gave {src : FundingSource} {f : FundingFaults}
    (h : src.settle s f delta = .ok s') :
    Gave src.account (src.account.given s delta) s s' := by
  unfold settle at h
  split_ifs at h with hd
  · cases h
    rw [hd]
    exact Gave.zero
  · cases src with
    | wallet => exact adjustUserQuota_gave h
    | subscription => exact postConsumeUserSubscriptionDelta_gave hd h

theorem Gave.adjustToken {n : ℤ} {s₂ : Store} (h : Gave account n s s₁)
    (hother : ∀ id, account ≠ .token id ∧ account ≠ .tokenUsed id) (hp : info.isPlayground = false)
    (htoken : adjustTokenQuota s₁ fault info.tokenId delta = .ok s₂) : Gave account n s s₂ := by
  refine ⟨?_, h.2.trans (adjustTokenQuota_sameStatistics htoken)⟩
  rw [(adjustTokenQuota_spec hp htoken).1, tokenPosting_of_not_playground hp, Pi.add_apply,
    Pi.add_apply, Pi.single_eq_of_ne (hother _).1, Pi.single_eq_of_ne (hother _).2, h.1]
  omega

theorem Billing.settle_gave {b : Billing} {actualQuota : ℤ} (hsettled : b.session.settled = false)
    (hopen : b.session.fundingSettled = false) (h : (b.settle f actualQuota).2 = none) :
    Gave b.session.funding.account (b.session.funding.account.given b.store
      (actualQuota - b.session.preConsumedQuota)) b.store (b.settle f actualQuota).1.store := by
  have hstore := Billing.settle_store hsettled hopen f (Eq.refl (actualQuota - _))
  cases hset : b.session.funding.settle b.store f.funding
    (actualQuota - b.session.preConsumedQuota) with
  | error =>
    -- The funding source refuses only a difference, and `Settle` returns its error.
    have hdelta : actualQuota - b.session.preConsumedQuota ≠ 0 := by
      intro hzero
      unfold FundingSource.settle at hset
      rw [if_pos hzero] at hset
      cases hset
    unfold Billing.settle at h
    rw [if_neg (by simp [hsettled])] at h
    rw [if_neg hdelta, if_neg (by simp [hopen]), hset] at h
    cases h
  | ok =>
    rw [hset] at hstore
    have hgave := FundingSource.settle_gave hset
    rcases hstore with hs | ⟨hp, hs⟩
    · rw [hs]
      exact hgave
    · exact hgave.adjustToken b.session.funding.account_ne_token hp hs

def postConsumeToken (f : SettleFaults) (quota : ℤ) (info : RelayInfo) (s : Store) :
    Store × RelayInfo × Option Err :=
  if info.isPlayground then (s, info, none)
  else
    match adjustTokenQuota s f.token info.tokenId quota with
    | .error e => (s, info, some e)
    | .ok s' => (s', info, none)

theorem Gave.postConsumeToken {n : ℤ} (f : SettleFaults)
    (hother : ∀ id, account ≠ .token id ∧ account ≠ .tokenUsed id) (hgave : Gave account n s s₁) :
    Gave account n s (postConsumeToken f quota info s₁).1 := by
  unfold TokensFlux.postConsumeToken
  cases hp : info.isPlayground with
  | true => exact hgave
  | false =>
    cases hadjust : adjustTokenQuota s₁ f.token info.tokenId quota with
    | error => exact hgave
    | ok => exact hgave.adjustToken hother hp hadjust

theorem postConsumeQuota_gave (hquota : quota ≠ 0)
    (h : (postConsumeQuota info s f quota).2.2 = none) :
    Gave (payer none info)
    ((payer none info).given s quota) s (postConsumeQuota info s f quota).1 := by
  unfold postConsumeQuota payer at *
  dsimp only at h ⊢
  by_cases hsource : info.billingSource = .subscription
  · split_ifs at h ⊢ with hid
    cases hpost : s.postConsumeUserSubscriptionDelta f.funding.subscription
      info.subscriptionId quota with
    | error e =>
      rw [hpost] at h
      cases h
    | ok s₁ =>
      exact (postConsumeUserSubscriptionDelta_gave hquota hpost).postConsumeToken f (by simp)
  simp only [if_neg hsource] at h ⊢
  cases hadjust : adjustUserQuota s f.funding.wallet info.userId quota with
  | error =>
    rw [hadjust] at h
    cases h
  | ok => exact (adjustUserQuota_gave hadjust).postConsumeToken f (by simp)

/-- **`SettleBilling`** that returns nil has charged the difference to what was taken before. -/
theorem settleBilling_gave {billing : Option BillingSession}
    (hopen : ∀ b ∈ billing, b.settled = false ∧ b.fundingSettled = false)
    (h : (settleBilling billing info s f quota).2 = none) :
    Gave (payer billing info) ((payer billing info).given s (quota - takenBefore billing info)) s
      (settleBilling billing info s f quota).1.2.2 := by
  cases billing with
  | some b =>
    obtain ⟨hsettled, hfunding⟩ := hopen b rfl
    exact Billing.settle_gave (b := ⟨b, info, s⟩) hsettled hfunding h
  | none =>
    unfold settleBilling at h ⊢
    by_cases hdelta : quota - info.finalPreConsumedQuota = 0
    · rw [if_neg (by simp [hdelta])]
      show Gave _ (given _ s (quota - info.finalPreConsumedQuota)) s s
      rw [hdelta]
      exact Gave.zero
    · rw [if_pos hdelta] at h ⊢
      exact postConsumeQuota_gave hdelta h

/-! ### Text requests -/

section Text

variable (env : BillingEnv) (prices : TextPrices) (ctx : TextContext) (info : RelayInfo)

/-- Nothing is written if the usage has no tokens. -/
def textCounted (s : Store) (usage : Option Usage) (tiered : Option TieredSettle) : Store :=
  let quota := textQuota env prices ctx info usage tiered
  if (calculateTextQuotaSummary env prices ctx info usage).totalTokens = 0 then s
  else
    (s.updateUserUsedQuotaAndRequestCount none info.userId quota).updateChannelUsedQuota none
      info.channelId quota

theorem textCounted_statistics (s : Store) (usage : Option Usage) (tiered : Option TieredSettle) :
    let s' := textCounted env prices ctx info s usage tiered
    let counted := if (calculateTextQuotaSummary env prices ctx info usage).totalTokens = 0 then 0
      else textQuota env prices ctx info usage tiered
    s'.ledger (.userUsed info.userId) = s.ledger (.userUsed info.userId) + counted ∧
      s'.channelUsed info.channelId = s.channelUsed info.channelId + counted := by
  dsimp only [textCounted]
  split_ifs
  · simp
  · exact textStatistics_written s info _

theorem textCounted_frame (s : Store) (usage : Option Usage) (tiered : Option TieredSettle) :
    let s' := textCounted env prices ctx info s usage tiered
    (∀ account, (∀ id, account ≠ .userUsed id) → s'.ledger account = s.ledger account) ∧
      s'.subs = s.subs := by
  dsimp only [textCounted]
  split_ifs
  · exact ⟨fun _ _ => rfl, rfl⟩
  have hchannel := updateChannelUsedQuota_spec
    (s.updateUserUsedQuotaAndRequestCount none info.userId
      (textQuota env prices ctx info usage tiered)) none info.channelId
    (textQuota env prices ctx info usage tiered)
  have huser := updateUserUsedQuotaAndRequestCount_spec s info.userId
    (textQuota env prices ctx info usage tiered)
  refine ⟨fun account hother => ?_, hchannel.2.subs.trans huser.2.subs⟩
  rw [hchannel.1, huser.1, Pi.add_apply, Pi.single_eq_of_ne (hother _), add_zero]

theorem payer_ne_userUsed (billing : Option BillingSession) (info : RelayInfo) (id : ℤ) :
    payer billing info ≠ .userUsed id := by
  unfold payer
  split
  · rename_i b
    cases b.funding <;> simp [account]
  · split_ifs <;> simp

/-- **The statistics of a text request grow by what it is charged if and only if** its usage has
tokens and the settlement is not cut at zero, or its usage has none and it is charged nothing. -/
theorem textStatistics_eq_charged_iff (expr : BillingExpr) (snap : Option BillingSnapshot)
    (billing : Option BillingSession) (s : Store) (f : SettleFaults) (usage : Option Usage)
    (hopen : ∀ b ∈ billing, b.settled = false ∧ b.fundingSettled = false) :
    let tiered := textTieredSettle expr ctx info snap usage
    let quota := textQuota env prices ctx info usage tiered
    let totalTokens := (calculateTextQuotaSummary env prices ctx info usage).totalTokens
    let before := takenBefore billing info
    let s' := (postTextConsumeQuota env prices ctx info billing s { settle := f } usage tiered).2.2
    let charged := chargedInTotal billing info s s'
    (settleBilling billing info (textCounted env prices ctx info s usage tiered) f quota).2 = none →
      ((s'.ledger (.userUsed info.userId) - s.ledger (.userUsed info.userId) = charged ∧
          s'.channelUsed info.channelId - s.channelUsed info.channelId = charged) ↔
        (totalTokens ≠ 0 ∧ ∀ id, payer billing info = .subscription id →
          0 ≤ s.amountUsed id + (quota - before)) ∨
          (totalTokens = 0 ∧ before + (payer billing info).given s (quota - before) = 0)) := by
  intro tiered quota totalTokens before s' charged hsettles
  obtain ⟨hpaid, hstatistics⟩ := settleBilling_gave hopen hsettles
  obtain ⟨huser, hchannel⟩ := textCounted_statistics env prices ctx info s usage tiered
  obtain ⟨hframe, hsubs⟩ := textCounted_frame env prices ctx info s usage tiered
  set s₁ := textCounted env prices ctx info s usage tiered
  set s₂ := (settleBilling billing info s₁ f quota).1.2.2
  -- The log comes last and moves nothing.
  have hledger : s'.ledger = s₂.ledger := ledger_recordLog s₂ _
  have hchannelUsed : ∀ id, s'.channelUsed id = s₂.channelUsed id := channelUsed_recordLog s₂ _
  have hgiven : (payer billing info).given s₁ = (payer billing info).given s := by
    unfold given amountUsed
    rw [hsubs]
  have hcharged : charged = before + (payer billing info).given s (quota - before) := by
    show takenBefore billing info + _ = _
    rw [hledger, hpaid, hframe _ (payer_ne_userUsed billing info), hgiven]
    ring
  rw [hledger, hstatistics.1, huser, hchannelUsed, hstatistics.2, hchannel, hcharged,
    add_sub_cancel_left, add_sub_cancel_left, and_self, ← given_eq_iff]
  by_cases htokens : totalTokens = 0
  · rw [if_pos htokens]
    constructor
    · intro h
      exact .inr ⟨htokens, h.symm⟩
    · rintro (⟨hne, -⟩ | ⟨-, h⟩)
      · exact absurd htokens hne
      · exact h.symm
  constructor
  · intro h
    refine .inl ⟨htokens, ?_⟩
    omega
  rintro (⟨-, h⟩ | ⟨hzero, -⟩)
  · omega
  · exact absurd hzero htokens

end Text

def TextPrices.search : TextPrices :=
  { TextPrices.free with getToolPrice := fun _ => 10 }

def BillingExpr.linear : BillingExpr where
  usedVars _ name := name ∈ ["p", "c"]
  runExpr _ params := .ok (params.p * 2 + params.c * 8, "base")

def BillingSnapshot.linear : BillingSnapshot where
  billingMode := "tiered_expr"
  exprString := "tier(\"base\", p * 2 + c * 8)"
  groupRatio := 1
  estimatedPromptTokens := 10
  estimatedCompletionTokens := 0
  estimatedQuotaBeforeGroup := 10
  estimatedQuotaAfterGroup := 10
  estimatedTier := "base"
  quotaPerUnit := 500000

def RelayInfo.tiered : RelayInfo :=
  { RelayInfo.sample "wallet_only" with
    channelId := 5, finalPreConsumedQuota := 10, priceData := { groupRatio := 1 } }

def BillingSession.paid : BillingSession where
  funding := .wallet { userId := 1, consumed := 10 }
  preConsumedQuota := 10
  tokenConsumed := 10

theorem textStatistics_eq_charged_of_tokens :
    let usage : Option Usage := some { promptTokens := 100, completionTokens := 0 }
    let tiered := textTieredSettle .linear { claudeWebSearchRequests := 1 } .tiered
      (some .linear) usage
    let s' := (postTextConsumeQuota .standard .search { claudeWebSearchRequests := 1 } .tiered
      (some .paid) .sample {} usage tiered).2.2
    let charged := chargedInTotal (some .paid) .tiered .sample s'
    s'.ledger (.userUsed 1) - Store.sample.ledger (.userUsed 1) = charged ∧
      s'.channelUsed 5 - Store.sample.channelUsed 5 = charged := by
  intro usage tiered s' charged
  refine (textStatistics_eq_charged_iff .standard .search { claudeWebSearchRequests := 1 } .tiered
    .linear (some .linear) (some .paid) .sample {} usage ?_ ?_).mpr ?_
  · rintro b ⟨⟩
    exact ⟨rfl, rfl⟩
  · decide +kernel
  · refine .inl ⟨by decide +kernel, fun id h => ?_⟩
    cases h

/-- One search in an answer without tokens: the wallet pays 5000, the statistics say nothing. -/
theorem textStatistics_ne_charged : let ctx : TextContext := { claudeWebSearchRequests := 1 }
    let usage : Option Usage := some { promptTokens := 0, completionTokens := 0 }
    let tiered := textTieredSettle .linear ctx .tiered (some .linear) usage
    let quota := textQuota .standard .search ctx .tiered usage tiered
    let s' := (postTextConsumeQuota .standard .search ctx .tiered (some .paid) .sample {} usage
      tiered).2.2
    (settleBilling (some .paid) .tiered (textCounted .standard .search ctx .tiered .sample usage
        tiered) {} quota).2 = none ∧
      chargedInTotal (some .paid) .tiered .sample s' = 5000 ∧
      s'.ledger (.userUsed 1) - Store.sample.ledger (.userUsed 1) = 0 ∧
      s'.channelUsed 5 - Store.sample.channelUsed 5 = 0 := by
  decide +kernel

end TokensFlux
