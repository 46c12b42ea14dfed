import TokensFlux.Billing.Session

/-!
# Billing a realtime session

Every increment of usage is charged at once; when the socket is closed, the quota of the total is
settled.
-/

namespace TokensFlux

structure RatioSetting where
  getGroupRatio : String → ℚ
  getGroupGroupRatio : String → String → Option ℚ
  getModelRatio : String → ℚ
  getCompletionRatio : String → ℚ
  getAudioRatio : String → ℚ
  getAudioCompletionRatio : String → ℚ

structure TokenDetails where
  textTokens : ℤ
  audioTokens : ℤ
deriving DecidableEq, Repr

structure QuotaInfo where
  inputDetails : TokenDetails
  outputDetails : TokenDetails
  modelName : String
  usePrice : Bool
  modelPrice : ℚ := 0
  modelRatio : ℚ
  groupRatio : ℚ
deriving DecidableEq, Repr

structure RealtimeUsage where
  totalTokens : ℤ := 0
  inputTokens : ℤ := 0
  outputTokens : ℤ := 0
  cachedTokens : ℤ := 0
  inputDetails : TokenDetails := ⟨0, 0⟩
  outputDetails : TokenDetails := ⟨0, 0⟩
deriving DecidableEq, Repr

def weightedTokens (ratios : RatioSetting) (info : QuotaInfo) : ℚ :=
  let completionRatio := ratios.getCompletionRatio info.modelName
  let audioRatio := ratios.getAudioRatio info.modelName
  let audioCompletionRatio := ratios.getAudioCompletionRatio info.modelName
  info.inputDetails.textTokens + info.outputDetails.textTokens * completionRatio
    + info.inputDetails.audioTokens * audioRatio + info.outputDetails.audioTokens * audioRatio *
      audioCompletionRatio

variable (env : BillingEnv)

def calculateAudioQuota (ratios : RatioSetting) (info : QuotaInfo) : ℤ :=
  if info.usePrice then quotaFromDecimal (info.modelPrice * env.quotaPerUnit * info.groupRatio)
  else
    let ratio := info.groupRatio * info.modelRatio
    let quota := weightedTokens ratios info * ratio
    quotaFromDecimal (if ratio ≠ 0 ∧ quota ≤ 0 then 1 else quota)

structure WssFaults where
  userQuotaCache : Option ℤ := none
  userQuota : Option Err := none
  tokenCache : Option Token := none
  token : Option Err := none
  settle : SettleFaults := {}

/-- The group `auto` has chosen, if any. -/
def wssUsingGroup (autoGroup : Option String) (info : RelayInfo) : String :=
  autoGroup.getD info.usingGroup

def wssQuotaInfo (ratios : RatioSetting) (autoGroup : Option String) (info : RelayInfo)
    (usage : RealtimeUsage) : QuotaInfo where
  inputDetails := usage.inputDetails
  outputDetails := usage.outputDetails
  modelName := info.originModelName
  usePrice := info.usePrice
  modelRatio := ratios.getModelRatio info.originModelName
  groupRatio :=
    let usingGroup := wssUsingGroup autoGroup info
    (ratios.getGroupGroupRatio info.userGroup usingGroup).getD (ratios.getGroupRatio usingGroup)

def preWssConsumeQuota (ratios : RatioSetting) (autoGroup : Option String)
    (info : RelayInfo) (s : Store) (f : WssFaults) (usage : RealtimeUsage) :
    Store × RelayInfo × Option Err :=
  if info.usePrice then (s, info, none)
  else
    match s.getUserQuota f.userQuotaCache f.userQuota info.userId,
      s.getTokenByKey f.tokenCache f.token (trimPrefix info.tokenKey "sk-") with
    | .error e, _ => (s, info, some e)
    | .ok _, .error e => (s, info, some e)
    | .ok userQuota, .ok token =>
      let quota := calculateAudioQuota env ratios (wssQuotaInfo ratios autoGroup info usage)
      let info := { info with usingGroup := wssUsingGroup autoGroup info }
      if userQuota < quota then
        (s, info, some ("user quota is not enough, user quota: " ++ env.formatQuota userQuota
          ++ ", need quota: " ++ env.formatQuota quota))
      else if !token.unlimitedQuota && decide (token.remainQuota < quota) then
        (s, info, some ("token quota is not enough, token remain quota: "
          ++ env.formatQuota token.remainQuota ++ ", need quota: " ++ env.formatQuota quota))
      else postConsumeQuota info s f.settle quota

structure Realtime where
  info : RelayInfo
  store : Store
  sumUsage : RealtimeUsage := {}

def RealtimeUsage.add (total usage : RealtimeUsage) : RealtimeUsage where
  totalTokens := total.totalTokens + usage.totalTokens
  inputTokens := total.inputTokens + usage.inputTokens
  outputTokens := total.outputTokens + usage.outputTokens
  cachedTokens := total.cachedTokens + usage.cachedTokens
  inputDetails :=
    ⟨total.inputDetails.textTokens + usage.inputDetails.textTokens,
      total.inputDetails.audioTokens + usage.inputDetails.audioTokens⟩
  outputDetails :=
    ⟨total.outputDetails.textTokens + usage.outputDetails.textTokens,
      total.outputDetails.audioTokens + usage.outputDetails.audioTokens⟩

/-- The total grows whether the increment could be charged or not. -/
def preConsumeUsage (ratios : RatioSetting) (autoGroup : Option String)
    (r : Realtime) (f : WssFaults) (usage : RealtimeUsage) : Realtime × Option Err :=
  let (store, info, err) := preWssConsumeQuota env ratios autoGroup r.info r.store f usage
  (⟨info, store, r.sumUsage.add usage⟩, err)

structure PostFaults where
  userUsed : Option Err := none
  channelUsed : Option Err := none
  settle : SettleFaults := {}

/-- `tieredQuota` is the quota of `TryTieredSettle` if tiered billing applies. -/
def postWssConsumeQuota (ratios : RatioSetting) (billing : Option BillingSession)
    (info : RelayInfo) (s : Store) (f : PostFaults) (modelName : String) (usage : RealtimeUsage)
    (tieredQuota : Option ℤ) : Option BillingSession × RelayInfo × Store :=
  let quotaInfo : QuotaInfo :=
    { inputDetails := usage.inputDetails
      outputDetails := usage.outputDetails
      modelName
      usePrice := info.priceData.usePrice
      modelRatio := info.priceData.modelRatio
      groupRatio := info.priceData.groupRatio }
  let quota := tieredQuota.getD (calculateAudioQuota env ratios quotaInfo)
  let quota := if usage.totalTokens = 0 then 0 else quota
  let s :=
    if usage.totalTokens = 0 then s
    else
      (s.updateUserUsedQuotaAndRequestCount f.userUsed info.userId quota).updateChannelUsedQuota
        f.channelUsed info.channelId quota
  let ((billing, info, s), _) := settleBilling billing info s f.settle quota
  (billing, info, s.recordLog
    { userId := info.userId, type := .consume, promptTokens := usage.inputTokens,
      completionTokens := usage.outputTokens, modelName, quota, channelId := info.channelId,
      tokenId := info.tokenId, group := info.usingGroup })

end TokensFlux
