import TokensFlux.Lib.Loop
import TokensFlux.Quota.Price
import TokensFlux.Relay.Select

/-!
# The relay loop

`getChannel` selects a channel, refreshes the ratio of the group and only then sets the context up.
Selection sets the counter back to zero, so `relayLoop` takes fuel.
-/

namespace TokensFlux

/-- Settings and prices, and the request itself. -/
structure RelayConfig where
  settings : RelaySettings
  billing : BillingEnv
  prices : ModelPriceSettings
  textPrices : TextPrices
  audioRatios : RatioSetting
  expr : BillingExpr
  requestPath : String
  /-- The request is priced again when it has been answered. -/
  compact : Bool := false
  promptTokens : ℤ := 0
  count : TokenCountMeta := {}
  requestInput : Option Err := none
  preConsumeBilling : Except RelayError ℤ := .ok 0

/-- `PostTextConsumeQuota`, or `PostAudioConsumeQuota` and `PostWssConsumeQuota`, which differ in
the counts they read. -/
inductive Settlement
  | text (ctx : TextContext) (usage : Option Usage)
  | audio (inputDetails outputDetails : TokenDetails) (modelName : String)
    (params : TokenParams) (totalTokens : ℤ)
deriving DecidableEq, Repr

/-- The channel tables and random numbers of selection, the error of reading the body, and what the
upstream does. -/
structure AttemptEnv where
  source : ℕ → ChannelSource
  draw : KeyDraw := {}
  bodyError : Option RelayError := none
  mapModelName : String → String := id
  otherRatios : List (String × ℚ) := []
  result : Except RelayError Settlement

structure Attempt where
  group : String
  channelId : ℤ
deriving DecidableEq, Repr

structure RelayState where
  ctx : RelayContext
  info : RelayInfo
  hasChannelMeta : Bool := false
  tieredBillingSnapshot : Option BillingSnapshot := none
  param : RetryParam
  newAPIError : Option RelayError := none
  attempts : List Attempt := []

structure Bill where
  info : RelayInfo
  tieredBillingSnapshot : Option BillingSnapshot
  settlement : Settlement

inductive RelayResult
  | served (st : RelayState) (bill : Bill)
  | failed (st : RelayState)

namespace RelayResult

def state : RelayResult → RelayState
  | served st _ => st
  | failed st => st

end RelayResult

def lastState : RelayState ⊕ RelayResult → RelayState
  | .inl st => st
  | .inr r => r.state

def shouldRetry (settings : RelaySettings) (ctx : RelayContext) (e : RelayError)
    (retryTimes : ℤ) : Bool :=
  if ctx.shouldSkipRetryAfterChannelAffinityFailure then false
  else if e.isChannelError then true
  else if e.skipRetry then false
  else if retryTimes ≤ 0 then false
  else if ctx.specificChannelId ≠ none then false
  else if 200 ≤ e.statusCode ∧ e.statusCode < 300 then false
  else if e.statusCode < 100 ∨ 599 < e.statusCode then true
  -- `IsAlwaysSkipRetryCode`.
  else if e.errorCode = "bad_response_body" then false
  else shouldRetryByStatusCode settings.retryStatusCodes e.statusCode

namespace RelayState

variable (st : RelayState)

def group : String :=
  st.ctx.autoGroup.getD st.ctx.usingGroup

def getPriceChannelID : ℤ :=
  if st.hasChannelMeta then st.info.channelId else st.ctx.channelId

def groupRatio (prices : PriceSettings) (st : RelayState) : RelayInfo × ℚ :=
  let (info, ratio) :=
    handleGroupRatio prices { st.info with channelId := st.getPriceChannelID } st.ctx.autoGroup
  ({ st.info with usingGroup := info.usingGroup }, ratio)

def refreshGroupRatio (prices : PriceSettings) (st : RelayState) : RelayState :=
  let (info, ratio) := st.groupRatio prices
  { st with info := { info with priceData := { info.priceData with groupRatio := ratio } } }

def addUsedChannel (channelId : ℤ) : RelayState :=
  { st with ctx := { st.ctx with useChannel := st.ctx.useChannel ++ [channelId] } }

def initChannelMeta : RelayState :=
  { st with
    hasChannelMeta := true
    info := { st.info with channelId := st.ctx.channelId }
    attempts := st.attempts ++ [⟨st.group, st.ctx.channelId⟩] }

def fail (e : RelayError) : RelayState :=
  { st with newAPIError := some e }

end RelayState

section Relay

variable (cfg : RelayConfig)

def RelayState.modelPrice (st : RelayState) (count : TokenCountMeta) :
    RelayInfo × Except Err (PriceData × Option BillingSnapshot) :=
  modelPriceHelper cfg.billing cfg.prices cfg.expr cfg.requestInput
    { st.info with channelId := st.getPriceChannelID } cfg.promptTokens count st.ctx.autoGroup

def getChannelFailed (message : String) : RelayError :=
  { message, errorCode := "get_channel_failed", skipRetry := true }

variable (env : AttemptEnv)

def getChannel (st : RelayState) : RelayState × Except RelayError ℤ :=
  if st.hasChannelMeta = false then (st, .ok st.ctx.channelId)
  else
    let selection := cacheGetRandomSatisfiedChannel cfg.settings env.source st.ctx st.param
    let st := { st with ctx := selection.ctx, param := selection.param }
    let st := st.refreshGroupRatio cfg.prices.toPriceSettings
    let name := st.info.originModelName
    match selection.err, selection.channel with
    | some e, _ =>
      (st, .error (getChannelFailed ("获取分组 " ++ selection.selectGroup ++ " 下模型 " ++ name ++
        " 的可用渠道失败（retry）: " ++ e)))
    | none, none =>
      (st, .error (getChannelFailed ("分组 " ++ selection.selectGroup ++ " 下模型 " ++ name ++
        " 的可用渠道不存在（retry）")))
    | none, some channel =>
      match setupContextForSelectedChannel st.ctx (some channel) name env.draw with
      | (ctx, some e) => ({ st with ctx }, .error e)
      | (ctx, none) => ({ st with ctx }, .ok channel.id)

def relayAttempt (st : RelayState) : RelayState × Except RelayError Bill :=
  let st := st.initChannelMeta
  let st := { st with
    info := { st.info with
      originModelName := env.mapModelName st.info.originModelName
      priceData := st.info.priceData.addOtherRatios env.otherRatios } }
  match env.result with
  | .error e => (st, .error e)
  | .ok settlement =>
    if cfg.compact then
      match st.modelPrice cfg {} with
      | (info, .error e) =>
        ({ st with info := { st.info with usingGroup := info.usingGroup } },
          .error { message := e, errorCode := "model_price_error", statusCode := 400,
                   skipRetry := true })
      | (info, .ok (priceData, snapshot)) =>
        let snapshot := snapshot.orElse fun _ => st.tieredBillingSnapshot
        ({ st with info := { st.info with usingGroup := info.usingGroup },
                   tieredBillingSnapshot := snapshot },
          .ok ⟨{ info with priceData }, snapshot, settlement⟩)
    else (st, .ok ⟨st.info, st.tieredBillingSnapshot, settlement⟩)

def afterAttempt (st : RelayState) : Except RelayError Bill → RelayState ⊕ RelayResult
  | .ok bill => .inr (.served st bill)
  | .error e =>
    let e := e.normalizeViolationFeeError
    let st := st.fail e
    if shouldRetry cfg.settings st.ctx e (cfg.settings.retryTimes - st.param.retry) then
      .inl { st with param := st.param.increaseRetry }
    else .inr (.failed st)

def relayOn (st : RelayState) (channelId : ℤ) : RelayState ⊕ RelayResult :=
  let st := st.addUsedChannel channelId
  match env.bodyError with
  | some e => .inr (.failed (st.fail e))
  | none =>
    let (st, result) := relayAttempt cfg env st
    afterAttempt cfg st result

def relayPass (env : ℕ → AttemptEnv) (n : ℕ) (st : RelayState) : RelayState ⊕ RelayResult :=
  if st.param.retry ≤ cfg.settings.retryTimes then
    match getChannel cfg (env n) st with
    | (st, .error e) => .inr (.failed (st.fail e))
    | (st, .ok channelId) => relayOn cfg (env n) st channelId
  else .inr (.failed st)

def relayLoop (env : ℕ → AttemptEnv) (fuel : ℕ) (st : RelayState) : RelayState ⊕ RelayResult :=
  runLoop (relayPass cfg env) fuel 0 st

variable (ctx : RelayContext)

variable (info : RelayInfo)

def genBaseRelayInfo : RelayInfo :=
  { info with
    usingGroup := ctx.usingGroup
    userGroup := ctx.userGroup
    originModelName := ctx.originalModel }

def freshState : RelayState :=
  { ctx, info
    param :=
      { tokenGroup := if ctx.tokenGroup = "" then ctx.userGroup else ctx.tokenGroup
        modelName := info.originModelName
        requestPath := cfg.requestPath } }

/-- The request is priced and its quota pre-consumed. -/
def startRelay : Except RelayError RelayState :=
  let st := freshState cfg ctx (genBaseRelayInfo ctx info)
  match st.modelPrice cfg cfg.count with
  | (_, .error e) => .error { message := e, errorCode := "model_price_error", statusCode := 400 }
  | (info, .ok (priceData, snapshot)) =>
    let st := { st with
      info := { st.info with usingGroup := info.usingGroup, priceData }
      tieredBillingSnapshot := snapshot }
    if priceData.freeModel then .ok st
    else
      match cfg.preConsumeBilling with
      | .error e => .error e
      | .ok preConsumed =>
        .ok { st with info := { st.info with finalPreConsumedQuota := preConsumed } }

end Relay

/-! ### The final quota -/

namespace Bill

variable (cfg : RelayConfig) (bill : Bill)

def tiered : Option TieredSettle :=
  match bill.settlement with
  | .text ctx usage => textTieredSettle cfg.expr ctx bill.info bill.tieredBillingSnapshot usage
  | .audio _ _ _ params _ =>
    tryTieredSettle cfg.expr bill.tieredBillingSnapshot bill.info.finalPreConsumedQuota params

def quota : ℤ :=
  match bill.settlement with
  | .text ctx usage => textQuota cfg.billing cfg.textPrices ctx bill.info usage (bill.tiered cfg)
  | .audio inputDetails outputDetails modelName _ totalTokens =>
    let price := bill.info.priceData
    let quotaInfo : QuotaInfo :=
      { inputDetails, outputDetails, modelName, usePrice := price.usePrice,
        modelRatio := price.modelRatio, groupRatio := price.groupRatio }
    if totalTokens = 0 then 0
    else
      match bill.tiered cfg with
      | some tiered => tiered.quota
      | none => calculateAudioQuota cfg.billing cfg.audioRatios quotaInfo

end Bill

end TokensFlux
