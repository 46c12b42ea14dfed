import TokensFlux.Quota.Realtime

/-!
# Billing a text request

From the usage of an answer to its quota, by ratio, by price or by a billing expression.
-/

namespace TokensFlux

structure Usage where
  promptTokens : ℤ
  completionTokens : ℤ
  usageSemantic : String := ""
  usageSource : String := ""
  cachedTokens : ℤ := 0
  cachedCreationTokens : ℤ := 0
  imageTokens : ℤ := 0
  audioTokens : ℤ := 0
  claudeCacheCreation5mTokens : ℤ := 0
  claudeCacheCreation1hTokens : ℤ := 0
  completionImageTokens : ℤ := 0
  completionAudioTokens : ℤ := 0
  /-- The `float64` of a decoded response never is. -/
  costIsIntZero : Bool := false
deriving DecidableEq, Repr

structure BuiltInTools where
  webSearchPreview : Option ℤ := none
  fileSearch : Option ℤ := none
deriving DecidableEq, Repr

structure TextContext where
  relayFormatClaude : Bool := false
  channelOpenRouter : Bool := false
  estimatePromptTokens : ℤ := 0
  responsesUsageInfo : Option BuiltInTools := none
  claudeWebSearchRequests : ℤ := 0
  imageGenerationCall : Option (String × String) := none
deriving DecidableEq, Repr

/-- The estimate of OpenRouter's cache writes is a float computation of its own. -/
structure TextPrices where
  getToolPriceForModel : String → String → ℚ
  getToolPrice : String → ℚ
  getGPTImage1PriceOnceCall : String → String → ℚ
  getGeminiInputAudioPricePerMillionTokens : String → ℚ
  defaultModelRatio : String → Option ℚ
  calcOpenRouterCacheCreateTokens : Usage → PriceData → ℤ

structure TextQuotaSummary where
  promptTokens : ℤ
  completionTokens : ℤ
  totalTokens : ℤ
  modelName : String
  quota : ℤ
  toolCallSurchargeQuota : ℚ
deriving DecidableEq, Repr

def decimalDiv (a b : ℚ) : ℚ :=
  roundAway (a / b * 10000000000000000) / 10000000000000000

def PriceData.applyOtherRatiosToDecimal (p : PriceData) (value : ℚ) : ℚ :=
  p.otherRatios.foldl (fun value r => if 0 < r.2 ∧ r.2 ≠ 1 then value * r.2 else value) value

section Summary

variable (env : BillingEnv) (prices : TextPrices) (ctx : TextContext) (info : RelayInfo)

def calculateTextToolCallSurcharge : ℚ :=
  let modelName := info.originModelName
  let unit := info.priceData.groupRatio * env.quotaPerUnit
  let webSearchPrice := prices.getToolPriceForModel "web_search_preview" modelName
  let webSearch :=
    match ctx.responsesUsageInfo with
    | some tools =>
      let callCount := tools.webSearchPreview.getD 0
      if 0 < callCount then decimalDiv (webSearchPrice * callCount) 1000 * unit else 0
    -- Without tool usage the search models are charged for one search.
    | none =>
      if hasSuffix modelName "search-preview" then decimalDiv webSearchPrice 1000 * unit else 0
  let claudeWebSearch :=
    if 0 < ctx.claudeWebSearchRequests then
      decimalDiv (prices.getToolPrice "web_search") 1000 * unit * ctx.claudeWebSearchRequests
    else 0
  let fileSearch :=
    match ctx.responsesUsageInfo with
    | some tools =>
      let callCount := tools.fileSearch.getD 0
      if 0 < callCount then
        decimalDiv (prices.getToolPrice "file_search" * callCount) 1000 * unit
      else 0
    | none => 0
  let imageGeneration :=
    match ctx.imageGenerationCall with
    | some (quality, size) => prices.getGPTImage1PriceOnceCall quality size * unit
    | none => 0
  webSearch + claudeWebSearch + fileSearch + imageGeneration

variable (usage : Option Usage)

def isClaudeUsageSemantic : Bool :=
  match usage with
  | some usage =>
    if usage.usageSemantic ≠ "" then usage.usageSemantic = "anthropic" else ctx.relayFormatClaude
  | none => ctx.relayFormatClaude

def isLegacyClaudeDerivedOpenAIUsage (usage : Usage) : Bool :=
  !ctx.relayFormatClaude && usage.usageSource = "" && usage.usageSemantic = "" &&
    (decide (0 < usage.claudeCacheCreation5mTokens) ||
      decide (0 < usage.claudeCacheCreation1hTokens))

def hasCustomModelRatio (modelName : String) (currentRatio : ℚ) : Bool :=
  match prices.defaultModelRatio modelName with
  | none => true
  | some defaultRatio => currentRatio ≠ defaultRatio

/-- OpenRouter reports the cached tokens as part of the prompt and may leave the cache writes out.
-/
def billedTokens (claude : Bool) (usage : Usage) : ℤ × ℤ :=
  if ctx.channelOpenRouter && claude then
    let promptTokens := usage.promptTokens - usage.cachedTokens
    let isUsingCustomSettings := info.priceData.usePrice ||
      hasCustomModelRatio prices info.originModelName info.priceData.modelRatio
    let maybe := prices.calcOpenRouterCacheCreateTokens usage info.priceData
    let cacheCreationTokens :=
      if usage.cachedCreationTokens = 0 ∧ info.priceData.cacheCreationRatio ≠ 1 ∧
          usage.costIsIntZero = false ∧ isUsingCustomSettings = false ∧
          0 ≤ maybe ∧ maybe ≤ promptTokens then maybe
      else usage.cachedCreationTokens
    (promptTokens - cacheCreationTokens, cacheCreationTokens)
  else (usage.promptTokens, usage.cachedCreationTokens)

def textQuotaByRatio (claude : Bool) (usage : Usage) (promptTokens cacheCreationTokens : ℤ)
    (surcharge : ℚ) : ℚ :=
  let price := info.priceData
  let ratio := price.modelRatio * price.groupRatio
  -- Claude reports prompt tokens without the cached ones, everyone else with them.
  let separate := claude || isLegacyClaudeDerivedOpenAIUsage ctx usage
  let cacheTokens := usage.cachedTokens
  let tokens5m := usage.claudeCacheCreation5mTokens
  let tokens1h := usage.claudeCacheCreation1hTokens
  let hasCreation := cacheCreationTokens ≠ 0 ∨ 0 < tokens5m ∨ 0 < tokens1h
  let audioInputPrice := prices.getGeminiInputAudioPricePerMillionTokens info.originModelName
  let hasAudio := usage.audioTokens ≠ 0 ∧ 0 < audioInputPrice
  let baseTokens : ℚ := promptTokens
    - (if cacheTokens ≠ 0 ∧ separate = false then cacheTokens else 0)
    - (if hasCreation ∧ separate = false then cacheCreationTokens else 0)
    - (if usage.imageTokens ≠ 0 then usage.imageTokens else 0)
    - (if hasAudio then usage.audioTokens else 0)
  let cachedTokensWithRatio : ℚ := if cacheTokens ≠ 0 then cacheTokens * price.cacheRatio else 0
  let cachedCreationTokensWithRatio : ℚ :=
    if hasCreation then
      if separate = false then cacheCreationTokens * price.cacheCreationRatio
      else
        let remaining := max (cacheCreationTokens - tokens5m - tokens1h) 0
        remaining * price.cacheCreationRatio + tokens5m * price.cacheCreation5mRatio
          + tokens1h * price.cacheCreation1hRatio
    else 0
  let imageTokensWithRatio : ℚ :=
    if usage.imageTokens ≠ 0 then usage.imageTokens * price.imageRatio else 0
  let audioInputQuota : ℚ :=
    if hasAudio then
      decimalDiv audioInputPrice 1000000 * usage.audioTokens * price.groupRatio * env.quotaPerUnit
    else 0
  let promptQuota :=
    baseTokens + cachedTokensWithRatio + imageTokensWithRatio + cachedCreationTokensWithRatio
  let completionQuota := usage.completionTokens * price.completionRatio
  let quota := price.applyOtherRatiosToDecimal
    ((promptQuota + completionQuota) * ratio + surcharge + audioInputQuota)
  -- A priced model never costs nothing.
  if ratio ≠ 0 ∧ quota ≤ 0 then 1 else quota

def calculateTextQuotaSummary : TextQuotaSummary :=
  let claude := isClaudeUsageSemantic ctx usage
  let usage := usage.getD { promptTokens := ctx.estimatePromptTokens, completionTokens := 0 }
  let price := info.priceData
  let (promptTokens, cacheCreationTokens) := billedTokens prices ctx info claude usage
  let surcharge := calculateTextToolCallSurcharge env prices ctx info
  let totalTokens := usage.promptTokens + usage.completionTokens
  let quota := quotaFromDecimal <| if price.usePrice then
      price.applyOtherRatiosToDecimal (price.modelPrice * env.quotaPerUnit *
        price.groupRatio + surcharge)
    else textQuotaByRatio env prices ctx info claude usage promptTokens
      cacheCreationTokens surcharge
  { promptTokens
    completionTokens := usage.completionTokens
    totalTokens
    modelName := info.originModelName
    quota :=
      -- No tokens at all: the upstream reported no usage, and not even a fixed price is charged.
      if totalTokens = 0 then 0
      else if price.modelRatio * price.groupRatio ≠ 0 ∧ quota = 0 then 1
      else quota
    toolCallSurchargeQuota := surcharge }

/-- The quota and, unless the expression failed, the quota before the group ratio with that ratio.
-/
structure TieredSettle where
  quota : ℤ
  beforeGroup : Option (ℚ × ℚ) := none
deriving DecidableEq, Repr

def composeTieredTextQuota (summary : TextQuotaSummary) (tiered : TieredSettle) : ℤ :=
  if summary.toolCallSurchargeQuota = 0 then tiered.quota
  else
    match tiered.beforeGroup with
    | some (actualQuotaBeforeGroup, groupRatio) =>
      quotaFromDecimal (actualQuotaBeforeGroup * groupRatio + summary.toolCallSurchargeQuota)
    | none => quotaFromDecimal (tiered.quota + summary.toolCallSurchargeQuota)

/-- A tiered price replaces the computed one, but only where the upstream reported usage. -/
def textQuota (tiered : Option TieredSettle) : ℤ :=
  let summary := calculateTextQuotaSummary env prices ctx info usage
  match usage, tiered with
  | some _, some tiered => composeTieredTextQuota summary tiered
  | _, _ => summary.quota

def postTextConsumeQuota (billing : Option BillingSession) (s : Store) (f : PostFaults)
    (usage : Option Usage) (tiered : Option TieredSettle) :
    Option BillingSession × RelayInfo × Store :=
  let summary := calculateTextQuotaSummary env prices ctx info usage
  let quota := textQuota env prices ctx info usage tiered
  let s :=
    if summary.totalTokens = 0 then s
    else
      (s.updateUserUsedQuotaAndRequestCount f.userUsed info.userId quota).updateChannelUsedQuota
        f.channelUsed info.channelId quota
  let ((billing, info, s), _) := settleBilling billing info s f.settle quota
  let modelName :=
    if hasPrefix summary.modelName "gpt-4-gizmo" then "gpt-4-gizmo-*"
    else if hasPrefix summary.modelName "gpt-4o-gizmo" then "gpt-4o-gizmo-*"
    else summary.modelName
  (billing, info, s.recordLog
    { userId := info.userId, type := .consume, promptTokens := summary.promptTokens,
      completionTokens := summary.completionTokens, modelName, quota, channelId := info.channelId,
      tokenId := info.tokenId, group := info.usingGroup })

end Summary

/-! ### Tiered billing

Token counts are far below 2^53, so the variables are rational here.  `BillingExpr` stands for the
expression language. -/

structure TokenParams where
  p : ℚ
  /-- Completion tokens without those priced by a variable of their own. -/
  c : ℚ
  len : ℚ
  cr : ℚ
  cc : ℚ
  cc1h : ℚ
  img : ℚ
  imgO : ℚ
  ai : ℚ
  ao : ℚ
deriving DecidableEq, Repr

def buildTieredTokenParams (usage : Usage) (isClaudeUsageSemantic : Bool)
    (usedVars : String → Bool) : TokenParams :=
  let p : ℚ := usage.promptTokens
  let c : ℚ := usage.completionTokens
  let cr : ℚ := usage.cachedTokens
  let anthropic := usage.usageSemantic = "anthropic"
  let cc5m : ℚ := if anthropic then usage.claudeCacheCreation5mTokens
    else usage.cachedCreationTokens
  let cc1h : ℚ := if anthropic then usage.claudeCacheCreation1hTokens else 0
  let img : ℚ := usage.imageTokens
  let ai : ℚ := usage.audioTokens
  let imgO : ℚ := usage.completionImageTokens
  let ao : ℚ := usage.completionAudioTokens
  let inputLen := if isClaudeUsageSemantic then p + cr + cc5m + cc1h else p
  let excluded (name : String) (tokens : ℚ) : ℚ :=
    if !isClaudeUsageSemantic && usedVars name then tokens else 0
  let p := p - excluded "cr" cr - excluded "cc" cc5m - excluded "cc1h" cc1h - excluded "img" img
    - excluded "ai" ai
  let c := c - excluded "img_o" imgO - excluded "ao" ao
  { p := if p < 0 then 0 else p
    c := if c < 0 then 0 else c
    len := inputLen
    cr, cc := cc5m, cc1h, img, imgO, ai, ao }

/-- The price frozen when the request was pre-consumed. -/
structure BillingSnapshot where
  billingMode : String
  exprString : String
  groupRatio : ℚ
  estimatedPromptTokens : ℤ
  estimatedCompletionTokens : ℤ
  estimatedQuotaBeforeGroup : ℚ
  estimatedQuotaAfterGroup : ℤ
  estimatedTier : String
  quotaPerUnit : ℚ
deriving DecidableEq, Repr

/-- The variables an expression uses, and its value with the tier it matched. The request, which it
may read too, is fixed. -/
structure BillingExpr where
  usedVars : String → String → Bool
  runExpr : String → TokenParams → Except Err (ℚ × String)

structure TieredResult where
  actualQuotaBeforeGroup : ℚ
  actualQuotaAfterGroup : ℤ
  matchedTier : String
  crossedTier : Bool
deriving DecidableEq, Repr

/-- Dollars per million tokens. -/
def quotaConversion (exprOutput : ℚ) (snap : BillingSnapshot) : ℚ :=
  exprOutput / 1000000 * snap.quotaPerUnit

section Settle

variable (expr : BillingExpr)

def computeTieredQuotaWithRequest (snap : BillingSnapshot) (params : TokenParams) :
    Except Err TieredResult :=
  (expr.runExpr snap.exprString params).map fun (cost, matchedTier) =>
    let quotaBeforeGroup := quotaConversion cost snap
    { actualQuotaBeforeGroup := quotaBeforeGroup
      actualQuotaAfterGroup := quotaFromDecimal (quotaBeforeGroup * snap.groupRatio)
      matchedTier
      crossedTier := matchedTier ≠ snap.estimatedTier }

/-- `none` when the request is not billed by an expression. -/
def tryTieredSettle (snap : Option BillingSnapshot) (finalPreConsumedQuota : ℤ)
    (params : TokenParams) : Option TieredSettle :=
  match snap with
  | none => none
  | some snap =>
    if snap.billingMode ≠ "tiered_expr" then none
    else
      match computeTieredQuotaWithRequest expr snap params with
      -- The expression fails: what was pre-consumed is kept, or the estimate is charged.
      | .error _ =>
        some { quota := if finalPreConsumedQuota ≤ 0 then snap.estimatedQuotaAfterGroup
          else finalPreConsumedQuota }
      | .ok tr =>
        some { quota := tr.actualQuotaAfterGroup
               beforeGroup := some (tr.actualQuotaBeforeGroup, snap.groupRatio) }

/-- None without a reported usage. -/
def textTieredSettle (ctx : TextContext) (info : RelayInfo) (snap : Option BillingSnapshot)
    (usage : Option Usage) : Option TieredSettle :=
  match usage with
  | none => none
  | some usage =>
    let usedVars := match snap with
      | some snap => expr.usedVars snap.exprString
      | none => fun _ => false
    tryTieredSettle expr snap info.finalPreConsumedQuota
      (buildTieredTokenParams usage (isClaudeUsageSemantic ctx (some usage)) usedVars)

end Settle

end TokensFlux
