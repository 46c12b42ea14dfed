import TokensFlux.Quota.PerCall
import TokensFlux.Quota.Text

/-! # Prices of calls that are billed by use -/

namespace TokensFlux

structure ModelPriceSettings extends PriceSettings where
  getCompletionRatio : String → ℚ
  getCacheRatio : String → ℚ
  getCreateCacheRatio : String → ℚ
  getImageRatio : String → ℚ
  preConsumedQuota : ℤ
  getBillingMode : String → String
  getBillingExpr : String → Option String

structure TokenCountMeta where
  maxTokens : ℤ := 0
  imagePriceRatio : ℚ := 0
deriving DecidableEq, Repr

def claudeCacheCreation1hMultiplier : ℚ := 8 / 5

def defaultTieredPreConsumeMaxTokens : ℤ := 8192

section Helper

variable (env : BillingEnv) (settings : ModelPriceSettings) (expr : BillingExpr)
  (requestInput : Option Err) (info : RelayInfo) (promptTokens : ℤ) (count : TokenCountMeta)
  (groupRatio : ℚ)

def modelPriceByPrice (modelPrice : ℚ) : PriceData :=
  let modelPrice := if count.imagePriceRatio ≠ 0
    then modelPrice * count.imagePriceRatio else modelPrice
  let freeModel := !settings.enableFreeModelPreConsume && (groupRatio = 0 || modelPrice = 0)
  { freeModel, modelPrice, usePrice := true, groupRatio
    quotaToPreConsume :=
      if freeModel then 0 else quotaFromFloat (modelPrice * env.quotaPerUnit * groupRatio) }

def modelPriceByRatio : Except Err PriceData :=
  let name := info.originModelName
  let preConsumedTokens := max promptTokens settings.preConsumedQuota + count.maxTokens
  let (modelRatio, success, matchName) := settings.getModelRatio name
  if !success && !info.acceptUnsetRatioModel then
    .error (modelPriceNotConfiguredError settings.toPriceSettings matchName info.userId)
  else
    let freeModel := !settings.enableFreeModelPreConsume && (groupRatio = 0 || modelRatio = 0)
    let cacheCreationRatio := settings.getCreateCacheRatio name
    .ok
      { freeModel, modelPrice := -1, modelRatio, groupRatio
        completionRatio := settings.getCompletionRatio name
        cacheRatio := settings.getCacheRatio name
        cacheCreationRatio
        cacheCreation5mRatio := cacheCreationRatio
        cacheCreation1hRatio := cacheCreationRatio * claudeCacheCreation1hMultiplier
        imageRatio := settings.getImageRatio name
        quotaToPreConsume :=
          if freeModel then 0 else quotaFromFloat (preConsumedTokens * (modelRatio * groupRatio)) }

/-- `requestInput` is the error of reading the request for the expression. -/
def modelPriceHelperTiered : Except Err (PriceData × BillingSnapshot) :=
  let name := info.originModelName
  match settings.getBillingExpr name, requestInput with
  | none, _ =>
    .error ("model " ++ name ++ " is configured as tiered_expr but has no billing expression")
  | some _, some e => .error e
  | some exprString, none =>
    let estimatedCompletionTokens :=
      if count.maxTokens = 0 ∧ groupRatio ≠ 0 then defaultTieredPreConsumeMaxTokens
        else count.maxTokens
    match expr.runExpr exprString
        { p := promptTokens, c := estimatedCompletionTokens, len := promptTokens,
          cr := 0, cc := 0, cc1h := 0, img := 0, imgO := 0, ai := 0, ao := 0 } with
    | .error e => .error ("model " ++ name ++ " tiered expr run failed: " ++ e)
    | .ok (rawCost, matchedTier) =>
      let quotaBeforeGroup := rawCost / 1000000 * env.quotaPerUnit
      let freeModel := !settings.enableFreeModelPreConsume && groupRatio = 0
      let preConsumedQuota := if freeModel then 0
        else quotaFromDecimal (quotaBeforeGroup * groupRatio)
      .ok
        ({ freeModel, groupRatio, quotaToPreConsume := preConsumedQuota },
          { billingMode := "tiered_expr"
            exprString
            groupRatio
            estimatedPromptTokens := promptTokens
            estimatedCompletionTokens
            estimatedQuotaBeforeGroup := quotaBeforeGroup
            estimatedQuotaAfterGroup := preConsumedQuota
            estimatedTier := matchedTier
            quotaPerUnit := env.quotaPerUnit })

/-- The request with its group, its price, and the snapshot of a billing expression. -/
def modelPriceHelper (autoGroup : Option String) :
    RelayInfo × Except Err (PriceData × Option BillingSnapshot) :=
  let (info, groupRatio) := handleGroupRatio settings.toPriceSettings info autoGroup
  if settings.getBillingMode info.originModelName = "tiered_expr" then
    (info,
      (modelPriceHelperTiered env settings expr requestInput info promptTokens count groupRatio).map
        fun (price, snapshot) => (price, some snapshot))
  else
    match settings.getModelPrice info.originModelName with
    | some modelPrice =>
      (info, .ok (modelPriceByPrice env settings count groupRatio modelPrice, none))
    | none =>
      (info, (modelPriceByRatio settings info promptTokens count groupRatio).map fun price =>
        (price, none))

end Helper

end TokensFlux
