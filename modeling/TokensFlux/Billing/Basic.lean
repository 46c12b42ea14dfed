import TokensFlux.Common.Quota
import TokensFlux.Subscription.Basic

/-! # The data of one relayed request -/

namespace TokensFlux

/-- `unset` is the empty string of a request without a session. -/
inductive BillingSource
  | unset
  | wallet
  | subscription
deriving DecidableEq, Repr

inductive ErrorCode
  | invalidRequest
  | queryDataError
  | updateDataError
  | insufficientUserQuota
  | preConsumeTokenQuotaFailed
deriving DecidableEq, Repr

structure NewAPIError where
  message : String
  errorCode : ErrorCode
  statusCode : ℕ
  skipRetry : Bool
  recordErrorLog : Bool
deriving DecidableEq, Repr

def newError (message : Err) (errorCode : ErrorCode) : NewAPIError :=
  ⟨message, errorCode, 500, true, true⟩

/-- 403, not retried and not recorded in the error log. -/
def newForbidden (message : Err) (errorCode : ErrorCode) : NewAPIError :=
  ⟨message, errorCode, 403, true, false⟩

/-- `types.PriceData` with the ratio of `GroupRatioInfo`, in exact decimals. -/
structure PriceData where
  freeModel : Bool := false
  modelPrice : ℚ := 0
  modelRatio : ℚ := 0
  completionRatio : ℚ := 0
  cacheRatio : ℚ := 0
  cacheCreationRatio : ℚ := 0
  cacheCreation5mRatio : ℚ := 0
  cacheCreation1hRatio : ℚ := 0
  imageRatio : ℚ := 0
  otherRatios : List (String × ℚ) := []
  usePrice : Bool := false
  quota : ℤ := 0
  quotaToPreConsume : ℤ := 0
  groupRatio : ℚ := 0
deriving DecidableEq, Repr

structure RelayInfo where
  requestId : String
  userId : ℤ
  tokenId : ℤ
  tokenKey : String
  tokenUnlimited : Bool
  isPlayground : Bool
  forcePreConsume : Bool
  billingPreference : String
  acceptUnsetRatioModel : Bool := false
  /-- Set when the request was authenticated. -/
  tokenQuota : ℤ
  channelId : ℤ := 0
  originModelName : String := ""
  upstreamModelName : String := ""
  userGroup : String := ""
  usingGroup : String := ""
  usePrice : Bool := false
  priceData : PriceData := {}
  userQuota : ℤ := 0
  finalPreConsumedQuota : ℤ := 0
  billingSource : BillingSource := .unset
  subscriptionId : ℤ := 0
  subscriptionPreConsumed : ℤ := 0
  subscriptionPostDelta : ℤ := 0
  subscriptionAmountTotal : ℤ := 0
  subscriptionAmountUsedAfterPreConsume : ℤ := 0
  subscriptionPlanId : ℤ := 0
  subscriptionPlanTitle : String := ""
deriving DecidableEq, Repr

structure BillingEnv where
  quotaPerUnit : ℚ
  formatQuota : ℤ → String
  calendar : Calendar

def BillingEnv.getTrustQuota (env : BillingEnv) : ℤ :=
  truncate (10 * env.quotaPerUnit)

end TokensFlux
