import TokensFlux.Billing.Basic

/-!
# Prices of calls that are billed once

A price or half the ratio of the model, times the ratio of the group, times the ratios an adaptor
reads (`OtherRatios`).
-/

namespace TokensFlux

def isValidOtherRatio (ratio : ℚ) : Bool :=
  0 < ratio

namespace PriceData

variable (p : PriceData)

def addOtherRatio (key : String) (ratio : ℚ) : PriceData :=
  if isValidOtherRatio ratio then
    { p with otherRatios := (key, ratio) :: p.otherRatios.filter fun r => r.1 ≠ key }
  else p

variable (ratios : List (String × ℚ))

def addOtherRatios : PriceData :=
  ratios.foldl (fun p r => p.addOtherRatio r.1 r.2) p

theorem addOtherRatios_eq : ∃ otherRatios, p.addOtherRatios ratios = { p with otherRatios } := by
  unfold addOtherRatios
  induction ratios generalizing p with
  | nil => exact ⟨p.otherRatios, rfl⟩
  | cons r _ ih =>
    obtain ⟨otherRatios, h⟩ := ih (p.addOtherRatio r.1 r.2)
    refine ⟨otherRatios, ?_⟩
    rw [List.foldl_cons, h, addOtherRatio]
    split_ifs <;> rfl

/-- The new price and whether it has any ratio. -/
def replaceOtherRatios : PriceData × Bool :=
  let p := { p with otherRatios := [] }.addOtherRatios ratios
  (p, p.otherRatios ≠ [])

def validOtherRatios : List (String × ℚ) :=
  p.otherRatios.filter fun r => isValidOtherRatio r.2

def otherRatioMultiplier : ℚ :=
  p.otherRatios.foldl (fun multiplier r => if isValidOtherRatio r.2 ∧
    r.2 ≠ 1 then multiplier * r.2 else multiplier) 1

def applyOtherRatiosToFloat (value : ℚ) : ℚ :=
  value * p.otherRatioMultiplier

def removeOtherRatiosFromFloat (value : ℚ) : ℚ :=
  p.otherRatios.foldl (fun value r => if isValidOtherRatio r.2 ∧
    r.2 ≠ 1 then value / r.2 else value) value

end PriceData

/-- `none` if none is set; `getModelRatio` also says whether its ratio may be used, and for which
name. -/
structure PriceSettings where
  getModelPrice : String → Option ℚ
  defaultModelPrice : String → Option ℚ
  getModelRatio : String → ℚ × Bool × String
  getGroupRatio : String → ℚ
  getGroupGroupRatio : String → String → Option ℚ
  getChannelRatio : ℤ → Option ℚ
  enableFreeModelPreConsume : Bool
  /-- The models whose price no other ratio changes. -/
  taskPricePatches : List String
  isAdmin : ℤ → Bool

def PriceSettings.sample : PriceSettings where
  getModelPrice _ := some (1 / 50000)
  defaultModelPrice _ := none
  getModelRatio name := (0, false, name)
  getGroupRatio _ := 1
  getGroupGroupRatio _ _ := none
  getChannelRatio _ := none
  enableFreeModelPreConsume := false
  taskPricePatches := []
  isAdmin _ := false

def modelPriceNotConfiguredError (settings : PriceSettings) (name : String) (userId : ℤ) : Err :=
  if settings.isAdmin userId then
    "模型 " ++ name ++ " 的价格未配置。请前往「系统设置 → 运营设置」开启自用模式，" ++
      "或在「系统设置 → 分组与模型定价设置」中为该模型配置价格；Model " ++ name ++
      " price not configured. Go to System Settings → Operation Settings to enable " ++
      "self-use mode, or configure the model price in System Settings → Group & Model Pricing."
  else
    "模型 " ++ name ++ " 的价格尚未由管理员配置，暂时无法使用，请联系站点管理员开启该模型；Model " ++
      name ++ " has not been priced by the administrator yet. Please contact the site " ++
      "administrator to enable this model."

section Helper

variable (env : BillingEnv) (settings : PriceSettings)

variable (info : RelayInfo)

/-- The ratio, and the group an `auto` request was given. -/
def handleGroupRatio (autoGroup : Option String) : RelayInfo × ℚ :=
  let info := { info with usingGroup := autoGroup.getD info.usingGroup }
  let groupRatio := (settings.getGroupGroupRatio info.userGroup info.usingGroup).getD
    (settings.getGroupRatio info.usingGroup)
  (info, (settings.getChannelRatio info.channelId).getD groupRatio)

/-- With the flag whether the price is used. -/
def perCallPrice : Except Err (ℚ × ℚ × Bool) :=
  let name := info.originModelName
  match settings.getModelPrice name, settings.defaultModelPrice name with
  | some modelPrice, _ => .ok (modelPrice, 0, true)
  | none, some defaultPrice => .ok (defaultPrice, 0, true)
  | none, none =>
    let (modelRatio, ratioSuccess, matchName) := settings.getModelRatio name
    if !ratioSuccess && !info.acceptUnsetRatioModel then
      .error (modelPriceNotConfiguredError settings matchName info.userId)
    -- The price is only marked as unused after the quota is computed.
    else .ok (-1, modelRatio, false)

def modelPriceHelperPerCall (autoGroup : Option String) : RelayInfo × Except Err PriceData :=
  let (info, groupRatio) := handleGroupRatio settings info autoGroup
  let priced := (perCallPrice settings info).map fun (modelPrice, modelRatio, usePrice) =>
    let freeModel := !settings.enableFreeModelPreConsume &&
      (groupRatio = 0 || (if usePrice then modelPrice else modelRatio) = 0)
    let quota := quotaFromFloat <| if usePrice then modelPrice * env.quotaPerUnit * groupRatio
      else modelRatio / 2 * env.quotaPerUnit * groupRatio
    { freeModel, modelPrice, modelRatio, usePrice, groupRatio,
      quota := if freeModel then 0 else quota : PriceData }
  (info, priced)

end Helper

end TokensFlux
