import TokensFlux.Quota.PerCall
import TokensFlux.Store.Equiv.Ledger
import TokensFlux.Task.Billing

/-!
# Submitting a task

Each attempt computes the price anew, but the quota is pre-consumed only once; the accepted task is
settled and stored with the price of the last attempt.
-/

namespace TokensFlux

structure Submission where
  billing : Option BillingSession := none
  info : RelayInfo
  store : Store

/-- The ratios `AdjustBillingOnSubmit` reads are none to leave the price alone. -/
structure SubmitReply where
  upstreamTaskId : String
  adjustedRatios : List (String × ℚ) := []
  taskData : List UInt8 := []

/-- The error is that of the checks before the price is computed. -/
structure SubmitAttempt where
  channelId : ℤ
  platform : TaskPlatform
  modelName : String
  autoGroup : Option String := none
  invalid : Option Err := none
  estimatedRatios : List (String × ℚ) := []
  opening : OpenFaults := {}
  reply : Except Err SubmitReply

structure TaskSubmitResult where
  upstreamTaskId : String
  taskData : List UInt8
  platform : TaskPlatform
  quota : ℤ
deriving DecidableEq, Repr

def recalcQuotaFromRatios (p : PriceData) (ratios : List (String × ℚ)) : Option ℤ :=
  let baseQuota := p.removeOtherRatiosFromFloat p.quota
  let (p, replaced) := p.replaceOtherRatios ratios
  if replaced then some (quotaFromFloat (p.applyOtherRatiosToFloat baseQuota)) else none

section Submit

variable (env : BillingEnv) (settings : PriceSettings)

def priceTask (info : RelayInfo) (a : SubmitAttempt) : RelayInfo × Except Err PriceData :=
  let info := { info with channelId := a.channelId }
  match a.invalid with
  | some e => (info, .error e)
  | none =>
    let info := { info with originModelName := a.modelName }
    match modelPriceHelperPerCall env settings info a.autoGroup with
    | (info, .error e) => (info, .error e)
    | (info, .ok p) =>
      let p := p.addOtherRatios a.estimatedRatios
      (info, .ok <| if a.modelName ∈ settings.taskPricePatches then p
        else { p with quota := quotaFromFloat (p.applyOtherRatiosToFloat p.quota) })

variable (st : Submission)

def preConsumeBilling (f : OpenFaults) (preConsumedQuota : ℤ) : Submission × Option NewAPIError :=
  match newBillingSession env st.info st.store f preConsumedQuota with
  | (store, info, .error apiErr) => ({ st with info, store }, some apiErr)
  | (store, info, .ok session) => (⟨some session, info, store⟩, none)

/-- Unless an earlier attempt has done so or the model is free. -/
def preConsumeTask (f : OpenFaults) : Submission × Option NewAPIError :=
  if st.billing.isNone && !st.info.priceData.freeModel then
    preConsumeBilling env { st with info := { st.info with forcePreConsume := true } } f
      st.info.priceData.quota
  else (st, none)

/-- The ratios of the answer replace those of the request. -/
def adjustPriceOnSubmit (p : PriceData) (adjustedRatios : List (String × ℚ)) : PriceData :=
  if adjustedRatios = [] then p
  else
    match recalcQuotaFromRatios p adjustedRatios with
    | none => p
    | some quota => { (p.replaceOtherRatios adjustedRatios).1 with quota }

def relayTaskSubmit (a : SubmitAttempt) : Submission × Except Err TaskSubmitResult :=
  match priceTask env settings st.info a with
  | (info, .error e) => ({ st with info }, .error e)
  | (info, .ok priceData) =>
    match preConsumeTask env { st with info := { info with priceData } } a.opening with
    | (st, some apiErr) => (st, .error apiErr.message)
    | (st, none) =>
      match a.reply with
      | .error e => (st, .error e)
      | .ok reply =>
        let priceData := adjustPriceOnSubmit st.info.priceData reply.adjustedRatios
        ({ st with info := { st.info with priceData } },
          .ok ⟨reply.upstreamTaskId, reply.taskData, a.platform, priceData.quota⟩)

def logTaskConsumption (s : Store) (info : RelayInfo) : Store :=
  let quota := info.priceData.quota
  let s := s.recordLog
    { userId := info.userId, type := .consume, promptTokens := 0, completionTokens := 0,
      modelName := info.originModelName, quota, channelId := info.channelId,
      tokenId := info.tokenId, group := info.usingGroup }
  (s.updateUserUsedQuotaAndRequestCount none info.userId quota).updateChannelUsedQuota none
    info.channelId quota

def initTask (platform : TaskPlatform) (info : RelayInfo) (taskId : String) (now : ℤ) : Task :=
  { taskId, platform
    userId := info.userId
    group := info.usingGroup
    channelId := info.channelId
    quota := 0
    status := .notStart
    submitTime := now
    progress := "0%"
    originModelName := info.originModelName
    billingSource := .unset }

/-- That the settlement failed is only logged. -/
def storeTask (result : TaskSubmitResult) (taskId : String) (now : ℤ) : Submission × Task :=
  let ((billing, info, store), _settleErr) :=
    settleBilling st.billing st.info st.store {} result.quota
  let task := { initTask result.platform info taskId now with
    upstreamTaskId := result.upstreamTaskId
    billingSource := info.billingSource
    subscriptionId := info.subscriptionId
    tokenId := info.tokenId
    billingContext := some
      { modelPrice := info.priceData.modelPrice
        groupRatio := info.priceData.groupRatio
        modelRatio := info.priceData.modelRatio
        otherRatios := info.priceData.validOtherRatios
        originModelName := info.originModelName
        perCallBilling :=
          settings.taskPricePatches.contains info.originModelName || info.priceData.usePrice }
    quota := result.quota
    data := result.taskData }
  (⟨billing, info, logTaskConsumption store info⟩, task)

end Submit

/-! ### The life of a task -/

inductive TaskPhase
  | submitting
  | accepted (result : TaskSubmitResult)
  | stored (task : Task) (refunded : Bool)
deriving DecidableEq

/-- With its clock and the tables before and after. -/
structure TaskOpening where
  now : ℤ
  before : Store
  after : Store

/-- `posted` adds up what the settlement, the recalculations and the refund have posted; the
pre-consumption is kept apart, as it also makes the resets that are due. -/
structure TaskLife where
  submission : Submission
  phase : TaskPhase := .submitting
  opening : Option TaskOpening := none
  posted : Account → ℤ := 0

/-- `others` is everything other requests and workers do to the tables. -/
inductive TaskLifeEvent
  | attempt (a : SubmitAttempt)
  | store (taskId : String) (now : ℤ)
  | recalculate (actualQuota : ℤ)
  | refund
  | others (store : Store)

namespace TaskLife

def post (r : TaskLife) (submission : Submission) (task : Task) (refunded : Bool) : TaskLife :=
  { r with
    submission
    phase := .stored task refunded
    posted := r.posted + (submission.store.ledger - r.submission.store.ledger) }

def step (env : BillingEnv) (settings : PriceSettings) (r : TaskLife) : TaskLifeEvent → TaskLife
  | .attempt a =>
    match r.phase with
    | .submitting =>
      let (submission, result) := relayTaskSubmit env settings r.submission a
      { r with
        submission
        phase :=
          match result with
          | .ok result => .accepted result
          | .error _ => .submitting
        opening :=
          if r.submission.billing.isNone && submission.billing.isSome then
            some ⟨a.opening.subscription.now, r.submission.store, submission.store⟩
          else r.opening }
    | _ => r
  | .store taskId now =>
    match r.phase with
    | .accepted result =>
      let (submission, task) := storeTask settings r.submission result taskId now
      r.post submission task false
    | _ => r
  | .recalculate actualQuota =>
    match r.phase with
    | .stored task refunded =>
      let settled := recalculateTaskQuota r.submission.store {} task task actualQuota
      r.post { r.submission with store := settled.billing } settled.row refunded
    | _ => r
  | .refund =>
    match r.phase with
    | .stored task _ =>
      let (store, _) := refundTaskQuota r.submission.store {} task
      r.post { r.submission with store } task true
    | _ => r
  | .others store => { r with submission := { r.submission with store } }

end TaskLife

/-! ### Tasks that start from another task -/

def maxTaskDurationSeconds : ℤ := 3600

structure TaskError where
  code : String
  message : Err
  statusCode : ℕ

structure OriginTask where
  task : Task
  upstreamModelName : String := ""

/-- The error is that of `GetNextEnabledKey`. -/
structure OriginChannel where
  enabled : Bool
  nextKey : Option NewAPIError := none

/-- `dataField` is a field of the JSON object if it holds a text. -/
structure OriginEnv where
  getByTaskId : ℤ → String → Except Err (Option OriginTask)
  getChannelById : ℤ → Except Err OriginChannel
  dataField : List UInt8 → String → Option String

structure OriginRequest where
  path : String
  videoId : String := ""
  originTaskId : String := ""

def OriginRequest.isRemix (req : OriginRequest) : Bool :=
  containsText req.path "/v1/videos/" && hasSuffix req.path "/remix"

namespace OriginEnv

variable (o : OriginEnv)

def originModelName (info : RelayInfo) (origin : OriginTask) : String :=
  if info.originModelName ≠ "" then info.originModelName
  else if origin.task.originModelName ≠ "" then origin.task.originModelName
  else if origin.upstreamModelName ≠ "" then origin.upstreamModelName
  else (o.dataField origin.task.data "model").getD ""

def remixRatios (task : Task) : List (String × ℚ) :=
  match task.billingContext with
  | some bc => bc.otherRatios
  | none =>
    -- Tasks from before the billing context only have what the upstream answered.
    let seconds := ((o.dataField task.data "seconds").bind atoi).getD 0
    let seconds := if seconds ≤ 0 then 4 else seconds
    let seconds := if maxTaskDurationSeconds < seconds then maxTaskDurationSeconds else seconds
    let size := (o.dataField task.data "size").getD ""
    ("seconds", (seconds : ℚ)) :: ("size", 1) ::
      if size = "1792x1024" ∨ size = "1024x1792" then [("size", 1666667 / 1000000)] else []

def resolveOriginTask (req : OriginRequest) (info : RelayInfo) : Except TaskError RelayInfo :=
  if req.isRemix ∧ trimSpace req.videoId = "" then
    .error ⟨"invalid_request", "video_id is required", 400⟩
  else
    let originTaskId := if req.isRemix then req.videoId else req.originTaskId
    if originTaskId = "" then .ok info
    else
      match o.getByTaskId info.userId originTaskId with
      | .error e => .error ⟨"get_origin_task_failed", e, 500⟩
      | .ok none => .error ⟨"task_not_exist", "task_origin_not_exist", 400⟩
      | .ok (some origin) =>
        let originModelName := o.originModelName info origin
        match o.getChannelById origin.task.channelId with
        | .error e => .error ⟨"channel_not_found", e, 400⟩
        | .ok ch =>
          if !ch.enabled then
            .error ⟨"task_channel_disable", "the channel of the origin task is disabled", 400⟩
          else
            match if origin.task.channelId = info.channelId then none else ch.nextKey with
            | some e => .error ⟨"channel_no_available_key", e.message, e.statusCode⟩
            | none =>
              let priceData := if req.isRemix then
                  info.priceData.addOtherRatios (o.remixRatios origin.task)
                else info.priceData
              .ok { info with originModelName, channelId := origin.task.channelId, priceData }

end OriginEnv

end TokensFlux
