import TokensFlux.Quota.Realtime

/-!
# Billing of asynchronous tasks

A failed task gets its quota back, a successful one is settled against its real price, both from and
to the funding source that is recorded on the task.
-/

namespace TokensFlux

/-! ### Asynchronous tasks

Workers change a copy of the row and then store the whole of it, either unconditionally (`Update`)
or if the stored status is still the one they started from (`UpdateWithStatus`). -/

inductive TaskStatus
  | notStart
  | submitted
  | queued
  | inProgress
  | failure
  | success
  | unknown
  | other (text : String)
deriving DecidableEq, Repr

def TaskStatus.empty : TaskStatus := .other ""

def TaskStatus.isDone (status : TaskStatus) : Bool :=
  status = .success || status = .failure

inductive TaskPlatform
  | midjourney
  | suno
  | video (name : String)
deriving DecidableEq, Repr

/-- The prices when the task was submitted. -/
structure TaskBillingContext where
  modelPrice : ℚ := 0
  groupRatio : ℚ := 0
  modelRatio : ℚ := 0
  otherRatios : List (String × ℚ) := []
  originModelName : String := ""
  perCallBilling : Bool := false
deriving DecidableEq, Repr

/-- `data` is raw JSON. -/
structure Task where
  taskId : String
  platform : TaskPlatform
  userId : ℤ
  group : String
  channelId : ℤ
  quota : ℤ
  status : TaskStatus
  failReason : String := ""
  submitTime : ℤ := 0
  startTime : ℤ := 0
  finishTime : ℤ := 0
  progress : String
  originModelName : String := ""
  upstreamTaskId : String := ""
  resultUrl : String := ""
  billingSource : BillingSource
  subscriptionId : ℤ := 0
  tokenId : ℤ := 0
  billingContext : Option TaskBillingContext := none
  data : List UInt8 := []
deriving DecidableEq, Repr

namespace Task

variable (t : Task)

def getUpstreamTaskId : String :=
  if t.upstreamTaskId ≠ "" then t.upstreamTaskId else t.taskId

def isUnfinished : Bool :=
  t.progress ≠ "100%" && !t.status.isDone

def isSubscription : Bool :=
  t.billingSource = .subscription && decide (0 < t.subscriptionId)

def modelName : String :=
  match t.billingContext with
  | some bc => if bc.originModelName ≠ "" then bc.originModelName else t.originModelName
  | none => t.originModelName

end Task

structure TaskSnapshot where
  status : TaskStatus
  progress : String
  startTime : ℤ
  finishTime : ℤ
  failReason : String
  resultUrl : String
  data : List UInt8
deriving DecidableEq, Repr

def Task.snapshot (t : Task) : TaskSnapshot :=
  ⟨t.status, t.progress, t.startTime, t.finishTime, t.failReason, t.resultUrl, t.data⟩

/-! ### Statements on the row of one task -/

variable (row : Task)

variable (fault : Option Err)

/-- The whole row is written if its status still is `fromStatus`. Returns whether it was. -/
def Task.updateWithStatus (t : Task) (fromStatus : TaskStatus) : Except Err (Task × Bool) :=
  match fault with
  | some e => .error e
  | none => .ok (if row.status = fromStatus then (t, true) else (row, false))

def Task.update (t : Task) : Task :=
  match fault with
  | some _ => row
  | none => t

def Task.updateQuota (quota : ℤ) : Task :=
  match fault with
  | some _ => row
  | none => { row with quota }

/-- `failReason` is set only when a channel is missing. -/
def Task.bulkFail (failReason : Option String) : Task :=
  match fault with
  | some _ => row
  | none =>
    { row with
      status := .failure, progress := "100%", failReason := failReason.getD row.failReason }

structure TaskInfo where
  status : TaskStatus
  reason : String := ""
  url : String := ""
  progress : String := ""
  totalTokens : ℤ := 0
deriving DecidableEq, Repr

def TaskInfo.fail (reason : String) : TaskInfo where
  status := .failure
  reason := reason

/-! ### Billing -/

structure TaskFaults where
  funding : TxFaults := {}
  wallet : Option Err := none
  tokenKey : Option Err := none
  token : Option Err := none
  updateQuota : Option Err := none
  userUsed : Option Err := none
  channelUsed : Option Err := none
deriving DecidableEq

/-- The model ratio if one is set, the group ratios, the group of a user, and the price an adaptor
computes (zero to leave it alone). -/
structure TaskEnv where
  getModelRatio : String → Option ℚ
  getGroupRatio : String → ℚ
  getGroupGroupRatio : String → String → Option ℚ
  getUserGroup : ℤ → Option String
  adjustBillingOnComplete : Task → TaskInfo → ℤ
  buildProxyUrl : String → String

variable (s : Store)

variable (f : TaskFaults)

variable (task : Task)

def taskAdjustFunding (delta : ℤ) : Except Err Store :=
  if task.isSubscription then s.postConsumeUserSubscriptionDelta f.funding task.subscriptionId delta
  else if 0 < delta then s.decreaseUserQuota f.wallet task.userId delta false
  else s.increaseUserQuota f.wallet task.userId (-delta) false

def taskAdjustTokenQuota (delta : ℤ) : Store :=
  if task.tokenId ≤ 0 ∨ delta = 0 ∨ f.tokenKey.isSome then s
  else
    (if 0 < delta then s.decreaseTokenQuota f.token task.tokenId delta
      else s.increaseTokenQuota f.token task.tokenId (-delta)).toOption.getD s

def recordTaskBillingLog (type : LogType) (quota : ℤ) : Store :=
  s.recordLog
    { userId := task.userId, type, promptTokens := 0, completionTokens := 0,
      modelName := task.modelName, quota, channelId := task.channelId, tokenId := task.tokenId,
      group := task.group }

/-- With what the funding source was charged (a negative amount). -/
def refundTaskQuota : Store × Option ℤ :=
  let quota := task.quota
  if quota = 0 then (s, none)
  else
    match taskAdjustFunding s f task (-quota) with
    | .error _ => (s, none)
    | .ok s =>
      let s := taskAdjustTokenQuota s f task (-quota)
      (recordTaskBillingLog s task .refund quota, some (-quota))

/-- The row and the copy of the task, and what the funding source was charged unless nothing was. -/
structure TaskSettled where
  billing : Store
  row : Task
  task : Task
  delta : Option ℤ := none

def recalculateTaskQuota (row task : Task) (actualQuota : ℤ) : TaskSettled :=
  let quotaDelta := actualQuota - task.quota
  if actualQuota ≤ 0 ∨ quotaDelta = 0 then ⟨s, row, task, none⟩
  else
    match taskAdjustFunding s f task quotaDelta with
    | .error _ => ⟨s, row, task, none⟩
    | .ok s =>
      let s := taskAdjustTokenQuota s f task quotaDelta
      let s :=
        if 0 < quotaDelta then
          recordTaskBillingLog ((s.updateUserUsedQuotaAndRequestCount f.userUsed task.userId
              quotaDelta).updateChannelUsedQuota f.channelUsed task.channelId quotaDelta)
            task .consume quotaDelta
        else recordTaskBillingLog s task .refund (-quotaDelta)
      ⟨s, row.updateQuota f.updateQuota actualQuota,
       { task with quota := actualQuota }, some quotaDelta⟩

/-- Invalid ratios count as one. -/
def otherRatioMultiplier (ratios : List (String × ℚ)) : ℚ :=
  ratios.foldl (fun multiplier r => if 0 < r.2 then multiplier * r.2 else multiplier) 1

variable (env : TaskEnv)

/-- Unless the model has no ratio or no group is known. The product is exact, where the source
multiplies values of type `float64`. -/
def quotaByTokens (task : Task) (totalTokens : ℤ) : Option ℤ :=
  match env.getModelRatio task.modelName with
  | none => none
  | some modelRatio =>
    let group := if task.group = "" then (env.getUserGroup task.userId).getD "" else task.group
    if modelRatio ≤ 0 ∨ group = "" then none
    else
      let groupRatio := (env.getGroupGroupRatio group group).getD (env.getGroupRatio group)
      let otherMultiplier :=
        match task.billingContext with
        | some bc => otherRatioMultiplier bc.otherRatios
        | none => 1
      some (quotaFromFloat (totalTokens * modelRatio * groupRatio * otherMultiplier))

def recalculateTaskQuotaByTokens (s : Store) (f : TaskFaults) (row task : Task)
    (totalTokens : ℤ) : TaskSettled :=
  if totalTokens ≤ 0 then ⟨s, row, task, none⟩
  else
    match quotaByTokens env task totalTokens with
    | none => ⟨s, row, task, none⟩
    | some actualQuota => recalculateTaskQuota s f row task actualQuota

def settleTaskBillingOnComplete (s : Store) (f : TaskFaults) (row task : Task)
    (taskResult : TaskInfo) : TaskSettled :=
  if (task.billingContext.map TaskBillingContext.perCallBilling).getD false then
    ⟨s, row, task, none⟩
  else if 0 < env.adjustBillingOnComplete task taskResult then
    recalculateTaskQuota s f row task (env.adjustBillingOnComplete task taskResult)
  else if 0 < taskResult.totalTokens then
    recalculateTaskQuotaByTokens env s f row task taskResult.totalTokens
  else ⟨s, row, task, none⟩

end TokensFlux
