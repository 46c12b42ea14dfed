import TokensFlux.Store.Equiv.Ledger

/-!
# Polling of Midjourney tasks

An item that reports a failure gives the stored quota back; all that keeps two pollers apart is
`UpdateWithStatus`.
-/

namespace TokensFlux

/-- Without its id, the key of its row. Status and progress are what the upstream calls them. -/
structure Midjourney where
  code : ℤ := 0
  userId : ℤ
  action : String
  mjId : String
  prompt : String := ""
  promptEn : String := ""
  description : String := ""
  state : String := ""
  submitTime : ℤ := 0
  startTime : ℤ := 0
  finishTime : ℤ := 0
  imageUrl : String := ""
  videoUrl : String := ""
  videoUrls : String := ""
  status : String := ""
  progress : String := "0%"
  failReason : String := ""
  channelId : ℤ
  quota : ℤ
  buttons : String := ""
  properties : String := ""
deriving DecidableEq, Repr

/-- The fields polling reads; the others are given by their JSON text. -/
structure MidjourneyDto where
  mjId : String
  promptEn : String := ""
  state : String := ""
  submitTime : ℤ := 0
  startTime : ℤ := 0
  finishTime : ℤ := 0
  imageUrl : String := ""
  videoUrl : String := ""
  videoUrls : Option String := none
  status : String := ""
  progress : String := ""
  failReason : String := ""
  buttons : Option String := none
  properties : Option String := none
deriving DecidableEq, Repr

namespace Midjourney

/-! ### Statements on the row of one task -/

/-- The whole row is written if its status still is `fromStatus`. Returns whether it was. -/
def updateWithStatus (row : Midjourney) (fault : Option Err) (t : Midjourney)
    (fromStatus : String) :
    Except Err (Midjourney × Bool) :=
  match fault with
  | some e => .error e
  | none => .ok (if row.status = fromStatus then (t, true) else (row, false))

def bulkFail (row : Midjourney) (fault : Option Err) (failReason : Option String) : Midjourney :=
  match fault with
  | some _ => row
  | none =>
    { row with
      status := "FAILURE", progress := "100%", failReason := failReason.getD row.failReason }

/-! ### One item -/

def checkMjTaskNeedUpdate (oldTask : Midjourney) (newTask : MidjourneyDto) : Bool :=
  oldTask.code ≠ 1 || oldTask.progress ≠ newTask.progress || oldTask.promptEn ≠ newTask.promptEn ||
    oldTask.state ≠ newTask.state || oldTask.submitTime ≠ newTask.submitTime ||
    oldTask.startTime ≠ newTask.startTime || oldTask.finishTime ≠ newTask.finishTime ||
    oldTask.imageUrl ≠ newTask.imageUrl || oldTask.status ≠ newTask.status ||
    oldTask.failReason ≠ newTask.failReason ||
    (oldTask.progress ≠ "100%" && newTask.failReason ≠ "") ||
    oldTask.videoUrl ≠ newTask.videoUrl || oldTask.videoUrls ≠ newTask.videoUrls.getD ""

variable (task : Midjourney)

variable (item : MidjourneyDto)

/-- Submitted more than an hour ago; the clock is in milliseconds. -/
def timeout (now : ℤ) : MidjourneyDto :=
  if 3600000 < now - task.submitTime ∧ task.progress ≠ "100%" then
    { item with failReason := "上游任务超时（超过1小时）", status := "FAILURE" }
  else item

def apply : Midjourney :=
  { task with
    code := 1
    progress := item.progress
    promptEn := item.promptEn
    state := item.state
    submitTime := item.submitTime
    startTime := item.startTime
    finishTime := item.finishTime
    imageUrl := item.imageUrl
    status := item.status
    failReason := item.failReason
    properties := item.properties.getD task.properties
    buttons := item.buttons.getD task.buttons
    videoUrl := item.videoUrl
    videoUrls := item.videoUrls.getD "" }

/-- A reason before the end, or the status of a failure at the end. -/
def hasFailed : Bool :=
  (task.progress ≠ "100%" && task.failReason ≠ "") ||
    (task.progress = "100%" && task.status = "FAILURE")

def applyItem : Midjourney × Bool :=
  let task := task.apply item
  if task.hasFailed then ({ task with progress := "100%" }, task.quota ≠ 0) else (task, false)

structure Polled where
  row : Midjourney
  task : Midjourney
  returns : Bool := false
deriving DecidableEq, Repr

/-- Up to the refund. -/
def poll (row task : Midjourney) (item : MidjourneyDto) (now : ℤ) (fault : Option Err) : Polled :=
  let item := task.timeout item now
  if !task.checkMjTaskNeedUpdate item then { row, task }
  else
    let (new, shouldReturnQuota) := task.applyItem item
    match row.updateWithStatus fault new task.status with
    | .error _ => { row, task := new }
    | .ok (row, won) => { row, task := new, returns := won && shouldReturnQuota }

end Midjourney

/-! ### All pollers -/

/-- The row of a task, the pollers' copies and whether they have had an item since they were loaded,
the calls of `IncreaseUserQuota`, and what they have added to the wallet. -/
structure MjSystem (W : Type) where
  billing : Store
  row : Midjourney
  copies : W → Option Midjourney
  polled : W → Bool := fun _ => false
  increases : ℕ := 0
  credited : ℤ := 0

inductive MjEvent (W : Type)
  | load (w : W)
  | item (w : W) (item : MidjourneyDto) (now : ℤ) (fault refundFault : Option Err)
  | failNull (w : W) (fault : Option Err)
  | failChannel (channelId : ℤ) (fault : Option Err)
  | other (billing : Store)

namespace MjSystem

def covertMjpActionToModelName (toLower : String → String) (mjAction : String) : String :=
  if mjAction = "SWAP_FACE" then "swap_face" else "mj_" ++ toLower mjAction

variable {W : Type} (toLower : String → String)

/-- The log entry is written in any case. -/
def refund (s : MjSystem W) (fault : Option Err) (task : Midjourney) : MjSystem W :=
  let billing :=
    match s.billing.increaseUserQuota fault task.userId task.quota false with
    | .ok billing => billing
    | .error _ => s.billing
  let credit := billing.ledger (.wallet task.userId) - s.billing.ledger (.wallet task.userId)
  { s with
    billing := billing.recordLog
      { userId := task.userId, type := .refund, promptTokens := 0, completionTokens := 0,
        modelName := covertMjpActionToModelName toLower task.action, quota := task.quota,
        channelId := task.channelId, tokenId := 0, group := "" }
    increases := s.increases + 1
    credited := s.credited + credit }

variable [DecidableEq W]

/-- The poller goes on with its copy as the item has left it, also where the row was not written. -/
def polledBy (s : MjSystem W) (w : W) (p : Midjourney.Polled) : MjSystem W :=
  { s with
    row := p.row
    copies := Function.update s.copies w (some p.task)
    polled := Function.update s.polled w true }

/-- A task without an id at the upstream gets no items. -/
def step (s : MjSystem W) : MjEvent W → MjSystem W
  | .load w =>
    if s.row.progress ≠ "100%" then
      { s with
        copies := Function.update s.copies w (some s.row)
        polled := Function.update s.polled w false }
    else s
  | .item w item now fault refundFault =>
    match s.copies w with
    | none => s
    | some task =>
      if task.mjId = "" ∨ task.mjId ≠ item.mjId then s
      else
        let p := s.row.poll task item now fault
        let s := s.polledBy w p
        if p.returns then s.refund toLower refundFault p.task else s
  | .failNull w fault =>
    match s.copies w with
    | none => s
    | some task => if task.mjId = "" then { s with row := s.row.bulkFail fault none } else s
  | .failChannel channelId fault =>
    let failReason := s!"获取渠道信息失败，请联系管理员，渠道ID：{channelId}"
    { s with row := s.row.bulkFail fault (some failReason) }
  | .other billing => { s with billing }

end MjSystem

end TokensFlux
