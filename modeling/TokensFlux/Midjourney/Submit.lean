import TokensFlux.Billing.Session
import TokensFlux.Midjourney.Basic
import TokensFlux.Quota.PerCall

/-!
# Submitting a Midjourney task

A task is stored with the price as its quota, and whether it is charged is decided when the handler
returns.
-/

namespace TokensFlux

inductive MjRelayMode
  | imagine
  | describe
  | blend
  | change
  | simpleChange
  | action
  | modal
  | shorten
  | swapFace
  | upload
  | video
  | edits
  | unknown
deriving DecidableEq, Repr

/-- The fields the handlers read. -/
structure MidjourneyRequest where
  prompt : String := ""
  customId : String := ""
  action : String := ""
  index : ℤ := 0
  taskId : String := ""
  content : String := ""
  sourceBase64 : String := ""
  targetBase64 : String := ""
deriving DecidableEq, Repr

/-- Only an image address and a status are read of the properties, and only if both are texts. -/
structure MidjourneyResponse where
  code : ℤ
  description : String := ""
  result : String := ""
  properties : Option (String × String) := none
deriving DecidableEq, Repr

/-- With an answer for the client, or by a panic that the server recovers from. -/
inductive MjError
  | response (r : MidjourneyResponse)
  | panic
deriving DecidableEq, Repr

def mjRequestError (description : String) : MjError :=
  .response { code := 4, description }

def elementAt (xs : List String) (i : ℕ) : Except MjError String :=
  match xs[i]? with
  | some x => .ok x
  | none => .error .panic

def customIndex (splits : List String) : Except MjError ℤ := do
  match atoi (← elementAt splits 3) with
  | some index => .ok index
  | none => .error (mjRequestError "index_parse_failed")

def coverPlusActionToNormalAction (r : MidjourneyRequest) : Except MjError MidjourneyRequest := do
  if r.customId = "" then throw (mjRequestError "custom_id_is_required")
  let splits := splitText r.customId "::"
  let second ← elementAt splits 1
  let action ← if second = "JOB" then elementAt splits 2 else pure second
  if action = "" then throw (mjRequestError "unknown_action")
  if containsText action "upsample" then
    return { r with index := ← customIndex splits, action := "UPSCALE" }
  else if containsText action "variation" then
    if action = "variation" then
      return { r with index := ← customIndex splits, action := "VARIATION" }
    else if action = "low_variation" then return { r with index := 1, action := "LOW_VARIATION" }
    else if action = "high_variation" then return { r with index := 1, action := "HIGH_VARIATION" }
    -- Any other variation keeps the action of the request.
    else return { r with index := 1 }
  else if containsText action "pan" then return { r with index := 1, action := "PAN" }
  else if containsText action "reroll" then return { r with index := 1, action := "REROLL" }
  else if action = "Outpaint" then return { r with index := 1, action := "ZOOM" }
  else if action = "CustomZoom" then return { r with index := 1, action := "CUSTOM_ZOOM" }
  else if action = "Inpaint" then return { r with index := 1, action := "INPAINT" }
  else throw (mjRequestError ("unknown_action:" ++ r.customId))

/-- `none` if the text is not understood. -/
def convertSimpleChangeParams (toLower : String → String) (content : String) :
    Except MjError (Option (String × String)) :=
  match splitText content " " with
  | [taskId, action] =>
    match (toLower action).toList with
    | [] => .error .panic
    | first :: rest =>
      let change := if first = 'u' then some "UPSCALE" else if first = 'v'
        then some "VARIATION" else none
      match change with
      | none => .ok (if first = 'r' ∧ rest = [] then some (taskId, "REROLL") else none)
      | some change =>
        match rest with
        | [] => .error .panic
        | index :: _ =>
          .ok (if index = '1' ∨ index = '2' ∨ index = '3' ∨ index = '4' then some (taskId, change)
            else none)
  | _ => .ok none

structure MjChannel where
  enabled : Bool
  autoBan : Bool
deriving DecidableEq, Repr

structure MjStore where
  billing : Store
  tasks : List Midjourney
  channels : ℤ → Option MjChannel

def MjStore.getByMJId (s : MjStore) (userId : ℤ) (mjId : String) : Option Midjourney :=
  s.tasks.find? fun t => t.userId = userId ∧ t.mjId = mjId

/-- `toLower` is `strings.ToLower`. -/
structure MjSettings where
  mjActionCheckSuccessEnabled : Bool
  automaticDisableChannelEnabled : Bool
  toLower : String → String

/-- The request is `none` if its body cannot be read. Clocks are in milliseconds. -/
structure MjSubmit where
  mode : MjRelayMode
  request : Option MidjourneyRequest
  autoGroup : Option String := none
  quotaCache : Option ℤ := none
  quotaFault : Option Err := none
  reply : Except MidjourneyResponse (ℤ × MidjourneyResponse)
  consume : SettleFaults := {}
  insertFault : Option Err := none
  startTime : ℤ := 0
  now : ℤ := 0

section Request

variable (settings : MjSettings)

def changedTask (mode : MjRelayMode) (r : MidjourneyRequest) :
    Except MjError (String × MidjourneyRequest) :=
  match mode with
  | .change =>
    if r.action = "" then .error (mjRequestError "action_is_required")
    else if r.index = 0 then .error (mjRequestError "index_is_required")
    else .ok (r.taskId, r)
  | .simpleChange =>
    if r.content = "" then .error (mjRequestError "content_is_required")
    else
      match convertSimpleChangeParams settings.toLower r.content with
      | .error e => .error e
      | .ok none => .error (mjRequestError "content_parse_failed")
      | .ok (some (taskId, action)) => .ok (taskId, { r with action })
  | .modal => .ok (r.taskId, { r with action := "MODAL" })
  | .video => .ok (r.taskId, { r with action := "VIDEO" })
  | _ => .ok ("", r)

/-- The task must exist and be complete, and its channel is used again. -/
def changeOrigin (s : MjStore) (userId : ℤ) (mode : MjRelayMode) (r : MidjourneyRequest) :
    Except MjError (MidjourneyRequest × ℤ) := do
  let (mjId, r) ← changedTask settings mode r
  match s.getByMJId userId mjId with
  | none => throw (mjRequestError "task_not_found")
  | some originTask =>
    if settings.mjActionCheckSuccessEnabled && originTask.status ≠ "SUCCESS" && mode ≠ .modal then
      throw (mjRequestError "task_status_not_success")
    match s.channels originTask.channelId with
    | none => throw (mjRequestError "get_channel_info_failed")
    | some channel =>
      if !channel.enabled then throw (mjRequestError "该任务所属渠道已被禁用")
      return ({ r with prompt := originTask.prompt }, originTask.channelId)

/-- The first part of `RelayMidjourneySubmit`. -/
def prepareMjRequest (s : MjStore) (info : RelayInfo) (sub : MjSubmit) :
    Except MjError (MidjourneyRequest × ℤ) := do
  let some r := sub.request | throw (mjRequestError "bind_request_body_failed")
  let (mode, r) ←
    if sub.mode = .action then pure (.change, ← coverPlusActionToNormalAction r)
    else pure (sub.mode, r)
  let r := if mode = .video then { r with action := "VIDEO" } else r
  match mode with
  | .imagine =>
    if r.prompt = "" then throw (mjRequestError "prompt_is_required")
    return ({ r with action := "IMAGINE" }, info.channelId)
  | .describe => return ({ r with action := "DESCRIBE" }, info.channelId)
  | .edits => return ({ r with action := "EDITS" }, info.channelId)
  | .shorten => return ({ r with action := "SHORTEN" }, info.channelId)
  | .blend => return ({ r with action := "BLEND" }, info.channelId)
  | .upload => return ({ r with action := "UPLOAD" }, info.channelId)
  | mode =>
    if r.taskId ≠ "" then changeOrigin settings s info.userId mode r
    else return (r, info.channelId)

end Request

/-- A request that is to be charged needs the balance. -/
def priceMjTask (env : BillingEnv) (prices : PriceSettings) (s : MjStore) (info : RelayInfo)
    (sub : MjSubmit) (consumeQuota : Bool) : Except MjError (RelayInfo × ℤ) :=
  match modelPriceHelperPerCall env prices info sub.autoGroup with
  | (_, .error e) => .error (.response { code := 4, description := e })
  | (info, .ok priceData) =>
    match s.billing.getUserQuota sub.quotaCache sub.quotaFault info.userId with
    | .error e => .error (.response { code := 4, description := e })
    | .ok userQuota =>
      if consumeQuota && userQuota - priceData.quota < 0 then
        .error (.response { code := 4, description := "quota_not_enough" })
      else .ok (info, priceData.quota)

/-- `PostConsumeQuota`, whose error is only logged, the log entry and the counters. -/
def consumeMjQuota (settings : MjSettings) (s : MjStore) (info : RelayInfo) (f : SettleFaults)
    (action : String) (quota : ℤ) : MjStore :=
  let (billing, info, _err) := postConsumeQuota info s.billing f quota
  let billing := billing.recordLog
    { userId := info.userId, type := .consume, promptTokens := 0, completionTokens := 0,
      modelName := MjSystem.covertMjpActionToModelName settings.toLower action, quota,
      channelId := info.channelId, tokenId := info.tokenId, group := info.usingGroup }
  { s with
    billing := (billing.updateUserUsedQuotaAndRequestCount none info.userId
      quota).updateChannelUsedQuota
      none info.channelId quota }

def MjStore.insert (s : MjStore) (fault : Option Err) (task : Midjourney) :
    MjStore × Except MjError Midjourney :=
  match fault with
  | some _ => (s, .error (mjRequestError "insert_midjourney_task_failed"))
  | none => ({ s with tasks := s.tasks ++ [task] }, .ok task)

def isFreeMjAction (action : String) : Bool :=
  action = "INPAINT" || action = "CUSTOM_ZOOM"

def isAcceptedMjCode (code : ℤ) : Bool :=
  code = 1 || code = 21 || code = 22

def mjTask (info : RelayInfo) (r : MidjourneyRequest) (channelId quota now : ℤ)
    (response : MidjourneyResponse) : Midjourney :=
  let task : Midjourney :=
    { userId := info.userId, code := response.code, action := r.action, mjId := response.result,
      prompt := r.prompt, description := response.description, submitTime := now, channelId, quota,
      failReason := if isAcceptedMjCode response.code then "" else response.description }
  let (task, code) :=
    match response.code, response.properties with
    | 21, some (imageUrl, status) =>
      if status = "SUCCESS" then
        ({ task with imageUrl, status, progress := "100%", startTime := now, finishTime := now }, 1)
      else ({ task with imageUrl, status }, response.code)
    | _, _ => (task, response.code)
  if code = 1 ∧ r.action = "UPLOAD" then { task with progress := "100%", status := "SUCCESS" }
    else task

/-- A channel that cannot be read makes the handler panic. -/
def disableMjChannel (settings : MjSettings) (s : MjStore) (channelId code : ℤ) : Option MjStore :=
  if code = 3 then
    match s.channels channelId with
    | none => none
    | some channel =>
      if channel.autoBan && settings.automaticDisableChannelEnabled then
        some { s with
          channels := Function.update s.channels channelId
            (some { channel with enabled := false }) }
      else some s
  else some s

section Submit

variable (env : BillingEnv) (prices : PriceSettings) (settings : MjSettings)

def relayMidjourneySubmit (s : MjStore) (info : RelayInfo) (sub : MjSubmit) :
    MjStore × Except MjError Midjourney :=
  match prepareMjRequest settings s info sub with
  | .error e => (s, .error e)
  | .ok (r, channelId) =>
    let consumeQuota := !isFreeMjAction r.action
    match priceMjTask env prices s info sub consumeQuota with
    | .error e => (s, .error e)
    | .ok (info, quota) =>
      match sub.reply with
      | .error response => (s, .error (.response response))
      | .ok (statusCode, response) =>
        let deferred (s : MjStore) (consumeQuota : Bool) : MjStore :=
          if consumeQuota && statusCode = 200 then
            consumeMjQuota settings s info sub.consume r.action quota
          else s
        match disableMjChannel settings s channelId response.code with
        -- The flag has not been cleared yet when the handler panics.
        | none => (deferred s consumeQuota, .error .panic)
        | some s =>
          let consumeQuota := consumeQuota && isAcceptedMjCode response.code
          let (s, stored) := s.insert sub.insertFault
            (mjTask info r channelId quota sub.now response)
          (deferred s consumeQuota, stored)

def relaySwapFace (s : MjStore) (info : RelayInfo) (sub : MjSubmit) :
    MjStore × Except MjError Midjourney :=
  match sub.request with
  | none => (s, .error (mjRequestError "bind_request_body_failed"))
  | some r =>
    if r.sourceBase64 = "" ∨ r.targetBase64 = "" then
      (s, .error (mjRequestError "sour_base64_and_target_base64_is_required"))
    else
      match priceMjTask env prices s info sub true with
      | .error e => (s, .error e)
      | .ok (info, quota) =>
        match sub.reply with
        | .error response => (s, .error (.response response))
        | .ok (statusCode, response) =>
          let (s, stored) := s.insert sub.insertFault
            { userId := info.userId, code := response.code, action := "SWAP_FACE",
              mjId := response.result, prompt := "InsightFace", description := response.description,
              submitTime := sub.startTime, startTime := sub.now,
              channelId := info.channelId, quota }
          let consumeQuota := statusCode = 200 && response.code = 1
          (if consumeQuota then consumeMjQuota settings s info sub.consume "SWAP_FACE" quota else s,
            stored)

def relayMidjourney (s : MjStore) (info : RelayInfo) (sub : MjSubmit) :
    MjStore × Except MjError Midjourney :=
  if sub.mode = .swapFace then relaySwapFace env prices settings s info sub
  else relayMidjourneySubmit env prices settings s info sub

end Submit

end TokensFlux
