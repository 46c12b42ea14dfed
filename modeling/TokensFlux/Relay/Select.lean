import TokensFlux.Relay.Channel

/-!
# Selecting the channel of an attempt

A token of the group `auto` goes through the groups its user may use; each begins with the counter
at zero.
-/

namespace TokensFlux

/-- The channel and the error for a group, a model, a retry and a path, from the cache or the
database. -/
abbrev ChannelSource := String → String → ℕ → String → Option Channel × Option Err

/-! ### The auto groups of a user -/

/-- Go goes through the special groups of a user group in the order of the list. -/
structure GroupSettings where
  autoGroups : List String
  userUsableGroups : List String
  groupSpecialUsableGroup : String → List String

def applySpecialGroup (groups : List String) (specialGroup : String) : List String :=
  if hasPrefix specialGroup "-:" then groups.filter (· ≠ trimPrefix specialGroup "-:")
  else if hasPrefix specialGroup "+:" then trimPrefix specialGroup "+:" :: groups
  else specialGroup :: groups

def getUserUsableGroups (settings : GroupSettings) (userGroup : String) : List String :=
  if userGroup = "" then settings.userUsableGroups
  else
    let groups :=
      (settings.groupSpecialUsableGroup userGroup).foldl applySpecialGroup settings.userUsableGroups
    if userGroup ∈ groups then groups else userGroup :: groups

def getUserAutoGroup (settings : GroupSettings) (userGroup : String) : List String :=
  settings.autoGroups.filter fun group => group ∈ getUserUsableGroups settings userGroup

structure RelaySettings where
  retryTimes : ℕ
  groups : GroupSettings
  retryStatusCodes : List StatusCodeRange := automaticRetryStatusCodeRanges
  keepAffinityOnChannelDisabled : Bool := false

/-! ### The context -/

structure RelayContext where
  userGroup : String
  usingGroup : String
  tokenGroup : String
  tokenCrossGroupRetry : Bool := false
  specificChannelId : Option String := none
  tokenModelLimitEnabled : Bool := false
  tokenModelLimit : Option (List String) := none
  originalModel : String := ""
  autoGroup : Option String := none
  autoGroupIndex : Option ℕ := none
  channelId : ℤ := 0
  channelIsMultiKey : Bool := false
  channelMultiKeyIndex : ℕ := 0
  channelKey : String := ""
  channelAffinityMeta : Option Bool := none
  channelAffinitySkipRetry : Option Bool := none
  useChannel : List ℤ := []
deriving DecidableEq, Repr

def RelayContext.shouldSkipRetryAfterChannelAffinityFailure (ctx : RelayContext) : Bool :=
  match ctx.channelAffinitySkipRetry with
  | some skip => skip
  | none => ctx.channelAffinityMeta.getD false

structure RetryParam where
  tokenGroup : String
  modelName : String
  requestPath : String
  retry : ℕ := 0
  resetNextTry : Bool := false
deriving DecidableEq, Repr

/-- The counter stays where it is once after `ResetRetryNextTry`. -/
def RetryParam.increaseRetry (param : RetryParam) : RetryParam :=
  if param.resetNextTry then { param with resetNextTry := false }
  else { param with retry := param.retry + 1 }

/-! ### Selection -/

/-- With the context and counter it leaves. -/
structure Selection where
  ctx : RelayContext
  param : RetryParam
  channel : Option Channel
  selectGroup : String
  err : Option Err

def selectAuto (retryTimes : ℕ) (source : ℕ → ChannelSource) (startGroupIndex : ℕ) :
    ℕ → List String → RelayContext → RetryParam → Selection
  | _, [], ctx, param => ⟨ctx, param, none, param.tokenGroup, none⟩
  | i, autoGroup :: autoGroups, ctx, param =>
    let priorityRetry := if startGroupIndex < i then 0 else param.retry
    match (source i autoGroup param.modelName priorityRetry param.requestPath).1 with
    | none =>
      selectAuto retryTimes source startGroupIndex (i + 1) autoGroups
        { ctx with autoGroupIndex := some (i + 1) } { param with retry := 0 }
    | some channel =>
      -- The last retry of a group already points to the next one.
      if ctx.tokenCrossGroupRetry && decide (retryTimes ≤ priorityRetry) then
        ⟨{ ctx with autoGroup := some autoGroup, autoGroupIndex := some (i + 1) },
          { param with retry := 0, resetNextTry := true }, some channel, autoGroup, none⟩
      else
        ⟨{ ctx with autoGroup := some autoGroup, autoGroupIndex := some i }, param,
         some channel, autoGroup, none⟩

/-- `source i` answers for the auto group at index `i`. -/
def cacheGetRandomSatisfiedChannel (settings : RelaySettings) (source : ℕ → ChannelSource)
    (ctx : RelayContext) (param : RetryParam) : Selection :=
  if param.tokenGroup = "auto" then
    if settings.groups.autoGroups = [] then
      ⟨ctx, param, none, param.tokenGroup, some "auto groups is not enabled"⟩
    else
      let autoGroups := getUserAutoGroup settings.groups ctx.userGroup
      let startGroupIndex := ctx.autoGroupIndex.getD 0
      selectAuto settings.retryTimes source startGroupIndex startGroupIndex
        (autoGroups.drop startGroupIndex) ctx param
  else
    match source 0 param.tokenGroup param.modelName param.retry param.requestPath with
    | (_, some e) => ⟨ctx, param, none, param.tokenGroup, some e⟩
    | (channel, none) => ⟨ctx, param, channel, param.tokenGroup, none⟩

def setupContextForSelectedChannel (ctx : RelayContext) (channel : Option Channel)
    (modelName : String) (draw : KeyDraw) : RelayContext × Option RelayError :=
  let ctx := { ctx with originalModel := modelName }
  match channel with
  | none =>
    (ctx, some { message := "channel is nil", errorCode := "get_channel_failed",
                 skipRetry := true })
  | some channel =>
    let ctx := { ctx with channelId := channel.id }
    match channel.getNextEnabledKey draw with
    | .error e => (ctx, some e)
    | .ok (key, index) =>
      ({ ctx with
          channelIsMultiKey := channel.channelInfo.isMultiKey
          channelMultiKeyIndex :=
            if channel.channelInfo.isMultiKey then index else ctx.channelMultiKeyIndex
          channelKey := key }, none)

/-! ### The distributor -/

/-- The message is a key of the translations. -/
structure Abort where
  statusCode : ℕ
  message : String
  args : List (String × String) := []
  code : String := ""
deriving DecidableEq, Repr

/-- A playground request may name a group. -/
structure ModelRequest where
  model : String
  requestPath : String
  shouldSelectChannel : Bool := true
  playgroundGroup : String := ""
deriving DecidableEq, Repr

structure DistributeEnv where
  source : ℕ → ChannelSource
  getChannelById : ℤ → Option Channel := fun _ => none
  cacheGetChannel : ℤ → Option Channel := fun _ => none
  isChannelEnabledForGroupModel : String → String → ℤ → Bool := fun _ _ _ => false
  /-- Its `SkipRetryOnFailure` and the channel that is cached for it. -/
  affinity : Option (Bool × Option ℤ) := none
  clearAffinityFails : Bool := false
  draw : KeyDraw := {}

section Distribute

variable (settings : RelaySettings) (env : DistributeEnv) (request : ModelRequest)

def specificChannel (channelId : String) : Except Abort Channel :=
  match atoi channelId with
  | none => .error { statusCode := 400, message := "distributor.invalid_channel_id" }
  | some id =>
    match env.getChannelById id with
    | none => .error { statusCode := 400, message := "distributor.invalid_channel_id" }
    | some channel =>
      if channel.status = .enabled then .ok channel
      else .error { statusCode := 403, message := "distributor.channel_disabled" }

variable (ctx : RelayContext)

def checkModelLimit : Except Abort Unit :=
  if ctx.tokenModelLimitEnabled then
    match ctx.tokenModelLimit with
    | none => .error { statusCode := 403, message := "distributor.token_no_model_access" }
    | some limit =>
      if formatMatchingModelName request.model ∈ limit then .ok ()
      else .error
        { statusCode := 403, message := "distributor.token_model_forbidden",
          args := [("Model", request.model)] }
  else .ok ()

def playgroundContext : Except Abort RelayContext :=
  if hasPrefix request.requestPath "/pg/chat/completions" && request.playgroundGroup ≠ "" then
    if request.playgroundGroup ∈ getUserUsableGroups settings.groups ctx.usingGroup ∨
        request.playgroundGroup = ctx.usingGroup then
      .ok { ctx with usingGroup := request.playgroundGroup }
    else .error { statusCode := 403, message := "distributor.group_access_denied" }
  else .ok ctx

/-- For `auto`, with the first group in which it is enabled. -/
def usablePreferredChannel (channelID : ℤ) : Option (Channel × Option String) :=
  match env.cacheGetChannel channelID with
  | none => none
  | some preferred =>
    if preferred.status = .enabled && preferred.supportsRequestPath request.requestPath then
      let usable group := env.isChannelEnabledForGroupModel group request.model preferred.id
      if ctx.usingGroup = "auto" then
        ((getUserAutoGroup settings.groups ctx.userGroup).find? usable).map fun group =>
          (preferred, some group)
      else if usable ctx.usingGroup then some (preferred, none)
      else none
    else none

/-- It does not set the index of the auto group. -/
def preferredChannel : RelayContext × Option Channel :=
  match env.affinity with
  | none => (ctx, none)
  | some (skipRetry, none) => ({ ctx with channelAffinityMeta := some skipRetry }, none)
  | some (skipRetry, some channelID) =>
    let ctx := { ctx with channelAffinityMeta := some skipRetry }
    match usablePreferredChannel settings env request ctx channelID with
    | some (preferred, group) =>
      ({ ctx with
          autoGroup := group.orElse fun _ => ctx.autoGroup
          channelAffinitySkipRetry :=
            if preferred.id ≤ 0 then ctx.channelAffinitySkipRetry
              else some skipRetry }, some preferred)
    | none =>
      if settings.keepAffinityOnChannelDisabled || env.clearAffinityFails then (ctx, none)
      else ({ ctx with channelAffinitySkipRetry := some false }, none)

/-- By affinity, or else at random. -/
def distributeSelect : Except Abort (RelayContext × Channel) :=
  match preferredChannel settings env request ctx with
  | (ctx, some channel) => .ok (ctx, channel)
  | (ctx, none) =>
    let selection := cacheGetRandomSatisfiedChannel settings env.source ctx
      { tokenGroup := ctx.usingGroup, modelName := request.model,
        requestPath := request.requestPath }
    match selection.err, selection.channel with
    | some e, _ =>
      .error
        { statusCode := 503, message := "distributor.get_channel_failed", code := "model_not_found",
          args := [("Group", if ctx.usingGroup = "auto" then "auto(" ++ selection.selectGroup ++ ")"
            else ctx.usingGroup), ("Model", request.model), ("Error", e)] }
    | none, none =>
      .error
        { statusCode := 503, message := "distributor.no_available_channel",
          code := "model_not_found", args := [("Group", ctx.usingGroup), ("Model", request.model)] }
    | none, some channel => .ok (selection.ctx, channel)

def distributeChannel : Except Abort (RelayContext × Option Channel) :=
  match ctx.specificChannelId with
  | some channelId => (specificChannel env channelId).map fun channel => (ctx, some channel)
  | none =>
    match checkModelLimit request ctx with
    | .error e => .error e
    | .ok () =>
      if request.shouldSelectChannel = false then .ok (ctx, none)
      else if request.model = "" then
        .error { statusCode := 400, message := "distributor.model_name_required" }
      else
        match playgroundContext settings request ctx with
        | .error e => .error e
        | .ok ctx =>
          (distributeSelect settings env request ctx).map fun (ctx, channel) => (ctx, some channel)

/-- The error of `SetupContextForSelectedChannel` is dropped. -/
def distribute : Except Abort RelayContext :=
  (distributeChannel settings env request ctx).map fun (ctx, channel) =>
    (setupContextForSelectedChannel ctx channel request.model env.draw).1

end Distribute

end TokensFlux
