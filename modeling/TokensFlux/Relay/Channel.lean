import Mathlib.Data.List.Sort
import Mathlib.Data.List.Dedup
import TokensFlux.Common.Str
import TokensFlux.Store.Basic

/-!
# The channel cache

A request draws a channel at random, by weight, among those of one priority; every retry moves on to
the next lower priority.  `ChannelCache` carries the consistency of its tables.
-/

namespace TokensFlux

/-! ### Errors of a relay attempt -/

/-- Upstream error codes are arbitrary texts; the texts of `Err` and of `RelayError` are one here.
-/
structure RelayError where
  message : String
  errorCode : String
  statusCode : ℤ := 500
  skipRetry : Bool := false
deriving DecidableEq, Repr

namespace RelayError

variable (e : RelayError)

def isChannelError : Bool :=
  hasPrefix e.errorCode "channel:"

def hasCSAMViolationMarker : Bool :=
  containsText e.message "Failed check: SAFETY_CHECK_TYPE" ||
    containsText e.message "Content violates usage guidelines"

/-- A violation is charged and never retried. -/
def normalizeViolationFeeError : RelayError :=
  if e.hasCSAMViolationMarker
    then { e with errorCode := "violation_fee.grok.csam", skipRetry := true }
  else if hasPrefix e.errorCode "violation_fee." then { e with skipRetry := true }
  else e

end RelayError

structure StatusCodeRange where
  first : ℤ
  last : ℤ
deriving DecidableEq, Repr

def automaticRetryStatusCodeRanges : List StatusCodeRange :=
  [⟨100, 199⟩, ⟨300, 399⟩, ⟨401, 407⟩, ⟨409, 499⟩, ⟨500, 503⟩, ⟨505, 523⟩, ⟨525, 599⟩]

/-- Over ranges in increasing order. -/
def matchStatusCodeRanges (code : ℤ) : List StatusCodeRange → Bool
  | [] => false
  | r :: ranges =>
    if code < r.first then false
    else if code ≤ r.last then true
    else matchStatusCodeRanges code ranges

variable (ranges : List StatusCodeRange)

def shouldMatchStatusCodeRanges (code : ℤ) : Bool :=
  if code < 100 ∨ 599 < code then false else matchStatusCodeRanges code ranges

/-- A gateway timeout is not retried whatever the setting says. -/
def shouldRetryByStatusCode (code : ℤ) : Bool :=
  if code = 504 ∨ code = 524 then false else shouldMatchStatusCodeRanges ranges code

/-! ### Channels -/

inductive ChannelStatus
  | unknown
  | enabled
  | manuallyDisabled
  | autoDisabled
deriving DecidableEq, Repr

inductive MultiKeyMode
  | random
  | polling
  | other
deriving DecidableEq, Repr

/-- The polling index is a cell of the cache that every request moves; see `KeyDraw`. -/
structure ChannelInfo where
  isMultiKey : Bool := false
  multiKeyStatusList : List (ℕ × ChannelStatus) := []
  multiKeyMode : MultiKeyMode := .random
deriving DecidableEq, Repr

structure AdvancedCustomConfig where
  incomingPaths : List String
deriving DecidableEq, Repr

structure Channel where
  id : ℤ
  type : ℕ := 1
  status : ChannelStatus := .enabled
  key : String := ""
  keys : List String := []
  group : String := "default"
  models : String := ""
  weight : Option ℕ := none
  priority : Option ℤ := none
  channelInfo : ChannelInfo := {}
  advancedCustom : Option AdvancedCustomConfig := none
deriving DecidableEq, Repr

/-- A random number, and the polling index in the cache, or the error of a channel that is no longer
there. -/
structure KeyDraw where
  random : ℕ := 0
  pollingIndex : Except Err ℤ := .ok 0

namespace Channel

variable (c : Channel)

def getPriority : ℤ := c.priority.getD 0

def getWeight : ℕ := c.weight.getD 0

def getKeys : List String :=
  if c.key = "" then [] else c.keys

def keyStatus (idx : ℕ) : ChannelStatus :=
  (c.channelInfo.multiKeyStatusList.lookup idx).getD .enabled

def enabledIdx : List ℕ :=
  (List.range c.getKeys.length).filter fun idx => c.keyStatus idx = .enabled

def hasEnabledKey : Bool :=
  !c.channelInfo.isMultiKey || c.enabledIdx ≠ []

def noAvailableKey (message : String) : RelayError :=
  { message, errorCode := "channel:no_available_key" }

def getNextEnabledKey (draw : KeyDraw) : Except RelayError (String × ℕ) :=
  if c.channelInfo.isMultiKey = false then .ok (c.key, 0)
  else
    let keys := c.getKeys
    let key idx := (keys.getD idx "", idx)
    match c.enabledIdx with
    | [] => .error (noAvailableKey (if keys = [] then "no keys available" else "no enabled keys"))
    | first :: rest =>
      let enabledIdx := first :: rest
      match c.channelInfo.multiKeyMode with
      | .random => .ok (key (enabledIdx.getD (draw.random % enabledIdx.length) first))
      | .polling =>
        match draw.pollingIndex with
        | .error e => .error { message := e, errorCode := "get_channel_failed", skipRetry := true }
        | .ok index =>
          let start := if index < 0 ∨ (keys.length : ℤ) ≤ index then 0 else index.toNat
          let next := ((List.range keys.length).map fun i => (start + i) % keys.length).find?
            fun idx => c.keyStatus idx = .enabled
          .ok (key (next.getD first))
      | .other => .ok (key first)

end Channel

/-! ### Paths -/

def trimSuffix (s p : String) : String :=
  if hasSuffix s p then String.ofList (s.toList.take (s.toList.length - p.toList.length)) else s

def replaceFirst (s old new : String) : String :=
  match splitText s old with
  | first :: second :: rest => first ++ new ++ String.intercalate old (second :: rest)
  | _ => s

variable (configuredPath requestPath : String)

def matchAdvancedCustomIncomingPathTemplate : Bool :=
  if !containsText configuredPath "\x7bmodel\x7d" then configuredPath = requestPath
  else
    match splitText configuredPath "\x7bmodel\x7d" with
    | [before, after] =>
      if !hasPrefix requestPath before || !hasSuffix requestPath after then false
      else
        let model := trimSuffix (trimPrefix requestPath before) after
        model ≠ "" && !containsText model "/"
    | _ => false

/-- A route for `generateContent` also serves the stream. -/
def matchAdvancedCustomIncomingPath : Bool :=
  if matchAdvancedCustomIncomingPathTemplate configuredPath requestPath then true
  else if containsText configuredPath ":generateContent" then
    matchAdvancedCustomIncomingPathTemplate
      (replaceFirst configuredPath ":generateContent" ":streamGenerateContent") requestPath
  else false

example : matchAdvancedCustomIncomingPath "/v1beta/models/\x7bmodel\x7d:generateContent"
    "/v1beta/models/gemini-2.0-flash:streamGenerateContent" = true := by decide +kernel

def AdvancedCustomConfig.supportsPath (config : AdvancedCustomConfig)
    (requestPath : String) : Bool :=
  config.incomingPaths.any fun path => matchAdvancedCustomIncomingPath (trimSpace path) requestPath

def channelTypeAdvancedCustom : ℕ := 58

def Channel.supportsRequestPath (c : Channel) (requestPath : String) : Bool :=
  c.type ≠ channelTypeAdvancedCustom || c.advancedCustom.any fun config =>
    config.supportsPath requestPath

/-! ### Model names -/

def handleThinkingBudgetModel (name prefixOf wildcard : String) : String :=
  if hasPrefix name prefixOf && containsText name "-thinking-" then wildcard else name

def formatMatchingModelName (name : String) : String :=
  let name :=
    if hasPrefix name "gemini-2.5-flash-lite" then
      handleThinkingBudgetModel name "gemini-2.5-flash-lite" "gemini-2.5-flash-lite-thinking-*"
    else if hasPrefix name "gemini-2.5-flash" then
      handleThinkingBudgetModel name "gemini-2.5-flash" "gemini-2.5-flash-thinking-*"
    else if hasPrefix name "gemini-2.5-pro" then
      handleThinkingBudgetModel name "gemini-2.5-pro" "gemini-2.5-pro-thinking-*"
    else name
  let name := if hasPrefix name "gpt-4-gizmo" then "gpt-4-gizmo-*" else name
  if hasPrefix name "gpt-4o-gizmo" then "gpt-4o-gizmo-*" else name

/-! ### Choosing by weight -/

def weightedChannel (smoothingFactor smoothingAdjustment : ℕ) : ℕ → List Channel → Option Channel
  | _, [] => none
  | randomWeight, c :: channels =>
    let weight := c.getWeight * smoothingFactor + smoothingAdjustment
    if randomWeight < weight then some c
    else weightedChannel smoothingFactor smoothingAdjustment (randomWeight - weight) channels

def smoothing (sumWeight count : ℕ) : ℕ × ℕ :=
  if sumWeight = 0 then (1, 100) else if sumWeight / count < 10 then (100, 0) else (1, 0)

/-- `random` stands for the source of `rand.Intn`. -/
def randomChannel (channels : List Channel) (random : ℕ) : Option Channel :=
  let sumWeight := channels.foldl (fun sum c => sum + c.getWeight) 0
  let (smoothingFactor, smoothingAdjustment) := smoothing sumWeight channels.length
  let sumWeight := if sumWeight = 0 then channels.length * 100 else sumWeight
  weightedChannel smoothingFactor smoothingAdjustment
    (random % (sumWeight * smoothingFactor)) channels

/-! ### The cache -/

/-- Every channel a group lists is in the table of channels. -/
structure ChannelCache where
  group2model2channels : String → String → List ℤ
  channelsIDM : ℤ → Option Channel
  channel2advancedCustomConfig : ℤ → Option AdvancedCustomConfig
  isSome_channelsIDM : ∀ group model, ∀ id ∈ group2model2channels group model,
    (channelsIDM id).isSome

namespace ChannelCache

variable (channels : List Channel)

/-- One for every time an enabled channel names the two. -/
def listedIds (group model : String) : List ℤ :=
  (channels.filter fun c => c.status = .enabled).flatMap fun c =>
    ((splitText c.group ",").filter (· = group)).flatMap fun _ =>
      ((splitText c.models ",").filter (· = model)).map fun _ => c.id

def byId (id : ℤ) : Option Channel :=
  channels.find? fun c => c.id = id

def priorityOf (id : ℤ) : ℤ :=
  ((byId channels id).map Channel.getPriority).getD 0

def priorityGE (a b : ℤ) : Prop :=
  priorityOf channels b ≤ priorityOf channels a

instance (channels : List Channel) : DecidableRel (priorityGE channels) :=
  fun a b => inferInstanceAs (Decidable (priorityOf channels b ≤ priorityOf channels a))

theorem isSome_byId_of_mem_listedIds {channels : List Channel} {group model : String} {id : ℤ}
    (h : id ∈ listedIds channels group model) : (byId channels id).isSome := by
  unfold listedIds at h
  simp only [List.mem_flatMap, List.mem_filter, List.mem_map] at h
  obtain ⟨c, ⟨hc, -⟩, -, -, -, -, rfl⟩ := h
  rw [byId, List.find?_isSome]
  exact ⟨c, hc, by simp⟩

/-- For channels whose groups all have abilities. -/
def initChannelCache : ChannelCache where
  group2model2channels group model :=
    (listedIds channels group model).insertionSort (priorityGE channels)
  channelsIDM := byId channels
  channel2advancedCustomConfig id :=
    (byId channels id).bind fun c => if c.type = channelTypeAdvancedCustom
      then c.advancedCustom else none
  isSome_channelsIDM _ _ _ h := isSome_byId_of_mem_listedIds ((List.mem_insertionSort _).mp h)

variable (cache : ChannelCache)

def listedAfter (id : ℤ) (status : ChannelStatus) (group model : String) : List ℤ :=
  if status = .enabled then cache.group2model2channels group model
  else (cache.group2model2channels group model).erase id

def channelsAfter (id : ℤ) (status : ChannelStatus) (i : ℤ) : Option Channel :=
  if i = id then (cache.channelsIDM i).map fun c => { c with status } else cache.channelsIDM i

theorem isSome_channelsAfter {id i : ℤ} {status : ChannelStatus} {group model : String}
    (h : i ∈ cache.listedAfter id status group model) :
    (cache.channelsAfter id status i).isSome := by
  have hmem : i ∈ cache.group2model2channels group model := by
    unfold listedAfter at h
    split_ifs at h
    · exact h
    · exact List.mem_of_mem_erase h
  have hsome := cache.isSome_channelsIDM group model i hmem
  unfold channelsAfter
  split_ifs
  · rw [Option.isSome_map]
    exact hsome
  · exact hsome

def cacheUpdateChannelStatus (id : ℤ) (status : ChannelStatus) : ChannelCache where
  group2model2channels := cache.listedAfter id status
  channelsIDM := cache.channelsAfter id status
  channel2advancedCustomConfig := cache.channel2advancedCustomConfig
  isSome_channelsIDM _ _ _ h := cache.isSome_channelsAfter h

def filterChannelsByRequestPath (channels : List ℤ) (requestPath : String) : List ℤ :=
  if requestPath = "" then channels
  else channels.filter fun id =>
    match cache.channelsIDM id with
    -- Kept, so that the inconsistency is reported below.
    | none => true
    | some c =>
      c.type ≠ channelTypeAdvancedCustom ||
        (cache.channel2advancedCustomConfig id).any fun config => config.supportsPath requestPath

/-- Those of its model, or else those of the normalized name. -/
def satisfiedChannels (group model requestPath : String) : List ℤ :=
  let channels := cache.filterChannelsByRequestPath
    (cache.group2model2channels group model) requestPath
  if channels = [] then
    cache.filterChannelsByRequestPath (cache.group2model2channels group
      (formatMatchingModelName model))
      requestPath
  else channels

def consistencyError (id : ℤ) : Err :=
  "数据库一致性错误，渠道# " ++ toString id ++ " 不存在，请联系管理员修复"

def lookupAll : List ℤ → Except Err (List Channel)
  | [] => .ok []
  | id :: ids =>
    match cache.channelsIDM id, lookupAll ids with
    | none, _ => .error (consistencyError id)
    | some _, .error e => .error e
    | some c, .ok channels => .ok (c :: channels)

def sortedUniquePriorities : List ℤ :=
  ((channels.map Channel.getPriority).dedup).insertionSort (· ≥ ·)

/-- The lowest serves all later retries. -/
def targetPriority (retry : ℕ) : ℤ :=
  let priorities := sortedUniquePriorities channels
  priorities.getD (min retry (priorities.length - 1)) 0

def getRandomSatisfiedChannel (random : ℕ) (group model : String) (retry : ℕ)
    (requestPath : String) :
    Option Channel × Option Err :=
  match cache.satisfiedChannels group model requestPath with
  | [] => (none, none)
  | [id] =>
    match cache.channelsIDM id with
    | some c => (some c, none)
    | none => (none, some (consistencyError id))
  | ids =>
    match cache.lookupAll ids with
    | .error e => (none, some e)
    | .ok channels =>
      let priority := targetPriority channels retry
      let targetChannels := channels.filter fun c => c.getPriority = priority
      if targetChannels = [] then
        (none, some ("no channel found, group: " ++ group ++ ", model: " ++
          model ++ ", priority: " ++ toString priority))
      else
        match randomChannel targetChannels random with
        | some c => (some c, none)
        | none => (none, some "channel not found")

def isChannelEnabledForGroupModel (group modelName : String) (channelID : ℤ) : Bool :=
  let normalized := formatMatchingModelName modelName
  if group = "" ∨ modelName = "" ∨ channelID ≤ 0 then false
  else if channelID ∈ cache.group2model2channels group modelName then true
  else normalized ≠ "" && normalized ≠ modelName &&
    decide (channelID ∈ cache.group2model2channels group normalized)

end ChannelCache

end TokensFlux
