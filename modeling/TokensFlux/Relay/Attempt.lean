import TokensFlux.Channel.Row

/-!
# What an attempt is sent with

All attempts of a request share one context and one `RelayInfo`.  `S`, `O` and `M` are the parsed
settings, the parsed other settings and the parsed overrides of a channel.
-/

namespace TokensFlux

/-! ### Types of channels -/

/-- Those that `SetupContextForSelectedChannel` knows. -/
def channelTypeAzure : ℕ := 3
def channelTypeAli : ℕ := 17
def channelTypeXunfei : ℕ := 18
def channelTypeGemini : ℕ := 24
def channelCloudflare : ℕ := 39
def channelTypeVertexAi : ℕ := 41
def channelTypeMokaAI : ℕ := 44
def channelTypeCoze : ℕ := 49

def compactModelSuffix : String := "-openai-compact"

def withCompactModelSuffix (modelName : String) : String :=
  if hasSuffix modelName compactModelSuffix then modelName else modelName ++ compactModelSuffix

/-- Parsers, tables of the program, and the request. -/
structure MetaEnv (S O M : Type) where
  json : ChannelJson
  getSetting : Option String → S
  getOtherSettings : String → O
  getOverride : Option String → M
  applyAffinityTemplate : M → M
  parseModelMapping : String → Option (List (String × String))
  channelBaseURLs : ℕ → String
  channelType2APIType : ℕ → ℕ
  streamSupportedChannels : ℕ → Bool
  queryApiVersion : String
  isResponsesCompact : Bool

/-- Keys that were not set are empty. -/
structure ChannelContext (S O M : Type) where
  originalModel : String := ""
  channelId : ℤ := 0
  channelName : String := ""
  channelType : ℕ := 0
  channelCreateTime : ℤ := 0
  channelSetting : Option S := none
  channelOtherSetting : Option O := none
  paramOverride : Option M := none
  headerOverride : Option M := none
  channelOrganization : String := ""
  autoBan : Bool := false
  modelMapping : String := ""
  statusCodeMapping : String := ""
  channelIsMultiKey : Bool := false
  channelMultiKeyIndex : ℕ := 0
  channelKey : String := ""
  baseUrl : String := ""
  systemPromptOverride : Bool := false
  apiVersion : String := ""
  region : String := ""
  plugin : String := ""
  botId : String := ""
deriving DecidableEq, Repr

structure ChannelMeta (S O M : Type) where
  channelType : ℕ
  channelId : ℤ
  channelIsMultiKey : Bool
  channelMultiKeyIndex : ℕ
  channelBaseUrl : String
  apiType : ℕ
  apiVersion : String
  apiKey : String
  organization : String
  channelCreateTime : ℤ
  paramOverride : Option M
  headersOverride : Option M
  channelSetting : Option S
  channelOtherSettings : Option O
  upstreamModelName : String
  isModelMapped : Bool
  supportStreamOptions : Bool
deriving DecidableEq, Repr

def ChannelRow.getBaseURL (c : ChannelRow) (channelBaseURLs : ℕ → String) : String :=
  match c.baseURL with
  | none => ""
  | some url => if url = "" then channelBaseURLs c.type else url

variable {S O M : Type}

/-! ### The context -/

namespace ChannelContext

def setOther (ctx : ChannelContext S O M) (channelType : ℕ) (other : String) :
    ChannelContext S O M :=
  if channelType = channelTypeAzure ∨ channelType = channelTypeXunfei ∨
    channelType = channelTypeGemini ∨
      channelType = channelCloudflare ∨ channelType = channelTypeMokaAI then
    { ctx with apiVersion := other }
  else if channelType = channelTypeVertexAi then { ctx with region := other }
  else if channelType = channelTypeAli then { ctx with plugin := other }
  else if channelType = channelTypeCoze then { ctx with botId := other }
  else ctx

variable (env : MetaEnv S O M)

def setupContextForSelectedChannel (ctx : ChannelContext S O M) (channel : ChannelRow)
    (modelName : String) (draw : KeyDraw) : ChannelContext S O M × Option RelayError :=
  let ctx := { ctx with
    originalModel := modelName
    channelId := channel.id
    channelName := channel.name
    channelType := channel.type
    channelCreateTime := channel.createdTime
    channelSetting := some (env.getSetting channel.setting)
    channelOtherSetting := some (env.getOtherSettings channel.otherSettings)
    paramOverride := some (env.applyAffinityTemplate (env.getOverride channel.paramOverride))
    headerOverride := some (env.getOverride channel.headerOverride)
    channelOrganization :=
      if channel.openAIOrganization.getD "" ≠ "" then channel.openAIOrganization.getD ""
      else ctx.channelOrganization
    autoBan := channel.autoBan = some 1
    modelMapping := channel.modelMapping.getD ""
    statusCodeMapping := channel.statusCodeMapping.getD "" }
  match (channel.toChannel env.json).getNextEnabledKey draw with
  | .error e => (ctx, some e)
  | .ok (key, index) =>
    let ctx := { ctx with
      channelIsMultiKey := channel.channelInfo.isMultiKey
      channelMultiKeyIndex := if channel.channelInfo.isMultiKey then index
        else ctx.channelMultiKeyIndex
      channelKey := key
      baseUrl := channel.getBaseURL env.channelBaseURLs
      systemPromptOverride := false }
    (ctx.setOther channel.type channel.other, none)

def getAPIVersion (ctx : ChannelContext S O M) : String :=
  if env.queryApiVersion = "" then ctx.apiVersion else env.queryApiVersion

def initChannelMeta (ctx : ChannelContext S O M) : ChannelMeta S O M where
  channelType := ctx.channelType
  channelId := ctx.channelId
  channelIsMultiKey := ctx.channelIsMultiKey
  channelMultiKeyIndex := ctx.channelMultiKeyIndex
  channelBaseUrl := ctx.baseUrl
  apiType := env.channelType2APIType ctx.channelType
  apiVersion :=
    if ctx.channelType = channelTypeVertexAi then ctx.region
    else if ctx.channelType = channelTypeAzure then ctx.getAPIVersion env
    else ctx.apiVersion
  apiKey := ctx.channelKey
  organization := ctx.channelOrganization
  channelCreateTime := ctx.channelCreateTime
  paramOverride := ctx.paramOverride
  headersOverride := ctx.headerOverride
  channelSetting := ctx.channelSetting
  channelOtherSettings := ctx.channelOtherSetting
  upstreamModelName := ctx.originalModel
  isModelMapped := false
  supportStreamOptions := env.streamSupportedChannels ctx.channelType

end ChannelContext

/-! ### The model upstream -/

structure ModelNames where
  originModelName : String
  upstreamModelName : String
  isModelMapped : Bool := false
deriving DecidableEq, Repr

/-- At a model, at the model of the request that is mapped to itself, or in a cycle. -/
inductive MappingEnd
  | model (name : String) (isModelMapped : Bool)
  | unmapped
  | cycle (isModelMapped : Bool)
  | outOfFuel
deriving DecidableEq, Repr

/-- The models visited are new each time, so the length of the map bounds the loop. -/
def followMapping (modelMap : List (String × String)) (originModelName : String) :
    ℕ → List String → String → Bool → MappingEnd
  | 0, _, _, _ => .outOfFuel
  | fuel + 1, visitedModels, currentModel, isModelMapped =>
    match modelMap.lookup currentModel with
    | none => .model currentModel isModelMapped
    | some mappedModel =>
      if mappedModel = "" then .model currentModel isModelMapped
      else if mappedModel ∈ visitedModels then
        if mappedModel = currentModel then
          if currentModel = originModelName then .unmapped else .model currentModel true
        else .cycle isModelMapped
      else followMapping modelMap originModelName fuel
        (mappedModel :: visitedModels) mappedModel true

namespace ModelNames

variable (env : MetaEnv S O M)

def mappingModelName (originModelName : String) : String :=
  if env.isResponsesCompact && hasSuffix originModelName compactModelSuffix then
    trimSuffix originModelName compactModelSuffix
  else originModelName

/-- With the flag whether the helper goes on. -/
def applyMapping (modelMapping : String) (names : ModelNames) : ModelNames × Except Err Bool :=
  if modelMapping = "" ∨ modelMapping = "\x7b\x7d" then (names, .ok true)
  else
    match env.parseModelMapping modelMapping with
    | none => (names, .error "unmarshal_model_mapping_failed")
    | some modelMap =>
      let start := mappingModelName env names.originModelName
      match followMapping modelMap names.originModelName (modelMap.length + 1) [start] start
        names.isModelMapped with
      | .model name true =>
        ({ names with upstreamModelName := name, isModelMapped := true }, .ok true)
      | .model _ false => ({ names with isModelMapped := false }, .ok true)
      | .unmapped => ({ names with isModelMapped := false }, .ok false)
      | .cycle isModelMapped =>
        ({ names with isModelMapped }, .error "model_mapping_contains_cycle")
      | .outOfFuel => (names, .error "")

/-- The names, and the name that the request is given, if any. -/
def modelMappedHelper (modelMapping : String) (names : ModelNames) :
    ModelNames × Except Err (Option String) :=
  match applyMapping env modelMapping names with
  | (names, .error e) => (names, .error e)
  | (names, .ok false) => (names, .ok none)
  | (names', .ok true) =>
    if env.isResponsesCompact then
      let finalUpstreamModelName :=
        if names'.isModelMapped ∧ names'.upstreamModelName ≠ "" then names'.upstreamModelName
        else mappingModelName env names.originModelName
      ({ names' with
          originModelName := withCompactModelSuffix finalUpstreamModelName
          upstreamModelName := finalUpstreamModelName },
        .ok (some finalUpstreamModelName))
    else (names', .ok (some names'.upstreamModelName))

end ModelNames

/-! ### Attempts -/

structure AttemptState (S O M : Type) where
  ctx : ChannelContext S O M := {}
  originModelName : String
deriving DecidableEq, Repr

structure TriedChannel where
  channel : ChannelRow
  draw : KeyDraw := {}

/-- With the name the request is given or the error of the mapping. -/
structure Prepared (S O M : Type) where
  channelMeta : ChannelMeta S O M
  requestModel : Except Err (Option String)

namespace AttemptState

variable (env : MetaEnv S O M) (s : AttemptState S O M)

variable (tried : TriedChannel)

def attempt : AttemptState S O M × Except RelayError (Prepared S O M) :=
  match s.ctx.setupContextForSelectedChannel env tried.channel s.originModelName tried.draw with
  | (ctx, some e) => ({ s with ctx }, .error e)
  | (ctx, none) =>
    let channelMeta := ctx.initChannelMeta env
    let (names, requestModel) := ModelNames.modelMappedHelper env ctx.modelMapping
      { originModelName := s.originModelName
        upstreamModelName := channelMeta.upstreamModelName
        isModelMapped := channelMeta.isModelMapped }
    let channelMeta := { channelMeta with
      upstreamModelName := names.upstreamModelName
      isModelMapped := names.isModelMapped }
    ({ ctx, originModelName := names.originModelName }, .ok { channelMeta, requestModel })

def step : AttemptState S O M :=
  (s.attempt env tried).1

def prepared : Except RelayError (Prepared S O M) :=
  (s.attempt env tried).2

end AttemptState

end TokensFlux
