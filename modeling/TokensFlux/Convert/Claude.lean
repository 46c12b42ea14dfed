import TokensFlux.Convert.Chunk

/-!
# From chat chunks to Claude events

`StreamResponseOpenAI2Claude` turns a chunk into events, with a state that the chunks of a request
share. `OaiStreamHandler` holds back one chunk: the last one goes through `HandleFinalResponse`.
-/

namespace TokensFlux

/-! ### Events -/

/-- The counters of `CacheCreation` are missing when both are zero. -/
structure ClaudeUsage where
  inputTokens : ℤ
  outputTokens : ℤ
  cacheCreationInputTokens : ℤ := 0
  cacheReadInputTokens : ℤ := 0
  cacheCreation : Option (ℤ × ℤ) := none
deriving DecidableEq, Repr

inductive ClaudeBlock
  | text
  | thinking
  | toolUse (id name : String)
deriving DecidableEq, Repr

inductive ClaudeDelta
  | textDelta (text : String)
  | thinkingDelta (thinking : String)
  | inputJsonDelta (partialJson : String)
deriving DecidableEq, Repr

inductive ClaudeEvent
  | messageStart (id model : String) (usage : ClaudeUsage)
  | contentBlockStart (index : ℤ) (block : ClaudeBlock)
  | contentBlockDelta (index : ℤ) (delta : ClaudeDelta)
  | contentBlockStop (index : ℤ)
  | messageDelta (usage : ClaudeUsage) (stopReason : String)
  | messageStop
deriving DecidableEq, Repr

/-! ### Usage and stop reasons -/

def normalizeCacheCreationSplit (totalTokens tokens5m tokens1h : ℤ) : ℤ × ℤ :=
  (tokens5m + max (totalTokens - tokens5m - tokens1h) 0, tokens1h)

def buildClaudeUsageFromOpenAIUsage (oaiUsage : ChatUsage) : ClaudeUsage :=
  let (cacheCreation5m, cacheCreation1h) :=
    normalizeCacheCreationSplit oaiUsage.promptTokensDetails.cachedCreationTokens
      oaiUsage.claudeCacheCreation5mTokens oaiUsage.claudeCacheCreation1hTokens
  { inputTokens := oaiUsage.promptTokens
    outputTokens := oaiUsage.completionTokens
    cacheCreationInputTokens := oaiUsage.promptTokensDetails.cachedCreationTokens
    cacheReadInputTokens := oaiUsage.promptTokensDetails.cachedTokens
    cacheCreation :=
      if cacheCreation5m > 0 ∨ cacheCreation1h > 0
        then some (cacheCreation5m, cacheCreation1h) else none }

/-- `toLower` is `strings.ToLower`. -/
def openAIFinishReasonToClaudeStopReason (toLower : String → String)
    (finishReason : String) : String :=
  match toLower finishReason with
  | "stop" => "end_turn"
  | "stop_sequence" => "stop_sequence"
  | "length" | "max_tokens" => "max_tokens"
  | "content_filter" => "refusal"
  | "tool_calls" => "tool_use"
  | _ => finishReason

/-! ### The state of the conversion -/

inductive LastMessageType
  | none
  | text
  | tools
  | thinking
deriving DecidableEq, Repr

structure ClaudeEnv where
  toLower : String → String
  estimatePromptTokens : ℤ

/-- With the fields of `RelayInfo` that the conversion uses. -/
structure ClaudeConvertInfo where
  sendResponseCount : ℕ := 0
  finishReason : String := ""
  lastMessagesType : LastMessageType := .none
  index : ℤ := 0
  usage : Option ChatUsage := none
  done : Bool := false
  toolCallBaseIndex : ℤ := 0
  toolCallMaxIndexOffset : ℤ := 0
deriving DecidableEq, Repr

def ChunkChoice.isFinished (choice : ChunkChoice) : Bool :=
  choice.finishReason.getD "" ≠ ""

namespace ClaudeConvertInfo

variable (env : ClaudeEnv) (info : ClaudeConvertInfo)

def stopOpenBlocks : List ClaudeEvent :=
  match info.lastMessagesType with
  | .text | .thinking => [.contentBlockStop info.index]
  | .tools =>
    (List.range (info.toolCallMaxIndexOffset + 1).toNat).map fun offset : ℕ =>
      .contentBlockStop (info.toolCallBaseIndex + offset)
  | .none => []

def stopOpenBlocksAndAdvance : ClaudeConvertInfo × List ClaudeEvent :=
  match info.lastMessagesType with
  | .none => (info, [])
  | .tools =>
    ({ info with
        index := info.toolCallBaseIndex + info.toolCallMaxIndexOffset + 1
        toolCallBaseIndex := 0
        toolCallMaxIndexOffset := 0
        lastMessagesType := .none }, info.stopOpenBlocks)
  | .text | .thinking =>
    ({ info with index := info.index + 1, lastMessagesType := .none }, info.stopOpenBlocks)

def stopMessage (oaiUsage : Option ChatUsage) (stopReason : String) :
    ClaudeConvertInfo × List ClaudeEvent :=
  ({ info with done := true }, info.stopOpenBlocks ++ (match oaiUsage with
        | some usage => [.messageDelta (buildClaudeUsageFromOpenAIUsage usage) stopReason]
        | none => []) ++
      [.messageStop])

def stopReason : String :=
  openAIFinishReasonToClaudeStopReason env.toLower info.finishReason

/-! ### The first chunk -/

variable (delta : ChoiceDelta)

/-- Only the first one, always with index 0. -/
def firstToolCall : ClaudeConvertInfo × List ClaudeEvent :=
  match delta.toolCalls with
  | [] => (info, [])
  | toolCall :: _ =>
    ({ info with lastMessagesType := .tools, toolCallBaseIndex := 0, toolCallMaxIndexOffset := 0 },
      .contentBlockStart 0 (.toolUse toolCall.id toolCall.name) ::
        if toolCall.arguments ≠ "" then [.contentBlockDelta 0 (.inputJsonDelta toolCall.arguments)]
          else [])

def firstBlock (type : LastMessageType) (block : ClaudeBlock) (delta : ClaudeDelta) :
    ClaudeConvertInfo × List ClaudeEvent :=
  let (info, events) :=
    if info.lastMessagesType ≠ type then info.stopOpenBlocksAndAdvance else (info, [])
  ({ info with lastMessagesType := type },
    events ++ [.contentBlockStart info.index block, .contentBlockDelta info.index delta])

def firstContent : ClaudeConvertInfo × List ClaudeEvent :=
  if delta.getReasoningContent ≠ "" then
    info.firstBlock .thinking .thinking (.thinkingDelta delta.getReasoningContent)
  else if delta.getContentString ≠ "" then
    info.firstBlock .text .text (.textDelta delta.getContentString)
  else (info, [])

variable (chunk : ChatChunk)

def firstResponse : ClaudeConvertInfo × List ClaudeEvent :=
  let start := ClaudeEvent.messageStart chunk.id chunk.model
    { inputTokens := env.estimatePromptTokens, outputTokens := 0 }
  match chunk.choices.head? with
  | none => (info, [start])
  | some choice =>
    let (info, toolEvents) := info.firstToolCall choice.delta
    let (info, contentEvents) := info.firstContent choice.delta
    if choice.isFinished then
      let info := { info with finishReason := choice.finishReason.getD "" }
      let (info, stopEvents) := info.stopMessage (chunk.usage.or info.usage) (info.stopReason env)
      (info, start :: toolEvents ++ contentEvents ++ stopEvents)
    else (info, start :: toolEvents ++ contentEvents)

/-! ### The other chunks -/

/-- Its index, or its position in the chunk. -/
def toolOffset (position : ℕ) (toolCall : ToolCallResponse) : ℤ :=
  toolCall.index.getD position

def toolCallEvents (base offset : ℤ) (toolCall : ToolCallResponse) : List ClaudeEvent :=
  (if toolCall.name ≠ "" then
    [.contentBlockStart (base + offset) (.toolUse toolCall.id toolCall.name)] else []) ++
  (if toolCall.arguments ≠ "" then
    [.contentBlockDelta (base + offset) (.inputJsonDelta toolCall.arguments)] else [])

def toolLoop (base : ℤ) : ℕ → List ToolCallResponse → ℤ → ℤ × List ClaudeEvent
  | _, [], maxOffset => (maxOffset, [])
  | position, toolCall :: toolCalls, maxOffset =>
    let offset := toolOffset position toolCall
    let (maxOffset, events) := toolLoop base (position + 1) toolCalls (max maxOffset offset)
    (maxOffset, toolCallEvents base offset toolCall ++ events)

def convertToolCalls (toolCalls : List ToolCallResponse) : ClaudeConvertInfo × List ClaudeEvent :=
  let (info, stopEvents) :=
    if info.lastMessagesType ≠ .tools then
      let (info, events) := info.stopOpenBlocksAndAdvance
      ({ info with toolCallBaseIndex := info.index, toolCallMaxIndexOffset := 0 }, events)
    else (info, [])
  let base := info.toolCallBaseIndex
  let (maxOffset, events) := toolLoop base 0 toolCalls info.toolCallMaxIndexOffset
  ({ info with lastMessagesType := .tools, toolCallMaxIndexOffset := maxOffset,
               index := base + maxOffset },
    stopEvents ++ events)

/-- Started unless the last message had its type. -/
def fillBlock (type : LastMessageType) (block : ClaudeBlock) (delta : ClaudeDelta) :
    ClaudeConvertInfo × List ClaudeEvent :=
  if info.lastMessagesType ≠ type then
    let (info, events) := info.stopOpenBlocksAndAdvance
    ({ info with lastMessagesType := type },
      events ++ [.contentBlockStart info.index block, .contentBlockDelta info.index delta])
  else (info, [.contentBlockDelta info.index delta])

def convertDelta : ClaudeConvertInfo × List ClaudeEvent :=
  if delta.toolCalls ≠ [] then info.convertToolCalls delta.toolCalls
  else if delta.getReasoningContent ≠ "" then
    info.fillBlock .thinking .thinking (.thinkingDelta delta.getReasoningContent)
  else if delta.getContentString ≠ "" then
    info.fillBlock .text .text (.textDelta delta.getContentString)
  else (info, [])

def streamResponseOpenAI2Claude : ClaudeConvertInfo × List ClaudeEvent :=
  if info.done then (info, [])
  else if info.sendResponseCount = 1 then info.firstResponse env chunk
  else
    match chunk.choices.head? with
    | none =>
      match chunk.usage.or info.usage with
      | some usage =>
        let stopReason := info.stopReason env
        info.stopMessage (some usage) (if stopReason = "" then "end_turn" else stopReason)
      | none => (info, [])
    | some choice =>
      if choice.isFinished then
        let info := { info with finishReason := choice.finishReason.getD "" }
        match chunk.usage with
        | none => (info, [])
        | some usage =>
          let (info, events) := info.convertDelta choice.delta
          let (info, stopEvents) := info.stopMessage (some usage) (info.stopReason env)
          (info, events ++ stopEvents)
      else info.convertDelta choice.delta

def handleStreamFormat : ClaudeConvertInfo × List ClaudeEvent :=
  let info := { info with
    sendResponseCount := info.sendResponseCount + 1
    usage := chunk.usage.or info.usage }
  info.streamResponseOpenAI2Claude env chunk

def handleFinalResponse (usage : ChatUsage) (lastChunk : ChatChunk) :
    ClaudeConvertInfo × List ClaudeEvent :=
  let (info, events) := { info with usage := some usage }.streamResponseOpenAI2Claude env lastChunk
  ({ info with done := true }, events)

end ClaudeConvertInfo

/-! ### The handler -/

structure StreamHandlerEnv extends ClaudeEnv where
  isAudioModel : Bool
  isChatCompletions : Bool
  estimateToken : String → ℤ
  applyUsagePostProcessing : ChatUsage → ChatChunk → ChatUsage

/-- The variables of `OaiStreamHandler`, and the events sent. -/
structure StreamHandlerState where
  info : ClaudeConvertInfo := {}
  lastStreamData : Option ChatChunk := none
  secondLastStreamData : Option ChatChunk := none
  responseText : String := ""
  toolCount : ℕ := 0
  events : List ClaudeEvent := []
deriving DecidableEq, Repr

namespace StreamHandlerState

variable (env : StreamHandlerEnv)

variable (s : StreamHandlerState)

def processStreamResponse (chunk : ChatChunk) : StreamHandlerState :=
  chunk.choices.foldl (fun s choice =>
    { s with
      responseText := choice.delta.toolCalls.foldl
        (fun text tool => text ++ tool.name ++ tool.arguments)
        (s.responseText ++ choice.delta.getContentString ++ choice.delta.getReasoningContent)
      toolCount := max s.toolCount choice.delta.toolCalls.length }) s

def onData (data : ChatChunk) : StreamHandlerState :=
  let s :=
    match s.lastStreamData with
    | none => s
    | some last =>
      let (info, events) := s.info.handleStreamFormat env.toClaudeEnv last
      { s with
        info
        events := s.events ++ events
        secondLastStreamData := if env.isAudioModel then some last else s.secondLastStreamData }
  let s := { s with lastStreamData := some data }
  if env.isChatCompletions then s.processStreamResponse data else s

def finalUsage (last : ChatChunk) : ChatUsage :=
  let audioUsage :=
    if env.isAudioModel then (s.secondLastStreamData.bind (·.usage)).filter (·.validUsage) else none
  let usage :=
    match (last.usage.filter (·.validUsage)).or audioUsage with
    | some usage => usage
    | none =>
      let completionTokens := env.estimateToken s.responseText
      { promptTokens := env.estimatePromptTokens
        completionTokens := completionTokens + s.toolCount * 7
        totalTokens := env.estimatePromptTokens + completionTokens }
  env.applyUsagePostProcessing usage last

end StreamHandlerState

def oaiStreamHandler (env : StreamHandlerEnv) (chunks : List ChatChunk) : List ClaudeEvent :=
  let s := chunks.foldl (StreamHandlerState.onData env) {}
  match s.lastStreamData with
  | none => s.events
  | some last =>
    let (_, events) := s.info.handleFinalResponse env.toClaudeEnv (s.finalUsage env last) last
    s.events ++ events

end TokensFlux
