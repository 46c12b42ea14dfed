import Mathlib.Data.List.AList
import Mathlib.Data.List.Sort
import TokensFlux.Convert.Chunk
import TokensFlux.Lib.Transducer

/-!
# Responses events to chat chunks

A tool is a pointer in the source, held in `toolByKey`; here it is a value that is put back under
its key.
-/

namespace TokensFlux

def usageFromResponsesUsage (src : ChatUsage) : ChatUsage :=
  { promptTokens := src.inputTokens
    inputTokens := src.inputTokens
    completionTokens := src.outputTokens
    outputTokens := src.outputTokens
    totalTokens := if src.totalTokens ≠ 0 then src.totalTokens
      else src.inputTokens + src.outputTokens
    promptTokensDetails :=
      match src.inputTokensDetails with
      | none => {}
      | some details =>
        { cachedTokens := details.cachedTokens
          imageTokens := details.imageTokens
          audioTokens := details.audioTokens }
    completionTokenDetails := { reasoningTokens := src.completionTokenDetails.reasoningTokens } }

def OpenAIResponsesResponse.statusString (response : OpenAIResponsesResponse) : String :=
  trimSpace (response.status.getD "")

variable (response : Option OpenAIResponsesResponse)

def ensureIncompleteResponse : OpenAIResponsesResponse :=
  let response := response.getD {}
  { response with status := response.status.or (some "incomplete") }

def responsesFinishReasonFromStatus : Option String :=
  match response with
  | none => none
  | some response =>
    if response.statusString ≠ "incomplete" then none
    else if response.incompleteDetails.map (trimSpace ·.reason) = some "content_filter"
      then some "content_filter"
    else some "length"

def OutputType.isTool (type : OutputType) : Bool :=
  type = .functionCall || type = .customToolCall

variable (event : ResponsesStreamResponse)

def ResponsesStreamResponse.streamItemID : String :=
  match event.item with
  | some item => if trimSpace item.id ≠ "" then trimSpace item.id else trimSpace event.itemID
  | none => trimSpace event.itemID

/-! ### Keys of tools -/

inductive ToolKey
  | output (index : ℤ)
  | item (id : String)
  | call (id : String)
deriving DecidableEq, Repr

namespace ToolKey

def text : ToolKey → String
  | .output index => "output:" ++ toString index
  | .item id => "item:" ++ id
  | .call id => "call:" ++ id

def ofID (key : String → ToolKey) (id : String) : Option ToolKey :=
  if trimSpace id ≠ "" then some (key (trimSpace id)) else none

end ToolKey

def keyForEvent : Option ToolKey :=
  match event.outputIndex with
  | some index => some (.output index)
  | none =>
    ((event.item.bind fun item => (ToolKey.ofID .item item.id).or
      (ToolKey.ofID .call item.callId))).or
      (ToolKey.ofID .item event.itemID)

def fallbackToolKey (itemID callID : String) (outputIndex : Option ℤ) : Option ToolKey :=
  (outputIndex.map .output).or ((ToolKey.ofID .item itemID).or (ToolKey.ofID .call callID))

def fallbackCallID : String :=
  if trimSpace event.itemID ≠ "" then trimSpace event.itemID
  else
    match event.outputIndex with
    | some index => "call_output_" ++ toString index
    | none => ""

/-! ### The state -/

structure ResponsesStreamTool where
  key : ToolKey
  callID : String := ""
  itemID : String := ""
  name : String := ""
  arguments : String := ""
  index : ℤ
  sent : Bool := false
  nameSent : Bool := false
  argsSentAt : ℕ := 0
deriving DecidableEq, Repr

structure ResponsesToChatStreamState where
  id : String := ""
  model : String
  created : ℤ
  includeUsage : Bool
  usage : Option ChatUsage := some {}
  sentStart : Bool := false
  finalized : Bool := false
  hasSentText : Bool := false
  sawToolCall : Bool := false
  hasSentReasoning : Bool := false
  needsReasoningSummaryBreak : Bool := false
  nextToolIndex : ℤ := 0
  toolByKey : AList fun _ : ToolKey => ResponsesStreamTool := ∅
  outputIndexToKey : AList fun _ : ℤ => ToolKey := ∅
  itemIDToKey : AList fun _ : String => ToolKey := ∅
  callIDToKey : AList fun _ : String => ToolKey := ∅
  pendingArgsByOutputIndex : AList fun _ : ℤ => String := ∅
  pendingArgsByItemID : AList fun _ : String => String := ∅
  usageText : String := ""

namespace ResponsesToChatStreamState

variable (s : ResponsesToChatStreamState)

def makeChunk (delta : ChoiceDelta) (finishReason : Option String) : ChatChunk where
  id := s.id
  created := s.created
  model := s.model
  choices := [{ delta, finishReason }]

variable (response : Option OpenAIResponsesResponse)

def applyResponseMetadata : ResponsesToChatStreamState :=
  match response with
  | none => s
  | some response =>
    { s with
      id := if response.id ≠ "" ∧ s.id = "" then response.id else s.id
      model := if response.model ≠ "" then response.model else s.model
      created := if response.createdAt ≠ 0 then response.createdAt else s.created
      usage := (response.usage.map usageFromResponsesUsage).or s.usage }

def ensureStart : ResponsesToChatStreamState × List ChatChunk :=
  if s.sentStart then (s, [])
  else ({ s with sentStart := true },
    [s.makeChunk { role := "assistant", content := some "" } none])

/-! ### Text and reasoning -/

def textDelta (delta : String) : ResponsesToChatStreamState × List ChatChunk :=
  if delta = "" then (s, [])
  else
    let (s, start) := { s with usageText := s.usageText ++ delta, hasSentText := true }.ensureStart
    (s, start ++ [s.makeChunk { content := some delta } none])

def reasoningDelta (delta : String) : ResponsesToChatStreamState × List ChatChunk :=
  if delta = "" then (s, [])
  else
    let delta :=
      if !s.needsReasoningSummaryBreak || hasPrefix delta "\n\n" then delta
      else if hasPrefix delta "\n" then "\n" ++ delta
      else "\n\n" ++ delta
    let (s, start) :=
      { s with needsReasoningSummaryBreak := false, usageText := s.usageText ++ delta }.ensureStart
    ({ s with hasSentReasoning := true }, start ++
      [s.makeChunk { reasoningContent := some delta } none])

/-! ### Tools -/

variable (key : ToolKey)

def toolOrNew (callID : String) : ResponsesToChatStreamState × ResponsesStreamTool :=
  match s.toolByKey.lookup key with
  | some tool => (s, tool)
  | none =>
    ({ s with nextToolIndex := s.nextToolIndex + 1 }, { key, index := s.nextToolIndex, callID })

variable (tool : ResponsesStreamTool)

/-- Pending arguments go to the tool. -/
def bindOutputIndex (event : ResponsesStreamResponse) :
    ResponsesToChatStreamState × ResponsesStreamTool :=
  match event.outputIndex with
  | none => (s, tool)
  | some index =>
    let s := { s with outputIndexToKey := s.outputIndexToKey.insert index tool.key }
    let pending := (s.pendingArgsByOutputIndex.lookup index).getD ""
    if pending ≠ "" then
      ({ s with pendingArgsByOutputIndex := s.pendingArgsByOutputIndex.erase index },
        { tool with arguments := tool.arguments ++ pending })
    else (s, tool)

def bindItemID (event : ResponsesStreamResponse) :
    ResponsesToChatStreamState × ResponsesStreamTool :=
  let itemID := event.streamItemID
  if itemID = "" then (s, tool)
  else
    let s := { s with itemIDToKey := s.itemIDToKey.insert itemID tool.key }
    let tool := { tool with itemID }
    let pending := (s.pendingArgsByItemID.lookup itemID).getD ""
    if pending ≠ "" then
      ({ s with pendingArgsByItemID := s.pendingArgsByItemID.erase itemID },
        { tool with arguments := tool.arguments ++ pending })
    else (s, tool)

def bindCallID (item : ResponsesOutput) : ResponsesToChatStreamState × ResponsesStreamTool :=
  if trimSpace item.callId ≠ "" then
    ({ s with callIDToKey := s.callIDToKey.insert (trimSpace item.callId) tool.key },
      { tool with callID := trimSpace item.callId })
  else if tool.callID = "" then (s, { tool with callID := trimSpace item.id })
  else (s, tool)

def putTool : ResponsesToChatStreamState :=
  { s with toolByKey := s.toolByKey.insert tool.key tool }

def bindItem (event : ResponsesStreamResponse) (item : ResponsesOutput) :
    ResponsesToChatStreamState × ResponsesStreamTool :=
  let (s, tool) := s.bindOutputIndex tool event
  let (s, tool) := s.bindItemID tool event
  let (s, tool) := s.bindCallID tool item
  (s, if trimSpace item.name ≠ "" then { tool with name := trimSpace item.name } else tool)

def ensureTool (event : ResponsesStreamResponse) (item : ResponsesOutput) :
    ResponsesToChatStreamState × ResponsesStreamTool :=
  let (s, tool) := s.toolOrNew key ""
  let (s, tool) := s.bindItem tool event item
  (s.putTool tool, tool)

variable (event : ResponsesStreamResponse)

def ensureToolForEvent : Option (ResponsesToChatStreamState × ResponsesStreamTool) :=
  event.item.bind fun item =>
    ((keyForEvent event).or (fallbackToolKey item.id item.callId event.outputIndex)).map fun key =>
      s.ensureTool key event item

def findToolForEvent : Option ResponsesStreamTool :=
  let itemKey :=
    if trimSpace event.itemID ≠ "" then s.itemIDToKey.lookup (trimSpace event.itemID) else none
  let key :=
    ((event.outputIndex.bind fun index => s.outputIndexToKey.lookup index).or itemKey).or
      (event.item.bind fun _ => keyForEvent event)
  key.bind fun key => s.toolByKey.lookup key

def ensureFallbackTool (event : ResponsesStreamResponse) :
    ResponsesToChatStreamState × ResponsesStreamTool :=
  let (s, tool) := s.toolOrNew key (fallbackCallID event)
  let (s, tool) := s.bindOutputIndex tool event
  let (s, tool) := s.bindItemID tool event
  (s.putTool tool, tool)

def ensureFallbackToolForEvent : Option (ResponsesToChatStreamState × ResponsesStreamTool) :=
  ((event.outputIndex.map .output).or (ToolKey.ofID .item event.itemID)).map fun key =>
    s.ensureFallbackTool key event

def argsDelta (explicitDelta : String) : String :=
  if explicitDelta = "" ∧ byteLength tool.arguments > tool.argsSentAt then
    dropBytes tool.arguments tool.argsSentAt
  else explicitDelta

def responseTool (argsDelta : String) : ToolCallResponse where
  index := some tool.index
  id := if trimSpace tool.callID = "" then tool.key.text else trimSpace tool.callID
  type := "function"
  name := if tool.nameSent then "" else tool.name
  arguments := argsDelta

def toolDelta (explicitDelta : String) : ResponsesToChatStreamState × List ChatChunk :=
  let argsDelta := argsDelta tool explicitDelta
  if tool.sent && argsDelta = "" && (tool.name = "" || tool.nameSent) then (s.putTool tool, [])
  else
    let (s, start) := s.ensureStart
    let fragment := responseTool tool argsDelta
    let s := s.putTool
      { tool with
        nameSent := tool.nameSent || tool.name ≠ ""
        sent := true
        argsSentAt := tool.argsSentAt + byteLength argsDelta }
    ({ s with usageText := s.usageText ++ argsDelta ++ fragment.name, sawToolCall := true },
      start ++ [s.makeChunk { toolCalls := [fragment] } none])

def toolItem : ResponsesToChatStreamState × List ChatChunk :=
  match s.ensureToolForEvent event with
  | none => (s, [])
  | some (s, tool) =>
    let args := (event.item.map (·.argumentsString)).getD ""
    s.toolDelta (if args ≠ "" then { tool with arguments := args } else tool) ""

def toolArgumentsDelta : ResponsesToChatStreamState × List ChatChunk :=
  if event.delta = "" then (s, [])
  else
    match s.findToolForEvent event with
    | some tool => s.toolDelta { tool with arguments := tool.arguments ++ event.delta } event.delta
    | none =>
      match event.outputIndex with
      | some index =>
        ({ s with
            pendingArgsByOutputIndex := s.pendingArgsByOutputIndex.insert index
              ((s.pendingArgsByOutputIndex.lookup index).getD "" ++ event.delta) }, [])
      | none =>
        let itemID := trimSpace event.itemID
        if itemID ≠ "" then
          ({ s with
              pendingArgsByItemID := s.pendingArgsByItemID.insert itemID
                ((s.pendingArgsByItemID.lookup itemID).getD "" ++ event.delta) }, [])
        else (s, [])

def flushPendingTool : ResponsesToChatStreamState × List ChatChunk :=
  match s.findToolForEvent event with
  | some tool => s.toolDelta tool ""
  | none =>
    match s.ensureFallbackToolForEvent event with
    | some (s, tool) => s.toolDelta tool ""
    | none => (s, [])

/-! ### The end of the stream -/

def terminalOutput (out : ResponsesOutput) : ResponsesToChatStreamState × List ChatChunk :=
  if out.type = .message ∧ s.hasSentText = false then
    s.textDelta (String.join ((out.content.filter (·.type = .outputText)).map (·.text)))
  else if out.type = .reasoning ∧ s.hasSentReasoning = false then
    s.reasoningDelta (String.join (out.content.map (·.text)))
  else if out.type.isTool then s.toolItem { type := .other "", item := some out }
  else (s, [])

def terminalOutputChunks : ResponsesToChatStreamState × List ChatChunk :=
  transduce terminalOutput s ((response.map (·.output)).getD [])

def pendingCallID : ToolKey → String
  | .output index => "call_output_" ++ toString index
  | .item id => id
  | .call id => "call:" ++ id

def flushKey : ResponsesToChatStreamState × List ChatChunk :=
  let (s, tool) := s.toolOrNew key (pendingCallID key)
  let (s, tool) :=
    match key with
    | .output index =>
      ({ s with pendingArgsByOutputIndex := s.pendingArgsByOutputIndex.erase index },
        { tool with arguments := tool.arguments ++
                      (s.pendingArgsByOutputIndex.lookup index).getD "" })
    | .item id =>
      ({ s with pendingArgsByItemID := s.pendingArgsByItemID.erase id },
        { tool with arguments := tool.arguments ++ (s.pendingArgsByItemID.lookup id).getD "" })
    | .call _ => (s, tool)
  s.toolDelta tool ""

/-- Sorted by their texts. -/
def pendingKeys : List ToolKey :=
  (s.toolByKey.keys ++ s.pendingArgsByOutputIndex.keys.map ToolKey.output ++
    s.pendingArgsByItemID.keys.map ToolKey.item).dedup.insertionSort fun key key' =>
      key.text ≤ key'.text

def flushAllPendingTools : ResponsesToChatStreamState × List ChatChunk :=
  transduce flushKey s s.pendingKeys

def finalize : ResponsesToChatStreamState × List ChatChunk :=
  if s.finalized then (s, [])
  else
    let (s, toolChunks) := { s with finalized := true }.flushAllPendingTools
    let (s, start) := s.ensureStart
    let finishReason :=
      (responsesFinishReasonFromStatus response).getD
        (if s.sawToolCall then "tool_calls" else "stop")
    let usageChunks : List ChatChunk :=
      if s.includeUsage then
        match s.usage with
        | some usage =>
          [{ id := s.id, created := s.created, model := s.model, usage := some usage }]
        | none => []
      else []
    (s, toolChunks ++ start ++ [s.makeChunk {} (some finishReason)] ++ usageChunks)

def finalizeResponsesToChatStream : ResponsesToChatStreamState × List ChatChunk :=
  s.finalize none

/-! ### Events -/

def terminalChunks : ResponsesToChatStreamState × List ChatChunk :=
  let s := s.applyResponseMetadata response
  let (s, outputChunks) := s.terminalOutputChunks response
  let (s, finalChunks) := s.finalize response
  (s, outputChunks ++ finalChunks)

/-- For an event that is no error. -/
def eventChunks : ResponsesToChatStreamState × List ChatChunk :=
  match event.type with
  | .created => (s.applyResponseMetadata event.response).ensureStart
  | .reasoningSummaryDelta | .reasoningTextDelta => s.reasoningDelta event.delta
  | .reasoningSummaryDone | .reasoningTextDone =>
    (if s.hasSentReasoning then { s with needsReasoningSummaryBreak := true } else s, [])
  | .outputTextDelta => s.textDelta event.delta
  | .outputItemAdded | .outputItemDone =>
    if (event.item.map (·.type.isTool)).getD false then s.toolItem event else (s, [])
  | .functionArgsDelta | .customToolInputDelta => s.toolArgumentsDelta event
  | .functionArgsDone | .customToolInputDone => s.flushPendingTool event
  | .completed | .done => s.terminalChunks event.response
  | .incomplete => s.terminalChunks (some (ensureIncompleteResponse event.response))
  | .failed | .error | .outputTextDone | .other _ => (s, [])

def responsesStreamEventToChatChunks :
    Except String (ResponsesToChatStreamState × List ChatChunk) :=
  match event.type with
  | .failed => .error "responses stream error: response.failed"
  | .error => .error "responses stream error: response.error"
  | _ => .ok (s.eventChunks event)

/-- As far as there is no error. -/
def convertEvents : ResponsesToChatStreamState → List ResponsesStreamResponse →
    Except String (ResponsesToChatStreamState × List ChatChunk)
  | s, [] => .ok (s, [])
  | s, event :: events => do
    let (s, chunks) ← s.responsesStreamEventToChatChunks event
    let (s, later) ← convertEvents s events
    return (s, chunks ++ later)

def convertStream (events : List ResponsesStreamResponse) : Except String (List ChatChunk) := do
  let (s, chunks) ← s.convertEvents events
  return chunks ++ s.finalizeResponsesToChatStream.2

end ResponsesToChatStreamState

def newResponsesToChatStreamState (model : String) (created : ℤ) (includeUsage : Bool) :
    ResponsesToChatStreamState :=
  { model, created, includeUsage }

end TokensFlux
