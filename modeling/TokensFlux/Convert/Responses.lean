import Mathlib.Data.List.AList
import Mathlib.Data.List.Sort
import TokensFlux.Convert.Chunk
import TokensFlux.Lib.Transducer

/-!
# Chat chunks to Responses events

`ChatCompletionsStreamChunkToResponsesEvents` fails only if `appendToolCallDelta` does, and that
never fails.
-/

namespace TokensFlux

def responsesStatusFromChatFinishReason (finishReason : String) :
    String × Option IncompleteDetails :=
  match trimSpace finishReason with
  | "length" => ("incomplete", some ⟨"max_output_tokens"⟩)
  | "content_filter" => ("incomplete", some ⟨"content_filter"⟩)
  | _ => ("completed", none)

def usageFromChatUsage (src : ChatUsage) : ChatUsage :=
  let prompt := src.promptTokensDetails
  let completion := src.completionTokenDetails
  { promptTokens := src.promptTokens
    inputTokens := src.promptTokens
    completionTokens := src.completionTokens
    outputTokens := src.completionTokens
    totalTokens := if src.totalTokens ≠ 0 then src.totalTokens
      else src.promptTokens + src.completionTokens
    inputTokensDetails :=
      if prompt.cachedTokens ≠ 0 ∨ prompt.imageTokens ≠ 0 ∨ prompt.audioTokens ≠ 0 ∨
          prompt.cachedCreationTokens ≠ 0 ∨ prompt.textTokens ≠ 0 then
        some prompt
      else none
    completionTokenDetails :=
      if completion.reasoningTokens ≠ 0 ∨ completion.textTokens ≠ 0 ∨ completion.audioTokens ≠ 0 ∨
          completion.imageTokens ≠ 0 then
        completion
      else {} }

/-! ### The state -/

structure ChatToResponsesStreamTool where
  chatIndex : ℤ
  outputIndex : ℤ
  id : String
  name : String
  arguments : String := ""
  done : Bool := false
deriving DecidableEq, Repr

def ToolCallResponse.chatIndex (toolCall : ToolCallResponse) : ℤ :=
  toolCall.index.getD 0

/-- A blank id or name changes nothing. -/
def ChatToResponsesStreamTool.update (tool : ChatToResponsesStreamTool)
    (toolCall : ToolCallResponse) :
    ChatToResponsesStreamTool :=
  { tool with
    id := if trimSpace toolCall.id ≠ "" then trimSpace toolCall.id else tool.id
    name := if trimSpace toolCall.name ≠ "" then trimSpace toolCall.name else tool.name
    arguments := tool.arguments ++ toolCall.arguments }

inductive ChatToResponsesOutputRef
  | message
  | reasoning
  | tool (toolIndex : ℤ)
deriving DecidableEq, Repr

structure ChatToResponsesStreamState where
  id : String
  model : String
  created : ℤ
  usage : ChatUsage := {}
  status : String := "completed"
  incompleteDetails : Option IncompleteDetails := none
  sentCreated : Bool := false
  textOutputIndex : ℤ := -1
  textStarted : Bool := false
  textDone : Bool := false
  reasoningIndex : ℤ := -1
  reasoningStarted : Bool := false
  reasoningDone : Bool := false
  finalized : Bool := false
  nextOutputIndex : ℤ := 0
  toolsByIndex : AList fun _ : ℤ => ChatToResponsesStreamTool := ∅
  outputOrder : List ChatToResponsesOutputRef := []
  text : String := ""
  reasoning : String := ""

namespace ChatToResponsesStreamState

variable (s : ChatToResponsesStreamState)

def messageID : String := s.id ++ "_msg_0"

def reasoningID : String := s.id ++ "_reasoning_0"

def outputStatus : String :=
  if s.status = "incomplete" then "incomplete" else "completed"

variable (status : String)

def messageOutput : ResponsesOutput where
  type := .message
  id := s.messageID
  status := status
  role := "assistant"
  content := [⟨.outputText, s.text⟩]

def reasoningOutput : ResponsesOutput where
  type := .reasoning
  id := s.reasoningID
  status := status
  content := [⟨.summaryText, s.reasoning⟩]

variable (tool : ChatToResponsesStreamTool)

def toolOutput (status : String) : ResponsesOutput where
  type := .functionCall
  id := tool.id
  status := status
  callId := tool.id
  name := tool.name
  arguments := .string tool.arguments

/-- The state after `nextOutputIndex` was taken. -/
def nextIndex (ref : ChatToResponsesOutputRef) : ChatToResponsesStreamState :=
  { s with nextOutputIndex := s.nextOutputIndex + 1, outputOrder := s.outputOrder ++ [ref] }

/-! ### Deltas -/

def startText : ChatToResponsesStreamState × List ResponsesStreamResponse :=
  if s.textStarted then (s, [])
  else
    ({ s.nextIndex .message with textStarted := true, textOutputIndex := s.nextOutputIndex },
      [{ type := .outputItemAdded
         outputIndex := some s.nextOutputIndex
         item := some { type := .message, id := s.messageID, status := "in_progress",
                        role := "assistant" } }])

def appendTextDelta (delta : String) : ChatToResponsesStreamState × List ResponsesStreamResponse :=
  let (s, added) := s.startText
  ({ s with text := s.text ++ delta },
    added ++
      [{ type := .outputTextDelta
         outputIndex := some s.textOutputIndex
         contentIndex := some 0
         delta := delta
         itemID := s.messageID }])

def startReasoning : ChatToResponsesStreamState × List ResponsesStreamResponse :=
  if s.reasoningStarted then (s, [])
  else
    ({ s.nextIndex .reasoning with reasoningStarted := true, reasoningIndex := s.nextOutputIndex },
      [{ type := .outputItemAdded
         outputIndex := some s.nextOutputIndex
         item := some { type := .reasoning, id := s.reasoningID, status := "in_progress" } }])

def appendReasoningDelta (delta : String) :
    ChatToResponsesStreamState × List ResponsesStreamResponse :=
  let (s, added) := s.startReasoning
  ({ s with reasoning := s.reasoning ++ delta },
    added ++
      [{ type := .reasoningSummaryDelta
         outputIndex := some s.reasoningIndex
         summaryIndex := some 0
         delta := delta
         itemID := s.reasoningID }])

variable (toolCall : ToolCallResponse)

def newTool : ChatToResponsesStreamTool where
  chatIndex := toolCall.chatIndex
  outputIndex := s.nextOutputIndex
  id :=
    if trimSpace toolCall.id = "" then s.id ++ "_call_" ++ toString toolCall.chatIndex
    else trimSpace toolCall.id
  name := trimSpace toolCall.name

def startTool : ChatToResponsesStreamState × ChatToResponsesStreamTool ×
      List ResponsesStreamResponse :=
  match s.toolsByIndex.lookup toolCall.chatIndex with
  | some tool => (s, tool, [])
  | none =>
    let tool := s.newTool toolCall
    ({ s.nextIndex (.tool toolCall.chatIndex) with
        toolsByIndex := s.toolsByIndex.insert toolCall.chatIndex tool }, tool,
      [{ type := .outputItemAdded
         outputIndex := some tool.outputIndex
         itemID := tool.id
         item := some
          { type := .functionCall
            id := tool.id
            status := "in_progress"
            callId := tool.id
            name := tool.name
            arguments := .string "" } }])

def fragmentEvents (fragment : ToolCallResponse) : List ResponsesStreamResponse :=
  if fragment.arguments ≠ "" then
    [{ type := .functionArgsDelta
       outputIndex := some tool.outputIndex
       itemID := tool.id
       delta := fragment.arguments }]
  else []

def appendToolCallDelta : ChatToResponsesStreamState × List ResponsesStreamResponse :=
  let (s, tool, added) := s.startTool toolCall
  let tool := tool.update toolCall
  ({ s with toolsByIndex := s.toolsByIndex.insert toolCall.chatIndex tool },
    added ++ fragmentEvents tool toolCall)

/-! ### The end of the items -/

def doneText : ChatToResponsesStreamState × List ResponsesStreamResponse :=
  if s.textStarted && !s.textDone then
    ({ s with textDone := true },
      [{ type := .outputTextDone
         outputIndex := some s.textOutputIndex
         contentIndex := some 0
         itemID := s.messageID },
       { type := .outputItemDone
         outputIndex := some s.textOutputIndex
         item := some (s.messageOutput s.outputStatus) }])
  else (s, [])

def doneReasoning : ChatToResponsesStreamState × List ResponsesStreamResponse :=
  if s.reasoningStarted && !s.reasoningDone then
    ({ s with reasoningDone := true },
      [{ type := .reasoningSummaryDone
         outputIndex := some s.reasoningIndex
         summaryIndex := some 0
         itemID := s.reasoningID
         part := some ⟨.summaryText, s.reasoning⟩ },
       { type := .outputItemDone
         outputIndex := some s.reasoningIndex
         item := some (s.reasoningOutput s.outputStatus) }])
  else (s, [])

def doneTool (chatIndex : ℤ) : ChatToResponsesStreamState × List ResponsesStreamResponse :=
  match s.toolsByIndex.lookup chatIndex with
  | none => (s, [])
  | some tool =>
    if tool.done then (s, [])
    else
      ({ s with toolsByIndex := s.toolsByIndex.insert chatIndex { tool with done := true } },
        [{ type := .functionArgsDone
           outputIndex := some tool.outputIndex
           itemID := tool.id },
         { type := .outputItemDone
           outputIndex := some tool.outputIndex
           item := some (toolOutput tool s.outputStatus) }])

def sortedTools : List ℤ :=
  s.toolsByIndex.keys.insertionSort (· ≤ ·)

def doneDeltaEvents : ChatToResponsesStreamState × List ResponsesStreamResponse :=
  let (s, textEvents) := s.doneText
  let (s, reasoningEvents) := s.doneReasoning
  let (s, toolEvents) := transduce doneTool s s.sortedTools
  (s, textEvents ++ reasoningEvents ++ toolEvents)

/-! ### Responses -/

def finalOutput : ChatToResponsesOutputRef → Option ResponsesOutput
  | .message => some (s.messageOutput status)
  | .reasoning => some (s.reasoningOutput status)
  | .tool toolIndex => (s.toolsByIndex.lookup toolIndex).map (toolOutput · status)

def finalResponse : OpenAIResponsesResponse where
  id := s.id
  createdAt := s.created
  status := some s.status
  incompleteDetails := s.incompleteDetails
  model := s.model
  output := s.outputOrder.filterMap (s.finalOutput s.outputStatus)
  usage := some s.usage

def createdResponse : OpenAIResponsesResponse where
  id := s.id
  createdAt := s.created
  status := some "in_progress"
  model := s.model

/-! ### Chunks -/

def applyFinishReason (finishReason : String) : ChatToResponsesStreamState :=
  let (status, incompleteDetails) := responsesStatusFromChatFinishReason finishReason
  if status ≠ "" then { s with status, incompleteDetails } else s

def startChunk (chunk : ChatChunk) : ChatToResponsesStreamState × List ResponsesStreamResponse :=
  let s :=
    { s with
      id := if s.id = "" then chunk.id else s.id
      model := if s.model = "" then chunk.model else s.model
      created := if s.created = 0 then chunk.created else s.created
      usage := (chunk.usage.map usageFromChatUsage).getD s.usage }
  if s.sentCreated then (s, [])
  else ({ s with sentCreated := true }, [{ type := .created, response := some s.createdResponse }])

def convertChoice (choice : ChunkChoice) :
    ChatToResponsesStreamState × List ResponsesStreamResponse :=
  let (s, reasoningEvents) :=
    if choice.delta.getReasoningContent ≠ "" then s.appendReasoningDelta
      choice.delta.getReasoningContent
    else (s, [])
  let (s, textEvents) :=
    if choice.delta.getContentString ≠ "" then s.appendTextDelta choice.delta.getContentString
    else (s, [])
  let (s, toolEvents) := transduce appendToolCallDelta s choice.delta.toolCalls
  let (s, doneEvents) :=
    match choice.finishReason with
    | some finishReason =>
      if trimSpace finishReason ≠ "" then (s.applyFinishReason finishReason).doneDeltaEvents
        else (s, [])
    | none => (s, [])
  (s, reasoningEvents ++ textEvents ++ toolEvents ++ doneEvents)

def chatCompletionsStreamChunkToResponsesEvents (chunk : ChatChunk) :
    ChatToResponsesStreamState × List ResponsesStreamResponse :=
  let (s, createdEvents) := s.startChunk chunk
  let (s, events) := transduce convertChoice s chunk.choices
  (s, createdEvents ++ events)

def finalizeChatCompletionsStreamToResponses :
    ChatToResponsesStreamState × List ResponsesStreamResponse :=
  if s.finalized then (s, [])
  else
    let (s, events) := s.doneDeltaEvents
    let s := { s with finalized := true }
    (s, events ++
      [{ type := if s.status = "incomplete" then .incomplete else .completed
         response := some s.finalResponse }])

def convertStream (chunks : List ChatChunk) :
    ChatToResponsesStreamState × List ResponsesStreamResponse :=
  let (s, events) := transduce chatCompletionsStreamChunkToResponsesEvents s chunks
  let (s, finalEvents) := s.finalizeChatCompletionsStreamToResponses
  (s, events ++ finalEvents)

end ChatToResponsesStreamState

def newChatToResponsesStreamState (id model : String) (created : ℤ) : ChatToResponsesStreamState :=
  { id, model, created }

end TokensFlux
