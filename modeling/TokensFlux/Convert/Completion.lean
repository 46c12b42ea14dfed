import TokensFlux.Convert.Chat
import TokensFlux.Convert.Message
import TokensFlux.Convert.Responses

/-!
# Chat responses and Responses responses

Neither conversion fails for a response that is not nil.
-/

namespace TokensFlux

/-- A number (as an integer), a text, or anything else. -/
inductive CreatedValue
  | number (value : ℤ)
  | text (value : String)
  | other
deriving DecidableEq, Repr

structure OpenAITextResponseChoice where
  index : ℤ := 0
  message : Message
  finishReason : String := ""
deriving Repr

structure OpenAITextResponse where
  id : String := ""
  model : String := ""
  created : CreatedValue := .other
  choices : List OpenAITextResponseChoice
  usage : ChatUsage := {}
deriving Repr

/-! ### From chat -/

def OutputType.ofText (type : String) : OutputType :=
  if type = "message" then .message
  else if type = "reasoning" then .reasoning
  else if type = "function_call" then .functionCall
  else if type = "custom_tool_call" then .customToolCall
  else .other type

def RawArguments.ofJson : Option Json → RawArguments
  | none => .absent
  | some (.string value) => .string value
  | some value => .json value.marshal

def chatCreatedAt (now : ℤ) : CreatedValue → ℤ
  | .number value => value
  | .text value =>
    let parsed := (atoi value).getD 0
    if parsed ≠ 0 then parsed else now
  | .other => now

def responseOutputStatus (response : OpenAIResponsesResponse) : String :=
  if response.statusString ≠ "incomplete" then "completed" else "incomplete"

def chatToolCallToResponsesOutput (toolCall : ToolCallRequest) (responseID : String) (index : ℕ)
    (status : String) :
    ResponsesOutput :=
  let callID :=
    if trimSpace toolCall.id = "" then responseID ++ "_call_" ++ toString index
      else trimSpace toolCall.id
  if toolCall.type = "" ∨ toolCall.type = "function" then
    { type := .functionCall
      id := callID
      status
      callId := callID
      name := toolCall.name
      arguments := .string toolCall.arguments }
  else
    { type := .ofText toolCall.type
      id := callID
      status
      callId := callID
      arguments := .ofJson toolCall.custom }

def choiceOutput (message : Message) (id status : String) : List ResponsesOutput :=
  let text := message.stringContent
  let textOutput : List ResponsesOutput :=
    if text ≠ "" then
      [{ type := .message, id := id ++ "_msg_0", status, role := "assistant",
          content := [{ type := .outputText, text }] }]
    else []
  let reasoning := message.getReasoningContent
  let reasoningOutput : List ResponsesOutput :=
    if reasoning ≠ "" then
      [{ type := .reasoning, id := id ++ "_reasoning_0", status,
          content := [{ type := .summaryText, text := reasoning }] }]
    else []
  let toolOutput := message.parseToolCalls.mapIdx fun i toolCall =>
    chatToolCallToResponsesOutput toolCall id i status
  textOutput ++ reasoningOutput ++ toolOutput

def chatCompletionsResponseToResponsesResponse (now : ℤ) (resp : OpenAITextResponse) (id : String) :
    OpenAIResponsesResponse × ChatUsage :=
  let usage := usageFromChatUsage resp.usage
  let out : OpenAIResponsesResponse :=
    { id
      createdAt := chatCreatedAt now resp.created
      status := some "completed"
      model := resp.model
      usage := some usage }
  match resp.choices with
  | [] => (out, usage)
  | choice :: _ =>
    let (status, details) := responsesStatusFromChatFinishReason choice.finishReason
    let out := { out with status := some status, incompleteDetails := details }
    ({ out with output := choiceOutput choice.message id (responseOutputStatus out) }, usage)

/-! ### To chat -/

variable (resp : OpenAIResponsesResponse)

def extractOutputTextFromResponses : String :=
  let messages := resp.output.filter fun out => out.type =
    .message && (out.role = "" || out.role = "assistant")
  let text := String.join (messages.flatMap fun out =>
    (out.content.filter (·.type = .outputText)).map (·.text))
  if text ≠ "" then text else String.join (resp.output.flatMap fun out => out.content.map (·.text))

def extractReasoningTextFromResponses : String :=
  String.join ((resp.output.filter (·.type = .reasoning)).flatMap fun out =>
    out.content.map (·.text))

def outputToolCall (out : ResponsesOutput) : Option ToolCallRequest :=
  if out.type.isTool && trimSpace out.name ≠ "" then
    some
      { id := if trimSpace out.callId = "" then trimSpace out.id else trimSpace out.callId
        type := "function"
        name := trimSpace out.name
        arguments := out.argumentsString }
  else none

def responsesResponseToChatCompletionsResponse (id : String) : OpenAITextResponse × ChatUsage :=
  let text := extractOutputTextFromResponses resp
  let reasoning := extractReasoningTextFromResponses resp
  let usage := (resp.usage.map usageFromResponsesUsage).getD {}
  let toolCalls := resp.output.filterMap outputToolCall
  let finishReason :=
    (responsesFinishReasonFromStatus (some resp)).getD
      (if toolCalls ≠ [] then "tool_calls" else "stop")
  let message : Message :=
    { role := "assistant"
      content := .text text
      reasoningContent := if reasoning ≠ "" then some reasoning else none
      toolCalls := if toolCalls ≠ [] then some toolCalls else none }
  ({ id
     model := resp.model
     created := .number resp.createdAt
     choices := [{ message, finishReason }]
     usage }, usage)

end TokensFlux
