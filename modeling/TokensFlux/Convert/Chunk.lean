import TokensFlux.Common.Str

/-!
# Chat completion chunks and Responses events

The streams of the two OpenAI formats, with the usage that they carry.  Pointers are options.
-/

namespace TokensFlux

/-! ### Usage -/

structure InputTokenDetails where
  cachedTokens : ℤ := 0
  cachedCreationTokens : ℤ := 0
  textTokens : ℤ := 0
  audioTokens : ℤ := 0
  imageTokens : ℤ := 0
deriving DecidableEq, Repr

structure OutputTokenDetails where
  textTokens : ℤ := 0
  audioTokens : ℤ := 0
  imageTokens : ℤ := 0
  reasoningTokens : ℤ := 0
deriving DecidableEq, Repr

structure ChatUsage where
  promptTokens : ℤ := 0
  completionTokens : ℤ := 0
  totalTokens : ℤ := 0
  promptTokensDetails : InputTokenDetails := {}
  completionTokenDetails : OutputTokenDetails := {}
  inputTokens : ℤ := 0
  outputTokens : ℤ := 0
  inputTokensDetails : Option InputTokenDetails := none
  claudeCacheCreation5mTokens : ℤ := 0
  claudeCacheCreation1hTokens : ℤ := 0
deriving DecidableEq, Repr

def ChatUsage.validUsage (usage : ChatUsage) : Bool :=
  usage.promptTokens ≠ 0 || usage.completionTokens ≠ 0

/-! ### Chunks -/

structure ToolCallResponse where
  index : Option ℤ := none
  id : String := ""
  type : String := ""
  name : String := ""
  arguments : String := ""
deriving DecidableEq, Repr

structure ChoiceDelta where
  content : Option String := none
  reasoningContent : Option String := none
  reasoning : Option String := none
  role : String := ""
  toolCalls : List ToolCallResponse := []
deriving DecidableEq, Repr

def ChoiceDelta.getContentString (delta : ChoiceDelta) : String :=
  delta.content.getD ""

def ChoiceDelta.getReasoningContent (delta : ChoiceDelta) : String :=
  match delta.reasoningContent with
  | some reasoning => reasoning
  | none => delta.reasoning.getD ""

structure ChunkChoice where
  delta : ChoiceDelta := {}
  finishReason : Option String := none
deriving DecidableEq, Repr

structure ChatChunk where
  id : String := ""
  created : ℤ := 0
  model : String := ""
  choices : List ChunkChoice := []
  usage : Option ChatUsage := none
deriving DecidableEq, Repr

/-! ### Output items -/

inductive OutputType
  | message
  | reasoning
  | functionCall
  | customToolCall
  | other (type : String)
deriving DecidableEq, Repr

inductive OutputContentType
  | outputText
  | summaryText
  | other (type : String)
deriving DecidableEq, Repr

structure ResponsesOutputContent where
  type : OutputContentType
  text : String
deriving DecidableEq, Repr

/-- Nothing, a string, or the text of another value. -/
inductive RawArguments
  | absent
  | string (value : String)
  | json (text : String)
deriving DecidableEq, Repr

structure ResponsesOutput where
  type : OutputType
  id : String := ""
  status : String := ""
  role : String := ""
  content : List ResponsesOutputContent := []
  callId : String := ""
  name : String := ""
  arguments : RawArguments := .absent
deriving DecidableEq, Repr

/-- The value of a string, or else the text of the value. -/
def ResponsesOutput.argumentsString (output : ResponsesOutput) : String :=
  match output.arguments with
  | .absent => ""
  | .string value => value
  | .json text => if trimSpace text = "null" then "" else trimSpace text

/-! ### Responses -/

structure IncompleteDetails where
  reason : String
deriving DecidableEq, Repr

/-- The status is the string that its JSON holds, if there is any. -/
structure OpenAIResponsesResponse where
  id : String := ""
  createdAt : ℤ := 0
  status : Option String := none
  incompleteDetails : Option IncompleteDetails := none
  model : String := ""
  output : List ResponsesOutput := []
  usage : Option ChatUsage := none
deriving DecidableEq, Repr

/-! ### Events -/

inductive ResponsesEventType
  | created
  | completed
  | done
  | incomplete
  | failed
  | error
  | outputTextDelta
  | outputTextDone
  | outputItemAdded
  | outputItemDone
  | functionArgsDelta
  | functionArgsDone
  | customToolInputDelta
  | customToolInputDone
  | reasoningSummaryDelta
  | reasoningSummaryDone
  | reasoningTextDelta
  | reasoningTextDone
  | other (type : String)
deriving DecidableEq, Repr

structure ResponsesReasoningSummaryPart where
  type : OutputContentType
  text : String
deriving DecidableEq, Repr

structure ResponsesStreamResponse where
  type : ResponsesEventType
  response : Option OpenAIResponsesResponse := none
  delta : String := ""
  item : Option ResponsesOutput := none
  outputIndex : Option ℤ := none
  contentIndex : Option ℤ := none
  summaryIndex : Option ℤ := none
  itemID : String := ""
  part : Option ResponsesReasoningSummaryPart := none
deriving DecidableEq, Repr

end TokensFlux
