import TokensFlux.Convert.Message
import TokensFlux.Convert.Chunk

/-!
# Gemini requests to chat messages

The messages and the stop list of `GeminiToOpenAIRequest`.  Pointers are options.
-/

namespace TokensFlux

/-- With what the array behind it holds after its end. -/
structure StringSlice where
  values : List String
  spare : List String := []
deriving DecidableEq, Repr

def StringSlice.upTo (s : StringSlice) (n : ℕ) : Except String (List String) :=
  let array := s.values ++ s.spare
  if n ≤ array.length then .ok (array.take n)
  else
    .error ("runtime error: slice bounds out of range [:" ++ toString n ++ "] with capacity " ++
      toString array.length)

structure GeminiInlineData where
  mimeType : String
  data : String
deriving Repr

structure GeminiFileData where
  mimeType : String
  fileUri : String
deriving Repr

structure GeminiFunctionCall where
  functionName : String
  arguments : Json := .null
deriving Repr

structure GeminiFunctionResponse where
  name : String
  response : Json := .null
deriving Repr

structure GeminiPart where
  text : String := ""
  inlineData : Option GeminiInlineData := none
  fileData : Option GeminiFileData := none
  functionCall : Option GeminiFunctionCall := none
  functionResponse : Option GeminiFunctionResponse := none
deriving Repr

structure GeminiChatContent where
  role : String := ""
  parts : List GeminiPart
deriving Repr

/-- As far as it is about messages and the stop list. -/
structure GeminiChatRequest where
  contents : List GeminiChatContent
  stopSequences : StringSlice := { values := [] }
  systemInstructions : Option GeminiChatContent := none
deriving Repr

structure GeminiOpenAIRequest where
  messages : List Message
  stop : Option (List String) := none
deriving Repr

def convertGeminiRoleToOpenAI (geminiRole : String) : String :=
  if geminiRole = "user" then "user"
  else if geminiRole = "model" then "assistant"
  else if geminiRole = "function" then "function"
  else "user"

def extractTextFromGeminiParts (parts : List GeminiPart) : String :=
  "\n".intercalate ((parts.map (·.text)).filter (· ≠ ""))

def geminiCallID (n : ℕ) : String := "call_" ++ toString n

/-- Function responses become messages as they are met. -/
structure GeminiPartState where
  mediaContents : List MediaContent := []
  toolCalls : List ToolCallRequest := []
  messages : List Message := []

def geminiImage (url mimeType : String) : MediaContent where
  type := .imageURL
  payload := .object [("url", .string url), ("detail", .string "auto"),
    ("MimeType", .string mimeType)]

def convertGeminiPart (s : GeminiPartState) (part : GeminiPart) : GeminiPartState :=
  if part.text ≠ "" then
    { s with mediaContents := s.mediaContents ++ [{ type := .text, text := part.text }] }
  else
    match part.inlineData, part.fileData, part.functionCall, part.functionResponse with
    | some data, _, _, _ =>
      { s with mediaContents := s.mediaContents ++
        [geminiImage ("data:" ++ data.mimeType ++ ";base64," ++ data.data) data.mimeType] }
    | none, some data, _, _ =>
      { s with mediaContents := s.mediaContents ++ [geminiImage data.fileUri data.mimeType] }
    | none, none, some call, _ =>
      { s with toolCalls := s.toolCalls ++
        [{ id := geminiCallID (s.toolCalls.length + 1), type := "function",
           name := call.functionName
           arguments := call.arguments.marshal }] }
    | none, none, none, some response =>
      { s with messages := s.messages ++
        [{ role := "tool", toolCallId := geminiCallID s.toolCalls.length
           content := .text response.response.marshal }] }
    | none, none, none, none => s

def geminiMediaMessage (role : String) : List MediaContent → Message
  | [] => { role }
  | [media] =>
    if media.type = .text then { role, content := .text media.text }
      else { role, content := .media [media] }
  | medias => { role, content := .media medias }

def convertGeminiContent (messages : List Message) (content : GeminiChatContent) : List Message :=
  let s := content.parts.foldl convertGeminiPart { messages }
  let role := convertGeminiRoleToOpenAI content.role
  let message : Message :=
    if s.toolCalls ≠ [] then { role, toolCalls := some s.toolCalls }
      else geminiMediaMessage role s.mediaContents
  if message.parseContent ≠ [] ∨ message.toolCalls.isSome
    then s.messages ++ [message] else s.messages

variable (request : GeminiChatRequest)

def geminiSystemMessages : List Message :=
  match request.systemInstructions with
  | none => []
  | some content =>
    [{ role := "system", content := .text (extractTextFromGeminiParts content.parts) }]

def geminiToOpenAIRequest : Except String GeminiOpenAIRequest := do
  let messages := request.contents.foldl convertGeminiContent []
  let stop ←
    if request.stopSequences.values ≠ [] then some <$> request.stopSequences.upTo 4 else pure none
  return { messages := geminiSystemMessages request ++ messages, stop }

/-! ### Chat chunks to Gemini responses

Each chunk is converted on its own.  An empty list of tool calls is taken for none. -/

structure GeminiUsageMetadata where
  promptTokenCount : ℤ
  candidatesTokenCount : ℤ := 0
  totalTokenCount : ℤ
deriving Repr

structure GeminiChatCandidate where
  content : GeminiChatContent
  finishReason : Option String := none
deriving Repr

structure GeminiChatResponse where
  candidates : List GeminiChatCandidate
  usageMetadata : GeminiUsageMetadata
deriving Repr

def geminiFinishReason (reason : String) : String :=
  if reason = "length" then "MAX_TOKENS"
  else if reason = "content_filter" then "SAFETY"
  else "STOP"

/-- `unmarshal` reads an object; what it does not read becomes one field. -/
def functionCallArgs (unmarshal : String → Option Json) (arguments : String) : Json :=
  if arguments ≠ "" then (unmarshal arguments).getD (.object [("arguments", .string arguments)])
  else .object []

variable (unmarshal : String → Option Json)

def ToolCallResponse.toGemini (toolCall : ToolCallResponse) : GeminiFunctionCall where
  functionName := toolCall.name
  arguments := functionCallArgs unmarshal toolCall.arguments

def ChunkChoice.toGemini (choice : ChunkChoice) : GeminiChatCandidate where
  finishReason := choice.finishReason.map geminiFinishReason
  content :=
    { role := "model"
      parts :=
        if choice.delta.toolCalls ≠ [] then
          choice.delta.toolCalls.map fun toolCall =>
            { functionCall := some (toolCall.toGemini unmarshal) }
        else if choice.delta.getContentString ≠ "" then [{ text := choice.delta.getContentString }]
        else [] }

def streamResponseOpenAI2Gemini (estimatePromptTokens : ℤ) (chunk : ChatChunk) :
    Option GeminiChatResponse :=
  let hasContent := chunk.choices.any fun c =>
    c.delta.getContentString ≠ "" || c.delta.toolCalls ≠ []
  let hasFinishReason := chunk.choices.any (·.finishReason.isSome)
  if !hasContent && !hasFinishReason then none
  else some
    { candidates := chunk.choices.map (·.toGemini unmarshal)
      usageMetadata :=
        match chunk.usage with
        | none =>
          { promptTokenCount := estimatePromptTokens, totalTokenCount := estimatePromptTokens }
        | some usage =>
          { promptTokenCount := usage.promptTokens
            candidatesTokenCount := usage.completionTokens
            totalTokenCount := usage.totalTokens } }

end TokensFlux
