import TokensFlux.Convert.Message

/-!
# Claude requests to chat messages

The messages of `ClaudeToOpenAIRequest`.  A value of type `any` that the source decodes into blocks
(`Any2Type`) is what it decodes to.
-/

namespace TokensFlux

/-! ### Claude messages -/

inductive ClaudeBlockType
  | text
  | inputText
  | image
  | toolUse
  | toolResult
  | other (type : String)
deriving DecidableEq, Repr

structure ClaudeMessageSource where
  mediaType : String
  data : String
deriving Repr

inductive ToolResultContent
  | text (value : String)
  | media (json : String)
deriving Repr

structure ClaudeMediaMessage where
  type : ClaudeBlockType
  text : Option String := none
  source : Option ClaudeMessageSource := none
  cacheControl : Option Json := none
  id : String := ""
  name : String := ""
  input : Json := .null
  content : ToolResultContent := .media "null"
  toolUseId : String := ""
deriving Repr

def ClaudeMediaMessage.getText (block : ClaudeMediaMessage) : String :=
  block.text.getD ""

inductive ClaudeContent
  | null
  | text (value : String)
  | blocks (items : List ClaudeMediaMessage)
  | invalid (error : String)
deriving Repr

def ClaudeContent.parse : ClaudeContent → Except String (List ClaudeMediaMessage)
  | .null => .ok []
  | .blocks items => .ok items
  | .text _ =>
    .error "json: cannot unmarshal string into Go value of type []dto.ClaudeMediaMessage"
  | .invalid error => .error error

structure ClaudeMessage where
  role : String
  content : ClaudeContent
deriving Repr

structure ClaudeRequest where
  system : ClaudeContent := .null
  messages : List ClaudeMessage
deriving Repr

variable (request : ClaudeRequest)

def ClaudeRequest.searchToolNameByToolCallId (toolCallId : String) : String :=
  let blocks := request.messages.flatMap fun message => (message.content.parse.toOption).getD []
  ((blocks.find? (·.id = toolCallId)).map (·.name)).getD ""

/-! ### Conversion -/

/-- Tool results become messages as they are met. -/
structure BlockState where
  toolCalls : List ToolCallRequest := []
  mediaMessages : List MediaContent := []
  openAIMessages : List Message := []

def nilPointerPanic : String := "runtime error: invalid memory address or nil pointer dereference"

def toolResultMessage (block : ClaudeMediaMessage) : Message where
  role := "tool"
  name := some (if block.name = "" then request.searchToolNameByToolCallId
    block.toolUseId else block.name)
  toolCallId := block.toolUseId
  content :=
    match block.content with
    | .text value => .text value
    | .media json => .text json

def convertBlock (s : BlockState) (block : ClaudeMediaMessage) : Except String BlockState :=
  match block.type with
  | .text | .inputText =>
    .ok { s with mediaMessages := s.mediaMessages ++
      [{ type := .text, text := block.getText, cacheControl := block.cacheControl }] }
  | .image =>
    match block.source with
    | none => .error nilPointerPanic
    | some source =>
      let url := "data:" ++ source.mediaType ++ ";base64," ++ source.data
      .ok { s with mediaMessages := s.mediaMessages ++
        [{ type := .imageURL, payload := .object [("url", .string url)] }] }
  | .toolUse =>
    .ok { s with toolCalls := s.toolCalls ++
      [{ id := block.id, type := "function", name := block.name,
         arguments := block.input.marshal }] }
  | .toolResult =>
    .ok { s with openAIMessages := s.openAIMessages ++ [toolResultMessage request block] }
  | .other _ => .ok s

def convertBlocks (request : ClaudeRequest) :
    BlockState → List ClaudeMediaMessage → Except String BlockState
  | s, [] => .ok s
  | s, block :: blocks => do convertBlocks request (← convertBlock request s block) blocks

def convertClaudeMessage (openAIMessages : List Message) (message : ClaudeMessage) :
    Except String (List Message) := do
  let (openAIMessages, openAIMessage) ←
    match message.content with
    | .text value =>
      pure (openAIMessages, { role := message.role, content := .text value : Message })
    | content => do
      let blocks ← content.parse
      let s ← convertBlocks request { openAIMessages } blocks
      let toolCalls := if s.toolCalls ≠ [] then some s.toolCalls else none
      let content : MessageContent :=
        if s.mediaMessages ≠ [] ∧ s.toolCalls = [] then .media s.mediaMessages else .null
      pure (s.openAIMessages, { role := message.role, content, toolCalls })
  if openAIMessage.parseContent ≠ [] ∨ openAIMessage.toolCalls.isSome then
    return openAIMessages ++ [openAIMessage]
  else return openAIMessages

def convertClaudeMessages (request : ClaudeRequest) :
    List Message → List ClaudeMessage → Except String (List Message)
  | openAIMessages, [] => .ok openAIMessages
  | openAIMessages, message :: messages => do
    convertClaudeMessages request (← convertClaudeMessage request openAIMessages message) messages

def claudeSystemMessages (isOpenRouterClaude : Bool) (system : ClaudeContent) : List Message :=
  let systems := (system.parse.toOption).getD []
  let parsed : List Message :=
    if systems ≠ [] then
      if isOpenRouterClaude then
        [{ role := "system"
           content := .media (systems.map fun system =>
            { type := .text, text := system.getText, cacheControl := system.cacheControl }) }]
      else [{ role := "system", content := .text (String.join (systems.map (·.getText))) }]
    else []
  match system with
  | .null => []
  | .text value => if value ≠ "" then [{ role := "system", content := .text value }] else parsed
  | _ => parsed

def claudeToOpenAIMessages (isOpenRouterClaude : Bool) : Except String (List Message) :=
  convertClaudeMessages request (claudeSystemMessages isOpenRouterClaude
    request.system) request.messages

end TokensFlux
