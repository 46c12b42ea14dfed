import TokensFlux.Convert.Message

/-!
# Chat requests and Responses requests

The requests are not nil; the fields that are not about messages are left out.
-/

namespace TokensFlux

structure GeneralOpenAIRequest where
  model : String
  n : Option ℤ := none
  messages : List Message
deriving Repr

structure OpenAIResponsesRequest where
  model : String
  input : Option Json := none
  instructions : Option Json := none
  conversation : Option Json := none
  previousResponseID : String := ""
  prompt : Option Json := none
  contextManagement : Option Json := none
deriving Repr

/-! ### From chat -/

def MediaContent.toJson (part : MediaContent) : Json :=
  let text := if part.text ≠ "" then [("text", Json.string part.text)] else []
  let cacheControl := (part.cacheControl.map fun value => ("cache_control", value)).toList
  match part.type with
  | .text => .object ([("type", .string "text")] ++ text ++ cacheControl)
  | .imageURL =>
    .object ([("type", .string "image_url"), ("image_url", part.payload)] ++ text ++ cacheControl)
  | .inputAudio =>
    .object ([("type", .string "input_audio"), ("input_audio", part.payload)] ++
      text ++ cacheControl)
  | .file => .object ([("type", .string "file"), ("file", part.payload)] ++ text ++ cacheControl)
  | .videoURL =>
    .object ([("type", .string "video_url"), ("video_url", part.payload)] ++ text ++ cacheControl)
  | .other type => .object ([("type", .string type)] ++ text ++ cacheControl)

def toolOutput : MessageContent → String
  | .null => ""
  | .text value => value
  | .array items => (Json.array items).marshal
  | .media contents => (Json.array (contents.map (·.toJson))).marshal
  | .other value => value.marshal

def systemInstruction (msg : Message) : Option String :=
  match msg.content with
  | .null => none
  | .text value => if trimSpace value ≠ "" then some (trimSpace value) else none
  | _ =>
    let texts := (msg.parseContent.filter fun part => part.type =
      .text && trimSpace part.text ≠ "").map (·.text)
    let joined := trimSpace (String.intercalate "\n" texts)
    if joined ≠ "" then some joined else none

def normalizeChatImageURLToString (v : Json) : Json :=
  match v with
  | .object fields =>
    let url := (Json.field fields "url").interface2String
    if url ≠ "" then .string url else v
  | _ => v

def contentPart (role : String) (part : MediaContent) : Json :=
  match part.type with
  | .text =>
    .object [("type", .string (if role = "assistant" then "output_text" else "input_text")),
      ("text", .string part.text)]
  | .imageURL =>
    .object [("type", .string "input_image"),
      ("image_url", normalizeChatImageURLToString part.payload)]
  | .inputAudio => .object [("type", .string "input_audio"), ("input_audio", part.payload)]
  | .file => .object [("type", .string "input_file"), ("file", part.payload)]
  | .videoURL => .object [("type", .string "input_video"), ("video_url", part.payload)]
  | .other type => .object [("type", .string type)]

def functionCallItem (tc : ToolCallRequest) : Option Json :=
  if trimSpace tc.id = "" then none
  else if tc.type ≠ "" ∧ tc.type ≠ "function" then none
  else if trimSpace tc.name = "" then none
  else
    some (.object [("type", .string "function_call"), ("call_id", .string tc.id),
      ("name", .string (trimSpace tc.name)), ("arguments", .string tc.arguments)])

def itemContent (role : String) (msg : Message) : Json :=
  match msg.content with
  | .null => .string ""
  | .text value => .string value
  | _ => .array (msg.parseContent.map (contentPart role))

def messageItems (msg : Message) : Option String × List Json :=
  let role := trimSpace msg.role
  if role = "" then (none, [])
  else if role = "tool" ∨ role = "function" then
    let callID := trimSpace msg.toolCallId
    let output := toolOutput msg.content
    if callID = "" then
      (none, [.object [("role", .string "user"),
        ("content", .string ("[tool_output_missing_call_id] " ++ output))]])
    else
      (none, [.object [("type", .string "function_call_output"), ("call_id", .string callID),
        ("output", .string output)]])
  else if role = "system" ∨ role = "developer" then (systemInstruction msg, [])
  else
    let item := Json.object [("role", .string role), ("content", itemContent role msg)]
    (none, item :: if role = "assistant" then msg.parseToolCalls.filterMap functionCallItem else [])

def chatCompletionsRequestToResponsesRequest (req : GeneralOpenAIRequest) :
    Except String OpenAIResponsesRequest :=
  if req.model = "" then .error "model is required"
  else if req.n.getD 1 > 1 then .error "n>1 is not supported in responses compatibility mode"
  else
    let instructionsParts := req.messages.filterMap fun msg => (messageItems msg).1
    let inputItems := req.messages.flatMap fun msg => (messageItems msg).2
    .ok
      { model := req.model
        input := some (.array inputItems)
        instructions :=
          if instructionsParts ≠ [] then some
            (.string (String.intercalate "\n\n" instructionsParts)) else none }

/-! ### To chat -/

def rawJSONPresent : Option Json → Bool
  | none | some .null => false
  | some _ => true

variable (req : OpenAIResponsesRequest)

def validateResponsesRequestChatUnsupportedFields : Except String Unit :=
  let unsupported :=
    (if rawJSONPresent req.conversation then ["conversation"] else []) ++
    (if trimSpace req.previousResponseID ≠ "" then ["previous_response_id"] else []) ++
    (if rawJSONPresent req.prompt then ["prompt"] else []) ++
    (if rawJSONPresent req.contextManagement then ["context_management"] else [])
  if unsupported ≠ [] then
    .error ("responses to chat conversion does not support stateful fields: " ++
      String.intercalate ", " unsupported)
  else .ok ()

def responsesJSONString : Json → String
  | .string value => value
  | value => value.marshal

variable (item : List (String × Json))

def responsesCallID : String :=
  let callID := trimSpace (Json.field item "call_id").interface2String
  if callID ≠ "" then callID else trimSpace (Json.field item "id").interface2String

/-- `responseToolOutputToChatContent` repeats it. -/
def responsesArgumentsString : Json → String
  | .null => ""
  | .string value => value
  | value => value.marshal

def responsesFunctionCallItemToChatToolCall : Except String ToolCallRequest :=
  let name := trimSpace (Json.field item "name").interface2String
  if name = "" then .error "function_call item is missing name"
  else
    .ok
      { id := responsesCallID item
        type := "function"
        name
        arguments := responsesArgumentsString (Json.field item "arguments") }

/-- It does not fail. -/
def responsesCustomToolCallItemToChatToolCall : ToolCallRequest where
  id := responsesCallID item
  type := "custom"
  custom := some (.object item)
  name := trimSpace (Json.field item "name").interface2String
  arguments := responsesArgumentsString (Json.field item "input")

def appendToolCallToLastAssistant (messages : List Message)
    (toolCall : ToolCallRequest) : List Message :=
  match messages.getLast? with
  | some last =>
    if last.role = "assistant" then
      messages.dropLast ++ [{ last with toolCalls := some (last.parseToolCalls ++ [toolCall]) }]
    else messages ++ [{ role := "assistant", toolCalls := some [toolCall] }]
  | none => [{ role := "assistant", toolCalls := some [toolCall] }]

variable (part : List (String × Json))

def presentFields (keys : List String) : List (String × Json) :=
  keys.filterMap fun key => (part.lookup key).map fun value => (key, value)

/-- A field of its own, or the fields of the part that belong to it, or the part. -/
def partFields (key : String) (keys : List String) : Json :=
  match part.lookup key with
  | some value => value
  | none => if presentFields part keys = [] then .object part else .object (presentFields part keys)

def responsesImagePartToChatImageURL : Json :=
  partFields part "image_url" ["url", "file_id", "detail"]

def responsesFilePartToChatFile : Json :=
  partFields part "file" ["file_id", "file_data", "filename", "file_url"]

def responsesPartPayload (key : String) : Json :=
  match part.lookup key with
  | some value => value
  | none => .object (part.filter (·.1 ≠ "type"))

def responsesVideoPartToChatVideoURL : Json :=
  match part.lookup "video_url" with
  | some value =>
    match value with
    | .object fields =>
      let url := (Json.field fields "url").interface2String
      if url ≠ "" then .string url else value
    | _ => value
  | none =>
    let url := (Json.field part "url").interface2String
    if url ≠ "" then .string url else responsesPartPayload part "video_url"

/-- The part, and its text if it is only a text. -/
def chatPart (rawPart : Json) : Json × Option String :=
  match rawPart with
  | .object part =>
    let partType := trimSpace (Json.field part "type").interface2String
    if partType = "input_text" ∨ partType = "output_text" ∨ partType = "text" then
      let text := (Json.field part "text").interface2String
      (.object [("type", .string "text"), ("text", .string text)], some text)
    else if partType = "input_image" then
      (.object [("type", .string "image_url"),
        ("image_url", responsesImagePartToChatImageURL part)], none)
    else if partType = "input_file" then
      (.object [("type", .string "file"), ("file", responsesFilePartToChatFile part)], none)
    else if partType = "input_audio" then
      (.object [("type", .string "input_audio"),
        ("input_audio", responsesPartPayload part "input_audio")], none)
    else if partType = "input_video" then
      (.object [("type", .string "video_url"),
        ("video_url", responsesVideoPartToChatVideoURL part)], none)
    else (rawPart, none)
  | _ => (rawPart, none)

def responsesContentPartsToChatContent (parts : List Json) : MessageContent :=
  if parts.all fun part => (chatPart part).2.isSome then
    .text (String.join (parts.map fun part => (chatPart part).2.getD ""))
  else .array (parts.map fun part => (chatPart part).1)

def responsesInputContentToChatContent : Json → MessageContent
  | .null => .text ""
  | .string value => .text value
  | .array parts => responsesContentPartsToChatContent parts
  | value => .other value

def responsesInputItemToChatMessages (messages : List Message) : Except String (List Message) := do
  let itemType := trimSpace (Json.field item "type").interface2String
  if itemType = "function_call" then
    let toolCall ← responsesFunctionCallItemToChatToolCall item
    return appendToolCallToLastAssistant messages toolCall
  else if itemType = "custom_tool_call" then
    return appendToolCallToLastAssistant messages (responsesCustomToolCallItemToChatToolCall item)
  else if itemType = "function_call_output" then
    return messages ++
      [{ role := "tool"
         toolCallId := trimSpace (Json.field item "call_id").interface2String
         content := .text (responsesArgumentsString (Json.field item "output")) }]
  else
    let role := trimSpace (Json.field item "role").interface2String
    return messages ++
      [{ role := if role = "" then "user" else role
         content := responsesInputContentToChatContent (Json.field item "content") }]

/-- What Go calls a value that is not an object. -/
def jsonValueName : Json → String
  | .null => "null"
  | .bool _ => "bool"
  | .number _ => "number"
  | .string _ => "string"
  | .array _ => "array"
  | .object _ => "object"

def itemFields : Json → Except String (List (String × Json))
  | .object fields => .ok fields
  | .null => .ok []
  | value =>
    .error ("invalid input array: json: cannot unmarshal " ++ jsonValueName value ++
      " into Go value of type map[string]interface \x7b\x7d")

def inputItemsToChat : List (List (String × Json)) → List Message → Except String (List Message)
  | [], messages => .ok messages
  | item :: items, messages =>
    do inputItemsToChat items (← responsesInputItemToChatMessages item messages)

def responsesRequestMessagesToChat : Except String (List Message) :=
  let instructions := if rawJSONPresent req.instructions
    then req.instructions.map responsesJSONString else none
  let messages : List Message :=
    match instructions with
    | some text => if trimSpace text ≠ "" then [{ role := "system", content := .text text }] else []
    | none => []
  match req.input with
  | none | some .null => .ok messages
  | some (.string value) => .ok (messages ++ [{ role := "user", content := .text value }])
  | some (.array values) => do
    let items ← values.mapM itemFields
    inputItemsToChat items messages
  | some (.object _) => .error "unsupported responses input type \"object\""
  | some (.bool _) => .error "unsupported responses input type \"boolean\""
  | some (.number _) => .error "unsupported responses input type \"number\""

def responsesRequestToChatCompletionsRequest : Except String GeneralOpenAIRequest := do
  if req.model = "" then throw "model is required"
  validateResponsesRequestChatUnsupportedFields req
  let messages ← responsesRequestMessagesToChat req
  return { model := req.model, messages }

end TokensFlux
