import TokensFlux.Common.Json

/-!
# Chat messages

The content is of type `any`: nil, a string, the list that JSON decodes to, or a list of
`dto.MediaContent`.
-/

namespace TokensFlux

/-! ### Content -/

inductive ContentType
  | text
  | imageURL
  | inputAudio
  | file
  | videoURL
  | other (type : String)
deriving DecidableEq, Repr

namespace ContentType

def ofText (type : String) : ContentType :=
  if type = "text" then .text
  else if type = "image_url" then .imageURL
  else if type = "input_audio" then .inputAudio
  else if type = "file" then .file
  else if type = "video_url" then .videoURL
  else .other type

end ContentType

/-- The payload is the field of its type: `ImageUrl`, `InputAudio`, `File` or `VideoUrl`. -/
structure MediaContent where
  type : ContentType
  text : String := ""
  payload : Json := .null
  cacheControl : Option Json := none
deriving Repr

inductive MessageContent
  | null
  | text (value : String)
  | array (items : List Json)
  | media (contents : List MediaContent)
  | other (value : Json)
deriving Repr

/-! ### Messages -/

structure ToolCallRequest where
  id : String := ""
  type : String := ""
  name : String := ""
  arguments : String := ""
  custom : Option Json := none
deriving Repr

/-- The raw JSON of the tool calls is the list that it holds, if there is any. -/
structure Message where
  role : String
  content : MessageContent := .null
  name : Option String := none
  reasoningContent : Option String := none
  reasoning : Option String := none
  toolCalls : Option (List ToolCallRequest) := none
  toolCallId : String := ""
deriving Repr

namespace Message

variable (m : Message)

def getReasoningContent : String :=
  (m.reasoningContent.or m.reasoning).getD ""

def parseToolCalls : List ToolCallRequest :=
  m.toolCalls.getD []

def itemText : Json → String
  | .object fields =>
    match Json.field fields "type", Json.field fields "text" with
    | .string "text", .string text => text
    | _, _ => ""
  | _ => ""

def stringContent : String :=
  match m.content with
  | .text value => value
  | .array items => String.join (items.map itemText)
  | _ => ""

def itemImage (image : Json) : Json :=
  match image with
  | .string url => .object [("url", .string url), ("detail", .string "high")]
  | .object fields =>
    let url :=
      match Json.field fields "url" with
      | .string url => url
      | _ => ""
    let detail :=
      match Json.field fields "detail" with
      | .string detail => detail
      | _ => "high"
    .object [("url", .string url), ("detail", .string detail)]
  | _ => .object [("url", .string ""), ("detail", .string "high")]

def itemFile (fields : List (String × Json)) : Option MediaContent :=
  match Json.field fields "file_id" with
  | .string id => some { type := .file, payload := .object [("file_id", .string id)] }
  | _ =>
    match Json.field fields "filename", Json.field fields "file_data" with
    | .string name, .string data =>
      some { type := .file,
             payload := .object [("filename", .string name), ("file_data", .string data)] }
    | _, _ => none

def parseItem : Json → Option MediaContent
  | .object fields =>
    match Json.field fields "type" with
    | .string type =>
      match ContentType.ofText type with
      | .text =>
        match Json.field fields "text" with
        | .string text => some { type := .text, text }
        | _ => none
      | .imageURL =>
        some { type := .imageURL, payload := itemImage (Json.field fields "image_url") }
      | .inputAudio =>
        match Json.field fields "input_audio" with
        | .object audio =>
          match Json.field audio "data", Json.field audio "format" with
          | .string data, .string format =>
            some { type := .inputAudio,
                   payload := .object [("data", .string data), ("format", .string format)] }
          | _, _ => none
        | _ => none
      | .file =>
        match Json.field fields "file" with
        | .object file => itemFile file
        | _ => none
      | .videoURL =>
        match Json.field fields "video_url" with
        | .string url => some { type := .videoURL, payload := .object [("url", .string url)] }
        | _ => none
      | .other _ => none
    | _ => none
  | _ => none

def parseContent : List MediaContent :=
  match m.content with
  | .null | .other _ => []
  | .text value => [{ type := .text, text := value }]
  | .array items => items.filterMap parseItem
  | .media contents => contents

end Message

end TokensFlux
