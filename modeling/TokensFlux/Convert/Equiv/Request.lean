import TokensFlux.Convert.Request

/-!
# A chat request through the Responses format and back

A message is one input item, followed by one for each of its tool calls; the calls are read back
into the last message.
-/

namespace TokensFlux

open List Message Json

/-! ### Messages with string contents -/

/-- String or nil content; ids and names are trimmed and not empty. -/
structure PlainMessage (m : Message) : Prop where
  role : m.role ∈ ["system", "user", "assistant", "tool"]
  content : m.content = .null ∨ ∃ value, m.content = .text value
  toolCallId : m.role = "tool" → m.toolCallId ≠ "" ∧ trimSpace m.toolCallId = m.toolCallId
  toolCalls : m.role = "assistant" → ∀ c ∈ m.parseToolCalls, c.type = "function" ∧
    (c.id ≠ "" ∧ trimSpace c.id = c.id) ∧ c.name ≠ "" ∧ trimSpace c.name = c.name

def callData (calls : List ToolCallRequest) : List (String × String × String) :=
  calls.map fun c => (c.id, c.name, c.arguments)

/-- The same role, content (nil is empty), tool call id and tool calls, where such a message has
them. -/
structure SameMessage (m m' : Message) : Prop where
  role : m'.role = m.role
  content : m'.content = .text m.stringContent
  toolCallId : m.role = "tool" ∨ m.toolCallId = "" → m'.toolCallId = m.toolCallId
  toolCalls : m.role = "assistant" ∨ m.parseToolCalls = [] → callData m'.parseToolCalls =
    callData m.parseToolCalls

def systemTexts (messages : List Message) : List String :=
  ((messages.filter (·.role = "system")).map fun m => trimSpace m.stringContent).filter (· ≠ "")

/-! ### From chat -/

def callFields (c : ToolCallRequest) : List (String × Json) :=
  [("type", .string "function_call"), ("call_id", .string c.id), ("name", .string c.name),
    ("arguments", .string c.arguments)]

def messageFields (m : Message) : List (List (String × Json)) :=
  if m.role = "system" then []
  else if m.role = "tool" then
    [[("type", .string "function_call_output"), ("call_id", .string m.toolCallId),
      ("output", .string m.stringContent)]]
  else
    [("role", .string m.role), ("content", .string m.stringContent)] ::
      if m.role = "assistant" then m.parseToolCalls.map callFields else []

variable {m : Message}

theorem PlainMessage.itemContent (h : PlainMessage m) (role : String) :
    TokensFlux.itemContent role m = .string m.stringContent := by
  unfold TokensFlux.itemContent stringContent
  rcases h.content with hnull | ⟨_, htext⟩
  · rw [hnull]
  · rw [htext]

theorem PlainMessage.toolOutput (h : PlainMessage m) :
    TokensFlux.toolOutput m.content = m.stringContent := by
  unfold TokensFlux.toolOutput stringContent
  rcases h.content with hnull | ⟨_, htext⟩
  · rw [hnull]
  · rw [htext]

theorem PlainMessage.systemInstruction (h : PlainMessage m) : TokensFlux.systemInstruction m =
      if trimSpace m.stringContent ≠ "" then some (trimSpace m.stringContent) else none := by
  unfold TokensFlux.systemInstruction stringContent
  rcases h.content with hnull | ⟨_, htext⟩
  · rw [hnull]
    rfl
  · rw [htext]

theorem PlainMessage.functionCallItems (h : PlainMessage m) (hrole : m.role = "assistant") :
    m.parseToolCalls.filterMap functionCallItem =
      (m.parseToolCalls.map callFields).map .object := by
  rw [map_map, ← filterMap_eq_map]
  refine filterMap_congr fun c hc => ?_
  obtain ⟨htype, ⟨hid, hidTrim⟩, hname, hnameTrim⟩ := h.toolCalls hrole c hc
  unfold functionCallItem
  rw [hidTrim, if_neg hid, if_neg (by simp [htype]), hnameTrim, if_neg hname]
  rfl

theorem messageItems_eq (h : PlainMessage m) :
    messageItems m = (if m.role = "system" ∧ trimSpace m.stringContent ≠ ""
      then some (trimSpace m.stringContent)
      else none, (messageFields m).map .object) := by
  have hrole := h.role
  simp only [mem_cons, not_mem_nil, or_false] at hrole
  unfold messageItems messageFields
  rcases hrole with hrole | hrole | hrole | hrole
  · have htrim : trimSpace "system" = "system" := by decide +kernel
    rw [hrole, htrim]
    rw [h.systemInstruction]
    simp
  · have htrim : trimSpace "user" = "user" := by decide +kernel
    rw [hrole, htrim]
    dsimp only
    rw [h.itemContent]
    simp
  · have htrim : trimSpace "assistant" = "assistant" := by decide +kernel
    rw [hrole, htrim]
    dsimp only
    rw [h.itemContent, h.functionCallItems hrole]
    simp
  have htrim : trimSpace "tool" = "tool" := by decide +kernel
  obtain ⟨hid, hidTrim⟩ := h.toolCallId hrole
  rw [hrole, htrim]
  rw [h.toolOutput, hidTrim]
  simp [hid]

variable {messages : List Message}

theorem filterMap_messageItems (h : ∀ m ∈ messages, PlainMessage m) :
    messages.filterMap (fun m => (messageItems m).1) = systemTexts messages := by
  unfold systemTexts
  induction messages with
  | nil => rfl
  | cons m _ ih =>
    have hrest := ih fun m hm => h m (mem_cons_of_mem _ hm)
    have hm := congrArg Prod.fst (messageItems_eq (h m mem_cons_self))
    by_cases hrole : m.role = "system"
    · by_cases htext : trimSpace m.stringContent = ""
      · rw [filterMap_cons_none (by simp [hm, htext]), hrest]
        simp [hrole, htext]
      · rw [filterMap_cons_some (b := trimSpace m.stringContent) (by simp [hm, hrole, htext]),
          hrest]
        simp [hrole, htext]
    · rw [filterMap_cons_none (by simp [hm, hrole]), hrest]
      simp [hrole]

theorem flatMap_messageItems (h : ∀ m ∈ messages, PlainMessage m) :
    messages.flatMap (fun m => (messageItems m).2) =
      (messages.flatMap messageFields).map .object := by
  rw [map_flatMap]
  refine flatMap_congr fun m hm => ?_
  rw [messageItems_eq (h m hm)]

/-! ### To chat -/

theorem inputItemsToChat_append (items items' : List (List (String × Json)))
    (messages : List Message) :
    inputItemsToChat (items ++ items') messages =
      inputItemsToChat items messages >>= inputItemsToChat items' := by
  induction items generalizing messages with
  | nil => rfl
  | cons item _ ih =>
    rw [cons_append, inputItemsToChat, inputItemsToChat]
    cases responsesInputItemToChatMessages item messages with
    | error => rfl
    | ok next => exact ih next

theorem mapM_itemFields (items : List (List (String × Json))) :
    (items.map object).mapM itemFields = .ok items := by
  induction items with
  | nil => rfl
  | cons _ _ ih =>
    rw [map_cons, mapM_cons, ih]
    rfl

theorem responsesInputItemToChatMessages_call {c : ToolCallRequest} (hid : c.id ≠ "")
    (hidTrim : trimSpace c.id = c.id) (hname : c.name ≠ "") (hnameTrim : trimSpace c.name = c.name)
    (messages : List Message) {last : Message} (hlast : last.role = "assistant") :
    responsesInputItemToChatMessages (callFields c) (messages ++ [last]) =
      .ok (messages ++ [{ last with toolCalls := some (last.parseToolCalls ++
        [{ id := c.id, type := "function", name := c.name, arguments := c.arguments }]) }]) := by
  have htype : trimSpace "function_call" = "function_call" := by decide +kernel
  have hcall : responsesFunctionCallItemToChatToolCall (callFields c) =
      .ok { id := c.id, type := "function", name := c.name, arguments := c.arguments } := by
    simp [responsesFunctionCallItemToChatToolCall, callFields, field, interface2String, sprint,
      responsesCallID, responsesArgumentsString, hid, hidTrim, hname, hnameTrim, lookup_cons]
  unfold responsesInputItemToChatMessages
  rw [hcall]
  simp [callFields, field, interface2String, sprint, htype, appendToolCallToLastAssistant, hlast]

theorem responsesInputItemToChatMessages_role {role : String}
    (htrim : trimSpace role = role) (hne : role ≠ "") (text : String) (messages : List Message) :
    responsesInputItemToChatMessages [("role", .string role), ("content", .string text)] messages =
      .ok (messages ++ [{ role, content := .text text }]) := by
  have hblank : trimSpace "" = "" := by decide +kernel
  simp [responsesInputItemToChatMessages, field, lookup_cons, interface2String, sprint, htrim,
    hne, hblank, responsesInputContentToChatContent]
  rfl

theorem responsesInputItemToChatMessages_output {callID : String}
    (htrim : trimSpace callID = callID) (output : String) (messages : List Message) :
    responsesInputItemToChatMessages [("type", .string "function_call_output"),
      ("call_id", .string callID), ("output", .string output)] messages =
      .ok (messages ++ [{ role := "tool", toolCallId := callID, content := .text output }]) := by
  have htype : trimSpace "function_call_output" = "function_call_output" := by decide +kernel
  simp [responsesInputItemToChatMessages, field, lookup_cons, interface2String, sprint, htrim,
    htype, responsesArgumentsString]
  rfl

theorem inputItemsToChat_calls {calls : List ToolCallRequest}
    (h : ∀ c ∈ calls, c.type = "function" ∧ (c.id ≠ "" ∧ trimSpace c.id = c.id) ∧ c.name ≠ "" ∧
      trimSpace c.name = c.name) (messages :
    List Message) {last : Message} (hlast : last.role = "assistant") :
    ∃ last', inputItemsToChat (calls.map callFields)
    (messages ++ [last]) = .ok (messages ++ [last']) ∧
      last'.role = last.role ∧ last'.content = last.content ∧ last'.toolCallId = last.toolCallId ∧
      callData last'.parseToolCalls = callData last.parseToolCalls ++ callData calls := by
  induction calls generalizing last with
  | nil => exact ⟨last, rfl, rfl, rfl, rfl, (append_nil _).symm⟩
  | cons c _ ih =>
    obtain ⟨-, ⟨hid, hidTrim⟩, hname, hnameTrim⟩ := h c mem_cons_self
    have hcall := responsesInputItemToChatMessages_call hid hidTrim hname hnameTrim messages hlast
    obtain ⟨last', hrun, hrole, hcontent, hcallId, hdata⟩ :=
      @ih (fun c hc => h c (mem_cons_of_mem _ hc))
      { last with toolCalls := some (last.parseToolCalls ++
        [{ id := c.id, type := "function", name := c.name, arguments := c.arguments }]) } hlast
    refine ⟨last', ?_, hrole, hcontent, hcallId, ?_⟩
    · rw [map_cons, inputItemsToChat, hcall]
      exact hrun
    · rw [hdata]
      simp [callData, parseToolCalls]

theorem inputItemsToChat_message (h : PlainMessage m) (hrole : m.role ≠ "system")
    (messages : List Message) :
    ∃ m', inputItemsToChat (messageFields m) messages = .ok (messages ++ [m']) ∧
      SameMessage m m' := by
  unfold messageFields
  rw [if_neg hrole]
  by_cases htool : m.role = "tool"
  · rw [if_pos htool]
    refine ⟨{ role := "tool", toolCallId := m.toolCallId, content := .text m.stringContent }, ?_,
      ?_⟩
    · rw [inputItemsToChat, responsesInputItemToChatMessages_output (h.toolCallId htool).2]
      rfl
    refine ⟨htool.symm, rfl, fun _ => rfl, fun hcalls => ?_⟩
    rw [htool] at hcalls
    rw [hcalls.resolve_left (by decide)]
    rfl
  rw [if_neg htool]
  have htrim : trimSpace m.role = m.role ∧ m.role ≠ "" := by
    have hroles := h.role
    simp only [mem_cons, not_mem_nil, or_false] at hroles
    rcases hroles with heq | heq | heq | heq <;> rw [heq] <;> decide +kernel
  have hitem := responsesInputItemToChatMessages_role htrim.1 htrim.2 m.stringContent messages
  by_cases hassistant : m.role = "assistant"
  · obtain ⟨m', hrun, hrole', hcontent, hcallId, hdata⟩ :=
      @inputItemsToChat_calls _ (h.toolCalls hassistant)
      messages { role := m.role, content := .text m.stringContent } hassistant
    rw [if_pos hassistant]
    refine ⟨m', ?_, hrole', hcontent, fun hid => ?_, fun _ => hdata⟩
    · rw [inputItemsToChat, hitem]
      exact hrun
    · rw [hcallId, hid.resolve_left htool]
  rw [if_neg hassistant]
  refine ⟨{ role := m.role, content := .text m.stringContent }, ?_, rfl, rfl,
    fun hid => ?_, fun hcalls => ?_⟩
  · rw [inputItemsToChat, hitem]
    rfl
  · exact (hid.resolve_left htool).symm
  · rw [hcalls.resolve_left hassistant]
    rfl

theorem inputItemsToChat_messages {ms : List Message} (h : ∀ m ∈ ms, PlainMessage m)
    (messages : List Message) :
    ∃ rest, inputItemsToChat (ms.flatMap messageFields) messages = .ok (messages ++ rest) ∧
      List.Forall₂ SameMessage (ms.filter (·.role ≠ "system")) rest := by
  induction ms generalizing messages with
  | nil => exact ⟨[], by rw [append_nil]; rfl, .nil⟩
  | cons m _ ih =>
    have hrest := ih fun m hm => h m (mem_cons_of_mem _ hm)
    rw [flatMap_cons, inputItemsToChat_append]
    by_cases hrole : m.role = "system"
    · obtain ⟨rest, hrun, hsame⟩ := hrest messages
      have hnil : messageFields m = [] := if_pos hrole
      refine ⟨rest, ?_, ?_⟩
      · rw [hnil]
        exact hrun
      · rwa [filter_cons_of_neg (by simp [hrole])]
    obtain ⟨m', hm', hsame'⟩ := inputItemsToChat_message (h m mem_cons_self) hrole messages
    obtain ⟨rest, hrun, hsame⟩ := hrest (messages ++ [m'])
    refine ⟨m' :: rest, ?_, ?_⟩
    · rw [hm']
      rw [append_assoc] at hrun
      exact hrun
    · rw [filter_cons_of_pos (by simp [hrole])]
      exact .cons hsame' hsame

/-! ### The whole trip -/

theorem trimSpace_intercalate_ne (hne : systemTexts messages ≠ []) (sep : String) :
    trimSpace (sep.intercalate (systemTexts messages)) ≠ "" := by
  have htexts : ∀ text ∈ systemTexts messages, trimSpace text ≠ "" := by
    intro text htext
    obtain ⟨hmem, hblank⟩ := mem_filter.mp htext
    obtain ⟨m, -, rfl⟩ := mem_map.mp hmem
    rw [trimSpace_trimSpace]
    simpa using hblank
  intro hblank
  rcases hlist : systemTexts messages with _ | ⟨text, texts⟩
  · exact hne hlist
  rw [hlist] at htexts hblank
  refine htexts text mem_cons_self (trimSpace_eq_empty_iff.mpr fun c hc => ?_)
  refine trimSpace_eq_empty_iff.mp hblank c ?_
  cases texts with
  | nil => rwa [String.intercalate_singleton]
  | cons =>
    rw [String.intercalate_cons_cons, String.toList_append, String.toList_append]
    exact mem_append_left _ (mem_append_left _ hc)

def leadingMessages (texts : List String) : List Message :=
  if texts ≠ [] then [{ role := "system", content := .text ("\n\n".intercalate texts) }] else []

theorem responsesRequestMessagesToChat_eq {req : OpenAIResponsesRequest}
    {items : List (List (String × Json))} (hinput : req.input = some (.array (items.map .object)))
    (hinstructions : req.instructions = if systemTexts messages ≠ []
      then some (.string ("\n\n".intercalate (systemTexts messages))) else none) :
    responsesRequestMessagesToChat req =
      inputItemsToChat items (leadingMessages (systemTexts messages)) := by
  unfold responsesRequestMessagesToChat leadingMessages
  rw [hinput, hinstructions]
  dsimp only
  rw [mapM_itemFields]
  by_cases htexts : systemTexts messages = []
  · rw [if_neg (not_not.mpr htexts), if_neg (not_not.mpr htexts)]
    rfl
  rw [if_pos htexts, if_pos htexts]
  simp only [rawJSONPresent, if_true, Option.map_some, responsesJSONString]
  rw [if_pos (trimSpace_intercalate_ne htexts _)]
  rfl

/-- A chat request survives the trip: its system texts in one leading message, then the other
messages. -/
theorem chatRequest_roundTrip (req : GeneralOpenAIRequest) (hmodel : req.model ≠ "")
    (hn : req.n.getD 1 ≤ 1) (h : ∀ m ∈ req.messages, PlainMessage m) :
    ∃ out rest, chatCompletionsRequestToResponsesRequest req
      >>= responsesRequestToChatCompletionsRequest = .ok out ∧
      out.model = req.model ∧ out.messages = leadingMessages (systemTexts req.messages) ++ rest ∧
      List.Forall₂ SameMessage (req.messages.filter (·.role ≠ "system")) rest := by
  obtain ⟨rest, hrun, hsame⟩ :=
    inputItemsToChat_messages h (leadingMessages (systemTexts req.messages))
  refine ⟨{ model := req.model, messages := leadingMessages (systemTexts req.messages) ++ rest },
    rest, ?_, rfl, rfl, hsame⟩
  unfold chatCompletionsRequestToResponsesRequest
  rw [if_neg hmodel, if_neg (by omega), filterMap_messageItems h, flatMap_messageItems h]
  simp only [bind, Except.bind]
  unfold responsesRequestToChatCompletionsRequest validateResponsesRequestChatUnsupportedFields
  have hblank : trimSpace "" = "" := by decide +kernel
  rw [responsesRequestMessagesToChat_eq rfl rfl, hrun]
  simp [rawJSONPresent, hblank, hmodel]
  rfl

def weatherMessages : List Message :=
  [{ role := "system", content := .text " Be brief. " },
   { role := "user", content := .text "And now?" },
   { role := "assistant"
     toolCalls := some [{ id := "call_1", type := "function", name := "weather",
                          arguments := "[1]" }] },
   { role := "tool", toolCallId := "call_1", content := .text "sun" }]

theorem plainMessage_weatherMessages : ∀ m ∈ weatherMessages, PlainMessage m := by
  intro m hm
  simp only [weatherMessages, mem_cons, not_mem_nil, or_false] at hm
  rcases hm with rfl | rfl | rfl | rfl
  · exact ⟨by simp, .inr ⟨_, rfl⟩, by simp, by simp⟩
  · exact ⟨by simp, .inr ⟨_, rfl⟩, by simp, by simp⟩
  · refine ⟨by simp, .inl rfl, by simp, fun _ c hc => ?_⟩
    rw [mem_singleton.mp hc]
    exact ⟨rfl, ⟨by decide, by decide +kernel⟩, by decide, by decide +kernel⟩
  · exact ⟨by simp, .inr ⟨_, rfl⟩, fun _ => ⟨by simp, by decide +kernel⟩, by simp⟩

theorem chatRequest_roundTrip_weatherMessages : (∀ m ∈ weatherMessages, PlainMessage m) ∧
      ∃ out rest, chatCompletionsRequestToResponsesRequest
        { model := "m", messages := weatherMessages } >>=
          responsesRequestToChatCompletionsRequest = .ok out ∧
        out.model = "m" ∧ out.messages = leadingMessages (systemTexts weatherMessages) ++ rest ∧
        List.Forall₂ SameMessage (weatherMessages.filter (·.role ≠ "system")) rest :=
  ⟨plainMessage_weatherMessages,
   chatRequest_roundTrip { model := "m", messages := weatherMessages } (by simp)
    (by simp) plainMessage_weatherMessages⟩

end TokensFlux
