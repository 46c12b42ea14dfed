import TokensFlux.Convert.Completion

/-!
# A chat response through the Responses format and back

An empty text is replaced by the reasoning, ids and names of tool calls are trimmed, a missing total
is filled in, and tokens written to the cache are lost; the rest survives.
-/

namespace TokensFlux

open List Option

/-! ### Replies -/

def ToolCallRequest.data (call : ToolCallRequest) : String × String × String :=
  (call.id, call.name, call.arguments)

/-- One choice, whose tool calls have ids and names. -/
structure OneReply (resp : OpenAITextResponse) (choice : OpenAITextResponseChoice) : Prop where
  choices : resp.choices = [choice]
  calls : ∀ c ∈ choice.message.parseToolCalls, (c.type = "" ∨ c.type = "function") ∧
    c.id ≠ "" ∧ c.name ≠ ""
  finishReason : (choice.finishReason = "tool_calls" ∧ choice.message.parseToolCalls ≠ []) ∨
    (choice.finishReason ∈ ["stop", "length", "content_filter"] ∧
      choice.message.parseToolCalls = [])

structure SameUsage (usage usage' : ChatUsage) : Prop where
  prompt : usage'.promptTokens = usage.promptTokens
  completion : usage'.completionTokens = usage.completionTokens
  total : usage'.totalTokens = usage.totalTokens
  cached : usage'.promptTokensDetails.cachedTokens = usage.promptTokensDetails.cachedTokens
  cachedCreation : usage'.promptTokensDetails.cachedCreationTokens =
    usage.promptTokensDetails.cachedCreationTokens
  reasoning : usage'.completionTokenDetails.reasoningTokens =
    usage.completionTokenDetails.reasoningTokens

structure SameChoice (choice choice' : OpenAITextResponseChoice) : Prop where
  text : choice'.message.stringContent = choice.message.stringContent
  reasoning : choice'.message.getReasoningContent = choice.message.getReasoningContent
  toolCalls : choice'.message.parseToolCalls.map (·.data) =
    choice.message.parseToolCalls.map (·.data)
  finishReason : choice'.finishReason = choice.finishReason

def SameReply (resp resp' : OpenAITextResponse) : Prop :=
  ∃ choice choice', resp.choices = [choice] ∧ resp'.choices = [choice'] ∧
    SameChoice choice choice' ∧ SameUsage resp.usage resp'.usage

/-! ### Usage -/

variable (usage : ChatUsage)

theorem cachedTokens_roundTrip :
    (usageFromResponsesUsage (usageFromChatUsage usage)).promptTokensDetails.cachedTokens =
      usage.promptTokensDetails.cachedTokens := by
  unfold usageFromResponsesUsage usageFromChatUsage
  dsimp only
  split_ifs with hdetails
  · rfl
  · push Not at hdetails
    exact hdetails.1.symm

theorem cachedCreationTokens_roundTrip :
    (usageFromResponsesUsage (usageFromChatUsage usage)).promptTokensDetails.cachedCreationTokens =
      0 := by
  unfold usageFromChatUsage
  dsimp only
  split_ifs <;> rfl

theorem reasoningTokens_roundTrip :
    (usageFromResponsesUsage (usageFromChatUsage usage)).completionTokenDetails.reasoningTokens =
      usage.completionTokenDetails.reasoningTokens := by
  unfold usageFromResponsesUsage usageFromChatUsage
  dsimp only
  split_ifs with hdetails
  · rfl
  · push Not at hdetails
    exact hdetails.1.symm

theorem totalTokens_roundTrip : (usageFromResponsesUsage (usageFromChatUsage usage)).totalTokens =
      if usage.totalTokens ≠ 0 then usage.totalTokens
        else usage.promptTokens + usage.completionTokens := by
  unfold usageFromResponsesUsage usageFromChatUsage
  split_ifs <;> rfl

theorem sameUsage_roundTrip_iff :
    SameUsage usage (usageFromResponsesUsage (usageFromChatUsage usage)) ↔
      (usage.totalTokens ≠ 0 ∨ usage.promptTokens + usage.completionTokens = 0) ∧
        usage.promptTokensDetails.cachedCreationTokens = 0 := by
  constructor
  · intro h
    have htotal := h.total
    rw [totalTokens_roundTrip] at htotal
    refine ⟨?_, ?_⟩
    · by_cases hzero : usage.totalTokens = 0
      · rw [if_neg (not_not.mpr hzero)] at htotal
        exact .inr (htotal.trans hzero)
      · exact .inl hzero
    · rw [← h.cachedCreation, cachedCreationTokens_roundTrip]
  rintro ⟨htotal, hcreation⟩
  refine ⟨rfl, rfl, ?_, cachedTokens_roundTrip usage, ?_, reasoningTokens_roundTrip usage⟩
  · rw [totalTokens_roundTrip]
    split_ifs with hzero
    · rfl
    · rw [htotal.resolve_left hzero]
      exact (not_not.mp hzero).symm
  · rw [cachedCreationTokens_roundTrip, hcreation]

/-! ### Items -/

theorem map_filterMap_mapIdx_eq_iff {α β γ δ : Type} {f : ℕ → α → γ}
    {k : γ → Option β} {data : β → δ} {data' : α → δ} {P : α → Prop} {l : List α}
    (h : ∀ a ∈ l, ∀ i, (k (f i a)).map data = some (data' a) ↔ P a) :
    ((l.mapIdx f).filterMap k).map data = l.map data' ↔ ∀ a ∈ l, P a := by
  induction l generalizing f with
  | nil => simp
  | cons a l ih =>
    have hrest := @ih (fun i => f (i + 1)) fun b hb i => h b (mem_cons_of_mem _ hb) (i + 1)
    have hhead := h a mem_cons_self 0
    rw [mapIdx_cons, map_cons, forall_mem_cons, ← hhead, ← hrest]
    cases hk : k (f 0 a) with
    | none =>
      -- One call is missing, so that the lengths differ.
      have hle := length_filterMap_le k (l.mapIdx fun i => f (i + 1))
      rw [length_mapIdx] at hle
      rw [filterMap_cons_none hk]
      constructor
      · intro heq
        have hlength := congrArg length heq
        simp only [length_cons, length_map] at hlength
        omega
      · rintro ⟨hnone, -⟩
        cases hnone
    | some => rw [filterMap_cons_some hk, map_cons, cons.injEq, map_some, Option.some.injEq]

theorem outputToolCall_eq_iff {call : ToolCallRequest}
    (htype : call.type = "" ∨ call.type = "function")
    (hid : call.id ≠ "") (hname : call.name ≠ "") (responseID : String) (index : ℕ)
    (status : String) :
    (outputToolCall (chatToolCallToResponsesOutput call responseID index status)).map (·.data) =
      some call.data ↔
      trimSpace call.id = call.id ∧ trimSpace call.name = call.name := by
  unfold chatToolCallToResponsesOutput
  rw [if_pos htype]
  generalize hcallID : (if trimSpace call.id = "" then responseID ++ "_call_" ++ toString index
    else trimSpace call.id) = callID
  unfold outputToolCall
  rw [ite_self]
  by_cases hblank : trimSpace call.name = ""
  · rw [if_neg (by simp [hblank])]
    refine ⟨fun h => (some_ne_none _ h.symm).elim, fun ⟨_, h⟩ => (hname ?_).elim⟩
    rw [← h, hblank]
  rw [if_pos (by simp [hblank, OutputType.isTool]), map_some, Option.some.injEq]
  unfold ToolCallRequest.data
  simp only [Prod.mk.injEq]
  constructor
  · rintro ⟨heq, hname', -⟩
    refine ⟨?_, hname'⟩
    rw [← heq, trimSpace_trimSpace]
  · rintro ⟨htrim, hname'⟩
    refine ⟨?_, hname', rfl⟩
    rw [← hcallID, if_neg (by rwa [htrim]), htrim, htrim]

variable {choice : OpenAITextResponseChoice} {resp : OpenAITextResponse}

variable (message : Message)

variable (id status : String)

def callOutput : List ResponsesOutput :=
  message.parseToolCalls.mapIdx fun i toolCall => chatToolCallToResponsesOutput toolCall id i status

theorem callOutput_plain (h : OneReply resp choice) (id status : String) :
    ∀ out ∈ callOutput choice.message id status, out.type = .functionCall ∧ out.content = [] := by
  intro out hout
  obtain ⟨i, hi, rfl⟩ := mem_mapIdx.mp hout
  have htype := (h.calls _ (getElem_mem hi)).1
  unfold chatToolCallToResponsesOutput
  rw [if_pos htype]
  exact ⟨rfl, rfl⟩

theorem choiceOutput_eq : choiceOutput message id status =
      (if message.stringContent ≠ "" then
        [{ type := .message, id := id ++ "_msg_0", status, role := "assistant",
            content := [{ type := .outputText, text := message.stringContent }] }]
      else []) ++
      (if message.getReasoningContent ≠ "" then
        [{ type := .reasoning, id := id ++ "_reasoning_0", status,
            content := [{ type := .summaryText, text := message.getReasoningContent }] }]
      else []) ++ callOutput message id status := rfl

variable {response : OpenAIResponsesResponse}

theorem extractReasoning_choiceOutput (h : OneReply resp choice) {id status : String}
    (hout : response.output = choiceOutput choice.message id status) :
    extractReasoningTextFromResponses response = choice.message.getReasoningContent := by
  have hcalls : (callOutput choice.message id status).filter (·.type = .reasoning) = [] := by
    refine filter_eq_nil_iff.mpr fun out hmem => ?_
    simp [(callOutput_plain h id status out hmem).1]
  unfold extractReasoningTextFromResponses
  rw [hout, choiceOutput_eq, filter_append, hcalls, append_nil]
  by_cases htext : choice.message.stringContent = "" <;>
    by_cases hreasoning : choice.message.getReasoningContent = "" <;> simp [htext, hreasoning]

theorem extractOutputText_choiceOutput (h : OneReply resp choice) {id status : String}
    (hout : response.output = choiceOutput choice.message id status) :
    extractOutputTextFromResponses response = if choice.message.stringContent ≠ ""
      then choice.message.stringContent
      else choice.message.getReasoningContent := by
  have hfilter : (callOutput choice.message id status).filter
      (fun out => out.type = .message && (out.role = "" || out.role = "assistant")) = [] := by
    refine filter_eq_nil_iff.mpr fun out hmem => ?_
    simp [(callOutput_plain h id status out hmem).1]
  have hcontent : (callOutput choice.message id status).flatMap
      (fun out => out.content.map (·.text)) = [] := by
    refine flatMap_eq_nil_iff.mpr fun out hmem => ?_
    rw [(callOutput_plain h id status out hmem).2, map_nil]
  unfold extractOutputTextFromResponses
  rw [hout, choiceOutput_eq]
  simp only [filter_append, flatMap_append, hfilter, hcontent, append_nil]
  by_cases htext : choice.message.stringContent = "" <;>
    by_cases hreasoning : choice.message.getReasoningContent = "" <;> simp [htext, hreasoning]

theorem filterMap_choiceOutput : (choiceOutput message id status).filterMap outputToolCall =
      (callOutput message id status).filterMap outputToolCall := by
  rw [choiceOutput_eq, filterMap_append]
  split_ifs <;> rfl

theorem toolCalls_choiceOutput_iff (h : OneReply resp choice) (id status : String) :
    ((choiceOutput choice.message id status).filterMap outputToolCall).map (·.data) =
        choice.message.parseToolCalls.map (·.data) ↔
      ∀ c ∈ choice.message.parseToolCalls, trimSpace c.id = c.id ∧ trimSpace c.name = c.name := by
  rw [filterMap_choiceOutput]
  refine map_filterMap_mapIdx_eq_iff fun call hcall i => ?_
  obtain ⟨htype, hid, hname⟩ := h.calls call hcall
  exact outputToolCall_eq_iff htype hid hname id i status

/-! ### The whole trip -/

theorem chatCompletionsResponseToResponsesResponse_eq (h : OneReply resp choice)
    (now : ℤ) (id : String) :
    ∃ response, (chatCompletionsResponseToResponsesResponse now resp id).1 = response ∧
      response.status = some (responsesStatusFromChatFinishReason choice.finishReason).1 ∧
      response.incompleteDetails = (responsesStatusFromChatFinishReason choice.finishReason).2 ∧
      response.usage = some (usageFromChatUsage resp.usage) ∧
      ∃ status, response.output = choiceOutput choice.message id status := by
  refine ⟨_, rfl, ?_⟩
  unfold chatCompletionsResponseToResponsesResponse
  rw [h.choices]
  exact ⟨rfl, rfl, rfl, _, rfl⟩

theorem finishReason_roundTrip (h : OneReply resp choice)
    (hstatus : response.status = some (responsesStatusFromChatFinishReason choice.finishReason).1)
    (hdetails : response.incompleteDetails =
      (responsesStatusFromChatFinishReason choice.finishReason).2)
    {calls : List ToolCallRequest} (hcalls : calls = [] ↔ choice.message.parseToolCalls = []) :
    (responsesFinishReasonFromStatus (some response)).getD (if calls ≠ []
      then "tool_calls" else "stop") = choice.finishReason := by
  unfold responsesFinishReasonFromStatus OpenAIResponsesResponse.statusString
  dsimp only
  rw [hstatus, hdetails]
  rcases h.finishReason with ⟨hreason, hne⟩ | ⟨hreason, hnil⟩
  · rw [hreason, if_pos (mt hcalls.mp hne)]
    decide +kernel
  · rw [if_neg (not_not.mpr (hcalls.mpr hnil))]
    simp only [mem_cons, not_mem_nil, or_false] at hreason
    rcases hreason with hreason | hreason | hreason <;> rw [hreason] <;> decide +kernel

theorem responsesResponseToChatCompletionsResponse_eq
    (response : OpenAIResponsesResponse) (id : String) :
    ∃ choice', (responsesResponseToChatCompletionsResponse response id).1.choices = [choice'] ∧
      choice'.message.stringContent = extractOutputTextFromResponses response ∧
      choice'.message.getReasoningContent = extractReasoningTextFromResponses response ∧
      choice'.message.parseToolCalls = response.output.filterMap outputToolCall ∧
      choice'.finishReason = (responsesFinishReasonFromStatus (some response)).getD
        (if response.output.filterMap outputToolCall ≠ [] then "tool_calls" else "stop") := by
  refine ⟨_, rfl, rfl, ?_, ?_, rfl⟩
  · show ((if extractReasoningTextFromResponses response ≠ "" then _ else none).or none).getD "" = _
    split_ifs with hreasoning
    · rfl
    · exact (not_not.mp hreasoning).symm
  show (if response.output.filterMap outputToolCall ≠ [] then _ else none).getD [] = _
  split_ifs with hcalls
  · rfl
  · exact (not_not.mp hcalls).symm

/-- When a chat response survives the trip through the Responses format. -/
theorem sameReply_roundTrip_iff (h : OneReply resp choice) (now : ℤ)
    (id id' : String) : SameReply resp
        (responsesResponseToChatCompletionsResponse
          (chatCompletionsResponseToResponsesResponse now resp id).1 id').1 ↔
      (choice.message.stringContent ≠ "" ∨ choice.message.getReasoningContent = "") ∧
      (∀ c ∈ choice.message.parseToolCalls, trimSpace c.id = c.id ∧ trimSpace c.name = c.name) ∧
      (resp.usage.totalTokens ≠ 0 ∨ resp.usage.promptTokens + resp.usage.completionTokens = 0) ∧
      resp.usage.promptTokensDetails.cachedCreationTokens = 0 := by
  obtain ⟨response, hresponse, hstatus, hdetails, husage, status, hout⟩ :=
    chatCompletionsResponseToResponsesResponse_eq h now id
  obtain ⟨choice', hchoice', htext', hreasoning', hcalls', hfinish'⟩ :=
    responsesResponseToChatCompletionsResponse_eq response id'
  have husage' : (responsesResponseToChatCompletionsResponse response id').1.usage =
      usageFromResponsesUsage (usageFromChatUsage resp.usage) := by
    show (response.usage.map usageFromResponsesUsage).getD {} = _
    rw [husage]
    rfl
  rw [extractOutputText_choiceOutput h hout] at htext'
  rw [extractReasoning_choiceOutput h hout] at hreasoning'
  rw [hout] at hcalls' hfinish'
  rw [hresponse, ← sameUsage_roundTrip_iff, ← toolCalls_choiceOutput_iff h id status,
    ← hcalls', ← husage']
  constructor
  · rintro ⟨_, _, hchoice, hback, hsame, hsameUsage⟩
    obtain rfl := singleton_inj.mp (h.choices.symm.trans hchoice)
    obtain rfl := singleton_inj.mp (hchoice'.symm.trans hback)
    refine ⟨?_, hsame.toolCalls, hsameUsage⟩
    by_cases hempty : choice.message.stringContent = ""
    · right
      have htext := htext'.symm.trans hsame.text
      rw [if_neg (not_not.mpr hempty)] at htext
      exact htext.trans hempty
    · exact .inl hempty
  rintro ⟨htext, htoolCalls, hsameUsage⟩
  refine ⟨choice, choice', h.choices, hchoice', ⟨?_, hreasoning', htoolCalls, ?_⟩, hsameUsage⟩
  · rw [htext']
    split_ifs with hempty
    · rfl
    · rw [htext.resolve_left hempty]
      exact (not_not.mp hempty).symm
  · rw [hfinish', ← hcalls']
    refine finishReason_roundTrip h hstatus hdetails ?_
    rw [← map_eq_nil_iff, htoolCalls, map_eq_nil_iff]

variable (content : MessageContent)

def weatherChoice : OpenAITextResponseChoice where
  message :=
    { role := "assistant", content, reasoningContent := some "hm"
      toolCalls := some [{ id := "call_1", type := "function", name := "weather",
                           arguments := "[1]" }] }
  finishReason := "tool_calls"

def weatherReply (cachedCreationTokens : ℤ) : OpenAITextResponse where
  choices := [weatherChoice content]
  usage :=
    { promptTokens := 7, completionTokens := 2, totalTokens := 9
      promptTokensDetails := { cachedCreationTokens := cachedCreationTokens } }

theorem oneReply_weatherReply (cachedCreationTokens : ℤ) :
    OneReply (weatherReply content cachedCreationTokens) (weatherChoice content) := by
  refine ⟨rfl, fun c hc => ?_, .inl ⟨rfl, cons_ne_nil _ _⟩⟩
  rw [mem_singleton.mp hc]
  exact ⟨.inr rfl, by decide, by decide⟩

theorem sameReply_weatherReply :
    OneReply (weatherReply (.text "Let me see.") 0) (weatherChoice (.text "Let me see.")) ∧
      SameReply (weatherReply (.text "Let me see.") 0) (responsesResponseToChatCompletionsResponse
        (chatCompletionsResponseToResponsesResponse 0 (weatherReply (.text "Let me see.") 0)
          "resp").1 "chat").1 := by
  refine ⟨oneReply_weatherReply _ _,
    (sameReply_roundTrip_iff (oneReply_weatherReply _ _) 0 "resp" "chat").mpr
    ⟨.inl (by decide), fun c hc => ?_, .inl (by decide), rfl⟩⟩
  rw [mem_singleton.mp hc]
  decide +kernel

/-- Without text the reasoning comes back as the text, and the tokens written to the cache are
lost. -/
theorem not_sameReply_weatherReply : OneReply (weatherReply .null 5) (weatherChoice .null) ∧
      extractOutputTextFromResponses
        (chatCompletionsResponseToResponsesResponse 0 (weatherReply .null 5) "resp").1 = "hm" ∧
      ¬ SameReply (weatherReply .null 5) (responsesResponseToChatCompletionsResponse
        (chatCompletionsResponseToResponsesResponse 0 (weatherReply .null 5) "resp").1
          "chat").1 := by
  refine ⟨oneReply_weatherReply _ _, by decide +kernel, ?_⟩
  rintro ⟨_, _, -, -, -, husage⟩
  exact absurd husage.cachedCreation (by decide +kernel)

end TokensFlux
