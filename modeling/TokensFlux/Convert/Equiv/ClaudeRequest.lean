import TokensFlux.Convert.ClaudeRequest
import TokensFlux.Convert.Equiv.Message

/-!
# The content of a Claude request

A message becomes the messages of its tool results, then one with its tool calls, or with its texts
if it has no calls.
-/

namespace TokensFlux

open ClaudeContent List Message Piece

/-! ### Conversations -/

def blockPiece (block : ClaudeMediaMessage) : Option Piece :=
  match block.type with
  | .text | .inputText => some (.text block.getText)
  | .toolUse => some (.call block.id block.name block.input.marshal)
  | .toolResult => some (.result block.toolUseId)
  | .image | .other _ => none

variable (message : ClaudeMessage)

def claudePieces : List Piece :=
  match message.content with
  | .text value => [.text value]
  | .blocks items => items.filterMap blockPiece
  | .null | .invalid _ => []

/-- A string, or blocks of texts, tool calls and tool results. -/
structure PlainClaudeMessage (message : ClaudeMessage) : Prop where
  role : message.role = "user" ∨ message.role = "assistant"
  content : ∀ error, message.content ≠ .invalid error
  blocks : ∀ items, message.content = .blocks items → ∀ block ∈ items, (blockPiece block).isSome

/-! ### One message -/

variable (blocks : List ClaudeMediaMessage)

def blockMedia : List MediaContent :=
  (blocks.filter fun block => block.type = .text || block.type = .inputText).map fun block =>
    { type := .text, text := block.getText, cacheControl := block.cacheControl }

def blockCalls : List ToolCallRequest :=
  (blocks.filter (·.type = .toolUse)).map fun block =>
    { id := block.id, type := "function", name := block.name, arguments := block.input.marshal }

def blockResults (request : ClaudeRequest) (blocks : List ClaudeMediaMessage) : List Message :=
  (blocks.filter (·.type = .toolResult)).map (toolResultMessage request)

variable {request : ClaudeRequest}

theorem convertBlocks_eq {blocks : List ClaudeMediaMessage}
    (h : ∀ block ∈ blocks, (blockPiece block).isSome) (s : BlockState) :
    convertBlocks request s blocks = .ok
      { toolCalls := s.toolCalls ++ blockCalls blocks
        mediaMessages := s.mediaMessages ++ blockMedia blocks
        openAIMessages := s.openAIMessages ++ blockResults request blocks } := by
  induction blocks generalizing s with
  | nil => simp [convertBlocks, blockCalls, blockMedia, blockResults]
  | cons block _ ih =>
    have hrest := fun s => ih (fun b hb => h b (mem_cons_of_mem _ hb)) s
    have hblock := h block mem_cons_self
    unfold blockPiece at hblock
    unfold convertBlocks convertBlock
    cases htype : block.type <;> rw [htype] at hblock <;> try cases hblock
    all_goals
      simp only [bind, Except.bind]
      rw [hrest]
      simp [blockCalls, blockMedia, blockResults, htype]

def ownMessage : List Message :=
  match message.content with
  | .text value => [{ role := message.role, content := .text value }]
  | .blocks items =>
    if blockCalls items ≠ [] then [{ role := message.role, toolCalls := some (blockCalls items) }]
    else if blockMedia items ≠ []
      then [{ role := message.role, content := .media (blockMedia items) }]
    else []
  | .null | .invalid _ => []

def resultMessages (request : ClaudeRequest) (message : ClaudeMessage) : List Message :=
  match message.content with
  | .blocks items => blockResults request items
  | .text _ | .null | .invalid _ => []

theorem convertClaudeMessage_eq {message : ClaudeMessage} (h : PlainClaudeMessage message)
    (openAIMessages : List Message) : convertClaudeMessage request openAIMessages message =
      .ok (openAIMessages ++ (resultMessages request message ++ ownMessage message)) := by
  unfold convertClaudeMessage resultMessages ownMessage
  cases hcontent : message.content with
  | invalid error => exact absurd hcontent (h.content error)
  | null => simp [parse, convertBlocks, bind, Except.bind, pure, Except.pure, parseContent]
  | text => simp [bind, Except.bind, pure, Except.pure, parseContent]
  | blocks items =>
    simp only [parse, convertBlocks_eq (h.blocks items hcontent), bind, Except.bind,
      pure, Except.pure]
    by_cases hcalls : blockCalls items = []
    · by_cases hmedia : blockMedia items = [] <;> simp [hcalls, hmedia, parseContent]
    · simp [hcalls, parseContent]

theorem convertClaudeMessages_eq {messages : List ClaudeMessage}
    (h : ∀ m ∈ messages, PlainClaudeMessage m)
    (openAIMessages : List Message) : convertClaudeMessages request openAIMessages messages =
      .ok (openAIMessages ++ messages.flatMap fun m => resultMessages request m ++
        ownMessage m) := by
  induction messages generalizing openAIMessages with
  | nil => simp [convertClaudeMessages]
  | cons message _ ih =>
    rw [convertClaudeMessages, convertClaudeMessage_eq (h message mem_cons_self)]
    simp only [bind, Except.bind]
    rw [ih fun m hm => h m (mem_cons_of_mem _ hm), flatMap_cons, append_assoc, append_assoc]

/-! ### Their pieces -/

variable (items : List ClaudeMediaMessage)

theorem pieces_blockResults :
    (blockResults request items).flatMap openAIPieces =
      (results (items.filterMap blockPiece)).map .result := by
  unfold blockResults
  induction items with
  | nil => rfl
  | cons block _ ih =>
    cases htype : block.type <;> simp [htype, blockPiece, result?, ih]
    rfl

theorem pieces_resultMessages :
    (resultMessages request message).flatMap openAIPieces =
      (results (claudePieces message)).map .result := by
  unfold resultMessages claudePieces
  cases message.content with
  | blocks items => exact pieces_blockResults items
  | text | null | invalid => rfl

theorem calls_blockCalls :
    calls (items.filterMap blockPiece) = (blockCalls items).map fun c =>
      (c.id, c.name, c.arguments) := by
  unfold blockCalls
  induction items with
  | nil => rfl
  | cons block _ ih =>
    cases htype : block.type <;> simp [htype, blockPiece, call?, ih]

theorem texts_blockMedia :
    texts ((blockMedia items).filterMap mediaPiece) = texts (items.filterMap blockPiece) := by
  unfold blockMedia at *
  induction items with
  | nil => rfl
  | cons block =>
    cases htype : block.type <;> simp_all [blockPiece, mediaPiece, text?]

theorem rendered_ownMessage {message : ClaudeMessage} (h : PlainClaudeMessage message) :
    Rendered (claudePieces message) ((ownMessage message).flatMap openAIPieces) := by
  have hrole : message.role ≠ "tool" := by
    rcases h.role with hrole | hrole <;> rw [hrole] <;> decide
  unfold claudePieces ownMessage
  cases hcontent : message.content with
  | invalid error => exact absurd hcontent (h.content error)
  | null => exact ⟨rfl, rfl, rfl⟩
  | text value =>
    have hpieces : openAIPieces { role := message.role, content := .text value } =
      [.text value] := by
      simp [openAIPieces, hrole, parseContent, parseToolCalls, mediaPiece]
    rw [flatMap_singleton, hpieces]
    exact ⟨rfl, rfl, rfl⟩
  | blocks items =>
    dsimp only
    by_cases hcalls : blockCalls items = []
    · have hno : calls (items.filterMap blockPiece) = [] := by
        rw [calls_blockCalls, hcalls, map_nil]
      rw [if_neg (not_not.mpr hcalls)]
      by_cases hmedia : blockMedia items = []
      · rw [if_neg (not_not.mpr hmedia)]
        refine ⟨rfl, hno.symm, ?_⟩
        rw [if_pos hno, ← texts_blockMedia, hmedia]
        rfl
      have hpieces : openAIPieces { role := message.role, content := .media (blockMedia items) } =
          (blockMedia items).filterMap mediaPiece := by
        simp [openAIPieces, hrole, parseContent, parseToolCalls]
      rw [if_pos hmedia, flatMap_singleton, hpieces]
      refine ⟨(media_only_texts _).1, ?_, ?_⟩
      · rw [(media_only_texts _).2, hno]
      · rw [if_pos hno, texts_blockMedia]
    have hne : calls (items.filterMap blockPiece) ≠ [] := by
      rw [calls_blockCalls]
      exact mt map_eq_nil_iff.mp hcalls
    have hpieces : openAIPieces { role := message.role, toolCalls := some (blockCalls items) } =
        (blockCalls items).map fun c => .call c.id c.name c.arguments := by
      simp [openAIPieces, hrole, parseContent, parseToolCalls]
    rw [if_pos hcalls, flatMap_singleton, hpieces]
    refine ⟨?_, ?_, ?_⟩
    · simp [results, filterMap_eq_nil_iff, result?]
    · rw [calls_map_call, calls_blockCalls]
    · rw [if_neg hne]
      simp [texts, filterMap_eq_nil_iff, text?]

/-- The content of a Claude request is kept if and only if no message has both a tool call and a
text, and no tool result comes after its own call in one message. -/
theorem keeps_claudeToOpenAIMessages_iff (request : ClaudeRequest) (isOpenRouterClaude : Bool)
    (h : ∀ m ∈ request.messages, PlainClaudeMessage m) :
    ∃ messages, claudeToOpenAIMessages request isOpenRouterClaude =
        .ok (claudeSystemMessages isOpenRouterClaude request.system ++ messages) ∧
      (Keeps (request.messages.flatMap claudePieces) (messages.flatMap openAIPieces) ↔
        ∀ m ∈ request.messages, (texts (claudePieces m) = [] ∨ calls (claudePieces m) = []) ∧
          ∀ before id after, claudePieces m = before ++ .result id :: after →
          callsOf id before = []) := by
  refine ⟨_, convertClaudeMessages_eq h _, ?_⟩
  have htarget : (request.messages.flatMap fun m => resultMessages request m ++
      ownMessage m).flatMap openAIPieces =
      (request.messages.map fun m => Rendering.mk (claudePieces m)
        ((ownMessage m).flatMap openAIPieces)).flatMap
        (·.target) := by
    rw [flatMap_assoc, flatMap_map]
    refine flatMap_congr fun m _ => ?_
    rw [flatMap_append, pieces_resultMessages]
    rfl
  have hsource : request.messages.flatMap claudePieces =
      (request.messages.map fun m => Rendering.mk (claudePieces m)
        ((ownMessage m).flatMap openAIPieces)).flatMap (·.source) := by
    rw [flatMap_map]
  rw [htarget, hsource, keeps_iff]
  · exact forall_mem_map
  · intro x hx
    obtain ⟨m, hm, rfl⟩ := mem_map.mp hx
    exact rendered_ownMessage (h m hm)

def claudeWeather (withCall : Bool) : ClaudeRequest where
  messages :=
    [{ role := "assistant"
       content := .blocks ({ type := .text, text := some "Let me see." } ::
        if withCall then [{ type := .toolUse, id := "toolu_1", name := "weather" }] else []) },
      { role := "user"
        content := .blocks [{ type := .toolResult, toolUseId := "toolu_1", content := .text "sun" },
          { type := .text, text := some "So?" }] }]

theorem plainClaudeMessage_claudeWeather (withCall : Bool) :
    ∀ m ∈ (claudeWeather withCall).messages, PlainClaudeMessage m := by
  intro m hm
  simp only [claudeWeather, mem_cons, not_mem_nil, or_false] at hm
  rcases hm with rfl | rfl
  · refine ⟨.inr rfl, (by intro _ h; cases h), fun items hitems block hblock => ?_⟩
    rw [← blocks.inj hitems] at hblock
    cases withCall <;> simp at hblock
    · rw [hblock]
      rfl
    · rcases hblock with rfl | rfl <;> rfl
  refine ⟨.inl rfl, (by intro _ h; cases h), fun items hitems block hblock => ?_⟩
  rw [← blocks.inj hitems] at hblock
  simp only [mem_cons, not_mem_nil, or_false] at hblock
  rcases hblock with rfl | rfl <;> rfl

theorem keeps_claudeWeather : (∀ m ∈ (claudeWeather false).messages, PlainClaudeMessage m) ∧
      ∃ messages, claudeToOpenAIMessages (claudeWeather false) false = .ok ([] ++ messages) ∧
        (Keeps ((claudeWeather false).messages.flatMap claudePieces)
          (messages.flatMap openAIPieces) ↔
          ∀ m ∈ (claudeWeather false).messages,
            (texts (claudePieces m) = [] ∨ calls (claudePieces m) = []) ∧
            ∀ before id after, claudePieces m = before ++ .result id :: after →
            callsOf id before = []) :=
  ⟨plainClaudeMessage_claudeWeather false,
    keeps_claudeToOpenAIMessages_iff (claudeWeather false) false
      (plainClaudeMessage_claudeWeather false)⟩

/-- The text beside a tool call is lost. -/
theorem not_keeps_claudeWeather : (∀ m ∈ (claudeWeather true).messages, PlainClaudeMessage m) ∧
      ∃ messages, claudeToOpenAIMessages (claudeWeather true) false = .ok messages ∧
        texts ((claudeWeather true).messages.flatMap claudePieces) = ["Let me see.", "So?"] ∧
        texts (messages.flatMap openAIPieces) = ["So?"] ∧
        ¬ Keeps ((claudeWeather true).messages.flatMap claudePieces)
        (messages.flatMap openAIPieces) := by
  refine ⟨plainClaudeMessage_claudeWeather true, _,
    convertClaudeMessages_eq (plainClaudeMessage_claudeWeather true) _,
    by decide +kernel, by decide +kernel, ?_⟩
  intro hkeeps
  exact absurd hkeeps.texts (by decide +kernel)

end TokensFlux
