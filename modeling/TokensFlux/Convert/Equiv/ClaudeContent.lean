import TokensFlux.Convert.Equiv.ClaudeDelta
import TokensFlux.Lib.Guarded

/-!
# What a conversion loses

The client gets exactly the part of text, reasoning and arguments that is `kept`.
-/

namespace TokensFlux

open List

/-- Tool calls are told apart by their indices. -/
inductive ContentKind
  | text
  | thinking
  | tool (index : ℤ)
deriving DecidableEq, Repr

def toolContent (kind : ContentKind) : ℕ → List ToolCallResponse → List Char
  | _, [] => []
  | position, toolCall :: toolCalls =>
    (if kind = .tool (ClaudeConvertInfo.toolOffset position toolCall)
      then toolCall.arguments.toList else []) ++ toolContent kind (position + 1) toolCalls

def ChoiceDelta.carried (delta : ChoiceDelta) : ContentKind → List Char
  | .text => delta.getContentString.toList
  | .thinking => delta.getReasoningContent.toList
  | .tool index => toolContent (.tool index) 0 delta.toolCalls

def ChatChunk.carried (chunk : ChatChunk) (kind : ContentKind) : List Char :=
  match chunk.choices.head? with
  | none => []
  | some choice => choice.delta.carried kind

/-- `base` is the block of the tool call with index 0. -/
def ClaudeEvent.content (base : ℤ) : ClaudeEvent → ContentKind → List Char
  | .contentBlockDelta _ (.textDelta text), .text => text.toList
  | .contentBlockDelta _ (.thinkingDelta thinking), .thinking => thinking.toList
  | .contentBlockDelta i (.inputJsonDelta partialJson), .tool index =>
    if i = base + index then partialJson.toList else []
  | _, _ => []

namespace ClaudeConvertInfo

variable (env : ClaudeEnv)

def sent (kind : ContentKind) : ClaudeConvertInfo → List ChatChunk → List Char
  | _, [] => []
  | info, chunk :: chunks =>
    let (info, events) := info.handleStreamFormat env chunk
    events.flatMap (·.content info.toolCallBaseIndex kind) ++ sent kind info chunks

/-! ### What is kept -/

/-- In the first chunk: the first tool call, with index 0, and the reasoning or else the text. -/
def keptFirst (delta : ChoiceDelta) : ChoiceDelta where
  toolCalls := (delta.toolCalls.take 1).map fun toolCall => { toolCall with index := some 0 }
  reasoningContent := some delta.getReasoningContent
  content := if delta.getReasoningContent ≠ "" then none else delta.content

/-- In the other chunks: the tool calls, or else the reasoning, or else the text. -/
def keptLater (delta : ChoiceDelta) : ChoiceDelta :=
  if delta.toolCalls ≠ [] then { toolCalls := delta.toolCalls }
  else if delta.getReasoningContent ≠ "" then { reasoningContent := some delta.getReasoningContent }
  else { content := delta.content }

/-- The message has ended, or the chunk waits for the usage. -/
def Skips (info : ClaudeConvertInfo) (chunk : ChatChunk) (choice : ChunkChoice) : Prop :=
  info.done = true ∨ info.sendResponseCount ≠ 0 ∧ choice.isFinished = true ∧ chunk.usage = none
deriving Decidable

def kept (info : ClaudeConvertInfo) (chunk : ChatChunk) : ChoiceDelta :=
  match chunk.choices.head? with
  | none => {}
  | some choice =>
    if info.Skips chunk choice then {}
    else if info.sendResponseCount = 0 then keptFirst choice.delta
    else keptLater choice.delta

/-- No content is lost at a chunk: a chunk that is skipped carries none, and no chunk carries
content next to the part that is kept. -/
def KeepsContent (info : ClaudeConvertInfo) (chunk : ChatChunk) : Prop :=
  ∀ choice, chunk.choices.head? = some choice → if info.Skips chunk choice then
      choice.delta.getContentString = "" ∧ choice.delta.getReasoningContent = "" ∧
        ∀ toolCall ∈ choice.delta.toolCalls, toolCall.arguments = ""
    else if info.sendResponseCount = 0 then
      (choice.delta.getReasoningContent = "" ∨ choice.delta.getContentString = "") ∧
        (∀ toolCall ∈ choice.delta.toolCalls.head?,
          toolCall.arguments = "" ∨ toolCall.index.getD 0 = 0) ∧
        ∀ toolCall ∈ choice.delta.toolCalls.tail, toolCall.arguments = ""
    else if choice.delta.toolCalls ≠ [] then
      choice.delta.getReasoningContent = "" ∧ choice.delta.getContentString = ""
    else choice.delta.getReasoningContent = "" ∨ choice.delta.getContentString = ""

/-! ### The client gets what is kept -/

theorem content_stopOpenBlocks (info : ClaudeConvertInfo) (base : ℤ) (kind : ContentKind) :
    info.stopOpenBlocks.flatMap (·.content base kind) = [] := by
  unfold stopOpenBlocks
  split <;> simp [ClaudeEvent.content]

theorem content_stopMessage (info : ClaudeConvertInfo) (usage : Option ChatUsage)
    (reason : String) (base : ℤ) (kind : ContentKind) :
    (info.stopMessage usage reason).2.flatMap (·.content base kind) = [] := by
  unfold stopMessage
  rw [flatMap_append, flatMap_append, content_stopOpenBlocks]
  cases usage <;> rfl

theorem content_advance (info : ClaudeConvertInfo) (base : ℤ) (kind : ContentKind) :
    info.stopOpenBlocksAndAdvance.2.flatMap (·.content base kind) = [] := by
  unfold stopOpenBlocksAndAdvance
  split
  · rfl
  all_goals exact info.content_stopOpenBlocks base kind

theorem content_inputJsonDelta (base offset : ℤ) (arguments : String) (kind : ContentKind) :
    (ClaudeEvent.contentBlockDelta (base + offset) (.inputJsonDelta arguments)).content base kind
      = if kind = .tool offset then arguments.toList else [] := by
  cases kind with
  | text | thinking => rfl
  | tool =>
    refine if_congr ?_ rfl rfl
    rw [ContentKind.tool.injEq]
    omega

theorem content_toolCallEvents (base offset : ℤ) (toolCall : ToolCallResponse)
    (kind : ContentKind) :
    (toolCallEvents base offset toolCall).flatMap (·.content base kind)
      = if kind = .tool offset then toolCall.arguments.toList else [] := by
  unfold toolCallEvents
  by_cases hargs : toolCall.arguments ≠ ""
  · rw [if_pos hargs, flatMap_append, flatMap_singleton, content_inputJsonDelta]
    split_ifs <;> rfl
  · rw [if_neg hargs, not_ne_iff.mp hargs]
    split_ifs <;> rfl

theorem content_toolLoop (base : ℤ) (position : ℕ)
    (toolCalls : List ToolCallResponse) (maxOffset : ℤ) (kind : ContentKind) :
    (toolLoop base position toolCalls maxOffset).2.flatMap (·.content base kind)
      = toolContent kind position toolCalls := by
  induction toolCalls generalizing position maxOffset with
  | nil => rfl
  | cons _ _ ih =>
    unfold toolLoop toolContent
    rw [flatMap_append, ih, content_toolCallEvents]

theorem content_fillBlock (info : ClaudeConvertInfo) (type : LastMessageType) (block : ClaudeBlock)
    (delta : ClaudeDelta) (base : ℤ) (kind : ContentKind) :
    (info.fillBlock type block delta).2.flatMap (·.content base kind)
      = (ClaudeEvent.contentBlockDelta (info.fillBlock type block delta).1.index delta).content base
        kind := by
  unfold fillBlock
  split_ifs
  · rw [flatMap_append, content_advance]
    simp [ClaudeEvent.content]
  · simp

variable (position : ℕ)

variable (toolCalls : List ToolCallResponse)

theorem toolContent_of_ne {kind : ContentKind} (h : ∀ index, kind ≠ .tool index) :
    toolContent kind position toolCalls = [] := by
  induction toolCalls generalizing position with
  | nil => rfl
  | cons _ _ ih => rw [toolContent, if_neg (h _), ih, append_nil]

theorem carried_toolCalls (kind : ContentKind) :
    ChoiceDelta.carried { toolCalls } kind = toolContent kind 0 toolCalls := by
  cases kind with
  | text | thinking => exact (toolContent_of_ne 0 toolCalls (by simp)).symm
  | tool => rfl

theorem content_convertDelta (info : ClaudeConvertInfo) (delta : ChoiceDelta) (kind : ContentKind) :
    (info.convertDelta delta).2.flatMap
      (·.content (info.convertDelta delta).1.toolCallBaseIndex kind)
      = (keptLater delta).carried kind := by
  unfold convertDelta keptLater
  split_ifs with htools hreasoning htext
  · rw [carried_toolCalls]
    unfold convertToolCalls
    rw [flatMap_append, content_toolLoop]
    split_ifs
    · rw [content_advance]
      rfl
    · rfl
  · rw [content_fillBlock]
    cases kind <;> rfl
  · rw [content_fillBlock]
    cases kind <;> rfl
  cases kind with
  | text => exact (String.toList_eq_nil_iff.mpr (not_ne_iff.mp htext)).symm
  | thinking | tool => rfl

theorem content_firstBlock (info : ClaudeConvertInfo) (type : LastMessageType) (block : ClaudeBlock)
    (delta : ClaudeDelta) (base : ℤ) (kind : ContentKind) :
    (info.firstBlock type block delta).2.flatMap (·.content base kind)
      = (ClaudeEvent.contentBlockDelta (info.firstBlock type block delta).1.index delta).content
        base kind := by
  unfold firstBlock
  rw [flatMap_append]
  split_ifs
  · rw [content_advance]
    simp [ClaudeEvent.content]
  · simp [ClaudeEvent.content]

theorem content_firstContent (info : ClaudeConvertInfo) (delta : ChoiceDelta) (base : ℤ)
    (kind : ContentKind) :
    (info.firstContent delta).2.flatMap (·.content base kind)
      = ChoiceDelta.carried { keptFirst delta with toolCalls := [] } kind := by
  unfold firstContent keptFirst
  split_ifs with hreasoning htext
  · rw [content_firstBlock]
    cases kind <;> rfl
  · rw [content_firstBlock, not_ne_iff.mp hreasoning]
    cases kind <;> rfl
  rw [not_ne_iff.mp hreasoning]
  cases kind with
  | text => exact (String.toList_eq_nil_iff.mpr (not_ne_iff.mp htext)).symm
  | thinking | tool => rfl

variable {info : ClaudeConvertInfo}

theorem firstContent_toolCallBaseIndex (h : info.toolCallBaseIndex = 0) (delta : ChoiceDelta) :
    (info.firstContent delta).1.toolCallBaseIndex = 0 := by
  have hadvance : info.stopOpenBlocksAndAdvance.1.toolCallBaseIndex = 0 := by
    unfold stopOpenBlocksAndAdvance
    split
    · exact h
    · rfl
    all_goals exact h
  have hblock : ∀ type block delta, (info.firstBlock type block delta).1.toolCallBaseIndex = 0 := by
    intro type block delta
    unfold firstBlock
    split_ifs
    · exact hadvance
    · exact h
  unfold firstContent
  split_ifs
  · exact hblock _ _ _
  · exact hblock _ _ _
  · exact h

theorem content_firstToolCall (info : ClaudeConvertInfo) (delta : ChoiceDelta)
    (kind : ContentKind) :
    (info.firstToolCall delta).2.flatMap
        (·.content ((info.firstToolCall delta).1.firstContent delta).1.toolCallBaseIndex kind)
      = toolContent kind 0 (keptFirst delta).toolCalls := by
  unfold firstToolCall keptFirst
  rcases htools : delta.toolCalls with _ | ⟨toolCall, _⟩
  · rfl
  rw [firstContent_toolCallBaseIndex rfl]
  show _ = (if kind = .tool 0 then toolCall.arguments.toList else []) ++ []
  rw [append_nil, flatMap_cons]
  by_cases hargs : toolCall.arguments ≠ ""
  · rw [if_pos hargs, flatMap_singleton]
    exact content_inputJsonDelta 0 0 toolCall.arguments kind
  · rw [if_neg hargs, not_ne_iff.mp hargs]
    split_ifs <;> rfl

theorem content_firstDelta (info : ClaudeConvertInfo) (delta : ChoiceDelta) (kind : ContentKind) :
    ((info.firstToolCall delta).2 ++ ((info.firstToolCall delta).1.firstContent delta).2).flatMap
        (·.content ((info.firstToolCall delta).1.firstContent delta).1.toolCallBaseIndex kind)
      = (keptFirst delta).carried kind := by
  rw [flatMap_append, content_firstToolCall, content_firstContent]
  cases kind with
  | text | thinking =>
    rw [toolContent_of_ne _ _ (by simp)]
    rfl
  | tool => exact append_nil _

/-- **The client gets what is kept of a chunk.** -/
theorem content_handleStreamFormat (info : ClaudeConvertInfo) (chunk : ChatChunk)
    (kind : ContentKind) :
    (info.handleStreamFormat env chunk).2.flatMap
        (·.content (info.handleStreamFormat env chunk).1.toolCallBaseIndex kind)
      = (info.kept chunk).carried kind := by
  have hempty : ([] : List Char) = ChoiceDelta.carried {} kind := by cases kind <;> rfl
  unfold handleStreamFormat streamResponseOpenAI2Claude kept
  dsimp only
  by_cases hdone : info.done = true
  · rw [if_pos hdone]
    cases chunk.choices.head? with
    | none => exact hempty
    | some =>
      dsimp only
      rw [if_pos (.inl hdone)]
      exact hempty
  rw [if_neg hdone]
  by_cases hfirst : info.sendResponseCount = 0
  · rw [if_pos (by omega)]
    unfold firstResponse
    obtain _ | choice := chunk.choices.head?
    · exact hempty
    have hkeep : ¬ info.Skips chunk choice := fun h => h.elim hdone fun h => h.1 hfirst
    dsimp only
    rw [if_neg hkeep, if_pos hfirst, ← content_firstDelta]
    split_ifs
    · rw [flatMap_append, content_stopMessage, append_nil]
      rfl
    · rfl
  rw [if_neg (by omega)]
  cases chunk.choices.head? with
  | none =>
    dsimp only
    split
    · rw [content_stopMessage]
      exact hempty
    · exact hempty
  | some choice =>
    have hskips : info.Skips chunk choice ↔ choice.isFinished = true ∧ chunk.usage = none :=
      ⟨fun h => (h.resolve_left hdone).2, fun h => .inr ⟨hfirst, h⟩⟩
    simp only [hskips, if_neg hfirst]
    by_cases hfinished : choice.isFinished = true
    · rw [if_pos hfinished]
      cases husage : chunk.usage with
      | none =>
        rw [if_pos ⟨hfinished, rfl⟩]
        exact hempty
      | some =>
        rw [if_neg fun h => nomatch h.2]
        rw [flatMap_append, content_stopMessage, append_nil]
        exact content_convertDelta _ choice.delta kind
    · rw [if_neg hfinished, if_neg fun h => hfinished h.1]
      exact content_convertDelta _ choice.delta kind

/-! ### What is kept and what is carried -/

theorem toolContent_eq_nil : (∀ index, toolContent (.tool index) position toolCalls = []) ↔
      ∀ toolCall ∈ toolCalls, toolCall.arguments = "" := by
  induction toolCalls generalizing position with
  | nil => exact iff_of_true (fun _ => rfl) (forall_mem_nil _)
  | cons toolCall _ ih =>
    rw [forall_mem_cons, ← ih]
    constructor
    · intro h
      refine ⟨?_, fun index => (append_eq_nil_iff.mp (h index)).2⟩
      have hself := (append_eq_nil_iff.mp (h (toolOffset position toolCall))).1
      rw [if_pos rfl] at hself
      exact String.toList_eq_nil_iff.mp hself
    rintro ⟨hargs, hrest⟩ index
    refine append_eq_nil_iff.mpr ⟨?_, hrest index⟩
    rw [hargs]
    split_ifs <;> rfl

theorem eq_empty_of_length_le {text : String} (h : text.toList.length ≤ 0) : text = "" :=
  String.toList_eq_nil_iff.mp (length_eq_zero_iff.mp (Nat.le_zero.mp h))

section

variable (toolCall : ToolCallResponse) (toolCalls : List ToolCallResponse)

theorem toolContent_keptFirst (index : ℤ) :
    toolContent (.tool index) 0 [{ toolCall with index := some 0 }]
      = if index = 0 then toolCall.arguments.toList else [] := by
  show (if ContentKind.tool index = .tool 0 then toolCall.arguments.toList else []) ++ [] = _
  simp only [append_nil, ContentKind.tool.injEq]

theorem toolContent_cons (index : ℤ) : toolContent (.tool index) 0 (toolCall :: toolCalls)
      = (if index = toolCall.index.getD 0 then toolCall.arguments.toList else []) ++
          toolContent (.tool index) 1 toolCalls := by
  show (if ContentKind.tool index = .tool (toolCall.index.getD 0)
    then toolCall.arguments.toList else []) ++ _ = _
  simp only [ContentKind.tool.injEq]

theorem firstTools_of_length_le
    (h : ∀ index, (toolContent (.tool index) 0 (toolCall :: toolCalls)).length
      ≤ (toolContent (.tool index) 0 [{ toolCall with index := some 0 }]).length) :
    (toolCall.arguments = "" ∨ toolCall.index.getD 0 = 0) ∧ ∀ other ∈ toolCalls,
      other.arguments = "" := by
  simp only [toolContent_keptFirst] at h
  simp only [toolContent_cons, length_append] at h
  have hfirst : toolCall.arguments = "" ∨ toolCall.index.getD 0 = 0 := by
    by_contra hnot
    obtain ⟨hargs, hindex⟩ := not_or.mp hnot
    have hle := h (toolCall.index.getD 0)
    rw [if_pos rfl, if_neg hindex] at hle
    exact hargs (eq_empty_of_length_le (Nat.le_trans (Nat.le_add_right _ _) hle))
  refine ⟨hfirst, (toolContent_eq_nil 1 toolCalls).mp fun index => ?_⟩
  -- The first tool call is counted on both sides, so nothing is left for the others.
  have hle := h index
  have hsame : (if index = toolCall.index.getD 0 then toolCall.arguments.toList else []).length
      = (if index = 0 then toolCall.arguments.toList else []).length := by
    rcases hfirst with hargs | hindex
    · rw [hargs]
      split_ifs <;> rfl
    · rw [hindex]
  exact length_eq_zero_iff.mp (by omega)

theorem toolContent_keptFirst_eq (hfirst : toolCall.arguments = "" ∨ toolCall.index.getD 0 = 0)
    (hothers : ∀ other ∈ toolCalls, other.arguments = "") (index : ℤ) :
    toolContent (.tool index) 0 [{ toolCall with index := some 0 }]
      = toolContent (.tool index) 0 (toolCall :: toolCalls) := by
  rw [toolContent_keptFirst, toolContent_cons,
    (toolContent_eq_nil 1 toolCalls).mpr hothers index, append_nil]
  rcases hfirst with hargs | hindex
  · rw [hargs]
    split_ifs <;> rfl
  · rw [hindex]

end

theorem keepsContent_of_length_le {chunk : ChatChunk}
    (h : ∀ kind, (chunk.carried kind).length ≤ ((info.kept chunk).carried kind).length) :
    info.KeepsContent chunk := by
  intro choice hchoice
  unfold kept ChatChunk.carried at h
  rw [hchoice] at h
  dsimp only at h
  split_ifs at h ⊢ with hskips hfirst htools
  · refine ⟨eq_empty_of_length_le (h .text), eq_empty_of_length_le (h .thinking), ?_⟩
    refine (toolContent_eq_nil 0 _).mp fun index => ?_
    exact length_eq_zero_iff.mp (Nat.le_zero.mp (h (.tool index)))
  · refine ⟨?_, ?_⟩
    · by_cases hreasoning : choice.delta.getReasoningContent = ""
      · exact .inl hreasoning
      have htext := h .text
      unfold keptFirst at htext
      rw [if_pos hreasoning] at htext
      exact .inr (eq_empty_of_length_le htext)
    have htools := fun index => h (.tool index)
    unfold keptFirst ChoiceDelta.carried at htools
    rcases hcalls : choice.delta.toolCalls with _ | ⟨toolCall, toolCalls⟩
    · exact ⟨nofun, forall_mem_nil _⟩
    rw [hcalls] at htools
    obtain ⟨_, htail⟩ := firstTools_of_length_le toolCall toolCalls htools
    refine ⟨?_, htail⟩
    intro other hother
    rw [head?_cons, Option.mem_some_iff] at hother
    rwa [← hother]
  · have htext := h .text
    have hthinking := h .thinking
    unfold keptLater at htext hthinking
    rw [if_pos htools] at htext hthinking
    exact ⟨eq_empty_of_length_le hthinking, eq_empty_of_length_le htext⟩
  by_cases hreasoning : choice.delta.getReasoningContent = ""
  · exact .inl hreasoning
  have htext := h .text
  unfold keptLater at htext
  rw [if_neg htools, if_pos hreasoning] at htext
  exact .inr (eq_empty_of_length_le htext)

theorem KeepsContent.carried_kept {chunk : ChatChunk} (h : info.KeepsContent chunk)
    (kind : ContentKind) :
    (info.kept chunk).carried kind = chunk.carried kind := by
  have hnil {s : String} (h : s = "") : [] = s.toList := (String.toList_eq_nil_iff.mpr h).symm
  unfold kept ChatChunk.carried
  rcases hchoice : chunk.choices.head? with _ | choice
  · cases kind <;> rfl
  have hkeeps := h choice hchoice
  dsimp only
  split_ifs at hkeeps ⊢ with hskips hfirst htools
  · obtain ⟨htext, hreasoning, hargs⟩ := hkeeps
    cases kind with
    | text => exact hnil htext
    | thinking => exact hnil hreasoning
    | tool index => exact ((toolContent_eq_nil 0 _).mpr hargs index).symm
  · obtain ⟨hone, hhead, htail⟩ := hkeeps
    unfold keptFirst
    cases kind with
    | text =>
      split_ifs with hreasoning
      · exact hnil (hone.resolve_left hreasoning)
      · rfl
    | thinking => rfl
    | tool index =>
      unfold ChoiceDelta.carried
      cases hcalls : choice.delta.toolCalls with
      | nil => rfl
      | cons toolCall toolCalls =>
        rw [hcalls] at hhead htail
        exact toolContent_keptFirst_eq toolCall toolCalls (hhead toolCall rfl) htail index
  · obtain ⟨hreasoning, htext⟩ := hkeeps
    unfold keptLater
    rw [if_pos htools]
    cases kind with
    | text => exact hnil htext
    | thinking => exact hnil hreasoning
    | tool => rfl
  unfold keptLater
  have htool : ∀ index, choice.delta.carried (.tool index) = [] := by
    intro index
    unfold ChoiceDelta.carried
    rw [not_ne_iff.mp htools]
    rfl
  split_ifs with hreasoning
  · cases kind with
    | text => exact hnil (hkeeps.resolve_left hreasoning)
    | thinking => rfl
    | tool index => exact (htool index).symm
  cases kind with
  | text => rfl
  | thinking => exact hnil (not_ne_iff.mp hreasoning)
  | tool index => exact (htool index).symm

theorem length_carried_kept_le (hcount : info.sendResponseCount ≠ 0) (chunk : ChatChunk)
    (kind : ContentKind) :
    ((info.kept chunk).carried kind).length ≤ (chunk.carried kind).length := by
  unfold kept ChatChunk.carried
  rcases hchoice : chunk.choices.head? with _ | _
  · cases kind <;> exact Nat.zero_le _
  dsimp only
  unfold keptLater
  split_ifs with hskips htools hreasoning
  all_goals
    cases kind with
    | text | thinking | tool => first | exact Nat.zero_le _ | exact Nat.le_refl _

/-! ### Whole streams -/

theorem sendResponseCount_handleStreamFormat (info : ClaudeConvertInfo) (chunk : ChatChunk) :
    (info.handleStreamFormat env chunk).1.sendResponseCount = info.sendResponseCount + 1 := by
  unfold handleStreamFormat streamResponseOpenAI2Claude
  by_cases hdone : info.done = true
  · rw [if_pos hdone]
  rw [if_neg hdone]
  by_cases hfirst : info.sendResponseCount + 1 = 1
  · rw [if_pos hfirst]
    unfold firstResponse
    cases chunk.choices.head? with
    | none => rfl
    | some choice =>
      dsimp only
      split_ifs
      all_goals
        exact (sameRequest_firstContent _ choice.delta).1.trans
          (sameRequest_firstToolCall _ choice.delta).1
  rw [if_neg hfirst]
  obtain _ | choice := chunk.choices.head?
  · dsimp only
    split <;> rfl
  dsimp only
  split_ifs
  · split
    · rfl
    · exact (sameRequest_convertDelta _ choice.delta).1
  · exact (sameRequest_convertDelta _ choice.delta).1

theorem length_sent_le {info : ClaudeConvertInfo} (hcount : info.sendResponseCount ≠ 0)
    (chunks : List ChatChunk) (kind : ContentKind) :
    (sent env kind info chunks).length ≤ (chunks.flatMap (·.carried kind)).length := by
  induction chunks generalizing info with
  | nil => exact Nat.le_refl _
  | cons chunk _ ih =>
    unfold sent
    dsimp only
    rw [content_handleStreamFormat, flatMap_cons, length_append, length_append]
    have hstep := length_carried_kept_le hcount chunk kind
    have hrest := @ih (info.handleStreamFormat env chunk).1
      (by rw [sendResponseCount_handleStreamFormat]; omega)
    omega

/-- **No content is lost** in a stream exactly if every chunk keeps its content. -/
theorem sent_eq_carried_iff (info : ClaudeConvertInfo) (chunks : List ChatChunk) :
    (∀ kind, sent env kind info chunks = chunks.flatMap (·.carried kind)) ↔
      Guarded (fun info chunk => (info.handleStreamFormat env chunk).1)
        KeepsContent info chunks := by
  induction chunks generalizing info with
  | nil => exact iff_of_true (fun _ => rfl) trivial
  | cons chunk chunks ih =>
    rw [Guarded.cons_iff, ← ih]
    have hsent : ∀ kind, sent env kind info (chunk :: chunks)
        = (info.kept chunk).carried kind ++ sent env kind
          (info.handleStreamFormat env chunk).1 chunks := by
      intro kind
      rw [← content_handleStreamFormat env]
      rfl
    simp only [hsent, flatMap_cons]
    constructor
    · intro h
      -- The rest sends no more than it carries, so the chunk sends no less than it carries.
      have hkeeps : info.KeepsContent chunk := by
        apply keepsContent_of_length_le
        intro kind
        have htotal := congrArg length (h kind)
        rw [length_append, length_append] at htotal
        have hrest := @length_sent_le env (info.handleStreamFormat env chunk).1
          (by rw [sendResponseCount_handleStreamFormat]; omega) chunks kind
        omega
      refine ⟨hkeeps, ?_⟩
      intro kind
      have hkind := h kind
      rw [hkeeps.carried_kept] at hkind
      exact append_cancel_left hkind
    · rintro ⟨hkeeps, hrest⟩ kind
      rw [hkeeps.carried_kept, hrest kind]

/-- The text next to reasoning in one chunk is lost. -/
theorem sent_eq_carried_reasoningAndText :
    sent ⟨id, 0⟩ .text {} [{ choices := [{ delta := { role := "assistant" } }] },
        { choices := [{ delta := { content := some "b", reasoningContent := some "a" } }] }] =
          [] := by
  decide +kernel

end ClaudeConvertInfo

end TokensFlux
