import TokensFlux.Convert.Claude
import TokensFlux.Lib.Blocks

/-!
# Two grammars: Claude events and chunks

`ClaudePhase` reads the events of a Claude stream, where only tool blocks run in parallel.
`OpenBlocks` reads the chunks: which block they have opened, and which tool calls of the current
group were named.
-/

namespace TokensFlux

/-! ### The grammar of the events -/

inductive BlockType
  | text
  | thinking
  | toolUse
deriving DecidableEq, Repr

def ClaudeBlock.type : ClaudeBlock → BlockType
  | .text => .text
  | .thinking => .thinking
  | .toolUse _ _ => .toolUse

def ClaudeDelta.type : ClaudeDelta → BlockType
  | .textDelta _ => .text
  | .thinkingDelta _ => .thinking
  | .inputJsonDelta _ => .toolUse

def ClaudeEvent.isMessageStart : ClaudeEvent → Bool
  | .messageStart .. => true
  | _ => false

def BlockType.parallel (a b : BlockType) : Bool :=
  a = .toolUse && b = .toolUse

inductive ClaudePhase
  | start
  | message (blocks : Blocks ℤ BlockType)
  | ending
  | stopped
deriving DecidableEq, Repr

namespace ClaudePhase

def step : ClaudePhase → ClaudeEvent → Option ClaudePhase
  | start, .messageStart .. => some (message {})
  | message b, .contentBlockStart i block =>
    (b.step BlockType.parallel (.start i block.type)).map message
  | message b, .contentBlockDelta i delta =>
    (b.step BlockType.parallel (.item i delta.type)).map message
  | message b, .contentBlockStop i => (b.step BlockType.parallel (.stop i)).map message
  | message b, .messageDelta .. => if b.live = [] then some ending else none
  | ending, .messageStop => some stopped
  | _, _ => none

variable (p : ClaudePhase)

def run (events : List ClaudeEvent) : Option ClaudePhase :=
  events.foldlM step p

def WellFormed (events : List ClaudeEvent) : Prop :=
  run start events = some stopped
deriving Decidable

theorem not_wellFormed_of_not_start {events : List ClaudeEvent}
    (h : ∀ e ∈ events, e.isMessageStart = false) :
    ¬ WellFormed events := by
  obtain _ | ⟨e, _⟩ := events
  · exact nofun
  have hfirst := h e List.mem_cons_self
  cases e with
  | messageStart => cases hfirst
  | _ => exact nofun

theorem run_cons (e : ClaudeEvent) (events : List ClaudeEvent) :
    p.run (e :: events) = (p.step e).bind fun p => p.run events := by
  rfl

theorem run_append (events events' : List ClaudeEvent) :
    p.run (events ++ events') = (p.run events).bind fun p => p.run events' := by
  unfold run
  rw [List.foldlM_append]
  rfl

section

variable {b : Blocks ℤ BlockType} {i : ℤ} {block : ClaudeBlock} {delta : ClaudeDelta}
  (events : List ClaudeEvent)

theorem run_contentBlockStart (hfresh : i ∉ b.used)
    (hlive : ∀ other ∈ b.live, BlockType.parallel other.2 block.type) :
    (message b).run (.contentBlockStart i block :: events)
      = (message { used := i :: b.used, live := (i, block.type) :: b.live }).run events := by
  show ((b.step BlockType.parallel (.start i block.type)).map message).bind _ = _
  rw [Blocks.step_start _ hfresh hlive]
  rfl

theorem run_contentBlockStart_of_used (hused : i ∈ b.used) :
    (message b).run (.contentBlockStart i block :: events) = none := by
  show ((b.step BlockType.parallel (.start i block.type)).map message).bind _ = none
  rw [Blocks.step_start_of_used _ hused]
  rfl

theorem run_contentBlockStart_of_tool {j : ℤ} (hlive : (j, BlockType.toolUse) ∈ b.live)
    (hblock : block.type ≠ .toolUse) :
    (message b).run (.contentBlockStart i block :: events) = none := by
  have hparallel : BlockType.parallel .toolUse block.type = false := by
    cases block with
    | text | thinking => rfl
    | toolUse => exact absurd rfl hblock
  show ((b.step BlockType.parallel (.start i block.type)).map message).bind _ = none
  rw [Blocks.step_start_of_live _ hlive hparallel]
  rfl

theorem run_contentBlockDelta (hlive : (i, delta.type) ∈ b.live) :
    (message b).run (.contentBlockDelta i delta :: events) = (message b).run events := by
  show ((b.step BlockType.parallel (.item i delta.type)).map message).bind _ = _
  rw [Blocks.step_item _ hlive]
  rfl

theorem run_contentBlockDelta_of_not_mem (hlive : (i, delta.type) ∉ b.live) :
    (message b).run (.contentBlockDelta i delta :: events) = none := by
  show ((b.step BlockType.parallel (.item i delta.type)).map message).bind _ = _
  rw [Blocks.step_item_of_not_mem _ hlive]
  rfl

end

theorem run_stops (b : Blocks ℤ BlockType) (is : List ℤ) :
    (message b).run (is.map .contentBlockStop) =
      (b.run BlockType.parallel (is.map .stop)).map message := by
  induction is generalizing b with
  | nil => rfl
  | cons i _ ih =>
    rw [List.map_cons, List.map_cons, run_cons, Blocks.run_cons]
    show ((b.step BlockType.parallel (.stop i)).map message).bind _ = _
    cases b.step BlockType.parallel (.stop i) with
    | none => rfl
    | some b' => exact ih b'

end ClaudePhase

/-! ### The order of the chunks -/

/-- For tool calls: the offsets named, and the greatest. -/
inductive OpenBlocks
  | closed
  | single (type : BlockType)
  | tools (named : List ℤ) (maxOffset : ℤ)
deriving DecidableEq, Repr

namespace OpenBlocks

/-- The open blocks can be closed: for tool calls, the offsets that were named are `0, …,
maxOffset`. -/
def Complete : OpenBlocks → Prop
  | tools named maxOffset =>
    (∀ offset ∈ named, 0 ≤ offset) ∧ ∀ offset ∈ List.range (maxOffset + 1).toNat,
      ((offset : ℕ) : ℤ) ∈ named
  | _ => True

instance (blocks : OpenBlocks) : Decidable blocks.Complete :=
  match blocks with
  | closed | single _ => isTrue trivial
  | tools _ _ => inferInstanceAs (Decidable (_ ∧ _))

def Negative : OpenBlocks → Prop
  | tools named _ => ∃ offset ∈ named, offset < 0
  | _ => False

/-- A name opens an offset, once; arguments need an open one. -/
def readTool (named : List ℤ) (offset : ℤ) (toolCall : ToolCallResponse) : Option (List ℤ) :=
  if toolCall.name ≠ "" ∧ offset ∈ named then none
  else
    let named := if toolCall.name ≠ "" then offset :: named else named
    if toolCall.arguments ≠ "" ∧ offset ∉ named then none else some named

def readTools : ℕ → List ToolCallResponse → List ℤ → ℤ → Option OpenBlocks
  | _, [], named, maxOffset => some (tools named maxOffset)
  | position, toolCall :: toolCalls, named, maxOffset =>
    let offset := ClaudeConvertInfo.toolOffset position toolCall
    match readTool named offset toolCall with
    | none => none
    | some named => readTools (position + 1) toolCalls named (max maxOffset offset)

theorem readTool_eq_some {named named' : List ℤ} {offset : ℤ} {toolCall : ToolCallResponse}
    (h : readTool named offset toolCall = some named') :
    named' = offset :: named ∨ named' = named := by
  unfold readTool at h
  dsimp only at h
  split_ifs at h
  · exact .inl (Option.some.inj h).symm
  · exact .inr (Option.some.inj h).symm

theorem readTools_eq_some (base : ℤ) {position : ℕ}
    {toolCalls : List ToolCallResponse} {named : List ℤ} {maxOffset : ℤ} {next : OpenBlocks}
    (h : readTools position toolCalls named maxOffset = some next) :
    ∃ named', next = tools named' (ClaudeConvertInfo.toolLoop base position toolCalls maxOffset).1 ∧
      named ⊆ named' ∧ maxOffset ≤
      (ClaudeConvertInfo.toolLoop base position toolCalls maxOffset).1 ∧
      ((∀ offset ∈ named, offset ≤ maxOffset) →
        ∀ offset ∈ named', offset ≤
        (ClaudeConvertInfo.toolLoop base position toolCalls maxOffset).1) := by
  induction toolCalls generalizing position named maxOffset with
  | nil => exact ⟨named, (Option.some.inj h).symm, List.Subset.refl _, Int.le_refl _, id⟩
  | cons toolCall _ ih =>
    unfold readTools at h
    dsimp only at h ⊢
    set offset := ClaudeConvertInfo.toolOffset position toolCall
    have hleft : maxOffset ≤ max maxOffset offset := Int.le_max_left _ _
    split at h
    next => cases h
    next named₁ hread =>
      obtain ⟨named', hnext, hsubset, hle, hbound⟩ := ih h
      refine ⟨named', hnext, List.Subset.trans ?_ hsubset, Int.le_trans hleft hle,
        fun hmax => hbound ?_⟩
      · rcases readTool_eq_some hread with rfl | rfl
        · exact List.subset_cons_self _ _
        · exact List.Subset.refl _
      intro o ho
      rcases readTool_eq_some hread with rfl | rfl
      · rcases List.mem_cons.mp ho with rfl | ho
        · exact Int.le_max_right _ _
        · exact Int.le_trans (hmax o ho) hleft
      · exact Int.le_trans (hmax o ho) hleft

variable (blocks : OpenBlocks)

/-- After tool calls only if those can be closed. -/
def readBlock (type : BlockType) : Option OpenBlocks :=
  if blocks.Complete then some (single type) else none

def readDelta (delta : ChoiceDelta) : Option OpenBlocks :=
  if delta.toolCalls ≠ [] then
    match blocks with
    | tools named maxOffset => readTools 0 delta.toolCalls named maxOffset
    | _ => readTools 0 delta.toolCalls [] 0
  else if delta.getReasoningContent ≠ "" then blocks.readBlock .thinking
  else if delta.getContentString ≠ "" then blocks.readBlock .text
  else some blocks

/-- `rest` says what the chunks after it have to satisfy. -/
def ReadsChunk (usageKnown : Bool) (chunk : ChatChunk) (rest : OpenBlocks → Prop) : Prop :=
  match chunk.choices.head? with
  | none => if usageKnown then blocks.Complete else rest blocks
  | some choice =>
    if choice.isFinished ∧ chunk.usage = none then rest blocks
    else ∃ next, blocks.readDelta choice.delta = some next ∧ if choice.isFinished
      then next.Complete else rest next

/-- `hasUsage` says that an earlier chunk had the usage; at the last chunk it is always known. -/
def Regular : OpenBlocks → Bool → List ChatChunk → Prop
  | _, _, [] => False
  | blocks, hasUsage, chunk :: chunks =>
    blocks.ReadsChunk (hasUsage || chunk.usage.isSome || chunks.isEmpty) chunk fun next =>
      Regular next (hasUsage || chunk.usage.isSome) chunks

theorem Negative.not_complete {blocks : OpenBlocks} (h : blocks.Negative) : ¬ blocks.Complete := by
  cases blocks with
  | closed | single => exact h.elim
  | tools =>
    obtain ⟨offset, hoffset, _⟩ := h
    intro hcomplete
    have hpos := hcomplete.1 offset hoffset
    omega

theorem Negative.readDelta {blocks next : OpenBlocks} (h : blocks.Negative) {delta : ChoiceDelta}
    (hnext : blocks.readDelta delta = some next) : next.Negative := by
  cases blocks with
  | closed | single => exact h.elim
  | tools =>
    obtain ⟨offset, hoffset, hneg⟩ := id h
    unfold OpenBlocks.readDelta readBlock at hnext
    split_ifs at hnext with htools hreasoning hcomplete htext hcomplete
    · obtain ⟨_, rfl, hsubset, -⟩ := readTools_eq_some 0 hnext
      exact ⟨offset, hsubset hoffset, hneg⟩
    · exact absurd hcomplete h.not_complete
    · exact absurd hcomplete h.not_complete
    · exact Option.some.inj hnext ▸ h

theorem Negative.not_regular {blocks : OpenBlocks} (h : blocks.Negative) (hasUsage : Bool)
    (chunks : List ChatChunk) : ¬ blocks.Regular hasUsage chunks := by
  induction chunks generalizing blocks hasUsage with
  | nil => exact id
  | cons chunk _ ih =>
    show ¬ blocks.ReadsChunk _ chunk _
    unfold ReadsChunk
    split
    · split_ifs
      · exact h.not_complete
      · exact ih h _
    split_ifs with hskip hfinished
    · exact ih h _
    · rintro ⟨next, hnext, hcomplete⟩
      exact (h.readDelta hnext).not_complete hcomplete
    · rintro ⟨next, hnext, hregular⟩
      exact ih (h.readDelta hnext) _ hregular

def first (delta : ChoiceDelta) : OpenBlocks :=
  if delta.getReasoningContent ≠ "" then single .thinking
  else if delta.getContentString ≠ "" then single .text
  else if delta.toolCalls ≠ [] then tools [0] 0
  else closed

end OpenBlocks

/-- The first chunk ends the message and has the usage, or there are two more chunks at least. -/
def RegularStream : List ChatChunk → Prop
  | first :: second :: chunks =>
    match first.choices.head? with
    | none => chunks ≠ [] ∧ OpenBlocks.Regular .closed first.usage.isSome (second :: chunks)
    | some choice =>
      if choice.isFinished then first.usage.isSome = true
      else chunks ≠ [] ∧ OpenBlocks.Regular (.first choice.delta) first.usage.isSome
        (second :: chunks)
  | _ => False

end TokensFlux
