import TokensFlux.Convert.Equiv.ClaudeGrammar

/-!
# Deltas and blocks

`Matches` relates the blocks that the client has open, the state of the converter and the chunks
read so far.
-/

namespace TokensFlux

open List Option ClaudePhase OpenBlocks

/-! ### The client, the converter and the chunks -/

namespace ClaudeConvertInfo

open ClaudePhase

def lastMessage : BlockType → LastMessageType
  | .text => .text
  | .thinking => .thinking
  | .toolUse => .tools

structure ToolsMatch (base : ℤ) (named : List ℤ) (b : Blocks ℤ BlockType) : Prop where
  live : b.live = named.map fun offset => (base + offset, .toolUse)
  used : ∀ i ∈ b.used, i < base ∨ i - base ∈ named
  named_used : ∀ offset ∈ named, base + offset ∈ b.used

/-- The open blocks, as the converter remembers them. -/
def Matches (info : ClaudeConvertInfo) (b : Blocks ℤ BlockType) : OpenBlocks → Prop
  | .closed => info.lastMessagesType = .none ∧ b.live = [] ∧ ∀ i ∈ b.used, i < info.index
  | .single type =>
    type ≠ .toolUse ∧ info.lastMessagesType = lastMessage type ∧ b.live = [(info.index, type)] ∧
      ∀ i ∈ b.used, i ≤ info.index
  | .tools named maxOffset =>
    info.lastMessagesType = .tools ∧ info.toolCallMaxIndexOffset = maxOffset ∧ 0 ≤ maxOffset ∧
      (∀ offset ∈ named, offset ≤ maxOffset) ∧ ToolsMatch info.toolCallBaseIndex named b

/-! ### What a delta leaves alone -/

def SameRequest (info info' : ClaudeConvertInfo) : Prop :=
  info'.sendResponseCount = info.sendResponseCount ∧ info'.usage = info.usage ∧
    info'.done = info.done

variable (info : ClaudeConvertInfo)

theorem sameRequest_advance : info.SameRequest info.stopOpenBlocksAndAdvance.1 := by
  unfold stopOpenBlocksAndAdvance
  split <;> exact ⟨rfl, rfl, rfl⟩

theorem sameRequest_fillBlock (type : LastMessageType) (block : ClaudeBlock)
    (delta : ClaudeDelta) : info.SameRequest (info.fillBlock type block delta).1 := by
  unfold fillBlock
  split_ifs
  · exact info.sameRequest_advance
  · exact ⟨rfl, rfl, rfl⟩

variable (delta : ChoiceDelta)

theorem sameRequest_convertDelta :
    info.SameRequest (info.convertDelta delta).1 := by
  unfold convertDelta
  split_ifs
  · unfold convertToolCalls
    split_ifs
    · exact info.sameRequest_advance
    · exact ⟨rfl, rfl, rfl⟩
  · exact info.sameRequest_fillBlock _ _ _
  · exact info.sameRequest_fillBlock _ _ _
  · exact ⟨rfl, rfl, rfl⟩

theorem sameRequest_firstToolCall :
    info.SameRequest (info.firstToolCall delta).1 := by
  unfold firstToolCall
  split <;> exact ⟨rfl, rfl, rfl⟩

theorem sameRequest_firstContent :
    info.SameRequest (info.firstContent delta).1 := by
  have hblock : ∀ type block filled, info.SameRequest (info.firstBlock type block filled).1 := by
    intro type block filled
    unfold firstBlock
    split_ifs
    · exact info.sameRequest_advance
    · exact ⟨rfl, rfl, rfl⟩
  unfold firstContent
  split_ifs
  · exact hblock _ _ _
  · exact hblock _ _ _
  · exact ⟨rfl, rfl, rfl⟩

/-! ### Stopping the open blocks -/

theorem ToolsMatch.run_stops {base : ℤ} {named : List ℤ} {b : Blocks ℤ BlockType}
    (h : ToolsMatch base named b) (n : ℕ) :
    (message b).run ((List.range n).map fun offset : ℕ => .contentBlockStop (base + offset))
      = if ∀ offset ∈ List.range n, ((offset : ℕ) : ℤ) ∈ named then
          some (message { b with
            live := (named.filter fun offset : ℤ => offset < 0 ∨ n ≤ offset).map fun offset =>
              (base + offset, .toolUse) })
        else none := by
  have hnodup : ((List.range n).map fun offset : ℕ => base + (offset : ℤ)).Nodup := by
    refine nodup_range.map ?_
    intro offset offset' heq
    have : base + (offset : ℤ) = base + (offset' : ℤ) := heq
    omega
  have hmap : (List.range n).map (fun offset : ℕ => ClaudeEvent.contentBlockStop (base + offset))
      = ((List.range n).map fun offset : ℕ => base + (offset : ℤ)).map .contentBlockStop := by
    rw [List.map_map]
    rfl
  have hopen : (∀ i ∈ (List.range n).map fun offset : ℕ => base + (offset : ℤ),
      i ∈ b.live.map Prod.fst)
      ↔ ∀ offset ∈ List.range n, ((offset : ℕ) : ℤ) ∈ named := by
    rw [List.forall_mem_map, h.live, List.map_map]
    refine forall₂_congr ?_
    intro offset _
    exact mem_map_of_injective (f := fun offset => base + offset) fun a b hab => by simpa using hab
  have hrest : b.live.filter (fun block => block.1 ∉ (List.range n).map fun offset : ℕ =>
      base + (offset : ℤ))
      = (named.filter fun offset : ℤ => offset < 0 ∨ n ≤ offset).map fun offset =>
          (base + offset, .toolUse) := by
    rw [h.live, List.filter_map]
    congr 1
    apply filter_congr
    intro offset _
    show decide (base + offset ∉ _) = _
    rw [decide_eq_decide, List.mem_map]
    constructor
    · intro hnot
      by_contra hlt
      have hcast : ((offset.toNat : ℕ) : ℤ) = offset := by omega
      exact hnot ⟨offset.toNat, mem_range.mpr (by omega), by rw [hcast]⟩
    · rintro _ ⟨offset', hmem, heq⟩
      have hlt := mem_range.mp hmem
      omega
  rw [hmap, ClaudePhase.run_stops, Blocks.run_stops _ _ hnodup, hrest]
  by_cases hnamed : ∀ offset ∈ List.range n, ((offset : ℕ) : ℤ) ∈ named
  · rw [if_pos hnamed, if_pos (hopen.mpr hnamed)]
    rfl
  · rw [if_neg hnamed, if_neg fun hall => hnamed (hopen.mp hall)]
    rfl

variable {info : ClaudeConvertInfo} {b : Blocks ℤ BlockType} {blocks : OpenBlocks}

theorem Matches.run_stopOpenBlocks (h : info.Matches b blocks) (hcomplete : blocks.Complete) :
    (message b).run info.stopOpenBlocks = some (message { b with live := [] }) := by
  cases blocks with
  | closed =>
    obtain ⟨hlast, hlive, -⟩ := h
    rw [stopOpenBlocks, hlast, ← hlive]
    rfl
  | single type =>
    obtain ⟨htype, hlast, hlive, -⟩ := h
    have hstops : info.stopOpenBlocks = [info.index].map .contentBlockStop := by
      cases type with
      | text | thinking => rw [stopOpenBlocks, hlast]; rfl
      | toolUse => exact absurd rfl htype
    rw [hstops, run_stops, Blocks.run_stops _ _ (nodup_singleton _), hlive]
    simp
  | tools named =>
    obtain ⟨hlast, rfl, -, hmax, htools⟩ := h
    obtain ⟨hnonneg, hnamed⟩ := hcomplete
    rw [stopOpenBlocks, hlast]
    rw [htools.run_stops, if_pos hnamed]
    have hnone : named.filter (fun offset : ℤ =>
        offset < 0 ∨ ((info.toolCallMaxIndexOffset + 1).toNat : ℤ) ≤ offset) = [] := by
      rw [filter_eq_nil_iff]
      intro offset hoffset hout
      have hle := hmax offset hoffset
      have hpos := hnonneg offset hoffset
      have hcase := of_decide_eq_true hout
      omega
    rw [hnone]
    rfl

theorem Matches.run_stopOpenBlocks_of_not_complete (h : info.Matches b blocks)
    (hcomplete : ¬ blocks.Complete) :
    ∀ p, (message b).run info.stopOpenBlocks = some p →
      ∃ b' i, p = message b' ∧ (i, BlockType.toolUse) ∈ b'.live := by
  cases blocks with
  | closed | single => exact absurd trivial hcomplete
  | tools named =>
    obtain ⟨hlast, rfl, -, -, htools⟩ := h
    intro p hp
    rw [stopOpenBlocks, hlast] at hp
    rw [htools.run_stops] at hp
    split_ifs at hp with hnamed
    -- All offsets up to the greatest are named, so a negative one is left.
    obtain ⟨offset, hoffset, hneg⟩ : ∃ offset ∈ named, offset < 0 := by
      by_contra hnone
      refine hcomplete ⟨fun offset hoffset => ?_, hnamed⟩
      by_contra hneg
      exact hnone ⟨offset, hoffset, by omega⟩
    refine ⟨_, info.toolCallBaseIndex + offset, (some.inj hp).symm, ?_⟩
    refine List.mem_map.mpr ⟨offset, mem_filter.mpr ⟨hoffset, ?_⟩, rfl⟩
    exact decide_eq_true (.inl hneg)

/-- **The end of the message** is accepted exactly if the open blocks are complete. -/
theorem Matches.run_stopMessage (h : info.Matches b blocks) (usage : ChatUsage) (reason : String) :
    (message b).run (info.stopMessage (some usage) reason).2 = some stopped ↔ blocks.Complete := by
  show (message b).run (info.stopOpenBlocks ++ [_] ++ [_]) = _ ↔ _
  rw [run_append, run_append]
  by_cases hcomplete : blocks.Complete
  · rw [h.run_stopOpenBlocks hcomplete]
    exact iff_of_true rfl hcomplete
  refine iff_of_false ?_ hcomplete
  rcases hrun : (message b).run info.stopOpenBlocks with _ | p
  · exact nofun
  obtain ⟨b', i, rfl, hlive⟩ := h.run_stopOpenBlocks_of_not_complete hcomplete p hrun
  have hne : b'.live ≠ [] := ne_nil_of_mem hlive
  show ((bind (if b'.live = [] then some ending else none) _).bind _) ≠ _
  rw [if_neg hne]
  exact nofun

theorem Matches.run_stopMessage_of_complete (h : info.Matches b blocks)
    (hcomplete : blocks.Complete) (oaiUsage : Option ChatUsage) (reason : String) :
    (message b).run (info.stopMessage oaiUsage reason).2 = some stopped ↔ oaiUsage.isSome := by
  cases oaiUsage with
  | none =>
    refine iff_of_false ?_ Bool.false_ne_true
    show (message b).run (info.stopOpenBlocks ++ [] ++ [_]) ≠ _
    rw [append_nil, run_append, h.run_stopOpenBlocks hcomplete]
    exact nofun
  | some usage => exact iff_of_true ((h.run_stopMessage usage reason).mpr hcomplete) rfl

/-! ### Text and reasoning -/

theorem stopOpenBlocksAndAdvance_events :
    info.stopOpenBlocksAndAdvance.2 = info.stopOpenBlocks := by
  unfold stopOpenBlocksAndAdvance
  split
  next hlast => rw [stopOpenBlocks, hlast]
  next => rfl
  next => rfl
  next => rfl

theorem Matches.advance (h : info.Matches b blocks) :
    info.stopOpenBlocksAndAdvance.1.Matches { b with live := [] } .closed := by
  unfold stopOpenBlocksAndAdvance
  cases blocks with
  | closed =>
    obtain ⟨hlast, -, hused⟩ := h
    rw [hlast]
    exact ⟨hlast, rfl, hused⟩
  | single type =>
    obtain ⟨htype, hlast, -, hused⟩ := h
    have hnext : ∀ i ∈ b.used, i < info.index + 1 := fun i hi => Int.lt_add_one_of_le (hused i hi)
    cases type with
    | text | thinking => rw [hlast]; exact ⟨rfl, rfl, hnext⟩
    | toolUse => exact absurd rfl htype
  | tools =>
    obtain ⟨hlast, rfl, _, hmax, htools⟩ := h
    rw [hlast]
    refine ⟨rfl, rfl, ?_⟩
    intro i hi
    show i < info.toolCallBaseIndex + info.toolCallMaxIndexOffset + 1
    rcases htools.used i hi with _ | hnamed
    · omega
    · have hle := hmax _ hnamed
      omega

theorem Matches.run_fillBlock (h : info.Matches b blocks) (hcomplete : blocks.Complete)
    {type : BlockType} {block : ClaudeBlock} {delta : ClaudeDelta} (htype : type ≠ .toolUse)
    (hblock : block.type = type) (hdelta : delta.type = type) :
    ∃ b', (message b).run (info.fillBlock (lastMessage type) block delta).2 = some (message b') ∧
      (info.fillBlock (lastMessage type) block delta).1.Matches b' (.single type) := by
  unfold fillBlock
  split_ifs with hlast
  · -- A new block, at the next index.
    obtain ⟨-, -, hused⟩ := h.advance
    have hfresh : info.stopOpenBlocksAndAdvance.1.index ∉ b.used :=
      fun hmem => Int.lt_irrefl _ (hused _ hmem)
    refine ⟨{ used := info.stopOpenBlocksAndAdvance.1.index :: b.used,
              live := [(info.stopOpenBlocksAndAdvance.1.index, type)] }, ?_, htype, rfl, rfl, ?_⟩
    · dsimp only
      rw [stopOpenBlocksAndAdvance_events, run_append, h.run_stopOpenBlocks hcomplete,
        bind_some, run_contentBlockStart (b := { b with live := [] }) _ hfresh (forall_mem_nil _),
        run_contentBlockDelta _ (by rw [hblock, hdelta]; exact mem_singleton.mpr rfl), hblock]
      rfl
    intro i hi
    rcases mem_cons.mp hi with rfl | hi
    · exact Int.le_refl _
    · exact Int.le_of_lt (hused i hi)
  -- The open block has this type.
  have hlast := not_ne_iff.mp hlast
  cases blocks with
  | closed =>
    obtain ⟨hnone, -⟩ := h
    rw [hnone] at hlast
    cases type <;> cases hlast
  | single type' =>
    obtain ⟨htype', hsame, hlive, hused⟩ := h
    obtain rfl : type' = type := by
      rw [hsame] at hlast
      cases type <;> cases type' <;> first | rfl | cases hlast
    refine ⟨b, ?_, htype', hsame, hlive, hused⟩
    exact run_contentBlockDelta _ (by rw [hdelta, hlive]; exact mem_singleton.mpr rfl)
  | tools =>
    obtain ⟨htools, -⟩ := h
    rw [htools] at hlast
    cases type with
    | text | thinking => cases hlast
    | toolUse => exact absurd rfl htype

theorem Matches.run_fillBlock_of_not_complete (h : info.Matches b blocks)
    (hcomplete : ¬ blocks.Complete)
    {type : BlockType} {block : ClaudeBlock} (delta : ClaudeDelta) (htype : type ≠ .toolUse)
    (hblock : block.type = type) :
    (message b).run (info.fillBlock (lastMessage type) block delta).2 = none := by
  have hlast : info.lastMessagesType ≠ lastMessage type := by
    cases blocks with
    | closed | single => exact absurd trivial hcomplete
    | tools =>
      rw [h.1]
      cases type with
      | text | thinking => exact nofun
      | toolUse => exact absurd rfl htype
  unfold fillBlock
  rw [if_pos hlast]
  dsimp only
  rw [stopOpenBlocksAndAdvance_events, run_append]
  cases hrun : (message b).run info.stopOpenBlocks with
  | none => rfl
  | some p =>
    obtain ⟨b', i, rfl, hlive⟩ := h.run_stopOpenBlocks_of_not_complete hcomplete p hrun
    exact run_contentBlockStart_of_tool _ hlive (hblock ▸ htype)

/-! ### Tool calls -/

section

variable {base : ℤ} {named : List ℤ}

theorem ToolsMatch.mem_live (h : ToolsMatch base named b) (offset : ℤ) :
    (base + offset, BlockType.toolUse) ∈ b.live ↔ offset ∈ named := by
  rw [h.live, List.mem_map]
  constructor
  · rintro ⟨offset', hmem, heq⟩
    have hfst := congrArg Prod.fst heq
    obtain rfl : offset' = offset := by omega
    exact hmem
  · exact fun hmem => ⟨offset, hmem, rfl⟩

theorem ToolsMatch.cons (h : ToolsMatch base named b) (offset : ℤ) :
    ToolsMatch base (offset :: named)
      { used := (base + offset) :: b.used, live := (base + offset, .toolUse) :: b.live } where
  live := by
    rw [h.live]
    rfl
  used := by
    intro i hi
    rcases mem_cons.mp hi with rfl | hi
    · refine .inr (mem_cons.mpr (.inl ?_))
      omega
    · exact (h.used i hi).imp id (mem_cons_of_mem _)
  named_used := by
    intro o ho
    rcases mem_cons.mp ho with rfl | ho
    · exact mem_cons_self
    · exact mem_cons_of_mem _ (h.named_used o ho)

theorem ToolsMatch.not_mem_used (h : ToolsMatch base named b) {offset : ℤ} (hnamed : offset ∉ named)
    (hnonneg : 0 ≤ offset) : base + offset ∉ b.used := by
  intro hmem
  rcases h.used _ hmem with _ | hmem
  · omega
  · have hcancel : base + offset - base = offset := by omega
    exact hnamed (hcancel ▸ hmem)

/-- The blocks named are open, or a negative offset was rejected. -/
def ToolsRead (base : ℤ) (named : List ℤ) (result : Option ClaudePhase) : Prop :=
  (∃ b, result = some (message b) ∧ ToolsMatch base named b) ∨
    (result = none ∧ ∃ offset ∈ named, offset < 0)

theorem ToolsMatch.run_toolCallEvents (h : ToolsMatch base named b) (offset : ℤ)
    (toolCall : ToolCallResponse) :
    (readTool named offset toolCall = none →
        (message b).run (toolCallEvents base offset toolCall) = none) ∧
      ∀ named', readTool named offset toolCall = some named' →
        ToolsRead base named' ((message b).run (toolCallEvents base offset toolCall)) := by
  have hlive : ∀ other ∈ b.live, BlockType.parallel other.2 .toolUse = true := by
    intro other hother
    rw [h.live] at hother
    obtain ⟨o, -, rfl⟩ := List.mem_map.mp hother
    rfl
  unfold readTool toolCallEvents
  by_cases hname : toolCall.name ≠ ""
  · simp only [hname, true_and, ne_eq, not_false_eq_true, ↓reduceIte]
    by_cases hmem : offset ∈ named
    · -- The offset was named before.
      simp only [if_pos hmem]
      refine ⟨fun _ => ?_, nofun⟩
      exact run_contentBlockStart_of_used _ (h.named_used offset hmem)
    simp only [if_neg hmem, mem_cons_self, not_true_eq_false, and_false, ↓reduceIte]
    refine ⟨nofun, ?_⟩
    rintro named' hnamed'
    cases hnamed'
    by_cases hused : base + offset ∈ b.used
    · refine .inr ⟨run_contentBlockStart_of_used _ hused, offset, mem_cons_self, ?_⟩
      by_contra hnonneg
      exact h.not_mem_used hmem (by omega) hused
    have hcons := h.cons offset
    refine .inl ⟨_, ?_, hcons⟩
    rw [cons_append, nil_append,
      @run_contentBlockStart b _ (.toolUse toolCall.id toolCall.name) _ hused hlive]
    split_ifs with hargs
    · rfl
    · exact run_contentBlockDelta [] ((hcons.mem_live offset).mpr mem_cons_self)
  simp only [hname, false_and, ↓reduceIte, nil_append]
  by_cases hargs : toolCall.arguments ≠ ""
  · simp only [hargs, true_and, ne_eq, not_false_eq_true, ↓reduceIte]
    by_cases hmem : offset ∈ named
    · rw [if_neg (not_not.mpr hmem)]
      refine ⟨nofun, ?_⟩
      rintro named' hnamed'
      cases hnamed'
      exact .inl ⟨b, run_contentBlockDelta _ ((h.mem_live offset).mpr hmem), h⟩
    · rw [if_pos hmem]
      refine ⟨fun _ => ?_, nofun⟩
      exact run_contentBlockDelta_of_not_mem _ fun hlive => hmem ((h.mem_live offset).mp hlive)
  simp only [hargs, false_and, ↓reduceIte]
  refine ⟨nofun, ?_⟩
  rintro named' hnamed'
  cases hnamed'
  exact .inl ⟨b, rfl, h⟩

theorem ToolsMatch.run_toolLoop (h : ToolsMatch base named b) (position : ℕ)
    (toolCalls : List ToolCallResponse)
    (maxOffset : ℤ) : (readTools position toolCalls named maxOffset = none →
        (message b).run (toolLoop base position toolCalls maxOffset).2 = none) ∧
      ∀ named' maxOffset', readTools position toolCalls named maxOffset =
      some (.tools named' maxOffset') → ToolsRead base named'
            ((message b).run (toolLoop base position toolCalls maxOffset).2) := by
  induction toolCalls generalizing position named maxOffset b with
  | nil =>
    refine ⟨fun hnone => (some_ne_none _ hnone).elim, ?_⟩
    intro named' maxOffset' hnext
    obtain ⟨rfl, rfl⟩ := tools.inj (some.inj hnext)
    exact .inl ⟨b, rfl, h⟩
  | cons toolCall _ ih =>
    obtain ⟨hrejected, hread⟩ := h.run_toolCallEvents (toolOffset position toolCall) toolCall
    unfold readTools toolLoop
    dsimp only
    rw [run_append]
    rcases hcall : readTool named (toolOffset position toolCall) toolCall with _ | named₁
    · rw [hrejected hcall]
      exact ⟨fun _ => rfl, fun _ _ hsome => (some_ne_none _ hsome.symm).elim⟩
    rcases hread named₁ hcall with ⟨b', hrun, hmatch⟩ | ⟨hrun, offset, hoffset, hneg⟩
    · rw [hrun, bind_some]
      exact ih hmatch (position + 1) _
    -- The client has rejected a negative offset, which stays named.
    rw [hrun]
    refine ⟨fun _ => rfl, ?_⟩
    intro named' maxOffset' hnext
    obtain ⟨_, hnamed, hsubset, -⟩ := readTools_eq_some base hnext
    obtain ⟨rfl, -⟩ := tools.inj hnamed
    exact .inr ⟨rfl, offset, hsubset hoffset, hneg⟩

end

/-- The same blocks are open, or both have rejected, or a negative offset was rejected. -/
def Agrees (info : ClaudeConvertInfo) (read : Option OpenBlocks)
    (result : Option ClaudePhase) : Prop :=
  (read = none → result = none) ∧ ∀ next, read = some next →
      (∃ b, result = some (message b) ∧ info.Matches b next) ∨ (result = none ∧ next.Negative)

theorem agrees_convertToolCalls_of_tools {named : List ℤ} {maxOffset : ℤ}
    (h : info.Matches b (.tools named maxOffset)) (toolCalls : List ToolCallResponse) :
    (info.convertToolCalls toolCalls).1.Agrees (readTools 0 toolCalls named maxOffset)
      ((message b).run (info.convertToolCalls toolCalls).2) := by
  obtain ⟨hlast, rfl, hpos, hmax, htools⟩ := h
  obtain ⟨hnone, hsome⟩ := htools.run_toolLoop 0 toolCalls info.toolCallMaxIndexOffset
  unfold convertToolCalls
  rw [if_neg (not_ne_iff.mpr hlast)]
  refine ⟨hnone, ?_⟩
  intro next hnext
  obtain ⟨_, rfl, -, hle, hbound⟩ := readTools_eq_some info.toolCallBaseIndex hnext
  rcases hsome _ _ hnext with ⟨b', hrun, hmatch⟩ | hneg
  · exact .inl ⟨b', hrun, rfl, rfl, Int.le_trans hpos hle, hbound hmax, hmatch⟩
  · exact .inr hneg

theorem agrees_convertToolCalls_of_complete (h : info.Matches b blocks)
    (hcomplete : blocks.Complete)
    (hlast : info.lastMessagesType ≠ .tools) (toolCalls : List ToolCallResponse) :
    (info.convertToolCalls toolCalls).1.Agrees (readTools 0 toolCalls [] 0)
      ((message b).run (info.convertToolCalls toolCalls).2) := by
  obtain ⟨-, -, hused⟩ := h.advance
  have htools : ToolsMatch info.stopOpenBlocksAndAdvance.1.index [] { b with live := [] } :=
    ⟨rfl, fun i hi => .inl (hused i hi), forall_mem_nil _⟩
  obtain ⟨hnone, hsome⟩ := htools.run_toolLoop 0 toolCalls 0
  unfold convertToolCalls
  rw [if_pos hlast]
  dsimp only
  rw [stopOpenBlocksAndAdvance_events, run_append, h.run_stopOpenBlocks hcomplete, bind_some]
  refine ⟨hnone, ?_⟩
  intro next hnext
  obtain ⟨_, rfl, -, hle, hbound⟩ :=
    readTools_eq_some info.stopOpenBlocksAndAdvance.1.index hnext
  rcases hsome _ _ hnext with ⟨b', hrun, hmatch⟩ | hneg
  · exact .inl ⟨b', hrun, rfl, rfl, hle, hbound (forall_mem_nil _), hmatch⟩
  · exact .inr hneg

theorem agrees_fillBlock (type : BlockType) (h : info.Matches b blocks) {block : ClaudeBlock}
    {delta : ClaudeDelta} (htype : type ≠ .toolUse) (hblock : block.type = type)
    (hdelta : delta.type = type) :
    (info.fillBlock (lastMessage type) block delta).1.Agrees (blocks.readBlock type)
      ((message b).run (info.fillBlock (lastMessage type) block delta).2) := by
  unfold readBlock
  split_ifs with hcomplete
  · refine ⟨nofun, ?_⟩
    intro next hnext
    cases hnext
    exact .inl (h.run_fillBlock hcomplete htype hblock hdelta)
  · exact ⟨fun _ => h.run_fillBlock_of_not_complete hcomplete delta htype hblock, nofun⟩

/-- **The delta of a chunk, on both sides.** -/
theorem agrees_convertDelta (h : info.Matches b blocks) (delta : ChoiceDelta) :
    (info.convertDelta delta).1.Agrees (blocks.readDelta delta)
    ((message b).run (info.convertDelta delta).2) := by
  unfold convertDelta readDelta
  split_ifs with htools hreasoning htext
  · cases blocks with
    | closed => exact agrees_convertToolCalls_of_complete h trivial (by rw [h.1]; exact nofun) _
    | single type =>
      refine agrees_convertToolCalls_of_complete h trivial ?_ _
      rw [h.2.1]
      cases type with
      | text | thinking => exact nofun
      | toolUse => exact absurd rfl h.1
    | tools => exact agrees_convertToolCalls_of_tools h _
  · exact agrees_fillBlock .thinking h nofun rfl rfl
  · exact agrees_fillBlock .text h nofun rfl rfl
  refine ⟨nofun, ?_⟩
  intro next hnext
  cases hnext
  exact .inl ⟨b, rfl, h⟩

theorem Agrees.run_iff {read : Option OpenBlocks} {result : Option ClaudePhase}
    (h : info.Agrees read result) (events : List ClaudeEvent) (rest : OpenBlocks → Prop)
    (hrest : ∀ b next, info.Matches b next → ((message b).run events = some stopped ↔ rest next))
    (hnegative : ∀ next : OpenBlocks, next.Negative → ¬ rest next) :
    (result.bind fun p => p.run events) = some stopped ↔ ∃ next, read = some next ∧ rest next := by
  obtain ⟨hnone, hsome⟩ := h
  rcases hread : read with _ | next
  · rw [hnone hread]
    exact iff_of_false nofun nofun
  have hexists : (∃ next', some next = some next' ∧ rest next') ↔ rest next := by
    constructor
    · rintro ⟨next', hnext', hrest'⟩
      exact some.inj hnext' ▸ hrest'
    · exact fun hrest' => ⟨next, rfl, hrest'⟩
  rw [hexists]
  rcases hsome next hread with ⟨b, rfl, hmatch⟩ | ⟨rfl, hneg⟩
  · exact hrest b next hmatch
  · exact iff_of_false nofun (hnegative next hneg)

end ClaudeConvertInfo

end TokensFlux
