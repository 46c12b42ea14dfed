import TokensFlux.Convert.Equiv.ClaudeDelta

/-!
# Converted streams are well formed

A stream of chunks is converted into a well-formed stream of events exactly if it is regular.
-/

namespace TokensFlux

open List Option ClaudePhase OpenBlocks ClaudeEvent StreamHandlerState

namespace ClaudeConvertInfo

open ClaudePhase

variable {info : ClaudeConvertInfo} {b : Blocks ℤ BlockType} {blocks : OpenBlocks}

/-! ### All chunks -/

theorem Matches.of_request (h : info.Matches b blocks) (sendResponseCount : ℕ)
    (usage : Option ChatUsage) (finishReason : String) (done : Bool) :
    { info with sendResponseCount, usage, finishReason, done }.Matches b blocks := by
  cases blocks <;> exact h

section

variable (env : ClaudeEnv)

/-- **A chunk after the first one, on both sides**; `later` are the events of the chunks after
it. -/
theorem Matches.run_streamResponse (h : info.Matches b blocks) (hdone : info.done = false)
    (hcount : info.sendResponseCount ≠ 1) (chunk : ChatChunk)
    (later : ClaudeConvertInfo → List ClaudeEvent)
    (rest : OpenBlocks → Prop) (hlater : ∀ info', info'.done = true → later info' = [])
    (hrest : ∀ info' b' next, info.SameRequest info' → info'.Matches b' next →
      ((message b').run (later info') = some stopped ↔ rest next)) (hnegative :
    ∀ next, next.Negative → ¬ rest next) :
    (message b).run ((info.streamResponseOpenAI2Claude env chunk).2 ++
        later (info.streamResponseOpenAI2Claude env chunk).1) = some stopped
      ↔ blocks.ReadsChunk (chunk.usage.or info.usage).isSome chunk rest := by
  unfold streamResponseOpenAI2Claude OpenBlocks.ReadsChunk
  rw [if_neg (by rw [hdone]; exact Bool.false_ne_true), if_neg hcount]
  cases hchoice : chunk.choices.head? with
  | none =>
    cases husage : chunk.usage.or info.usage with
    | none =>
      exact hrest info b blocks ⟨rfl, rfl, rfl⟩ h
    | some usage =>
      rw [hlater _ rfl, append_nil]
      exact h.run_stopMessage usage _
  | some choice =>
    dsimp only
    by_cases hfinished : choice.isFinished = true
    · have hreason := h.of_request info.sendResponseCount info.usage
        (choice.finishReason.getD "") info.done
      rw [if_pos hfinished]
      rcases husage : chunk.usage with _ | usage
      · rw [if_pos ⟨hfinished, rfl⟩]
        exact hrest _ b blocks ⟨rfl, rfl, rfl⟩ hreason
      rw [if_neg fun h => nomatch h.2]
      simp only [if_pos hfinished]
      rw [hlater _ rfl, append_nil, run_append]
      refine (agrees_convertDelta hreason choice.delta).run_iff _ _ ?_ fun next
        hneg => hneg.not_complete
      exact fun b next hmatch => hmatch.run_stopMessage usage _
    rw [if_neg hfinished, if_neg fun h => hfinished h.1]
    simp only [if_neg hfinished]
    rw [run_append]
    refine (agrees_convertDelta h choice.delta).run_iff _ _ ?_ hnegative
    exact fun b next hmatch => hrest _ b next (info.sameRequest_convertDelta _) hmatch

def streamEvents (usage : ChatUsage) : ClaudeConvertInfo → ChatChunk →
      List ChatChunk → List ClaudeEvent
  | info, last, [] => (info.handleFinalResponse env usage last).2
  | info, last, next :: chunks =>
    (info.handleStreamFormat env last).2 ++ streamEvents usage
      (info.handleStreamFormat env last).1 next chunks

theorem streamEvents_of_done (usage : ChatUsage) (hdone : info.done = true) (last : ChatChunk)
    (chunks : List ChatChunk) : streamEvents env usage info last chunks = [] := by
  have hnothing : ∀ (info : ClaudeConvertInfo) (chunk : ChatChunk), info.done = true →
      info.streamResponseOpenAI2Claude env chunk = (info, []) := by
    intro info chunk hdone
    unfold streamResponseOpenAI2Claude
    rw [if_pos hdone]
  induction chunks generalizing info last with
  | nil =>
    unfold streamEvents handleFinalResponse
    rw [hnothing { info with usage := some usage } last hdone]
  | cons next _ ih =>
    have hstep : info.handleStreamFormat env last = ({ info with
        sendResponseCount := info.sendResponseCount + 1
        usage := last.usage.or info.usage }, []) :=
      hnothing _ last hdone
    unfold streamEvents
    rw [hstep]
    refine (nil_append _).trans (ih ?_ next)
    exact hdone

/-- **All chunks after the first one, on both sides.** -/
theorem Matches.run_streamEvents (usage : ChatUsage) (h : info.Matches b blocks)
    (hdone : info.done = false)
    (hcount : 1 ≤ info.sendResponseCount) (last : ChatChunk) (chunks : List ChatChunk)
    (hlast : chunks = [] → 2 ≤ info.sendResponseCount) :
    (message b).run (streamEvents env usage info last chunks) = some stopped
      ↔ blocks.Regular info.usage.isSome (last :: chunks) := by
  induction chunks generalizing info b blocks last with
  | nil =>
    have hcount' := hlast rfl
    have hmatch := h.of_request info.sendResponseCount (some usage) info.finishReason info.done
    have hrun := hmatch.run_streamResponse env hdone (by dsimp only; omega) last
      (fun _ => []) (fun _ => False)
      (fun _ _ => rfl) (fun _ _ _ _ _ => iff_of_false nofun id) (fun _ _ => id)
    rw [append_nil] at hrun
    unfold OpenBlocks.Regular
    have hknown : (info.usage.isSome || last.usage.isSome || ([] : List ChatChunk).isEmpty)
        = (last.usage.or (some usage)).isSome := by
      cases last.usage <;> simp
    rw [hknown]
    exact hrun
  | cons next chunks ih =>
    have hmatch := h.of_request (info.sendResponseCount + 1) (last.usage.or info.usage)
      info.finishReason info.done
    unfold OpenBlocks.Regular
    have hknown : (info.usage.isSome || last.usage.isSome || (next :: chunks).isEmpty)
        = (last.usage.or (last.usage.or info.usage)).isSome := by
      cases last.usage <;> simp
    have hseen : (info.usage.isSome || last.usage.isSome) = (last.usage.or info.usage).isSome := by
      cases last.usage <;> simp
    rw [hknown, hseen]
    refine hmatch.run_streamResponse env hdone (by dsimp only; omega) last
      (fun info' => streamEvents env usage info' next chunks) _
      (fun info' hdone' => streamEvents_of_done env usage hdone' next chunks) ?_
      (fun next' hneg => hneg.not_regular _ _)
    rintro info' b' next' ⟨hcount', husage', hdone'⟩ hmatch'
    dsimp only at hcount' husage' hdone'
    rw [← husage']
    exact ih hmatch' (hdone'.trans hdone) (by omega) next (by intro _; omega)

/-! ### The first chunk -/

theorem run_firstToolCall (usage : Option ChatUsage) (delta : ChoiceDelta) :
    let call := firstToolCall { sendResponseCount := 1, usage } delta
    ∃ b blocks, (message {}).run call.2 = some (message b) ∧
      call.1.Matches b blocks ∧ blocks.Complete ∧
      blocks = if delta.toolCalls ≠ [] then .tools [0] 0 else .closed := by
  cases htools : delta.toolCalls with
  | nil =>
    unfold firstToolCall
    rw [htools]
    exact ⟨{}, .closed, rfl, ⟨rfl, rfl, forall_mem_nil _⟩, trivial, rfl⟩
  | cons toolCall =>
    unfold firstToolCall
    rw [htools]
    refine ⟨{ used := [0], live := [(0, .toolUse)] }, .tools [0] 0, ?_,
      ⟨rfl, rfl, Int.le_refl _, ?_, ?_⟩, ?_, rfl⟩
    · rw [@run_contentBlockStart {} _ (.toolUse toolCall.id toolCall.name) _ not_mem_nil
        (forall_mem_nil _)]
      split_ifs
      · exact run_contentBlockDelta _ (mem_singleton.mpr rfl)
      · rfl
    · simp
    · exact ⟨rfl, by simp, by simp⟩
    · exact ⟨by simp, by decide⟩

theorem firstContent_eq (hlast : info.lastMessagesType = .none ∨ info.lastMessagesType = .tools)
    (delta : ChoiceDelta) :
    info.firstContent delta = info.convertDelta { delta with toolCalls := [] } := by
  have hblock : ∀ (type : BlockType) block filled, type ≠ .toolUse →
      info.firstBlock (lastMessage type) block filled =
        info.fillBlock (lastMessage type) block filled := by
    intro type block filled htype
    have hne : info.lastMessagesType ≠ lastMessage type := by
      cases type with
      | text | thinking => rcases hlast with hlast | hlast <;> rw [hlast] <;> exact nofun
      | toolUse => exact absurd rfl htype
    unfold firstBlock fillBlock
    rw [if_pos hne, if_pos hne]
  unfold convertDelta
  rw [if_neg (not_ne_iff.mpr rfl)]
  refine if_congr Iff.rfl (hblock .thinking _ _ nofun)
    (if_congr Iff.rfl (hblock .text _ _ nofun) rfl)

/-- **The delta of the first chunk**: the blocks that it opens are complete. -/
theorem run_firstDelta (usage : Option ChatUsage) (delta : ChoiceDelta) :
    let call := firstToolCall { sendResponseCount := 1, usage } delta
    let content := firstContent call.1 delta
    ∃ b, (message {}).run (call.2 ++ content.2) = some (message b) ∧
      content.1.Matches b (.first delta) ∧
      SameRequest { sendResponseCount := 1, usage } content.1 := by
  intro call content
  obtain ⟨b, blocks, hrun, hmatch, hcomplete, hblocks⟩ := run_firstToolCall usage delta
  have hcall : call.1.lastMessagesType = .none ∨ call.1.lastMessagesType = .tools := by
    unfold call firstToolCall
    split
    · exact .inl rfl
    · exact .inr rfl
  have hsame := sameRequest_firstToolCall { sendResponseCount := 1, usage } delta
  have hread : blocks.readDelta { delta with toolCalls := [] } = some (.first delta) := by
    unfold readDelta readBlock first
    rw [if_neg (not_ne_iff.mpr rfl), if_pos hcomplete, if_pos hcomplete, hblocks]
    show (if delta.getReasoningContent ≠ "" then _ else if delta.getContentString ≠ ""
      then _ else _) = _
    split_ifs <;> rfl
  have hpositive : ¬ (first delta).Negative := by
    unfold first
    split_ifs
    · exact id
    · exact id
    · simp [OpenBlocks.Negative]
    · exact id
  have hkept := sameRequest_firstContent call.1 delta
  rw [run_append, hrun, bind_some]
  unfold content
  rw [firstContent_eq hcall] at hkept ⊢
  rcases (agrees_convertDelta hmatch { delta with toolCalls := [] }).2 _ hread with
    ⟨b', hrun', hmatch'⟩ | hneg
  · exact ⟨b', hrun', hmatch', hkept.1.trans hsame.1, hkept.2.1.trans hsame.2.1,
      hkept.2.2.trans hsame.2.2⟩
  · exact absurd hneg.2 hpositive

theorem complete_first (delta : ChoiceDelta) : (first delta).Complete := by
  unfold first
  split_ifs
  · trivial
  · trivial
  · exact ⟨by simp, by decide⟩
  · trivial

end

/-! ### Streams without a start -/

theorem isMessageStart_stopOpenBlocks (info : ClaudeConvertInfo) :
    ∀ e ∈ info.stopOpenBlocks, e.isMessageStart = false := by
  unfold stopOpenBlocks
  split <;> simp [isMessageStart]

theorem isMessageStart_toolLoop (base : ℤ) (position : ℕ)
    (toolCalls : List ToolCallResponse) (maxOffset : ℤ) :
    ∀ e ∈ (toolLoop base position toolCalls maxOffset).2, e.isMessageStart = false := by
  induction toolCalls generalizing position maxOffset with
  | nil => exact forall_mem_nil _
  | cons toolCall _ ih =>
    have hcall : ∀ e ∈ toolCallEvents base (toolOffset position toolCall) toolCall,
        e.isMessageStart = false := by
      unfold toolCallEvents
      split_ifs <;> simp [isMessageStart]
    exact forall_mem_append.mpr ⟨hcall, ih _ _⟩

theorem isMessageStart_convertDelta (info : ClaudeConvertInfo) (delta : ChoiceDelta) :
    ∀ e ∈ (info.convertDelta delta).2, e.isMessageStart = false := by
  have hstops : ∀ e ∈ info.stopOpenBlocksAndAdvance.2, e.isMessageStart = false := by
    rw [info.stopOpenBlocksAndAdvance_events]
    exact info.isMessageStart_stopOpenBlocks
  have hfill : ∀ type block filled, ∀ e ∈ (info.fillBlock type block filled).2,
      e.isMessageStart = false := by
    intro type block filled
    unfold fillBlock
    split_ifs
    · exact forall_mem_append.mpr ⟨hstops, by simp [isMessageStart]⟩
    · simp [isMessageStart]
  unfold convertDelta
  split_ifs
  · unfold convertToolCalls
    refine forall_mem_append.mpr ⟨?_, isMessageStart_toolLoop _ _ _ _⟩
    split_ifs
    · exact hstops
    · exact forall_mem_nil _
  · exact hfill _ _ _
  · exact hfill _ _ _
  · exact forall_mem_nil _

variable (env : ClaudeEnv)

theorem isMessageStart_streamResponse (hcount : info.sendResponseCount ≠ 1) (chunk : ChatChunk) :
    ∀ e ∈ (info.streamResponseOpenAI2Claude env chunk).2, e.isMessageStart = false := by
  have hstop : ∀ (info : ClaudeConvertInfo) usage reason,
      ∀ e ∈ (info.stopMessage (some usage) reason).2, e.isMessageStart = false := by
    intro info usage reason
    refine forall_mem_append.mpr ⟨forall_mem_append.mpr ⟨info.isMessageStart_stopOpenBlocks, ?_⟩,
      ?_⟩
    all_goals exact forall_mem_singleton.mpr rfl
  unfold streamResponseOpenAI2Claude
  split_ifs with hdone
  · exact forall_mem_nil _
  split
  · split
    · exact hstop _ _ _
    · exact forall_mem_nil _
  split_ifs
  · split
    · exact forall_mem_nil _
    exact forall_mem_append.mpr ⟨isMessageStart_convertDelta _ _, hstop _ _ _⟩
  · exact isMessageStart_convertDelta _ _

variable (usage : ChatUsage)

/-- The last chunk of a stream of two is taken for the first one again. -/
theorem run_streamEvents_of_two (hdone : info.done = false) (hcount : info.sendResponseCount = 1)
    (last : ChatChunk) :
    (message b).run (streamEvents env usage info last []) = none := by
  unfold streamEvents handleFinalResponse streamResponseOpenAI2Claude
  dsimp only
  rw [if_neg (by rw [hdone]; exact Bool.false_ne_true), if_pos hcount]
  unfold firstResponse
  split
  · rfl
  · split_ifs <;> rfl

theorem Matches.run_streamEvents_after_first (h : info.Matches b blocks)
    (hdone : info.done = false) (hcount : info.sendResponseCount = 1) (second : ChatChunk)
    (chunks : List ChatChunk) :
    (message b).run (streamEvents env usage info second chunks) = some stopped
      ↔ chunks ≠ [] ∧ blocks.Regular info.usage.isSome (second :: chunks) := by
  by_cases hchunks : chunks = []
  · subst hchunks
    rw [run_streamEvents_of_two env usage hdone hcount second]
    exact iff_of_false nofun fun h => h.1 rfl
  · rw [h.run_streamEvents env usage hdone (by omega) second chunks fun h => absurd h hchunks]
    exact (and_iff_right hchunks).symm

theorem wellFormed_streamEvents_iff (first second : ChatChunk) (chunks : List ChatChunk) :
    WellFormed (streamEvents env usage {} first (second :: chunks)) ↔
      RegularStream (first :: second :: chunks) := by
  have hstart : handleStreamFormat env {} first
      = firstResponse env { sendResponseCount := 1, usage := first.usage } first := by
    unfold handleStreamFormat
    rw [or_none]
    rfl
  unfold streamEvents RegularStream WellFormed
  rw [hstart]
  unfold firstResponse
  dsimp only
  cases hchoice : first.choices.head? with
  | none =>
    have hclosed : Matches { sendResponseCount := 1, usage := first.usage } {} .closed :=
      ⟨rfl, rfl, forall_mem_nil _⟩
    exact hclosed.run_streamEvents_after_first env usage rfl rfl second chunks
  | some choice =>
    obtain ⟨b, hrun, hmatch, hcount, husage, hdone⟩ := run_firstDelta first.usage choice.delta
    dsimp only
    generalize hcall : firstToolCall { sendResponseCount := 1, usage := first.usage } choice.delta =
      call at hrun hmatch hcount husage hdone ⊢
    generalize hcontent : firstContent call.1 choice.delta =
      content at hrun hmatch hcount husage hdone ⊢
    have hread : ∀ events, start.run (.messageStart first.id first.model
          { inputTokens := env.estimatePromptTokens, outputTokens := 0 } :: call.2 ++
            content.2 ++ events)
        = (message b).run events := by
      intro events
      rw [cons_append, cons_append, run_cons]
      show (message {}).run _ = _
      rw [run_append, hrun, bind_some]
    split_ifs with hfinished
    · rw [streamEvents_of_done env usage rfl, List.append_nil, hread, husage, Option.or_self]
      exact (hmatch.of_request _ _ _ _).run_stopMessage_of_complete (complete_first _) _ _
    · rw [hread, hmatch.run_streamEvents_after_first env usage hdone hcount second chunks, husage]

end ClaudeConvertInfo

/-! ### The handler -/

namespace StreamHandlerState

variable (env : StreamHandlerEnv)

theorem processStreamResponse_eq (s : StreamHandlerState) (chunk : ChatChunk) :
    (s.processStreamResponse chunk).info = s.info ∧
      (s.processStreamResponse chunk).events = s.events ∧
      (s.processStreamResponse chunk).lastStreamData = s.lastStreamData := by
  unfold processStreamResponse
  induction chunk.choices generalizing s with
  | nil => exact ⟨rfl, rfl, rfl⟩
  | cons _ _ ih => exact ih _

theorem onData_eq {s : StreamHandlerState} {last : ChatChunk} (h : s.lastStreamData = some last)
    (data : ChatChunk) :
    (s.onData env data).info = (s.info.handleStreamFormat env.toClaudeEnv last).1 ∧
      (s.onData env data).events = s.events ++ (s.info.handleStreamFormat env.toClaudeEnv last).2 ∧
      (s.onData env data).lastStreamData = some data := by
  unfold onData
  rw [h]
  dsimp only
  split_ifs
  · exact processStreamResponse_eq _ data
  · exact processStreamResponse_eq _ data
  all_goals exact ⟨rfl, rfl, rfl⟩

theorem foldl_onData {s : StreamHandlerState} {last : ChatChunk} (h : s.lastStreamData = some last)
    (chunks : List ChatChunk) : ∃ last', (chunks.foldl (onData env) s).lastStreamData =
      some last' ∧ ∀ usage, (chunks.foldl (onData env) s).events ++
          ((chunks.foldl (onData env) s).info.handleFinalResponse env.toClaudeEnv usage last').2
        = s.events ++ s.info.streamEvents env.toClaudeEnv usage last chunks := by
  induction chunks generalizing s last with
  | nil => exact ⟨last, h, fun usage => rfl⟩
  | cons next _ ih =>
    obtain ⟨hinfo, hevents, hlast⟩ := onData_eq env h next
    obtain ⟨last', hlast', hall⟩ := ih hlast
    refine ⟨last', hlast', ?_⟩
    intro usage
    rw [foldl_cons, hall, hinfo, hevents, append_assoc]
    rfl

end StreamHandlerState

theorem oaiStreamHandler_cons (env : StreamHandlerEnv) (first : ChatChunk)
    (chunks : List ChatChunk) :
    ∃ usage, oaiStreamHandler env (first :: chunks)
      = ClaudeConvertInfo.streamEvents env.toClaudeEnv usage {} first chunks := by
  have hfirst : (onData env {} first).info = {} ∧
      (onData env {} first).events = [] ∧
      (onData env {} first).lastStreamData = some first := by
    unfold onData
    dsimp only
    split_ifs
    · exact processStreamResponse_eq _ first
    · exact ⟨rfl, rfl, rfl⟩
  obtain ⟨hinfo, hevents, hlast⟩ := hfirst
  obtain ⟨_, hlast', hall⟩ := foldl_onData env hlast chunks
  unfold oaiStreamHandler
  rw [foldl_cons]
  dsimp only
  rw [hlast']
  simp only [hinfo, hevents, nil_append] at hall
  exact ⟨_, hall _⟩

/-- **Converted streams are well formed** exactly if the chunks are regular. -/
theorem wellFormed_oaiStreamHandler_iff (env : StreamHandlerEnv) (chunks : List ChatChunk) :
    ClaudePhase.WellFormed (oaiStreamHandler env chunks) ↔ RegularStream chunks := by
  obtain _ | ⟨first, chunks⟩ := chunks
  · exact iff_of_false nofun id
  obtain ⟨usage, hevents⟩ := oaiStreamHandler_cons env first chunks
  rw [hevents]
  cases chunks with
  | nil =>
    -- A single chunk is never taken for the first one.
    refine iff_of_false (not_wellFormed_of_not_start ?_) id
    exact @ClaudeConvertInfo.isMessageStart_streamResponse { usage := some usage } env.toClaudeEnv
      Nat.zero_ne_one first
  | cons second chunks =>
    exact ClaudeConvertInfo.wellFormed_streamEvents_iff _ usage first second chunks

def StreamHandlerEnv.plain : StreamHandlerEnv where
  toLower := id
  estimatePromptTokens := 0
  isAudioModel := false
  isChatCompletions := true
  estimateToken _ := 0
  applyUsagePostProcessing usage _ := usage

/-- A stream of two chunks, text and then the finish reason with the usage, starts the message
twice. -/
theorem wellFormed_oaiStreamHandler_twoChunks : ((oaiStreamHandler .plain
        [{ choices := [{ delta := { content := some "hi" } }] },
          { choices := [{ finishReason := some "stop" }],
            usage := some { completionTokens := 1 } }]).filter
      (·.isMessageStart)).length = 2 := by
  decide +kernel

-- Without usage the message is never stopped.
example : ¬ ClaudePhase.WellFormed
      (oaiStreamHandler .plain [{ choices := [{ delta := { role := "assistant" } }] },
      { choices := [{ delta := { content := some "hi" } }] },
      { choices := [{ finishReason := some "stop" }] }]) := by
  decide +kernel

end TokensFlux
