import TokensFlux.Convert.Equiv.ChatTools

/-!
# The indices of the tools of a stream

A tool stays once it is there, so every key has its own index in the chunks (`HasKeys`).
-/

namespace TokensFlux

open List Option

namespace ResponsesToChatStreamState

open ToolTables

variable {s s' : ResponsesToChatStreamState} {chunks log : List ChatChunk} {keys : List ToolKey}

/-! ### The tools of all streams -/

def HasKeys (keys : List ToolKey) (s : ResponsesToChatStreamState) (log : List ChatChunk) : Prop :=
  Indexed s.tables (toolFragments log) ∧ ∀ k ∈ keys, (s.toolByKey.lookup k).isSome

theorem HasKeys.moves (h : HasKeys keys s log)
    (hmoves : Moves s.tables s'.tables (toolFragments chunks)) :
    HasKeys keys s' (log ++ chunks) := by
  refine ⟨?_, fun k hk => hmoves.isSome (h.2 k hk)⟩
  rw [toolFragments_append]
  exact h.1.moves hmoves

theorem HasKeys.frame (h : HasKeys keys s log) (htables : s'.tables = s.tables)
    (hnil : toolFragments chunks = []) : HasKeys keys s' (log ++ chunks) :=
  h.moves (.inl ⟨by rw [htables], by rw [htables], hnil⟩)

variable (event : ResponsesStreamResponse)

def shownKey : Option ToolKey :=
  event.item.bind fun item =>
    if item.type.isTool then
      (keyForEvent event).or (fallbackToolKey item.id item.callId event.outputIndex)
    else none

theorem hasKeys_toolItem (h : HasKeys keys s log) (event : ResponsesStreamResponse) :
    HasKeys (keys ++ (shownKey event).toList)
    (s.toolItem event).1 (log ++ (s.toolItem event).2) := by
  have hmoves := h.moves (@moves_toolItem s event _ h.1)
  refine ⟨hmoves.1, fun k hk => ?_⟩
  rcases mem_append.mp hk with hk | hk
  · exact hmoves.2 k hk
  obtain ⟨_, hitem, hkey⟩ := bind_eq_some_iff.mp (mem_toList.mp hk)
  split_ifs at hkey
  obtain ⟨tool, rfl, hputs⟩ := puts_toolItem h.1 hitem hkey
  exact isSome_iff_exists.mpr ⟨tool, hputs.self⟩

theorem terminalOutput_of_isTool {out : ResponsesOutput} (htool : out.type.isTool = true) :
    s.terminalOutput out = s.toolItem { type := .other "", item := some out } := by
  unfold terminalOutput
  rw [if_neg, if_neg, if_pos htool]
  all_goals
    rintro ⟨htype, -⟩
    rw [htype] at htool
    cases htool

theorem terminalOutput_frame {out : ResponsesOutput} (htool : ¬ out.type.isTool = true) :
    (s.terminalOutput out).1.tables = s.tables ∧ toolFragments (s.terminalOutput out).2 = [] := by
  unfold terminalOutput
  split_ifs
  · exact ⟨tables_textDelta _ _, toolFragments_textDelta _ _⟩
  · exact ⟨tables_reasoningDelta _ _, toolFragments_reasoningDelta _ _⟩
  · exact ⟨rfl, rfl⟩

def terminalKey (out : ResponsesOutput) : Option ToolKey :=
  shownKey { type := .other "", item := some out }

theorem hasKeys_terminalOutput (h : HasKeys keys s log) (out : ResponsesOutput) :
    HasKeys (keys ++ (terminalKey out).toList)
    (s.terminalOutput out).1 (log ++ (s.terminalOutput out).2) := by
  by_cases htool : out.type.isTool = true
  · rw [terminalOutput_of_isTool htool]
    exact hasKeys_toolItem h _
  · have hnone : terminalKey out = none := if_neg htool
    rw [hnone, toList_none, append_nil]
    exact h.frame (terminalOutput_frame htool).1 (terminalOutput_frame htool).2

theorem filterMap_snoc {α : Type} (f : α → Option ToolKey) (as : List α) (a : α) :
    (as ++ [a]).filterMap f = as.filterMap f ++ (f a).toList := by
  cases h : f a <;> simp [h]

variable (response : Option OpenAIResponsesResponse)

def outputOf : List ResponsesOutput :=
  (response.map (·.output)).getD []

theorem hasKeys_terminalOutputChunks (h : HasKeys keys s log)
    (response : Option OpenAIResponsesResponse) :
    HasKeys (keys ++ (outputOf response).filterMap terminalKey) (s.terminalOutputChunks response).1
      (log ++ (s.terminalOutputChunks response).2) := by
  have hstep : ∀ pre out s log, HasKeys (keys ++ pre.filterMap terminalKey) s log →
      HasKeys (keys ++ (pre ++ [out]).filterMap terminalKey) (s.terminalOutput out).1
        (log ++ (s.terminalOutput out).2) := by
    intro pre out s log h
    rw [filterMap_snoc, ← append_assoc]
    exact hasKeys_terminalOutput h out
  have hstart : HasKeys (keys ++ [].filterMap terminalKey) s log := by
    rwa [filterMap_nil, append_nil]
  exact @transduce_invariant _ _ _ terminalOutput
    (fun pre => HasKeys (keys ++ pre.filterMap terminalKey)) []
    (outputOf response) s log (fun pre out _ s log _ => hstep pre out s log) hstart

theorem hasKeys_flushAllPendingTools (h : HasKeys keys s log) :
    HasKeys keys s.flushAllPendingTools.1 (log ++ s.flushAllPendingTools.2) :=
  @transduce_invariant _ _ _ flushKey (fun _ => HasKeys keys) [] s.pendingKeys s log
    (fun _ key _ _ _ _ h => h.moves (moves_flushKey h.1 key)) h

theorem finalize_eq : (s.finalize response).1.tables = s.tables ∧
      toolFragments (s.finalize response).2 = [] ∨
      (s.finalize response).1.tables = { s with finalized := true }.flushAllPendingTools.1.tables ∧
        toolFragments (s.finalize response).2 =
          toolFragments { s with finalized := true }.flushAllPendingTools.2 := by
  unfold finalize
  split_ifs with hfinal
  · exact .inl ⟨rfl, rfl⟩
  right
  dsimp only
  generalize { s with finalized := true }.flushAllPendingTools = flushed
  refine ⟨tables_ensureStart _, ?_⟩
  have hstart := flushed.1.toolFragments_ensureStart
  generalize flushed.1.ensureStart = start at hstart ⊢
  generalize (responsesFinishReasonFromStatus response).getD _ = reason
  simp only [toolFragments_append, hstart]
  split_ifs
  · cases start.1.usage <;> simp [toolFragments, makeChunk]
  · simp [toolFragments, makeChunk]

theorem hasKeys_finalize (h : HasKeys keys s log) (response : Option OpenAIResponsesResponse) :
    HasKeys keys (s.finalize response).1 (log ++ (s.finalize response).2) := by
  rcases s.finalize_eq response with ⟨htables, hnil⟩ | ⟨htables, hfragments⟩
  · exact h.frame htables hnil
  have hflush := @hasKeys_flushAllPendingTools { s with finalized := true } log keys h
  refine ⟨?_, ?_⟩
  · rw [htables, toolFragments_append, hfragments, ← toolFragments_append]
    exact hflush.1
  · show ∀ k ∈ keys, ((s.finalize response).1.tables.toolByKey.lookup k).isSome
    rw [htables]
    exact hflush.2

theorem hasKeys_terminalChunks (h : HasKeys keys s log)
    (response : Option OpenAIResponsesResponse) :
    HasKeys (keys ++ (outputOf response).filterMap terminalKey) (s.terminalChunks response).1
      (log ++ (s.terminalChunks response).2) := by
  have hmeta : HasKeys keys (s.applyResponseMetadata response) (log ++ []) :=
    h.frame (tables_applyResponseMetadata _ _) rfl
  rw [append_nil] at hmeta
  have hend := hasKeys_finalize (hasKeys_terminalOutputChunks hmeta response) response
  rw [append_assoc] at hend
  exact hend

def eventKey : Option ToolKey :=
  match event.type with
  | .outputItemAdded | .outputItemDone => shownKey event
  | _ => none

theorem hasKeys_itemEvent (h : HasKeys keys s log) (event : ResponsesStreamResponse) :
    HasKeys (keys ++ (shownKey event).toList)
      (if (event.item.map (·.type.isTool)).getD false then s.toolItem event else (s, [])).1
      (log ++ (if (event.item.map (·.type.isTool)).getD false then s.toolItem event
        else (s, [])).2) := by
  split_ifs with htool
  · exact hasKeys_toolItem h event
  have hnone : shownKey event = none := by
    unfold shownKey
    cases hitem : event.item with
    | none => rfl
    | some =>
      rw [hitem] at htool
      exact if_neg htool
  rw [hnone, toList_none, append_nil]
  exact h.frame rfl rfl

theorem hasKeys_eventChunks (h : HasKeys keys s log) (event : ResponsesStreamResponse) :
    HasKeys (keys ++ (eventKey event).toList)
    (s.eventChunks event).1 (log ++ (s.eventChunks event).2) := by
  have hno : ∀ {s' chunks}, eventKey event = none → HasKeys keys s' chunks →
      HasKeys (keys ++ (eventKey event).toList) s' chunks := by
    intro s' chunks hnone h
    rwa [hnone, toList_none, append_nil]
  have hterminal : ∀ response, HasKeys keys (s.terminalChunks response).1
      (log ++ (s.terminalChunks response).2) := by
    intro response
    obtain ⟨hindexed, hkeys⟩ := hasKeys_terminalChunks h response
    exact ⟨hindexed, fun k hk => hkeys k (mem_append_left _ hk)⟩
  unfold eventChunks
  cases htype : event.type <;> dsimp only
  case outputItemAdded | outputItemDone =>
    have hkey : eventKey event = shownKey event := by
      rw [eventKey, htype]
    rw [hkey]
    exact hasKeys_itemEvent h event
  all_goals refine hno (by rw [eventKey, htype]) ?_
  case created =>
    exact h.frame ((tables_ensureStart _).trans (tables_applyResponseMetadata _ _))
      (toolFragments_ensureStart _)
  case reasoningSummaryDelta | reasoningTextDelta =>
    exact h.frame (tables_reasoningDelta _ _) (toolFragments_reasoningDelta _ _)
  case reasoningSummaryDone | reasoningTextDone =>
    split_ifs <;> exact h.frame rfl rfl
  case outputTextDelta => exact h.frame (tables_textDelta _ _) (toolFragments_textDelta _ _)
  case functionArgsDelta | customToolInputDelta => exact h.moves (moves_toolArgumentsDelta h.1)
  case functionArgsDone | customToolInputDone => exact h.moves (moves_flushPendingTool h.1)
  case completed | done | incomplete => exact hterminal _
  all_goals exact h.frame rfl rfl

theorem hasKeys_transduce (events : List ResponsesStreamResponse) (h : HasKeys [] s []) :
    HasKeys (events.filterMap eventKey)
    (transduce eventChunks s events).1 (transduce eventChunks s events).2 := by
  have hstep : ∀ pre event s log, HasKeys (pre.filterMap eventKey) s log →
      HasKeys ((pre ++ [event]).filterMap eventKey) (s.eventChunks event).1
        (log ++ (s.eventChunks event).2) := by
    intro pre event s log h
    rw [filterMap_snoc]
    exact hasKeys_eventChunks h event
  exact @transduce_invariant _ _ _ eventChunks
    (fun pre => HasKeys (pre.filterMap eventKey)) [] events s []
    (fun pre event _ s log _ => hstep pre event s log) h

theorem hasKeys_new (model : String) (created : ℤ) (includeUsage : Bool) :
    HasKeys [] (newResponsesToChatStreamState model created includeUsage) [] := by
  have hnone : ∀ {k tool}, (∅ : AList fun _ : ToolKey => ResponsesStreamTool).lookup
      k ≠ some tool := by
    intro k tool h
    cases h
  exact ⟨⟨fun h => absurd h hnone, fun h => absurd h hnone, fun h => absurd h hnone,
    fun h => absurd h hnone, forall_mem_nil _⟩, forall_mem_nil _⟩

/-! ### Streams without an error -/

def isFailure : Bool :=
  event.type = .failed || event.type = .error

theorem convertEvents_eq {events : List ResponsesStreamResponse}
    (h : ∀ e ∈ events, isFailure e = false) :
    s.convertEvents events = .ok (transduce eventChunks s events) := by
  induction events generalizing s with
  | nil => rfl
  | cons event _ ih =>
    have hevent : s.responsesStreamEventToChatChunks event = .ok (s.eventChunks event) := by
      have hok := h event mem_cons_self
      unfold isFailure at hok
      unfold responsesStreamEventToChatChunks
      cases htype : event.type <;> simp_all
    rw [convertEvents, hevent]
    simp only [bind, Except.bind]
    rw [ih fun e he => h e (mem_cons_of_mem _ he)]
    rfl

end ResponsesToChatStreamState

end TokensFlux
