import TokensFlux.Convert.Equiv.ResponsesItems

/-!
# The items of a conversion to Responses

A delta adds its item unless it is there, and fills it (`Feeds`); a finish reason or the end of the
stream closes all items (`Closes`).
-/

namespace TokensFlux

open List Function StreamItem Option

namespace ChatToResponsesStreamState

variable (s : ChatToResponsesStreamState)

/-! ### The items of a state -/

def item : ChatToResponsesOutputRef → Option StreamItem
  | .message => if s.textStarted then some ⟨s.textOutputIndex, s.messageOutput "", s.textDone⟩
      else none
  | .reasoning =>
    if s.reasoningStarted then some ⟨s.reasoningIndex, s.reasoningOutput "",
      s.reasoningDone⟩ else none
  | .tool chatIndex =>
    (s.toolsByIndex.lookup chatIndex).map fun tool =>
      ⟨tool.outputIndex, toolOutput tool "", tool.done⟩

def view : OutputView := ⟨s.outputOrder, s.item⟩

structure Running : Prop where
  next : s.nextOutputIndex = s.outputOrder.length
  text : s.textStarted = false → s.text = "" ∧ s.textDone = false
  reasoning : s.reasoningStarted = false → s.reasoning = "" ∧ s.reasoningDone = false
  sentCreated : s.sentCreated = true
  id : s.id ≠ ""
  finalized : s.finalized = false

def payload (ref : ChatToResponsesOutputRef) : String :=
  (s.item ref).elim "" (·.output.payload)

variable {tool : ChatToResponsesStreamTool} {output : ResponsesOutput} {item : StreamItem}

theorem item_eq_some_finalOutput {ref : ChatToResponsesOutputRef} (h : s.item ref = some item)
    (status : String) :
    s.finalOutput status ref = some { item.output with status } := by
  cases ref with
  | message | reasoning =>
    rw [ChatToResponsesStreamState.item] at h
    split_ifs at h
    cases h
    rfl
  | tool =>
    obtain ⟨tool, htool, rfl⟩ := Option.map_eq_some_iff.mp h
    rw [finalOutput, htool]
    rfl

variable {s} {s' : ChatToResponsesStreamState} {ref : ChatToResponsesOutputRef} {content : String}
  {events : List ResponsesStreamResponse}

/-! ### Deltas -/

structure Feeds (s s' : ChatToResponsesStreamState) (ref : ChatToResponsesOutputRef)
    (content : String) (events : List ResponsesStreamResponse) : Prop where
  running : s'.Running
  logged : ∀ {log}, s.view.Logged log → s'.view.Logged (log ++ events)
  others : ∀ {r}, r ≠ ref → s'.item r = s.item r
  fed : ∃ i output, s'.item ref = some ⟨i, output, false⟩ ∧
    output.payload = s.payload ref ++ content ∧
    ∀ {item}, s.item ref = some item → output.id = item.output.id

theorem view_eq_set (horder : s'.outputOrder = s.outputOrder) (hself : s'.item ref = some item)
    (hothers : ∀ r, r ≠ ref → s'.item r = s.item r) : s'.view = s.view.set ref item := by
  unfold view
  congr 1
  funext r
  by_cases hr : r = ref
  · rw [hr, hself, update_self]
  · rw [hothers r hr, update_of_ne hr]

theorem view_eq_add_set (output : ResponsesOutput)
    (horder : s'.outputOrder = s.outputOrder ++ [ref])
    (hself : s'.item ref = some item) (hothers : ∀ r, r ≠ ref → s'.item r = s.item r) :
    s'.view = (s.view.add ref output).set ref item := by
  unfold view OutputView.set OutputView.add
  rw [horder, update_idem]
  congr 1
  funext r
  by_cases hr : r = ref
  · rw [hr, hself, update_self]
  · rw [hothers r hr, update_of_ne hr]

theorem Feeds.of_old {i : ℤ} {output' : ResponsesOutput} (hrunning : s'.Running)
    (horder : s'.outputOrder = s.outputOrder) (hothers : ∀ r, r ≠ ref → s'.item r = s.item r)
    (hitem : s.item ref = some ⟨i, output, false⟩) (hself : s'.item ref = some ⟨i, output', false⟩)
    (htype : output'.type = output.type) (hid : output'.id = output.id)
    (hpayload : output'.payload = output.payload ++ content)
    (hcontent : deltaContent events = content)
    (hfills : ∀ e ∈ events, e.Fills output ∧ e.outputIndex = some i) :
    Feeds s s' ref content events where
  running := hrunning
  logged h := by
    rw [view_eq_set horder hself hothers]
    exact h.fill hitem htype hid (by rw [hpayload, hcontent]) hfills
  others hr := hothers _ hr
  fed := by
    refine ⟨i, output', hself, ?_, ?_⟩
    · rw [payload, hitem]
      exact hpayload
    · intro item h
      obtain rfl := some.inj (hitem.symm.trans h)
      exact hid

theorem Feeds.of_new {output' : ResponsesOutput} {added : ResponsesStreamResponse} (h : s.Running)
    (hrunning : s'.Running) (horder : s'.outputOrder = s.outputOrder ++ [ref])
    (hothers : ∀ r, r ≠ ref → s'.item r = s.item r) (hitem : s.item ref = none)
    (hself : s'.item ref = some ⟨s.nextOutputIndex, output', false⟩) (hadds : added.Adds output)
    (hindex : added.outputIndex = some s.nextOutputIndex) (hreftype : output.type = ref.type)
    (hempty : output.payload = "") (htype : output'.type = output.type)
    (hid : output'.id = output.id)
    (hpayload : output'.payload = content) (hcontent : deltaContent events = content)
    (hfills : ∀ e ∈ events, e.Fills output ∧ e.outputIndex = some s.nextOutputIndex) :
    Feeds s s' ref content (added :: events) where
  running := hrunning
  logged hlog := by
    rw [h.next] at hself hindex hfills
    rw [view_eq_add_set output horder hself hothers, append_cons]
    have hadd := hlog.add hitem hreftype hempty hindex hadds
    refine hadd.fill (update_self ..) htype hid ?_ hfills
    rw [hpayload, hcontent, hempty, String.empty_append]
  others hr := hothers _ hr
  fed := by
    refine ⟨s.nextOutputIndex, output', hself, ?_, ?_⟩
    · rw [payload, hitem, hpayload]
      exact String.empty_append.symm
    · intro item h
      rw [hitem] at h
      cases h

theorem Running.next_nextIndex (h : s.Running) (ref : ChatToResponsesOutputRef) :
    (s.nextIndex ref).nextOutputIndex = (s.nextIndex ref).outputOrder.length := by
  unfold nextIndex
  rw [length_append, length_singleton, h.next]
  rfl

theorem payload_messageOutput (status : String) : (s.messageOutput status).payload = s.text := by
  simp [ResponsesOutput.payload, messageOutput]

theorem payload_reasoningOutput (status : String) :
    (s.reasoningOutput status).payload = s.reasoning := by
  simp [ResponsesOutput.payload, reasoningOutput]

theorem payload_toolOutput (tool : ChatToResponsesStreamTool) (status : String) :
    (toolOutput tool status).payload = tool.arguments := rfl

theorem deltaContent_singleton (e : ResponsesStreamResponse) : deltaContent [e] = e.delta := by
  simp [deltaContent]

theorem item_message (hstarted : s.textStarted = true) (hdone : s.textDone = false) :
    s.item .message = some ⟨s.textOutputIndex, s.messageOutput "", false⟩ := by
  rw [item, if_pos hstarted, hdone]

theorem feeds_appendTextDelta (h : s.Running)
    (hopen : ∀ item, s.item .message = some item → item.done = false)
    (delta : String) : Feeds s (s.appendTextDelta delta).1 .message delta
      (s.appendTextDelta delta).2 := by
  have hothers : ∀ r, r ≠ .message → (s.appendTextDelta delta).1.item r = s.item r := by
    intro r hr
    unfold appendTextDelta startText
    cases r with
    | message => exact absurd rfl hr
    | reasoning | tool => split_ifs <;> rfl
  unfold appendTextDelta startText at hothers ⊢
  by_cases hstarted : s.textStarted
  · have hdone : s.textDone = false := hopen _ (if_pos hstarted)
    rw [if_pos hstarted] at hothers ⊢
    refine .of_old ?_ rfl hothers (item_message hstarted hdone)
      (item_message hstarted hdone) rfl rfl
      ?_ (deltaContent_singleton _) (forall_mem_singleton.mpr ⟨⟨rfl, rfl⟩, rfl⟩)
    · exact { h with text := fun hs => absurd (hstarted.symm.trans hs) Bool.noConfusion }
    · rw [payload_messageOutput, payload_messageOutput]
  obtain ⟨hempty, hdone⟩ := h.text (Bool.eq_false_iff.mpr hstarted)
  rw [if_neg hstarted] at hothers ⊢
  refine .of_new h ?_ rfl hothers (if_neg hstarted) (item_message rfl hdone) ?_ rfl rfl
    ((payload_messageOutput "").trans hempty) rfl rfl ?_ (deltaContent_singleton _)
      (forall_mem_singleton.mpr ⟨⟨rfl, rfl⟩, rfl⟩)
  · exact ⟨h.next_nextIndex _, nofun, h.reasoning, h.sentCreated, h.id, h.finalized⟩
  · exact ⟨rfl, _, rfl, rfl, rfl⟩
  · show s.text ++ delta = delta
    rw [hempty, String.empty_append]

theorem item_reasoning (hstarted : s.reasoningStarted = true) (hdone : s.reasoningDone = false) :
    s.item .reasoning = some ⟨s.reasoningIndex, s.reasoningOutput "", false⟩ := by
  rw [item, if_pos hstarted, hdone]

theorem feeds_appendReasoningDelta (h : s.Running)
    (hopen : ∀ item, s.item .reasoning = some item → item.done = false) (delta : String) :
    Feeds s (s.appendReasoningDelta delta).1 .reasoning delta (s.appendReasoningDelta delta).2 := by
  have hothers : ∀ r, r ≠ .reasoning → (s.appendReasoningDelta delta).1.item r = s.item r := by
    intro r hr
    unfold appendReasoningDelta startReasoning
    cases r with
    | reasoning => exact absurd rfl hr
    | message | tool => split_ifs <;> rfl
  unfold appendReasoningDelta startReasoning at hothers ⊢
  by_cases hstarted : s.reasoningStarted
  · have hdone : s.reasoningDone = false := hopen _ (if_pos hstarted)
    rw [if_pos hstarted] at hothers ⊢
    refine .of_old ?_ rfl hothers (item_reasoning hstarted hdone)
      (item_reasoning hstarted hdone) rfl rfl
      ?_ (deltaContent_singleton _) (forall_mem_singleton.mpr ⟨⟨rfl, rfl⟩, rfl⟩)
    · exact { h with reasoning := fun hs => absurd (hstarted.symm.trans hs) Bool.noConfusion }
    · rw [payload_reasoningOutput, payload_reasoningOutput]
  obtain ⟨hempty, hdone⟩ := h.reasoning (Bool.eq_false_iff.mpr hstarted)
  rw [if_neg hstarted] at hothers ⊢
  refine .of_new h ?_ rfl hothers (if_neg hstarted) (item_reasoning rfl hdone) ?_ rfl rfl
    ((payload_reasoningOutput "").trans hempty) rfl rfl ?_ (deltaContent_singleton _)
      (forall_mem_singleton.mpr ⟨⟨rfl, rfl⟩, rfl⟩)
  · exact ⟨h.next_nextIndex _, h.text, nofun, h.sentCreated, h.id, h.finalized⟩
  · exact ⟨rfl, _, rfl, rfl, rfl⟩
  · show s.reasoning ++ delta = delta
    rw [hempty, String.empty_append]

theorem item_tool {chatIndex : ℤ} (h : s.toolsByIndex.lookup chatIndex = some tool)
    (hdone : tool.done = false) :
    s.item (.tool chatIndex) = some ⟨tool.outputIndex, toolOutput tool "", false⟩ := by
  rw [item, h, map_some, hdone]

theorem update_id {fragment : ToolCallResponse}
    (h : trimSpace fragment.id = "" ∨ trimSpace fragment.id = tool.id) :
    (tool.update fragment).id = tool.id := by
  unfold ChatToResponsesStreamTool.update
  by_cases hblank : trimSpace fragment.id = ""
  · rw [if_neg (not_not.mpr hblank)]
  · rw [if_pos hblank, h.resolve_left hblank]

theorem update_id_of_ne {fragment : ToolCallResponse} (h : trimSpace fragment.id ≠ "") :
    (tool.update fragment).id = trimSpace fragment.id := by
  unfold ChatToResponsesStreamTool.update
  rw [if_pos h]

theorem newTool_id (fragment : ToolCallResponse) :
    trimSpace fragment.id = "" ∨ trimSpace fragment.id = (s.newTool fragment).id := by
  unfold newTool
  by_cases hblank : trimSpace fragment.id = ""
  · exact .inl hblank
  · rw [if_neg hblank]
    exact .inr rfl

theorem deltaContent_fragmentEvents (tool : ChatToResponsesStreamTool)
    (fragment : ToolCallResponse) :
    deltaContent (fragmentEvents tool fragment) = fragment.arguments := by
  unfold fragmentEvents
  split_ifs with hempty
  · exact deltaContent_singleton _
  · exact (not_not.mp hempty).symm

theorem fills_fragmentEvents {tool' : ChatToResponsesStreamTool} (fragment : ToolCallResponse)
    (hid : tool'.id = tool.id) (hindex : tool'.outputIndex = tool.outputIndex) :
    ∀ e ∈ fragmentEvents tool' fragment, e.Fills (toolOutput tool "") ∧
      e.outputIndex = some tool.outputIndex := by
  intro e he
  unfold fragmentEvents at he
  split_ifs at he
  · rw [mem_singleton.mp he]
    exact ⟨⟨rfl, hid⟩, congrArg some hindex⟩
  · cases he

theorem feeds_appendToolCallDelta (h : s.Running) (fragment : ToolCallResponse)
    (hopen : ∀ item, s.item (.tool fragment.chatIndex) = some item → item.done = false)
    (hid : ∀ item, s.item (.tool fragment.chatIndex) = some item →
      trimSpace fragment.id = "" ∨ trimSpace fragment.id = item.output.id) :
    Feeds s (s.appendToolCallDelta fragment).1 (.tool fragment.chatIndex) fragment.arguments
      (s.appendToolCallDelta fragment).2 := by
  have hothers : ∀ r, r ≠ .tool fragment.chatIndex →
      (s.appendToolCallDelta fragment).1.item r = s.item r := by
    intro r hr
    unfold appendToolCallDelta startTool
    cases r with
    | message | reasoning => cases s.toolsByIndex.lookup fragment.chatIndex <;> rfl
    | tool chatIndex =>
      have hne : chatIndex ≠ fragment.chatIndex := fun heq => hr (by rw [heq])
      cases s.toolsByIndex.lookup fragment.chatIndex
        <;> simp only [item, AList.lookup_insert_ne hne]
  unfold appendToolCallDelta startTool at hothers ⊢
  cases htool : s.toolsByIndex.lookup fragment.chatIndex with
  | some tool =>
    rw [htool] at hothers
    have hdone : tool.done = false := hopen _ (by rw [item, htool]; rfl)
    have hsame : (tool.update fragment).id = tool.id := update_id (hid _ (item_tool htool hdone))
    have harguments : (tool.update fragment).arguments = tool.arguments ++ fragment.arguments := rfl
    have hindex : (tool.update fragment).outputIndex = tool.outputIndex := rfl
    have hdone' : (tool.update fragment).done = false := hdone
    dsimp only [nil_append] at hothers ⊢
    generalize tool.update fragment = tool' at hothers hsame harguments hindex hdone' ⊢
    have hself := item_tool
      (s := { s with toolsByIndex := s.toolsByIndex.insert fragment.chatIndex tool' })
      (AList.lookup_insert _) hdone'
    rw [hindex] at hself
    refine .of_old { h with } rfl hothers (item_tool htool hdone) hself rfl hsame ?_
      (deltaContent_fragmentEvents tool' fragment) (fills_fragmentEvents fragment hsame hindex)
    rw [payload_toolOutput, payload_toolOutput, harguments]
  | none =>
    rw [htool] at hothers
    have hsame : ((s.newTool fragment).update fragment).id = (s.newTool fragment).id :=
      update_id (s.newTool_id fragment)
    have harguments : ((s.newTool fragment).update fragment).arguments =
        "" ++ fragment.arguments := rfl
    have hindex : ((s.newTool fragment).update fragment).outputIndex =
        (s.newTool fragment).outputIndex := rfl
    have hdone : ((s.newTool fragment).update fragment).done = false := rfl
    have hnext : (s.newTool fragment).outputIndex = s.nextOutputIndex := rfl
    have hempty : (s.newTool fragment).arguments = "" := rfl
    dsimp only [cons_append, nil_append] at hothers ⊢
    generalize (s.newTool fragment).update fragment =
      tool' at hothers hsame harguments hindex hdone ⊢
    generalize s.newTool fragment = tool at hothers hsame hindex hnext hempty ⊢
    have hself := item_tool (s := { s.nextIndex (.tool fragment.chatIndex) with
      toolsByIndex := (s.toolsByIndex.insert fragment.chatIndex tool).insert
        fragment.chatIndex tool' })
      (AList.lookup_insert _) hdone
    have hfills := fills_fragmentEvents fragment hsame hindex
    rw [hindex, hnext] at hself
    rw [hnext] at hfills
    refine .of_new h ?_ rfl hothers (by rw [item, htool]; rfl) hself ?_ (congrArg some hnext) rfl
      ((payload_toolOutput tool "").trans hempty) rfl hsame ?_
        (deltaContent_fragmentEvents tool' fragment) hfills
    · exact ⟨h.next_nextIndex _, h.text, h.reasoning, h.sentCreated, h.id, h.finalized⟩
    · exact ⟨rfl, _, rfl, rfl, rfl⟩
    · rw [payload_toolOutput, harguments, String.empty_append]

/-! ### The end of the items -/

structure Closes (s s' : ChatToResponsesStreamState) (refs : List ChatToResponsesOutputRef)
    (events : List ResponsesStreamResponse) : Prop where
  running : s.Running → s'.Running
  logged : ∀ {log}, s.view.Logged log → s'.view.Logged (log ++ events)
  item : ∀ r, s'.item r = if r ∈ refs then (s.item r).map close else s.item r

theorem Closes.nil (s : ChatToResponsesStreamState) : Closes s s [] [] where
  running h := h
  logged h := by rwa [append_nil]
  item r := by rw [if_neg not_mem_nil]

theorem Closes.trans {s'' : ChatToResponsesStreamState} {refs refs' : List ChatToResponsesOutputRef}
    {events' : List ResponsesStreamResponse} (h : Closes s s' refs events)
    (h' : Closes s' s'' refs' events') :
    Closes s s'' (refs ++ refs') (events ++ events') where
  running hs := h'.running (h.running hs)
  logged hlog := by
    rw [← append_assoc]
    exact h'.logged (h.logged hlog)
  item r := by
    have hclose : ∀ item : Option StreamItem, (item.map close).map close =
        item.map close := fun item => by
      rw [Option.map_map]
      rfl
    rw [h'.item r, h.item r]
    by_cases hr : r ∈ refs <;> by_cases hr' : r ∈ refs' <;> simp [hr, hr', hclose]

theorem Closes.skip (h : ∀ item, s.item ref = some item → item.done = true) :
    Closes s s [ref] [] where
  running h := h
  logged h := by rwa [append_nil]
  item r := by
    split_ifs with hr
    · rw [mem_singleton.mp hr]
      cases hitem : s.item ref with
      | none => rfl
      | some item =>
        obtain ⟨i, _, done⟩ := item
        obtain rfl : done = true := h _ hitem
        rfl
    · rfl

/-- Of an item that has not started or is done. -/
theorem Closes.skip_of_not {started done : Bool} {i : ℤ} (h : ¬ (started && !done) = true)
    (hitem : s.item ref = if started then some ⟨i, output, done⟩ else none) :
    Closes s s [ref] [] := by
  refine .skip fun item hsome => ?_
  rw [Bool.and_eq_true, Bool.not_eq_true', not_and] at h
  rw [hitem] at hsome
  split_ifs at hsome with hstarted
  cases hsome
  exact Bool.not_eq_false _ ▸ h hstarted

theorem Closes.single {i : ℤ} {deltasDone done : ResponsesStreamResponse}
    (hrunning : s.Running → s'.Running)
    (horder : s'.outputOrder = s.outputOrder) (hothers : ∀ r, r ≠ ref → s'.item r = s.item r)
    (hitem : s.item ref = some ⟨i, output, false⟩) (hself : s'.item ref = some ⟨i, output, true⟩)
    (hdeltasDone : deltasDone.EndsDeltas output) (hdone : done.Ends output)
    (hindex : deltasDone.outputIndex = some i) (hindex' : done.outputIndex = some i) :
    Closes s s' [ref] [deltasDone, done] where
  running := hrunning
  logged h := by
    rw [view_eq_set horder hself hothers]
    exact h.close hitem hdeltasDone hdone hindex hindex'
  item r := by
    split_ifs with hr
    · rw [mem_singleton.mp hr, hself, hitem]
      rfl
    · exact hothers r (by simpa using hr)

theorem closes_doneText : Closes s s.doneText.1 [.message] s.doneText.2 := by
  unfold doneText
  split_ifs with h
  · rw [Bool.and_eq_true, Bool.not_eq_true'] at h
    refine .single ?_ rfl ?_ (item_message h.1 h.2) (if_pos h.1) ⟨rfl, rfl⟩ ⟨rfl,
      s.outputStatus, rfl⟩ rfl rfl
    · exact fun hs => { hs with text := fun hnot => absurd (h.1.symm.trans hnot) Bool.noConfusion }
    intro r hr
    cases r with
    | message => exact absurd rfl hr
    | reasoning | tool => rfl
  exact .skip_of_not h rfl

theorem closes_doneReasoning : Closes s s.doneReasoning.1 [.reasoning] s.doneReasoning.2 := by
  unfold doneReasoning
  split_ifs with h
  · rw [Bool.and_eq_true, Bool.not_eq_true'] at h
    refine .single ?_ rfl ?_ (item_reasoning h.1 h.2) (if_pos h.1) ⟨rfl, rfl⟩ ⟨rfl,
      s.outputStatus, rfl⟩ rfl rfl
    · exact fun hs => { hs with reasoning := fun hnot =>
                                  absurd (h.1.symm.trans hnot) Bool.noConfusion }
    intro r hr
    cases r with
    | reasoning => exact absurd rfl hr
    | message | tool => rfl
  exact .skip_of_not h rfl

theorem closes_doneTool (chatIndex : ℤ) :
    Closes s (s.doneTool chatIndex).1 [.tool chatIndex] (s.doneTool chatIndex).2 := by
  unfold doneTool
  cases htool : s.toolsByIndex.lookup chatIndex with
  | none =>
    refine .skip fun item hitem => ?_
    rw [ChatToResponsesStreamState.item, htool] at hitem
    cases hitem
  | some tool =>
    by_cases hdone : tool.done
    · dsimp only
      rw [if_pos hdone]
      refine .skip fun item hitem => ?_
      rw [ChatToResponsesStreamState.item, htool] at hitem
      cases hitem
      exact hdone
    dsimp only
    rw [if_neg hdone]
    refine .single (fun hs => { hs with }) rfl ?_ (item_tool htool (Bool.eq_false_iff.mpr hdone)) ?_
      ⟨rfl, rfl⟩ ⟨rfl, s.outputStatus, rfl⟩ rfl rfl
    · intro r hr
      cases r with
      | message | reasoning => rfl
      | tool chatIndex' =>
        have hne : chatIndex' ≠ chatIndex := fun heq => hr (by rw [heq])
        simp only [ChatToResponsesStreamState.item, AList.lookup_insert_ne hne]
    · simp only [ChatToResponsesStreamState.item, AList.lookup_insert]
      rfl

theorem closes_doneTools (chatIndices : List ℤ) :
    Closes s (transduce doneTool s chatIndices).1 (chatIndices.map .tool)
    (transduce doneTool s chatIndices).2 := by
  induction chatIndices generalizing s with
  | nil => exact .nil s
  | cons chatIndex _ ih => exact (closes_doneTool chatIndex).trans ih

theorem item_eq_none_of_not_mem_sortedTools {chatIndex : ℤ} (h : chatIndex ∉ s.sortedTools) :
    s.item (.tool chatIndex) = none := by
  rw [sortedTools, mem_insertionSort, ← AList.mem_keys, ← AList.lookup_eq_none] at h
  rw [item, h]
  rfl

theorem closes_doneDeltaEvents :
    ∃ refs, Closes s s.doneDeltaEvents.1 refs s.doneDeltaEvents.2 ∧
      ∀ r ∉ refs, s.item r = none := by
  have hfirst := (closes_doneText (s := s)).trans closes_doneReasoning
  refine ⟨_, hfirst.trans (closes_doneTools _), fun r hr => ?_⟩
  rw [mem_append, not_or] at hr
  have hsame := hfirst.item r
  rw [if_neg hr.1] at hsame
  cases r with
  | message | reasoning => exact absurd (by simp) hr.1
  | tool =>
    rw [← hsame]
    exact item_eq_none_of_not_mem_sortedTools fun hmem => hr.2 (mem_map_of_mem hmem)

theorem item_doneDeltaEvents (r : ChatToResponsesOutputRef) :
    s.doneDeltaEvents.1.item r = (s.item r).map close := by
  obtain ⟨_, hcloses, hnone⟩ := closes_doneDeltaEvents (s := s)
  rw [hcloses.item r]
  split_ifs with hr
  · rfl
  · rw [hnone r hr]
    rfl

theorem applyFinishReason_eq (finishReason : String) : ∃ status incompleteDetails,
    s.applyFinishReason finishReason = { s with status, incompleteDetails } := by
  unfold applyFinishReason
  dsimp only
  split_ifs <;> exact ⟨_, _, rfl⟩

theorem item_applyFinishReason (finishReason : String) (r : ChatToResponsesOutputRef) :
    (s.applyFinishReason finishReason).item r = s.item r := by
  obtain ⟨_, _, h⟩ := applyFinishReason_eq (s := s) finishReason
  rw [h]
  cases r <;> rfl

theorem Running.applyFinishReason (h : s.Running) (finishReason : String) :
    (s.applyFinishReason finishReason).Running := by
  obtain ⟨_, _, heq⟩ := applyFinishReason_eq (s := s) finishReason
  rw [heq]
  exact { h with }

end ChatToResponsesStreamState

end TokensFlux
