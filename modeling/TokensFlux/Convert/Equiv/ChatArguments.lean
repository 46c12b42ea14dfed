import TokensFlux.Convert.Equiv.ChatIndices

/-!
# The arguments of a tool

Without output indices, each event of an item appends to the arguments of its tool and sends exactly
what it appends.
-/

namespace TokensFlux

namespace ToolTables

structure Plain (t : ToolTables) : Prop where
  outputIndexToKey : ∀ i, t.outputIndexToKey.lookup i = none
  pendingByOutputIndex : ∀ i, t.pendingArgsByOutputIndex.lookup i = none
  pendingByItemID : ∀ id, t.pendingArgsByItemID.lookup id = none

structure Synced (t : ToolTables) (log : List ToolCallResponse) (id text : String) : Prop where
  itemIDToKey : t.itemIDToKey.lookup id = some (.item id)
  tool : ∃ tool, t.toolByKey.lookup (.item id) = some tool ∧ tool.arguments = text ∧
    tool.argsSentAt = byteLength text ∧ sentArguments tool.index log = text

def Shows (t : ToolTables) (log : List ToolCallResponse) (id : String) : Option String → Prop
  | none => t.toolByKey.lookup (.item id) = none
  | some text => Synced t log id text

structure Writes (t t' : ToolTables) (fragments : List ToolCallResponse)
    (id text rest : String) : Prop where
  plain : Plain t'
  itemIDToKey : t'.itemIDToKey.lookup id = some (.item id)
  others : ∀ {id'}, id' ≠ id → t'.itemIDToKey.lookup id' = t.itemIDToKey.lookup id'
  tool : ∃ tool, tool.key = .item id ∧ Puts t t' tool fragments ∧ tool.arguments = text ++ rest ∧
    tool.argsSentAt = byteLength (text ++ rest) ∧ sentArguments tool.index fragments = rest

variable {t t' : ToolTables} {log fragments : List ToolCallResponse} {id id' text rest : String}
  {progress : Option String}

theorem Writes.self (h : Writes t t' fragments id (progress.getD "") rest)
    (hindexed : Indexed t log) (hbefore : Shows t log id progress) :
    Shows t' (log ++ fragments) id (some (progress.getD "" ++ rest)) := by
  obtain ⟨tool, hkey, hputs, harguments, hsentAt, hsent⟩ := h.tool
  refine ⟨h.itemIDToKey, tool, ?_, harguments, hsentAt, ?_⟩
  · rw [← hkey]
    exact hputs.self
  rw [sentArguments_append, hsent]
  congr 1
  rcases hputs.index with ⟨_, hold, hindex, -⟩ | ⟨hnone, hindex, -⟩
  · obtain _ | _ := progress
    · rw [hkey, show t.toolByKey.lookup (.item id) = none from hbefore] at hold
      cases hold
    obtain ⟨-, tool', hlookup, -, -, htext⟩ := hbefore
    rw [hkey, hlookup] at hold
    rw [hindex, ← Option.some.inj hold]
    exact htext
  have hnew : ∀ f ∈ log, f.index ≠ some tool.index := by
    intro f hf heq
    obtain ⟨k, tool', hlookup, hindex'⟩ := hindexed.only f hf
    have := hindexed.lt hlookup
    have := Option.some.inj (hindex'.symm.trans heq)
    omega
  rw [sentArguments_eq_empty hnew]
  cases progress with
  | none => rfl
  | some =>
    obtain ⟨-, tool', hlookup, -⟩ := hbefore
    rw [hkey, hlookup] at hnone
    cases hnone

theorem Writes.other (h : Writes t t' fragments id text rest)
    (hindexed : Indexed t log) (hne : id' ≠ id)
    (hbefore : Shows t log id' progress) : Shows t' (log ++ fragments) id' progress := by
  obtain ⟨tool, hkey, hputs, -⟩ := h.tool
  have hne' : ToolKey.item id' ≠ tool.key := by
    rw [hkey]
    exact fun heq => hne (ToolKey.item.inj heq)
  obtain _ | _ := progress
  · exact (hputs.others hne').trans hbefore
  obtain ⟨hbound, tool', hlookup, harguments, hsentAt, hsent⟩ := hbefore
  refine ⟨(h.others hne).trans hbound, tool', (hputs.others hne').trans hlookup,
    harguments, hsentAt, ?_⟩
  have hindices : ∀ f ∈ fragments, f.index ≠ some tool'.index := by
    intro f hf heq
    exact hputs.index_ne hindexed hne' hlookup
      (Option.some.inj (heq.symm.trans (hputs.indices f hf)))
  rw [sentArguments_append, hsent, sentArguments_eq_empty hindices, String.append_empty]

end ToolTables

namespace ResponsesToChatStreamState

open ToolTables

variable {s s' : ResponsesToChatStreamState} {t : ToolTables} {tool : ResponsesStreamTool}
  {event : ResponsesStreamResponse} {log : List ToolCallResponse}
    {id text rest explicitDelta : String}

/-! ### Sending -/

theorem argsDelta_eq (harguments : tool.arguments = text ++ rest)
    (hsentAt : tool.argsSentAt = byteLength text)
    (hdelta : explicitDelta = "" ∨ explicitDelta = rest) : argsDelta tool explicitDelta = rest := by
  unfold argsDelta
  rw [harguments, hsentAt, dropBytes_append, byteLength_append]
  split_ifs with hlong
  · rfl
  rcases hdelta with rfl | rfl
  · have hzero : byteLength rest = 0 := by
      simp only [true_and] at hlong
      omega
    exact (byteLength_eq_zero hzero).symm
  · rfl

theorem sentTool_argsSentAt : (sentTool tool explicitDelta).argsSentAt =
    tool.argsSentAt + byteLength (argsDelta tool explicitDelta) := by
  unfold sentTool
  split_ifs with hskip
  · simp only [Bool.and_eq_true, decide_eq_true_eq] at hskip
    rw [hskip.1.2]
    rfl
  · rfl

theorem sentArguments_sentFragments :
    sentArguments tool.index (sentFragments tool explicitDelta) = argsDelta tool explicitDelta := by
  unfold sentFragments
  split_ifs with hskip
  · simp only [Bool.and_eq_true, decide_eq_true_eq] at hskip
    rw [hskip.1.2]
    rfl
  have hself : lane (·.index) tool.index [responseTool tool (argsDelta tool explicitDelta)] =
      [responseTool tool (argsDelta tool explicitDelta)] := lane_singleton_self rfl
  rw [sentArguments, hself, List.map_singleton, String.join_cons, String.join_nil,
    String.append_empty]
  rfl

theorem writes_toolDelta (hfinds : Finds t s.tables tool) (hkey : tool.key = .item id)
    (harguments : tool.arguments = text ++ rest) (hsentAt : tool.argsSentAt = byteLength text)
    (hdelta : explicitDelta = "" ∨ explicitDelta = rest) (hplain : Plain s.tables)
    (hbound : s.itemIDToKey.lookup id = some (.item id))
    (hothers : ∀ {id'}, id' ≠ id → s.itemIDToKey.lookup id' = t.itemIDToKey.lookup id') :
    Writes t (s.toolDelta tool explicitDelta).1.tables
      (toolFragments (s.toolDelta tool explicitDelta).2)
      id text rest := by
  have hputs := puts_toolDelta hfinds explicitDelta
  rw [tables_toolDelta, toolFragments_toolDelta] at hputs ⊢
  refine ⟨⟨hplain.1, hplain.2, hplain.3⟩, hbound, hothers, sentTool tool explicitDelta, ?_,
    hputs, ?_, ?_, ?_⟩
  · rw [sentTool_key, hkey]
  · rw [sentTool_arguments, harguments]
  · rw [sentTool_argsSentAt, argsDelta_eq harguments hsentAt hdelta, hsentAt, byteLength_append]
  · rw [sentTool_index, sentArguments_sentFragments, argsDelta_eq harguments hsentAt hdelta]

/-! ### Item events -/

theorem bindItem_of_plain (hplain : Plain s.tables) (houtput : event.outputIndex = none)
    (hid : event.streamItemID = id) (hne : id ≠ "") (item : ResponsesOutput) :
    (s.bindItem tool event item).1.tables =
      { s.tables with itemIDToKey := s.itemIDToKey.insert id tool.key } ∧
      (s.bindItem tool event item).2.arguments = tool.arguments ∧
      (s.bindItem tool event item).2.argsSentAt = tool.argsSentAt := by
  have hpending : s.pendingArgsByItemID.lookup id = none := hplain.pendingByItemID id
  have hitemID : s.bindItemID tool event =
      ({ s with itemIDToKey := s.itemIDToKey.insert id tool.key }, { tool with itemID := id }) := by
    unfold bindItemID
    dsimp only
    rw [hid, if_neg hne, hpending, if_neg (by simp)]
  have houtputIndex : s.bindOutputIndex tool event = (s, tool) := by
    unfold bindOutputIndex
    rw [houtput]
  unfold bindItem
  rw [houtputIndex]
  dsimp only
  rw [hitemID]
  unfold bindCallID
  split_ifs <;> exact ⟨rfl, rfl, rfl⟩

theorem keyForEvent_eq {item : ResponsesOutput} (houtput : event.outputIndex = none)
    (hitem : event.item = some item) (hid : trimSpace item.id = id) (hne : id ≠ "") :
    keyForEvent event = some (.item id) := by
  unfold keyForEvent
  rw [houtput, hitem, Option.bind_some, ToolKey.ofID, hid, if_pos hne]
  rfl

theorem streamItemID_eq {item : ResponsesOutput} (hitem : event.item = some item)
    (hid : trimSpace item.id = id) (hne : id ≠ "") : event.streamItemID = id := by
  unfold ResponsesStreamResponse.streamItemID
  rw [hitem]
  dsimp only
  rw [hid, if_pos hne]

theorem toolOrNew_of_shows {progress : Option String} (hshows : Shows s.tables log id progress)
    (callID : String) :
    (s.toolOrNew (.item id) callID).2.arguments = progress.getD "" ∧
      (s.toolOrNew (.item id) callID).2.argsSentAt = byteLength (progress.getD "") := by
  unfold toolOrNew
  cases progress with
  | none =>
    rw [show s.toolByKey.lookup (.item id) = none from hshows]
    exact ⟨rfl, rfl⟩
  | some =>
    obtain ⟨-, tool, hlookup, harguments, hsentAt, -⟩ := hshows
    rw [show s.toolByKey.lookup (.item id) = some tool from hlookup]
    exact ⟨harguments, hsentAt⟩

theorem tables_toolOrNew (key : ToolKey) (callID : String) :
    (s.toolOrNew key callID).1.tables =
      { s.tables with nextToolIndex := (s.toolOrNew key callID).1.nextToolIndex } := by
  unfold toolOrNew
  cases s.toolByKey.lookup key <;> rfl

theorem ensureTool_of_plain {item : ResponsesOutput} {progress : Option String}
    (hindexed : Indexed s.tables log)
    (hplain : Plain s.tables) (hshows : Shows s.tables log id progress)
    (houtput : event.outputIndex = none) (hid : event.streamItemID = id) (hne : id ≠ "") :
    Plain (s.ensureTool (.item id) event item).1.tables ∧
      (s.ensureTool (.item id) event item).1.itemIDToKey = s.itemIDToKey.insert id (.item id) ∧
      (s.ensureTool (.item id) event item).2.arguments = progress.getD "" ∧
      (s.ensureTool (.item id) event item).2.argsSentAt = byteLength (progress.getD "") := by
  obtain ⟨harguments, hsentAt⟩ := toolOrNew_of_shows hshows ""
  have hsame := @sameTool_bindItem (s.toolOrNew (.item id) "").1
    (s.toolOrNew (.item id) "").2 event item
  obtain ⟨hkey, -⟩ := finds_ensureTool hindexed (.item id) item
  have hnew := @tables_toolOrNew s (.item id) ""
  have hplain' : Plain (s.toolOrNew (.item id) "").1.tables := by
    rw [hnew]
    exact ⟨hplain.1, hplain.2, hplain.3⟩
  have hmap : (s.toolOrNew (.item id) "").1.itemIDToKey = s.itemIDToKey :=
    congrArg ToolTables.itemIDToKey hnew
  obtain ⟨htables, hbound, hboundAt⟩ :=
    @bindItem_of_plain _ (s.toolOrNew (.item id) "").2 event id hplain' houtput
    hid hne item
  unfold ensureTool at hkey ⊢
  dsimp only at hkey ⊢
  generalize (s.toolOrNew (.item id) "").1.bindItem (s.toolOrNew (.item id) "").2
    event item = bound at *
  have hplain'' : Plain bound.1.tables := by
    rw [htables]
    exact ⟨hplain'.1, hplain'.2, hplain'.3⟩
  refine ⟨⟨hplain''.1, hplain''.2, hplain''.3⟩, ?_, hbound.trans harguments, hboundAt.trans hsentAt⟩
  show bound.1.tables.itemIDToKey = _
  have hkey' : (s.toolOrNew (.item id) "").2.key = .item id := hsame.key.symm.trans hkey
  rw [htables, hkey', hmap]

theorem writes_toolItem {item : ResponsesOutput} {progress : Option String}
    (hindexed : Indexed s.tables log)
    (hplain : Plain s.tables) (hshows : Shows s.tables log id progress)
    (houtput : event.outputIndex = none)
    (hitem : event.item = some item) (hid : trimSpace item.id = id) (hne : id ≠ "")
    (hrest : (if item.argumentsString ≠ "" then item.argumentsString else progress.getD "") =
      progress.getD "" ++ rest) :
    Writes s.tables (s.toolItem event).1.tables (toolFragments (s.toolItem event).2) id
      (progress.getD "") rest := by
  have hkey : (keyForEvent event).or (fallbackToolKey item.id item.callId event.outputIndex) =
      some (.item id) := by
    rw [keyForEvent_eq houtput hitem hid hne]
    rfl
  obtain ⟨htool, hfinds⟩ := finds_ensureTool hindexed (.item id) item
  obtain ⟨hplain', hmap, harguments, hsentAt⟩ := ensureTool_of_plain hindexed hplain
    hshows houtput (streamItemID_eq hitem hid hne) hne
  rw [toolItem_eq hitem hkey]
  generalize s.ensureTool (.item id) event item =
    found at htool hfinds hplain' hmap harguments hsentAt ⊢
  have hbound : found.1.itemIDToKey.lookup id = some (.item id) := by
    rw [hmap, AList.lookup_insert]
  have hothers : ∀ {id'}, id' ≠ id → found.1.itemIDToKey.lookup id' =
      s.tables.itemIDToKey.lookup id' := by
    intro id' hne'
    rw [hmap, AList.lookup_insert_ne hne']
    rfl
  split_ifs at hrest ⊢ with hargs
  · exact writes_toolDelta (hfinds.withArguments _) htool hrest hsentAt (.inl rfl)
      hplain' hbound hothers
  · exact writes_toolDelta hfinds htool (harguments.trans hrest) hsentAt (.inl rfl)
      hplain' hbound hothers

/-! ### Argument events -/

theorem findToolForEvent_eq (hplain : Plain s.tables)
    (hid : trimSpace event.itemID = id) (hne : id ≠ "")
    (hbound : s.itemIDToKey.lookup id = some (.item id))
    (hlookup : s.toolByKey.lookup (.item id) = some tool) :
    s.findToolForEvent event = some tool := by
  have houtput : (event.outputIndex.bind fun index => s.outputIndexToKey.lookup index) = none := by
    cases event.outputIndex with
    | none => rfl
    | some index => exact hplain.outputIndexToKey index
  unfold findToolForEvent
  rw [houtput, hid, if_pos hne, hbound]
  exact hlookup

theorem writes_toolArgumentsDelta (hindexed : Indexed s.tables log) (hplain : Plain s.tables)
    (hshows : Shows s.tables log id (some text)) (hid : trimSpace event.itemID = id) (hne : id ≠ "")
    (hdelta : event.delta ≠ "") :
    Writes s.tables (s.toolArgumentsDelta event).1.tables
      (toolFragments (s.toolArgumentsDelta event).2) id text
      event.delta := by
  obtain ⟨hbound, tool, hlookup, harguments, hsentAt, -⟩ := hshows
  unfold toolArgumentsDelta
  rw [if_neg hdelta, findToolForEvent_eq hplain hid hne hbound hlookup]
  have hkey : tool.key = .item id := hindexed.key hlookup
  refine writes_toolDelta ((finds_of_lookup hindexed hlookup).withArguments _) hkey ?_
    hsentAt (.inr rfl) hplain
    hbound fun _ => rfl
  rw [harguments]

theorem writes_flushPendingTool (hindexed : Indexed s.tables log) (hplain : Plain s.tables)
    (hshows : Shows s.tables log id (some text))
    (hid : trimSpace event.itemID = id) (hne : id ≠ "") :
    Writes s.tables (s.flushPendingTool event).1.tables
      (toolFragments (s.flushPendingTool event).2) id text "" := by
  obtain ⟨hbound, _, hlookup, harguments, hsentAt, -⟩ := hshows
  unfold flushPendingTool
  rw [findToolForEvent_eq hplain hid hne hbound hlookup]
  refine writes_toolDelta (finds_of_lookup hindexed hlookup) (hindexed.key hlookup) ?_
    hsentAt (.inl rfl) hplain
    hbound fun _ => rfl
  rw [harguments, String.append_empty]

theorem writes_flushKey (hindexed : Indexed s.tables log) (hplain : Plain s.tables)
    (hshows : Shows s.tables log id (some text)) :
    Writes s.tables (s.flushKey (.item id)).1.tables
      (toolFragments (s.flushKey (.item id)).2) id text "" := by
  obtain ⟨hbound, tool, hlookup, harguments, hsentAt, -⟩ := hshows
  have hfound : s.toolOrNew (.item id) (pendingCallID (.item id)) = (s, tool) := by
    unfold toolOrNew
    rw [show s.toolByKey.lookup (.item id) = some tool from hlookup]
  have hpending : s.pendingArgsByItemID.lookup id = none := hplain.pendingByItemID id
  unfold flushKey
  rw [hfound]
  dsimp only
  rw [hpending]
  have hplain' : Plain { s with pendingArgsByItemID := s.pendingArgsByItemID.erase id }.tables := by
    refine ⟨hplain.1, hplain.2, fun id' => ?_⟩
    show (s.pendingArgsByItemID.erase id).lookup id' = none
    by_cases heq : id' = id
    · rw [heq, AList.lookup_erase]
    · rw [AList.lookup_erase_ne heq]
      exact hplain.pendingByItemID id'
  have hfinds := (finds_of_lookup hindexed hlookup).withArguments
    (tool.arguments ++ Option.getD none "")
  have hkey : tool.key = .item id := hindexed.key hlookup
  refine writes_toolDelta ⟨hfinds.lookup, hfinds.index⟩ hkey ?_ hsentAt (.inl rfl) hplain'
    hbound fun _ => rfl
  rw [harguments]
  rfl

end ResponsesToChatStreamState

end TokensFlux
