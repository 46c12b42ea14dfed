import TokensFlux.Convert.Chat

/-!
# The tools of a conversion to chat chunks

An event leaves the tables of tools as they are, or it puts one tool under its key and sends it
(`Puts`).
-/

namespace TokensFlux

open List Option

def toolFragments (chunks : List ChatChunk) : List ToolCallResponse :=
  chunks.flatMap fun chunk => chunk.choices.flatMap (·.delta.toolCalls)

@[simp] theorem toolFragments_append (chunks chunks' : List ChatChunk) :
    toolFragments (chunks ++ chunks') = toolFragments chunks ++ toolFragments chunks' :=
  flatMap_append

def sentArguments (index : ℤ) (log : List ToolCallResponse) : String :=
  String.join ((lane (·.index) index log).map (·.arguments))

theorem sentArguments_append (index : ℤ) (log log' : List ToolCallResponse) :
    sentArguments index (log ++ log') = sentArguments index log ++ sentArguments index log' := by
  unfold sentArguments
  rw [lane_append, map_append, String.join_append]

theorem sentArguments_eq_empty {index : ℤ} {log : List ToolCallResponse}
    (h : ∀ f ∈ log, f.index ≠ some index) :
    sentArguments index log = "" := by
  unfold sentArguments
  rw [lane_eq_nil h]
  rfl

/-! ### The tables -/

structure ToolTables where
  nextToolIndex : ℤ
  toolByKey : AList fun _ : ToolKey => ResponsesStreamTool
  outputIndexToKey : AList fun _ : ℤ => ToolKey
  itemIDToKey : AList fun _ : String => ToolKey
  pendingArgsByOutputIndex : AList fun _ : ℤ => String
  pendingArgsByItemID : AList fun _ : String => String

def ToolTables.put (t : ToolTables) (tool : ResponsesStreamTool) : ToolTables :=
  { t with toolByKey := t.toolByKey.insert tool.key tool }

namespace ResponsesToChatStreamState

variable (s : ResponsesToChatStreamState)

def tables : ToolTables where
  nextToolIndex := s.nextToolIndex
  toolByKey := s.toolByKey
  outputIndexToKey := s.outputIndexToKey
  itemIDToKey := s.itemIDToKey
  pendingArgsByOutputIndex := s.pendingArgsByOutputIndex
  pendingArgsByItemID := s.pendingArgsByItemID

/-! ### What is not about tools -/

@[simp] theorem tables_ensureStart : s.ensureStart.1.tables = s.tables := by
  unfold ensureStart
  split_ifs <;> rfl

@[simp] theorem toolFragments_ensureStart : toolFragments s.ensureStart.2 = [] := by
  unfold ensureStart
  split_ifs <;> rfl

@[simp] theorem tables_applyResponseMetadata (response : Option OpenAIResponsesResponse) :
    (s.applyResponseMetadata response).tables = s.tables := by
  cases response <;> rfl

variable (delta : String)

theorem tables_textDelta : (s.textDelta delta).1.tables = s.tables := by
  unfold textDelta
  split_ifs
  · rfl
  · exact tables_ensureStart _

theorem toolFragments_textDelta : toolFragments (s.textDelta delta).2 = [] := by
  unfold textDelta
  split_ifs
  · rfl
  · rw [toolFragments_append, toolFragments_ensureStart]
    rfl

theorem tables_reasoningDelta : (s.reasoningDelta delta).1.tables = s.tables := by
  unfold reasoningDelta
  split_ifs
  · rfl
  all_goals exact tables_ensureStart _

theorem toolFragments_reasoningDelta : toolFragments (s.reasoningDelta delta).2 = [] := by
  unfold reasoningDelta
  split_ifs
  · rfl
  all_goals
    rw [toolFragments_append, toolFragments_ensureStart]
    rfl

/-! ### Sending a tool -/

def sentFragments (tool : ResponsesStreamTool) (explicitDelta : String) : List ToolCallResponse :=
  if tool.sent && argsDelta tool explicitDelta = "" && (tool.name = "" || tool.nameSent) then []
  else [responseTool tool (argsDelta tool explicitDelta)]

def sentTool (tool : ResponsesStreamTool) (explicitDelta : String) : ResponsesStreamTool :=
  if tool.sent && argsDelta tool explicitDelta = "" && (tool.name = "" || tool.nameSent) then tool
  else
    { tool with
      nameSent := tool.nameSent || tool.name ≠ ""
      sent := true
      argsSentAt := tool.argsSentAt + byteLength (argsDelta tool explicitDelta) }

theorem tables_toolDelta (tool : ResponsesStreamTool) (explicitDelta : String) :
    (s.toolDelta tool explicitDelta).1.tables = s.tables.put (sentTool tool explicitDelta) := by
  unfold toolDelta sentTool
  dsimp only
  split_ifs
  · rfl
  have hstart := s.tables_ensureStart
  generalize s.ensureStart = start at hstart ⊢
  rw [← hstart]
  rfl

theorem toolFragments_toolDelta (tool : ResponsesStreamTool) (explicitDelta : String) :
    toolFragments (s.toolDelta tool explicitDelta).2 = sentFragments tool explicitDelta := by
  unfold toolDelta sentFragments
  dsimp only
  split_ifs
  · rfl
  · rw [toolFragments_append, toolFragments_ensureStart]
    rfl

variable {s} {tool : ResponsesStreamTool} {explicitDelta : String}

theorem sentTool_key : (sentTool tool explicitDelta).key = tool.key := by
  unfold sentTool
  split_ifs <;> rfl

theorem sentTool_index : (sentTool tool explicitDelta).index = tool.index := by
  unfold sentTool
  split_ifs <;> rfl

theorem sentTool_arguments : (sentTool tool explicitDelta).arguments = tool.arguments := by
  unfold sentTool
  split_ifs <;> rfl

theorem sentTool_sent : (sentTool tool explicitDelta).sent = true := by
  unfold sentTool
  split_ifs with h
  · simp only [Bool.and_eq_true] at h
    exact h.1.1
  · rfl

theorem index_of_mem_sentFragments {f : ToolCallResponse}
    (h : f ∈ sentFragments tool explicitDelta) :
    f.index = some tool.index := by
  unfold sentFragments at h
  split_ifs at h
  · cases h
  · rw [mem_singleton.mp h]
    rfl

theorem sent_of_sentFragments_eq_nil (h : sentFragments tool explicitDelta = []) :
    tool.sent = true := by
  unfold sentFragments at h
  split_ifs at h with hskip
  simp only [Bool.and_eq_true] at hskip
  exact hskip.1.1

end ResponsesToChatStreamState

/-! ### One event -/

namespace ToolTables

/-- The one under its key, or a new one with the next index. -/
structure Finds (t t' : ToolTables) (tool : ResponsesStreamTool) : Prop where
  lookup : ∀ {k}, k ≠ tool.key → t'.toolByKey.lookup k = t.toolByKey.lookup k
  index : (∃ old, t.toolByKey.lookup tool.key = some old ∧ tool.index = old.index ∧
    tool.sent = old.sent ∧ t'.nextToolIndex = t.nextToolIndex) ∨
    t.toolByKey.lookup tool.key = none ∧ tool.index = t.nextToolIndex ∧ tool.sent = false ∧
      t'.nextToolIndex = t.nextToolIndex + 1

structure Puts (t t' : ToolTables) (tool : ResponsesStreamTool)
    (fragments : List ToolCallResponse) : Prop where
  self : t'.toolByKey.lookup tool.key = some tool
  others : ∀ {k}, k ≠ tool.key → t'.toolByKey.lookup k = t.toolByKey.lookup k
  sent : tool.sent = true
  indices : ∀ f ∈ fragments, f.index = some tool.index
  index : (∃ old, t.toolByKey.lookup tool.key = some old ∧ tool.index = old.index ∧
      t'.nextToolIndex = t.nextToolIndex ∧ (fragments = [] → old.sent = true)) ∨
    t.toolByKey.lookup tool.key = none ∧ tool.index = t.nextToolIndex ∧
      t'.nextToolIndex = t.nextToolIndex + 1 ∧ fragments ≠ []

def Moves (t t' : ToolTables) (fragments : List ToolCallResponse) : Prop :=
  (t'.toolByKey = t.toolByKey ∧ t'.nextToolIndex = t.nextToolIndex ∧ fragments = []) ∨
    ∃ tool, Puts t t' tool fragments

/-- Tools have different indices, and those sent are theirs. -/
structure Indexed (t : ToolTables) (log : List ToolCallResponse) : Prop where
  key : ∀ {k tool}, t.toolByKey.lookup k = some tool → tool.key = k
  lt : ∀ {k tool}, t.toolByKey.lookup k = some tool → tool.index < t.nextToolIndex
  inj : ∀ {k k' tool tool'}, t.toolByKey.lookup k = some tool → t.toolByKey.lookup k' = some tool' →
    tool.index = tool'.index → k = k'
  sent : ∀ {k tool}, t.toolByKey.lookup k = some tool → tool.sent = true ∧ ∃ f ∈ log,
    f.index = some tool.index
  only : ∀ f ∈ log, ∃ k tool, t.toolByKey.lookup k = some tool ∧ f.index = some tool.index

variable {t t' : ToolTables} {tool : ResponsesStreamTool} {log fragments : List ToolCallResponse}

theorem Finds.withArguments (h : Finds t t' tool) (arguments : String) :
    Finds t t' { tool with arguments } := ⟨h.lookup, h.index⟩

theorem Finds.putTool {s : ResponsesToChatStreamState} (h : Finds t s.tables tool) :
    Finds t (s.putTool tool).tables tool := by
  refine ⟨fun {k} hk => ?_, h.index⟩
  rw [← h.lookup hk]
  exact AList.lookup_insert_ne hk

variable {k : ToolKey}

theorem Puts.cases (h : Puts t t' tool fragments) {tool' : ResponsesStreamTool}
    (hk : t'.toolByKey.lookup k = some tool') :
    k = tool.key ∧ tool' = tool ∨ k ≠ tool.key ∧ t.toolByKey.lookup k = some tool' := by
  by_cases hne : k = tool.key
  · rw [hne, h.self] at hk
    exact .inl ⟨hne, (some.inj hk).symm⟩
  · exact .inr ⟨hne, (h.others hne).symm.trans hk⟩

theorem Puts.index_ne (h : Puts t t' tool fragments) (hindexed : Indexed t log)
    {tool' : ResponsesStreamTool}
    (hne : k ≠ tool.key) (hk : t.toolByKey.lookup k = some tool') : tool'.index ≠ tool.index := by
  intro heq
  rcases h.index with ⟨_, hold, hindex, -⟩ | ⟨-, hindex, -⟩
  · exact hne (hindexed.inj hk hold (heq.trans hindex))
  · have := hindexed.lt hk
    omega

theorem Indexed.put (hindexed : Indexed t log) (h : Puts t t' tool fragments) :
    Indexed t' (log ++ fragments) := by
  refine ⟨?key, ?lt, ?inj, ?sent, ?only⟩
  case key =>
    intro k tool' hk
    rcases h.cases hk with ⟨rfl, rfl⟩ | ⟨-, hk⟩
    · rfl
    · exact hindexed.key hk
  case lt =>
    intro k tool' hk
    have hnext : tool.index < t'.nextToolIndex ∧ t.nextToolIndex ≤ t'.nextToolIndex := by
      rcases h.index with ⟨old, hold, hindex, hnext, -⟩ | ⟨-, hindex, hnext, -⟩
      · have := hindexed.lt hold
        omega
      · omega
    rcases h.cases hk with ⟨-, rfl⟩ | ⟨-, hk⟩
    · exact hnext.1
    · exact (hindexed.lt hk).trans_le hnext.2
  case inj =>
    intro k k' tool₁ tool₂ hk hk' heq
    rcases h.cases hk with ⟨rfl, rfl⟩ | ⟨hne, hk⟩
    · rcases h.cases hk' with ⟨rfl, -⟩ | ⟨hne', hk'⟩
      · rfl
      · exact absurd heq.symm (h.index_ne hindexed hne' hk')
    · rcases h.cases hk' with ⟨rfl, rfl⟩ | ⟨-, hk'⟩
      · exact absurd heq (h.index_ne hindexed hne hk)
      · exact hindexed.inj hk hk' heq
  case sent =>
    intro k tool' hk
    rcases h.cases hk with ⟨-, rfl⟩ | ⟨-, hk⟩
    · refine ⟨h.sent, ?_⟩
      cases hfragments : fragments with
      | cons f =>
        refine ⟨f, by simp, h.indices f ?_⟩
        rw [hfragments]
        exact mem_cons_self
      | nil =>
        rcases h.index with ⟨old, hold, hindex, -⟩ | ⟨-, -, -, hne⟩
        · obtain ⟨-, f, hf, hindex'⟩ := hindexed.sent hold
          exact ⟨f, mem_append_left _ hf, by rw [hindex', hindex]⟩
        · exact absurd hfragments hne
    · obtain ⟨hsent, f, hf, hindex⟩ := hindexed.sent hk
      exact ⟨hsent, f, mem_append_left _ hf, hindex⟩
  case only =>
    intro f hf
    rcases mem_append.mp hf with hf | hf
    · obtain ⟨k, tool', hk, hindex⟩ := hindexed.only f hf
      by_cases hne : k = tool.key
      · refine ⟨tool.key, tool, h.self, ?_⟩
        rcases h.index with ⟨old, hold, heq, -⟩ | ⟨hnone, -⟩
        · rw [hne, hold] at hk
          cases hk
          rw [hindex, heq]
        · rw [hne, hnone] at hk
          cases hk
      · exact ⟨k, tool', (h.others hne).trans hk, hindex⟩
    · exact ⟨tool.key, tool, h.self, h.indices f hf⟩

theorem Indexed.moves (hindexed : Indexed t log) (h : Moves t t' fragments) :
    Indexed t' (log ++ fragments) := by
  rcases h with ⟨htable, hnext, rfl⟩ | ⟨_, hputs⟩
  · cases t
    cases t'
    dsimp only at htable hnext
    rw [htable, hnext, append_nil]
    exact ⟨hindexed.key, hindexed.lt, hindexed.inj, hindexed.sent, hindexed.only⟩
  · exact hindexed.put hputs

theorem Moves.isSome (h : Moves t t' fragments) (hk : (t.toolByKey.lookup k).isSome) :
    (t'.toolByKey.lookup k).isSome := by
  rcases h with ⟨htable, -, -⟩ | ⟨tool, hputs⟩
  · rwa [htable]
  by_cases hne : k = tool.key
  · rw [hne, hputs.self]
    rfl
  · rwa [hputs.others hne]

end ToolTables

namespace ResponsesToChatStreamState

open ToolTables

variable {s s' : ResponsesToChatStreamState} {t : ToolTables} {tool tool' : ResponsesStreamTool}
  {event : ResponsesStreamResponse} {log : List ToolCallResponse}

/-! ### Finding a tool -/

structure SameTool (s s' : ResponsesToChatStreamState)
    (tool tool' : ResponsesStreamTool) : Prop where
  toolByKey : s'.toolByKey = s.toolByKey
  next : s'.nextToolIndex = s.nextToolIndex
  key : tool'.key = tool.key
  index : tool'.index = tool.index
  sent : tool'.sent = tool.sent

theorem SameTool.trans {s'' : ResponsesToChatStreamState} {tool'' : ResponsesStreamTool}
    (h : SameTool s s' tool tool') (h' : SameTool s' s'' tool' tool'') :
    SameTool s s'' tool tool'' :=
  ⟨h'.toolByKey.trans h.toolByKey, h'.next.trans h.next, h'.key.trans h.key, h'.index.trans h.index,
    h'.sent.trans h.sent⟩

theorem sameTool_bindOutputIndex :
    SameTool s (s.bindOutputIndex tool event).1 tool (s.bindOutputIndex tool event).2 := by
  unfold bindOutputIndex
  cases event.outputIndex with
  | none => exact ⟨rfl, rfl, rfl, rfl, rfl⟩
  | some =>
    dsimp only
    split_ifs <;> exact ⟨rfl, rfl, rfl, rfl, rfl⟩

theorem sameTool_bindItemID :
    SameTool s (s.bindItemID tool event).1 tool (s.bindItemID tool event).2 := by
  unfold bindItemID
  dsimp only
  split_ifs <;> exact ⟨rfl, rfl, rfl, rfl, rfl⟩

theorem sameTool_bindCallID (item : ResponsesOutput) :
    SameTool s (s.bindCallID tool item).1 tool (s.bindCallID tool item).2 := by
  unfold bindCallID
  split_ifs <;> exact ⟨rfl, rfl, rfl, rfl, rfl⟩

variable {key : ToolKey}

theorem finds_toolOrNew {callID : String}
    (hkey : ∀ {tool}, s.toolByKey.lookup key = some tool → tool.key = key)
    (hsame : SameTool (s.toolOrNew key callID).1 s' (s.toolOrNew key callID).2 tool) :
    tool.key = key ∧ Finds s.tables s'.tables tool := by
  unfold toolOrNew at hsame
  cases hlookup : s.toolByKey.lookup key with
  | some old =>
    rw [hlookup] at hsame
    obtain rfl : key = tool.key := (hsame.key.trans (hkey hlookup)).symm
    refine ⟨rfl, fun _ => ?_, .inl ⟨old, hlookup, hsame.index, hsame.sent, hsame.next⟩⟩
    exact congrArg (AList.lookup _) hsame.toolByKey
  | none =>
    rw [hlookup] at hsame
    obtain rfl : key = tool.key := hsame.key.symm
    refine ⟨rfl, fun _ => ?_, .inr ⟨hlookup, hsame.index, hsame.sent, hsame.next⟩⟩
    exact congrArg (AList.lookup _) hsame.toolByKey

theorem sameTool_bindItem (item : ResponsesOutput) :
    SameTool s (s.bindItem tool event item).1 tool (s.bindItem tool event item).2 := by
  have h := (sameTool_bindOutputIndex.trans sameTool_bindItemID).trans
    (@sameTool_bindCallID ((s.bindOutputIndex tool event).1.bindItemID
      (s.bindOutputIndex tool event).2 event).1
      ((s.bindOutputIndex tool event).1.bindItemID (s.bindOutputIndex tool event).2 event).2 item)
  unfold bindItem
  dsimp only
  generalize ((s.bindOutputIndex tool event).1.bindItemID (s.bindOutputIndex tool event).2
    event).1.bindCallID _
    item = bound at h ⊢
  split_ifs
  · exact ⟨h.toolByKey, h.next, h.key, h.index, h.sent⟩
  · exact h

theorem finds_ensureTool (hindexed : Indexed s.tables log) (key : ToolKey)
    (item : ResponsesOutput) :
    (s.ensureTool key event item).2.key = key ∧
      Finds s.tables (s.ensureTool key event item).1.tables (s.ensureTool key event item).2 := by
  have hsame := @sameTool_bindItem (s.toolOrNew key "").1 (s.toolOrNew key "").2 event item
  unfold ensureTool
  dsimp only
  generalize (s.toolOrNew key "").1.bindItem (s.toolOrNew key "").2 event item = bound at hsame ⊢
  obtain ⟨htool, hfinds⟩ := finds_toolOrNew hindexed.key hsame
  exact ⟨htool, hfinds.putTool⟩

theorem finds_ensureFallbackTool (hindexed : Indexed s.tables log) (key : ToolKey) :
    Finds s.tables (s.ensureFallbackTool key event).1.tables
      (s.ensureFallbackTool key event).2 := by
  have hsame := (@sameTool_bindOutputIndex (s.toolOrNew key (fallbackCallID event)).1
    (s.toolOrNew key (fallbackCallID event)).2 event).trans (@sameTool_bindItemID _ _ event)
  unfold ensureFallbackTool
  dsimp only
  generalize ((s.toolOrNew key (fallbackCallID event)).1.bindOutputIndex
    (s.toolOrNew key (fallbackCallID event)).2 event).1.bindItemID _ event = bound at hsame ⊢
  exact (finds_toolOrNew hindexed.key hsame).2.putTool

theorem finds_of_lookup (hindexed : Indexed s.tables log) (h : s.toolByKey.lookup key = some tool) :
    Finds s.tables s.tables tool :=
  ⟨fun _ => rfl, .inl ⟨tool, by rw [hindexed.key h]; exact h, rfl, rfl, rfl⟩⟩

/-! ### Sending a tool that was found -/

theorem puts_toolDelta (h : Finds t s.tables tool) (explicitDelta : String) :
    Puts t (s.toolDelta tool explicitDelta).1.tables (sentTool tool explicitDelta)
      (toolFragments (s.toolDelta tool explicitDelta).2) := by
  rw [tables_toolDelta, toolFragments_toolDelta]
  refine ⟨AList.lookup_insert _, ?_, sentTool_sent, ?_, ?_⟩
  · intro k hk
    rw [sentTool_key] at hk
    show (s.tables.toolByKey.insert (sentTool tool explicitDelta).key _).lookup k = _
    rw [sentTool_key, AList.lookup_insert_ne hk]
    exact h.lookup hk
  · intro f hf
    rw [sentTool_index]
    exact index_of_mem_sentFragments hf
  rw [sentTool_key, sentTool_index]
  rcases h.index with ⟨old, hold, hindex, hsent, hnext⟩ | ⟨hnone, hindex, hsent, hnext⟩
  · refine .inl ⟨old, hold, hindex, hnext, fun hnil => ?_⟩
    rw [← hsent]
    exact sent_of_sentFragments_eq_nil hnil
  · refine .inr ⟨hnone, hindex, hnext, fun hnil => ?_⟩
    rw [sent_of_sentFragments_eq_nil hnil] at hsent
    cases hsent

/-! ### The events about tools -/

theorem toolItem_eq {item : ResponsesOutput} (hitem : event.item = some item)
    (hkey : (keyForEvent event).or (fallbackToolKey item.id item.callId event.outputIndex) =
      some key) :
    s.toolItem event = (s.ensureTool key event item).1.toolDelta
      (if item.argumentsString ≠ ""
        then { (s.ensureTool key event item).2 with arguments := item.argumentsString }
        else (s.ensureTool key event item).2) "" := by
  unfold toolItem ensureToolForEvent
  rw [hitem, bind_some, hkey]
  simp only [map_some, getD_some]

theorem puts_toolItem (hindexed : Indexed s.tables log) {item : ResponsesOutput}
    (hitem : event.item = some item)
    (hkey : (keyForEvent event).or (fallbackToolKey item.id item.callId event.outputIndex) =
      some key) :
    ∃ tool, tool.key = key ∧
      Puts s.tables (s.toolItem event).1.tables tool (toolFragments (s.toolItem event).2) := by
  obtain ⟨htool, hfinds⟩ := finds_ensureTool hindexed key item
  rw [toolItem_eq hitem hkey]
  generalize s.ensureTool key event item = found at htool hfinds ⊢
  split_ifs
  · refine ⟨_, ?_, puts_toolDelta (hfinds.withArguments _) ""⟩
    exact sentTool_key.trans htool
  · refine ⟨_, ?_, puts_toolDelta hfinds ""⟩
    exact sentTool_key.trans htool

theorem moves_toolItem (hindexed : Indexed s.tables log) :
    Moves s.tables (s.toolItem event).1.tables (toolFragments (s.toolItem event).2) := by
  rcases hfound : s.ensureToolForEvent event with _ | _
  · have heq : s.toolItem event = (s, []) := by
      rw [toolItem, hfound]
    rw [heq]
    exact .inl ⟨rfl, rfl, rfl⟩
  obtain ⟨_, hitem, hmap⟩ := bind_eq_some_iff.mp hfound
  obtain ⟨_, hkey, -⟩ := map_eq_some_iff.mp hmap
  obtain ⟨tool, -, hputs⟩ := puts_toolItem hindexed hitem hkey
  exact .inr ⟨tool, hputs⟩

theorem lookup_of_findToolForEvent (h : s.findToolForEvent event = some tool) :
    ∃ key, s.toolByKey.lookup key = some tool := by
  obtain ⟨key, -, hlookup⟩ := bind_eq_some_iff.mp h
  exact ⟨key, hlookup⟩

theorem moves_toolArgumentsDelta (hindexed : Indexed s.tables log) :
    Moves s.tables (s.toolArgumentsDelta event).1.tables
      (toolFragments (s.toolArgumentsDelta event).2) := by
  unfold toolArgumentsDelta
  split_ifs
  · exact .inl ⟨rfl, rfl, rfl⟩
  cases hfind : s.findToolForEvent event with
  | some =>
    obtain ⟨_, hlookup⟩ := lookup_of_findToolForEvent hfind
    exact .inr ⟨_, puts_toolDelta ((finds_of_lookup hindexed hlookup).withArguments _) _⟩
  | none =>
    cases event.outputIndex with
    | some => exact .inl ⟨rfl, rfl, rfl⟩
    | none =>
      dsimp only
      split_ifs <;> exact .inl ⟨rfl, rfl, rfl⟩

theorem moves_flushPendingTool (hindexed : Indexed s.tables log) :
    Moves s.tables (s.flushPendingTool event).1.tables
      (toolFragments (s.flushPendingTool event).2) := by
  unfold flushPendingTool
  cases hfind : s.findToolForEvent event with
  | some =>
    obtain ⟨key, hlookup⟩ := lookup_of_findToolForEvent hfind
    exact .inr ⟨_, puts_toolDelta (finds_of_lookup hindexed hlookup) _⟩
  | none =>
    unfold ensureFallbackToolForEvent
    cases (event.outputIndex.map ToolKey.output).or (ToolKey.ofID .item event.itemID) with
    | none => exact .inl ⟨rfl, rfl, rfl⟩
    | some key => exact .inr ⟨_, puts_toolDelta (finds_ensureFallbackTool hindexed key) _⟩

theorem sameTool_flush (key : ToolKey) : ∃ s' tool', s.flushKey key = s'.toolDelta tool' "" ∧
    SameTool (s.toolOrNew key (pendingCallID key)).1 s'
      (s.toolOrNew key (pendingCallID key)).2 tool' := by
  unfold flushKey
  generalize s.toolOrNew key (pendingCallID key) = found
  cases key with
  | output | item | call => exact ⟨_, _, rfl, rfl, rfl, rfl, rfl, rfl⟩

theorem moves_flushKey (hindexed : Indexed s.tables log) (key : ToolKey) :
    Moves s.tables (s.flushKey key).1.tables (toolFragments (s.flushKey key).2) := by
  obtain ⟨s', _, heq, hsame⟩ := @sameTool_flush s key
  obtain ⟨-, hfinds⟩ := finds_toolOrNew hindexed.key hsame
  rw [heq]
  exact .inr ⟨_, puts_toolDelta hfinds _⟩

end ResponsesToChatStreamState

end TokensFlux
