import Mathlib.Data.List.Dedup
import Mathlib.Data.List.Perm.Subperm
import TokensFlux.Convert.Equiv.ChatArguments

/-!
# Each function call once

The chunks have each call exactly once (`EachCallOnce`) if and only if no item event of a call
carries an output index: the index makes the key of the tool, and the items of the terminal event
carry none.
-/

namespace TokensFlux

open List Option ResponsesToChatStreamState

/-! ### Streams that describe function calls -/

structure FunctionCall where
  itemID : String
  arguments : String
deriving DecidableEq, Repr

/-- As the converter compares it. -/
def FunctionCall.key (call : FunctionCall) : String := trimSpace call.itemID

namespace ResponsesStreamResponse

variable (event : ResponsesStreamResponse)

def shownTool : Option ResponsesOutput :=
  match event.type with
  | .outputItemAdded | .outputItemDone => event.item.filter (·.type.isTool)
  | _ => none

def isArguments : Bool :=
  match event.type with
  | .functionArgsDelta | .customToolInputDelta | .functionArgsDone | .customToolInputDone => true
  | _ => false

def callItemID : Option String :=
  if event.isArguments then some (trimSpace event.itemID) else event.shownTool.map (trimSpace ·.id)

def appended : String :=
  match event.type with
  | .functionArgsDelta | .customToolInputDelta => event.delta
  | _ => ""

def isTerminal : Bool :=
  event.type = .completed || event.type = .done || event.type = .incomplete

end ResponsesStreamResponse

open ResponsesStreamResponse

/-- It is added, gets arguments and is done; the arguments so far begin the final ones. -/
def DescribesCall (call : FunctionCall) (events : List ResponsesStreamResponse) : Prop :=
  ∃ added middle done addedItem doneItem rest, events = added :: (middle ++ [done]) ∧
    added.type = .outputItemAdded ∧ added.shownTool = some addedItem ∧
    done.type = .outputItemDone ∧ done.shownTool = some doneItem ∧
    (∀ e ∈ middle, e.isArguments = true) ∧
    doneItem.argumentsString = call.arguments ∧
    call.arguments = addedItem.argumentsString ++ String.join (middle.map appended) ++ rest

/-- In any order, among any other events. -/
structure DescribesCalls (calls : List FunctionCall)
    (events : List ResponsesStreamResponse) : Prop where
  nodup : (calls.map (·.key)).Nodup
  nonblank : ∀ c ∈ calls, c.key ≠ ""
  known : ∀ e ∈ events, ∀ id, e.callItemID = some id → ∃ c ∈ calls, c.key = id
  going : ∀ e ∈ events, e.isTerminal = false ∧ isFailure e = false
  each : ∀ c ∈ calls, DescribesCall c (lane callItemID c.key events)

structure RepeatsCalls (calls : List FunctionCall) (terminal : ResponsesStreamResponse) : Prop where
  isTerminal : terminal.isTerminal = true
  only : ∀ out ∈ outputOf terminal.response, out.type.isTool = true →
    ∃ c ∈ calls, c.key = trimSpace out.id ∧ out.argumentsString = c.arguments
  all : ∀ c ∈ calls, ∃ out ∈ outputOf terminal.response, out.type.isTool = true ∧
    c.key = trimSpace out.id

/-- The chunks have one index for each call, and under it the final arguments of the call. -/
def EachCallOnce (calls : List FunctionCall) (chunks : List ChatChunk) : Prop :=
  ∃ index : FunctionCall → ℤ, (∀ c ∈ calls, ∀ c' ∈ calls, index c = index c' → c = c') ∧
    (∀ f ∈ toolFragments chunks, ∃ c ∈ calls, f.index = some (index c)) ∧
    ∀ c ∈ calls, (∃ f ∈ toolFragments chunks, f.index = some (index c)) ∧
      sentArguments (index c) (toolFragments chunks) = c.arguments

/-! ### How far a call is described -/

def describe (progress : Option String) (event : ResponsesStreamResponse) : Option String :=
  match event.shownTool with
  | some item => some (if item.argumentsString ≠ "" then item.argumentsString else progress.getD "")
  | none => progress.map (· ++ event.appended)

theorem foldl_describe_middle {middle : List ResponsesStreamResponse}
    (h : ∀ e ∈ middle, e.isArguments = true) (text : String) : middle.foldl describe (some text) =
      some (text ++ String.join (middle.map appended)) := by
  induction middle generalizing text with
  | nil => rw [foldl_nil, map_nil, String.join_nil, String.append_empty]
  | cons e _ ih =>
    have hshown : e.shownTool = none := by
      have he := h e mem_cons_self
      unfold isArguments at he
      unfold shownTool
      cases htype : e.type <;> simp_all
    rw [foldl_cons, describe, hshown, map_some, ih fun e he => h e (mem_cons_of_mem _ he),
      map_cons, String.join_cons, String.append_assoc]

theorem eq_or_mem_or_eq {α : Type} {pre post middle : List α} {a first last : α}
    (h : pre ++ a :: post = first :: (middle ++ [last])) :
    (pre = [] ∧ a = first) ∨ ∃ before, pre = first :: before ∧
      ((∃ after, middle = before ++ a :: after) ∨ before = middle ∧ a = last) := by
  obtain _ | ⟨b, before⟩ := pre
  · exact .inl ⟨rfl, (cons.inj h).1⟩
  rw [cons_append] at h
  obtain ⟨rfl, htail⟩ := cons.inj h
  refine .inr ⟨before, rfl, ?_⟩
  rcases eq_nil_or_concat post with rfl | ⟨after, b, rfl⟩
  · obtain ⟨hbefore, hlast⟩ := append_inj' htail rfl
    exact .inr ⟨hbefore, (cons.inj hlast).1⟩
  · rw [concat_eq_append, ← cons_append, ← append_assoc] at htail
    exact .inl ⟨after, (append_inj' htail rfl).1.symm⟩

variable {call : FunctionCall} {event : ResponsesStreamResponse}

theorem describe_added {item : ResponsesOutput} (h : event.shownTool = some item) :
    describe none event = some item.argumentsString := by
  rw [describe, h]
  dsimp only
  split_ifs with hne
  · rfl
  · rw [not_not.mp hne]
    rfl

theorem eq_empty_of_append {text rest final : String} (h : final = text ++ rest)
    (hfinal : final = "") :
    text = "" := by
  rw [hfinal] at h
  have hbytes := byteLength_append text rest
  rw [← h] at hbytes
  refine byteLength_eq_zero ?_
  have hzero : byteLength "" = 0 := rfl
  omega

theorem DescribesCall.next {pre post : List ResponsesStreamResponse}
    (h : DescribesCall call (pre ++ event :: post)) :
    (∃ item rest, event.shownTool = some item ∧
      (if item.argumentsString ≠ "" then item.argumentsString
        else (pre.foldl describe none).getD "") = (pre.foldl describe none).getD "" ++ rest) ∨
      event.isArguments = true ∧ ∃ text, pre.foldl describe none = some text := by
  obtain ⟨_, _, _, addedItem, doneItem, rest, heq, -, hadded, -, hdone, hmiddle, hfinal, hprefix⟩ :=
    h
  rcases eq_or_mem_or_eq heq with ⟨rfl, rfl⟩ | ⟨before, rfl, ⟨_, rfl⟩ | ⟨rfl, rfl⟩⟩
  · refine .inl ⟨addedItem, addedItem.argumentsString, hadded, ?_⟩
    split_ifs with hne
    · exact String.empty_append.symm
    · rw [not_not.mp hne]
      rfl
  · refine .inr ⟨hmiddle event (by simp), addedItem.argumentsString ++
      String.join (before.map appended), ?_⟩
    rw [foldl_cons, describe_added hadded, foldl_describe_middle fun e he =>
      hmiddle e (by simp [he])]
  rw [foldl_cons, describe_added hadded, foldl_describe_middle hmiddle, getD_some]
  by_cases hempty : call.arguments = ""
  · refine .inl ⟨doneItem, "", hdone, ?_⟩
    rw [hfinal, if_neg (not_not.mpr hempty), String.append_empty]
  · refine .inl ⟨doneItem, rest, hdone, ?_⟩
    rw [hfinal, if_pos hempty, hprefix]

theorem DescribesCall.end {events : List ResponsesStreamResponse} (h : DescribesCall call events) :
    events.foldl describe none = some call.arguments := by
  obtain ⟨_, _, _, _, _, _, rfl, -, hadded, -, hdone, hmiddle, hfinal, hprefix⟩ := h
  rw [foldl_cons, describe_added hadded, foldl_append, foldl_describe_middle hmiddle, foldl_cons,
    foldl_nil, describe, hdone]
  dsimp only
  rw [hfinal]
  split_ifs with hne
  · rfl
  · rw [getD_some, eq_empty_of_append hprefix (not_not.mp hne), not_not.mp hne]

namespace ResponsesToChatStreamState

open ToolTables

variable {s s' : ResponsesToChatStreamState} {chunks log : List ChatChunk}
  {calls : List FunctionCall}
  {events : List ResponsesStreamResponse} {progress progress' : FunctionCall → Option String}

/-! ### Streams without output indices -/

/-- Every tool stands for one call, as far as the events have told of it. -/
structure Tracks (calls : List FunctionCall) (progress : FunctionCall → Option String)
    (s : ResponsesToChatStreamState) (log : List ChatChunk) : Prop where
  indexed : Indexed s.tables (toolFragments log)
  plain : Plain s.tables
  keys : ∀ {k tool}, s.tables.toolByKey.lookup k = some tool → ∃ c ∈ calls, k = .item c.key
  shows : ∀ c ∈ calls, Shows s.tables (toolFragments log) c.key (progress c)

theorem Tracks.congr {log' : List ChatChunk} (h : Tracks calls progress s log)
    (htables : s'.tables = s.tables) (hfragments : toolFragments log' = toolFragments log)
    (hprogress : ∀ c ∈ calls, progress' c = progress c) :
    Tracks calls progress' s' log' := by
  refine ⟨?_, ?_, ?_, fun c hc => ?_⟩
  · rw [hfragments, htables]
    exact h.indexed
  · rw [htables]
    exact h.plain
  · rw [htables]
    exact h.keys
  · rw [hfragments, htables, hprogress c hc]
    exact h.shows c hc

theorem Tracks.frame (h : Tracks calls progress s log) (htables : s'.tables = s.tables)
    (hnil : toolFragments chunks = []) : Tracks calls progress s' (log ++ chunks) := by
  refine h.congr htables ?_ fun _ _ => rfl
  rw [toolFragments_append, hnil, append_nil]

theorem Tracks.writes (h : Tracks calls progress s log) (hnodup : (calls.map (·.key)).Nodup)
    {c : FunctionCall} (hc : c ∈ calls) {rest : String}
    (hwrites : Writes s.tables s'.tables (toolFragments chunks) c.key ((progress c).getD "") rest)
    (hself : progress' c = some ((progress c).getD "" ++ rest))
    (hothers : ∀ c' ∈ calls, c'.key ≠ c.key → progress' c' = progress c') :
    Tracks calls progress' s' (log ++ chunks) := by
  obtain ⟨_, hkey, hputs, -⟩ := hwrites.tool
  refine ⟨?_, hwrites.plain, ?_, ?_⟩
  · rw [toolFragments_append]
    exact h.indexed.put hputs
  · intro k tool' hlookup
    rcases hputs.cases hlookup with ⟨rfl, -⟩ | ⟨-, hlookup⟩
    · exact ⟨c, hc, hkey⟩
    · exact h.keys hlookup
  intro c' hc'
  rw [toolFragments_append]
  by_cases heq : c'.key = c.key
  · rw [inj_on_of_nodup_map hnodup hc' hc heq, hself]
    exact hwrites.self h.indexed (h.shows c hc)
  · rw [hothers c' hc' heq]
    exact hwrites.other h.indexed heq (h.shows c' hc')

def progressOf (events : List ResponsesStreamResponse) (call : FunctionCall) : Option String :=
  (lane callItemID call.key events).foldl describe none

theorem progressOf_snoc_self {event : ResponsesStreamResponse} {call : FunctionCall}
    (h : event.callItemID = some call.key) :
    progressOf (events ++ [event]) call = describe (progressOf events call) event := by
  unfold progressOf
  rw [lane_append, lane_singleton_self h, foldl_append]
  rfl

theorem progressOf_snoc_of_ne (h : event.callItemID ≠ some call.key) :
    progressOf (events ++ [event]) call = progressOf events call := by
  unfold progressOf
  rw [lane_append, lane_singleton_of_ne h, append_nil]

theorem eventChunks_frame {event : ResponsesStreamResponse} (hcall : event.callItemID = none)
    (hgoing : event.isTerminal = false) :
    (s.eventChunks event).1.tables = s.tables ∧ toolFragments (s.eventChunks event).2 = [] := by
  unfold callItemID isArguments shownTool at hcall
  unfold isTerminal at hgoing
  unfold eventChunks
  cases htype : event.type <;> rw [htype] at hcall hgoing <;> dsimp only
  case created =>
    exact ⟨(tables_ensureStart _).trans (tables_applyResponseMetadata _ _),
      toolFragments_ensureStart _⟩
  case reasoningSummaryDelta | reasoningTextDelta =>
    exact ⟨tables_reasoningDelta _ _, toolFragments_reasoningDelta _ _⟩
  case reasoningSummaryDone | reasoningTextDone => split_ifs <;> exact ⟨rfl, rfl⟩
  case outputTextDelta => exact ⟨tables_textDelta _ _, toolFragments_textDelta _ _⟩
  case functionArgsDelta | customToolInputDelta | functionArgsDone | customToolInputDone =>
    simp at hcall
  case completed | done | incomplete => simp at hgoing
  case outputItemAdded | outputItemDone =>
    rcases hitem : event.item with _ | item
    · exact ⟨rfl, rfl⟩
    have htool : ¬ item.type.isTool = true := by
      intro htool
      simp [hitem, htool] at hcall
    rw [map_some, getD_some, if_neg htool]
    exact ⟨rfl, rfl⟩
  all_goals exact ⟨rfl, rfl⟩

theorem eventChunks_of_shownTool {event : ResponsesStreamResponse} {item : ResponsesOutput}
    (h : event.shownTool = some item) :
    s.eventChunks event = s.toolItem event ∧ event.item = some item ∧ event.isArguments = false ∧
      eventKey event = shownKey event ∧ item.type.isTool = true := by
  unfold shownTool at h
  unfold eventChunks isArguments eventKey
  cases htype : event.type <;> rw [htype] at h <;> try cases h
  all_goals
    obtain ⟨hitem, htool⟩ := filter_eq_some_iff.mp h
    refine ⟨?_, hitem, rfl, rfl, htool⟩
    simp [hitem, htool]

theorem tracks_arguments {c : FunctionCall} {text : String} (h : Tracks calls progress s log)
    (hnodup : (calls.map (·.key)).Nodup) (hc : c ∈ calls) (hne : c.key ≠ "")
    (harguments : event.isArguments = true) (hid : trimSpace event.itemID = c.key)
    (htext : progress c = some text) (hself : progress' c = some (text ++ event.appended))
    (hothers : ∀ c' ∈ calls, c'.key ≠ c.key → progress' c' = progress c') :
    Tracks calls progress' (s.eventChunks event).1 (log ++ (s.eventChunks event).2) := by
  have hshows : Shows s.tables (toolFragments log) c.key (some text) := by
    rw [← htext]
    exact h.shows c hc
  have hwrite : ∀ {s' chunks rest},
      Writes s.tables s'.tables (toolFragments chunks) c.key text rest →
      progress' c = some (text ++ rest) → Tracks calls progress' s' (log ++ chunks) := by
    intro s' chunks rest hwrites hself
    refine @Tracks.writes s s' chunks log calls progress progress' h hnodup c hc rest ?_ ?_ hothers
    · rwa [htext, getD_some]
    · rw [htext, getD_some, hself]
  unfold isArguments at harguments
  unfold appended at hself
  unfold eventChunks
  cases htype : event.type <;> rw [htype] at harguments hself <;> try cases harguments
  case functionArgsDelta | customToolInputDelta =>
    by_cases hdelta : event.delta = ""
    · -- Nothing is appended, and the state stays.
      have hsame : progress' c = progress c := by
        rw [hself, htext, hdelta, String.append_empty]
      have heq : s.toolArgumentsDelta event = (s, []) := if_pos hdelta
      rw [heq, append_nil]
      refine h.congr rfl rfl fun c' hc' => ?_
      by_cases heq : c'.key = c.key
      · rw [inj_on_of_nodup_map hnodup hc' hc heq, hsame]
      · exact hothers c' hc' heq
    · exact hwrite (writes_toolArgumentsDelta h.indexed h.plain hshows hid hne hdelta) hself
  case functionArgsDone | customToolInputDone =>
    exact hwrite (writes_flushPendingTool h.indexed h.plain hshows hid hne) hself

theorem tracks_eventChunks {pre post : List ResponsesStreamResponse}
    (hcalls : DescribesCalls calls (pre ++ event :: post))
    (hindex : event.shownTool ≠ none → event.outputIndex = none)
    (h : Tracks calls (progressOf pre) s log) :
    Tracks calls (progressOf (pre ++ [event]))
    (s.eventChunks event).1 (log ++ (s.eventChunks event).2) := by
  have hmem : event ∈ pre ++ event :: post := by simp
  cases hid : event.callItemID with
  | none =>
    obtain ⟨htables, hnil⟩ := eventChunks_frame hid (hcalls.going event hmem).1
    have hsame : progressOf (pre ++ [event]) = progressOf pre := by
      funext c
      refine progressOf_snoc_of_ne ?_
      rw [hid]
      exact fun heq => (some_ne_none _ heq.symm).elim
    rw [hsame]
    exact h.frame htables hnil
  | some id =>
    obtain ⟨c, hc, rfl⟩ := hcalls.known event hmem id hid
    have hne := hcalls.nonblank c hc
    have hself := @progressOf_snoc_self pre event c hid
    have hothers : ∀ c' ∈ calls, c'.key ≠ c.key → progressOf (pre ++ [event]) c' =
        progressOf pre c' := by
      intro c' _ hne'
      refine progressOf_snoc_of_ne ?_
      rw [hid]
      exact fun heq => hne' (some.inj heq).symm
    have hlane := hcalls.each c hc
    rw [lane_append, ← singleton_append, lane_append, lane_singleton_self hid,
      singleton_append] at hlane
    rcases hlane.next with ⟨item, _, hshown, hrest⟩ | ⟨harguments, text, htext⟩
    · obtain ⟨hchunks, hitem, hno, -, -⟩ := eventChunks_of_shownTool hshown
      have hitemID : trimSpace item.id = c.key := by
        rw [callItemID, hno, hshown] at hid
        exact some.inj hid
      have houtput := hindex (by rw [hshown]; exact some_ne_none item)
      rw [hchunks]
      refine h.writes hcalls.nodup hc
        (writes_toolItem h.indexed h.plain (h.shows c hc) houtput hitem hitemID
          hne hrest) ?_ hothers
      rw [hself, describe, hshown]
      exact congrArg some hrest
    have hitemID : trimSpace event.itemID = c.key := by
      rw [callItemID, harguments] at hid
      exact some.inj hid
    have hshown : event.shownTool = none := by
      cases hshown : event.shownTool with
      | none => rfl
      | some item =>
        obtain ⟨-, -, hno, -, -⟩ := @eventChunks_of_shownTool s event item hshown
        rw [hno] at harguments
        cases harguments
    refine tracks_arguments h hcalls.nodup hc hne harguments hitemID htext ?_ hothers
    rw [hself, describe, hshown, show progressOf pre c = some text from htext]
    rfl

theorem tracks_new (model : String) (created : ℤ) (includeUsage : Bool) :
    Tracks calls (progressOf []) (newResponsesToChatStreamState model created includeUsage) [] := by
  refine ⟨(hasKeys_new model created includeUsage).1, ⟨?_, ?_, ?_⟩, ?_, ?_⟩
  · exact fun i => AList.lookup_empty i
  · exact fun i => AList.lookup_empty i
  · exact fun id => AList.lookup_empty id
  · intro k tool hlookup
    cases hlookup
  · exact fun c _ => AList.lookup_empty _

theorem tracks_transduce (hcalls : DescribesCalls calls events)
    (hindex : ∀ e ∈ events, e.shownTool ≠ none → e.outputIndex = none)
    (h : Tracks calls (progressOf []) s []) :
    Tracks calls (some ·.arguments)
    (transduce eventChunks s events).1 (transduce eventChunks s events).2 := by
  have hrun := @transduce_invariant _ _ _ eventChunks
    (fun pre => Tracks calls (progressOf pre)) [] events s [] (fun pre event post s log heq h => by
      rw [heq] at hcalls hindex
      exact tracks_eventChunks hcalls (hindex event (by simp)) h) h
  exact hrun.congr rfl rfl fun c hc => (hcalls.each c hc).end.symm

/-! ### The end of the stream -/

theorem Tracks.pendingKeys (h : Tracks calls progress s log) {key : ToolKey}
    (hkey : key ∈ s.pendingKeys) :
    ∃ c ∈ calls, key = .item c.key := by
  unfold ResponsesToChatStreamState.pendingKeys at hkey
  simp only [List.mem_insertionSort, List.mem_dedup, List.mem_append, List.mem_map] at hkey
  rcases hkey with (hkey | ⟨i, hi, -⟩) | ⟨id, hid, -⟩
  · obtain ⟨_, hlookup⟩ := isSome_iff_exists.mp (AList.lookup_isSome.mpr hkey)
    exact h.keys hlookup
  · exact absurd (AList.mem_keys.mp hi) (AList.lookup_eq_none.mp (h.plain.pendingByOutputIndex i))
  · exact absurd (AList.mem_keys.mp hid) (AList.lookup_eq_none.mp (h.plain.pendingByItemID id))

theorem eventChunks_terminal {terminal : ResponsesStreamResponse} (h : terminal.isTerminal = true) :
    ∃ response, s.eventChunks terminal = s.terminalChunks response ∧
      outputOf response = outputOf terminal.response := by
  unfold isTerminal at h
  unfold eventChunks
  cases htype : terminal.type <;> rw [htype] at h <;> try cases h
  case completed | done => exact ⟨_, rfl, rfl⟩
  case incomplete =>
    refine ⟨_, rfl, ?_⟩
    cases terminal.response <;> rfl

def toolIndex (s : ResponsesToChatStreamState) (k : ToolKey) : ℤ :=
  ((s.tables.toolByKey.lookup k).map (·.index)).getD 0

theorem toolIndex_eq {k : ToolKey} {tool : ResponsesStreamTool}
    (h : s.tables.toolByKey.lookup k = some tool) :
    s.toolIndex k = tool.index := by
  rw [toolIndex, h]
  rfl

section End

variable (h : Tracks calls (some ·.arguments) s log) (hnodup : (calls.map (·.key)).Nodup)

include h hnodup

theorem tracks_terminalOutput (hnonblank : ∀ c ∈ calls, c.key ≠ "") {out : ResponsesOutput}
    (hout : out.type.isTool = true → ∃ c ∈ calls, c.key = trimSpace out.id ∧
      out.argumentsString = c.arguments) :
    Tracks calls (some ·.arguments) (s.terminalOutput out).1 (log ++ (s.terminalOutput out).2) := by
  by_cases htool : out.type.isTool = true
  · obtain ⟨c, hc, hkey, harguments⟩ := hout htool
    rw [terminalOutput_of_isTool htool]
    have hrest : (if out.argumentsString ≠ "" then out.argumentsString
        else (some c.arguments).getD "") = (some c.arguments).getD "" ++ "" := by
      rw [harguments, getD_some, ite_self, String.append_empty]
    refine h.writes hnodup hc (writes_toolItem h.indexed h.plain (h.shows c hc) rfl rfl hkey.symm
      (hnonblank c hc) hrest) ?_ fun _ _ _ => rfl
    rw [getD_some, String.append_empty]
  · exact h.frame (terminalOutput_frame htool).1 (terminalOutput_frame htool).2

theorem tracks_flushKey {c : FunctionCall} (hc : c ∈ calls) :
    Tracks calls (some ·.arguments)
    (s.flushKey (.item c.key)).1 (log ++ (s.flushKey (.item c.key)).2) := by
  refine h.writes hnodup hc (writes_flushKey h.indexed h.plain (h.shows c hc)) ?_ fun _ _ _ => rfl
  rw [getD_some, String.append_empty]

theorem tracks_flushAllPendingTools :
    Tracks calls (some ·.arguments) s.flushAllPendingTools.1 (log ++ s.flushAllPendingTools.2) := by
  refine @transduce_invariant _ _ _ flushKey (fun _ => Tracks calls (some ·.arguments)) []
    s.pendingKeys s log
    (fun pre key post s' log' heq h' => ?_) h
  have hkey : key ∈ s.pendingKeys := by
    rw [heq]
    simp
  obtain ⟨c, hc, rfl⟩ := h.pendingKeys hkey
  exact tracks_flushKey h' hnodup hc

theorem tracks_finalize (response : Option OpenAIResponsesResponse) :
    Tracks calls (some ·.arguments) (s.finalize response).1 (log ++ (s.finalize response).2) := by
  rcases s.finalize_eq response with ⟨htables, hnil⟩ | ⟨htables, hfragments⟩
  · exact h.frame htables hnil
  have hflush := @tracks_flushAllPendingTools { s with finalized := true } log calls
    ⟨h.indexed, h.plain, h.keys, h.shows⟩ hnodup
  refine hflush.congr htables ?_ fun _ _ => rfl
  rw [toolFragments_append, hfragments, ← toolFragments_append]

theorem tracks_terminal {terminal : ResponsesStreamResponse} (hnonblank : ∀ c ∈ calls, c.key ≠ "")
    (hterminal : RepeatsCalls calls terminal) :
    Tracks calls (some ·.arguments)
    (s.eventChunks terminal).1 (log ++ (s.eventChunks terminal).2) := by
  obtain ⟨response, hchunks, houtput⟩ := eventChunks_terminal hterminal.isTerminal
  rw [hchunks]
  have hmeta := @Tracks.frame s (s.applyResponseMetadata response) [] log calls _ h
    (tables_applyResponseMetadata _ _) rfl
  rw [append_nil] at hmeta
  have hrun : Tracks calls (some ·.arguments)
      ((s.applyResponseMetadata response).terminalOutputChunks response).1
      (log ++ ((s.applyResponseMetadata response).terminalOutputChunks response).2) := by
    refine @transduce_invariant _ _ _ terminalOutput (fun _ => Tracks calls (some ·.arguments)) []
      (outputOf response) _ log (fun pre out post s' log' heq h' => ?_) hmeta
    refine tracks_terminalOutput h' hnodup hnonblank (hterminal.only out ?_)
    rw [← houtput, heq]
    simp
  have hend := tracks_finalize hrun hnodup response
  rw [append_assoc] at hend
  exact hend

theorem Tracks.eachCallOnce : EachCallOnce calls log := by
  have htool : ∀ c ∈ calls, ∃ tool, s.tables.toolByKey.lookup (.item c.key) = some tool ∧
      s.toolIndex (.item c.key) = tool.index ∧
        sentArguments tool.index (toolFragments log) = c.arguments := by
    intro c hc
    obtain ⟨-, tool, hlookup, -, -, hsent⟩ := h.shows c hc
    exact ⟨tool, hlookup, toolIndex_eq hlookup, hsent⟩
  refine ⟨fun c => s.toolIndex (.item c.key), ?_, ?_, ?_⟩
  · intro c hc c' hc' heq
    obtain ⟨tool, hlookup, hindex, -⟩ := htool c hc
    obtain ⟨tool', hlookup', hindex', -⟩ := htool c' hc'
    dsimp only at heq
    rw [hindex, hindex'] at heq
    exact inj_on_of_nodup_map hnodup hc hc' (ToolKey.item.inj (h.indexed.inj hlookup hlookup' heq))
  · intro f hf
    obtain ⟨k, tool, hlookup, hindex⟩ := h.indexed.only f hf
    obtain ⟨c, hc, rfl⟩ := h.keys hlookup
    obtain ⟨tool', hlookup', hindex', -⟩ := htool c hc
    rw [hlookup] at hlookup'
    refine ⟨c, hc, ?_⟩
    dsimp only
    rw [hindex, hindex', some.inj hlookup']
  intro c hc
  obtain ⟨tool, hlookup, hindex, hsent⟩ := htool c hc
  dsimp only
  rw [hindex]
  exact ⟨(h.indexed.sent hlookup).2, hsent⟩

end End

/-! ### Both directions -/

theorem HasKeys.not_eachCallOnce {keys : List ToolKey} (h : HasKeys keys s log)
    (hnodup : (calls.map (·.key)).Nodup) (hitems : ∀ c ∈ calls, ToolKey.item c.key ∈ keys) {i : ℤ}
    (houtput : ToolKey.output i ∈ keys) : ¬ EachCallOnce calls log := by
  rintro ⟨index, -, honly, -⟩
  let found : List ToolKey := .output i :: calls.map (.item ·.key)
  have hfound : ∀ k ∈ found, ∃ tool, s.tables.toolByKey.lookup k = some tool := by
    intro k hk
    refine isSome_iff_exists.mp (h.2 k ?_)
    rcases mem_cons.mp hk with rfl | hk
    · exact houtput
    · obtain ⟨c, hc, rfl⟩ := List.mem_map.mp hk
      exact hitems c hc
  have hdistinct : found.Nodup := by
    refine nodup_cons.mpr ⟨?_, ?_⟩
    · intro hmem
      obtain ⟨c, -, heq⟩ := List.mem_map.mp hmem
      cases heq
    · rw [show calls.map (ToolKey.item ·.key) =
        (calls.map (·.key)).map ToolKey.item by rw [List.map_map]; rfl]
      exact hnodup.map fun _ _ heq => ToolKey.item.inj heq
  have hindices : (found.map s.toolIndex).Nodup := by
    refine List.Nodup.map_on ?_ hdistinct
    intro k hk k' hk' heq
    obtain ⟨tool, hlookup⟩ := hfound k hk
    obtain ⟨_, hlookup'⟩ := hfound k' hk'
    rw [toolIndex_eq hlookup, toolIndex_eq hlookup'] at heq
    exact h.1.inj hlookup hlookup' heq
  have hsubset : found.map s.toolIndex ⊆ calls.map index := by
    intro n hn
    obtain ⟨k, hk, rfl⟩ := List.mem_map.mp hn
    obtain ⟨tool, hlookup⟩ := hfound k hk
    obtain ⟨-, f, hf, hindex⟩ := h.1.sent hlookup
    obtain ⟨c, hc, heq⟩ := honly f hf
    refine List.mem_map.mpr ⟨c, hc, ?_⟩
    rw [toolIndex_eq hlookup]
    exact some.inj (heq.symm.trans hindex)
  have hlength := (hindices.subperm hsubset).length_le
  simp only [found, length_map, length_cons] at hlength
  omega

/-- Each call comes exactly once if and only if no item event of a call carries an output index. -/
theorem eachCallOnce_convertStream_iff (model : String) (created : ℤ) (includeUsage : Bool)
    {terminal : ResponsesStreamResponse} (hcalls : DescribesCalls calls events)
    (hterminal : RepeatsCalls calls terminal) :
    ∃ chunks, (newResponsesToChatStreamState model created includeUsage).convertStream
      (events ++ [terminal]) = .ok chunks ∧
      (EachCallOnce calls chunks ↔ ∀ e ∈ events, e.shownTool ≠ none → e.outputIndex = none) := by
  generalize hs : newResponsesToChatStreamState model created includeUsage = s
  have hok : ∀ e ∈ events ++ [terminal], isFailure e = false := by
    intro e he
    rcases mem_append.mp he with he | he
    · exact (hcalls.going e he).2
    have hend := hterminal.isTerminal
    unfold isTerminal at hend
    unfold isFailure
    cases htype : terminal.type <;> simp_all
  have hrun : transduce eventChunks s (events ++ [terminal]) =
      (((transduce eventChunks s events).1.eventChunks terminal).1,
        (transduce eventChunks s events).2 ++
          ((transduce eventChunks s events).1.eventChunks terminal).2) := by
    rw [transduce_append]
    simp only [transduce, append_nil]
  unfold convertStream
  rw [convertEvents_eq hok]
  refine ⟨_, rfl, ?_⟩
  rw [hrun]
  constructor
  · intro honce e he hshown
    by_contra houtput
    obtain ⟨i, hi⟩ := ne_none_iff_exists'.mp houtput
    obtain ⟨item, hitem⟩ := ne_none_iff_exists'.mp hshown
    have hkeys := hasKeys_transduce events (hs ▸ hasKeys_new model created includeUsage)
    obtain ⟨response, hchunks, heq⟩ :=
      @eventChunks_terminal (transduce eventChunks s events).1 terminal
      hterminal.isTerminal
    rw [hchunks] at honce
    have hend := hasKeys_finalize (hasKeys_terminalChunks hkeys response) none
    refine @HasKeys.not_eachCallOnce _ _ calls _ hend hcalls.nodup ?_ i ?_ honce
    · intro c hc
      obtain ⟨out, hout, htool, hkey⟩ := hterminal.all c hc
      refine mem_append_right _ (mem_filterMap.mpr ⟨out, heq ▸ hout, ?_⟩)
      unfold terminalKey shownKey
      rw [bind_some, if_pos htool, keyForEvent_eq rfl rfl hkey.symm (hcalls.nonblank c hc)]
      rfl
    refine mem_append_left _ (mem_filterMap.mpr ⟨e, he, ?_⟩)
    obtain ⟨-, hitem', -, hkey, htool⟩ := @eventChunks_of_shownTool s e item hitem
    rw [hkey]
    unfold shownKey keyForEvent
    rw [hitem', bind_some, if_pos htool, hi]
    rfl
  intro hindex
  have htracks := tracks_transduce hcalls hindex (hs ▸ tracks_new model created includeUsage)
  have hend := tracks_finalize (tracks_terminal htracks hcalls.nodup hcalls.nonblank
    hterminal) hcalls.nodup none
  exact hend.eachCallOnce hcalls.nodup

def weatherItem (arguments : String) : ResponsesOutput :=
  { type := .functionCall, id := "fc_1", callId := "call_1", name := "weather",
    arguments := .string arguments }

def weatherEvents (outputIndex : Option ℤ) : List ResponsesStreamResponse :=
  [{ type := .outputItemAdded, item := some (weatherItem ""), outputIndex },
    { type := .functionArgsDelta, itemID := "fc_1", delta := "[1]", outputIndex },
    { type := .outputItemDone, item := some (weatherItem "[1]"), outputIndex }]

def weatherCompleted : ResponsesStreamResponse :=
  { type := .completed, response := some { output := [weatherItem "[1]"] } }

theorem describesCalls_weatherEvents (outputIndex : Option ℤ) :
    DescribesCalls [⟨"fc_1", "[1]"⟩] (weatherEvents outputIndex) := by
  have hall : ∀ e ∈ weatherEvents outputIndex, e.callItemID = some (trimSpace "fc_1") := by
    simp only [weatherEvents, forall_mem_cons]
    exact ⟨rfl, rfl, rfl, forall_mem_nil _⟩
  refine ⟨nodup_singleton _, ?_, ?_, ?_, ?_⟩
  · intro c hc
    rw [mem_singleton.mp hc]
    decide +kernel
  · intro e he id hid
    exact ⟨_, mem_singleton_self _, some.inj ((hall e he).symm.trans hid)⟩
  · intro e he
    simp only [weatherEvents, mem_cons, not_mem_nil, or_false] at he
    rcases he with rfl | rfl | rfl <;> exact ⟨rfl, rfl⟩
  intro c hc
  rw [mem_singleton.mp hc, lane_eq_self]
  · exact ⟨_, [_], _, weatherItem "", weatherItem "[1]", "", rfl, rfl, rfl, rfl, rfl,
      by simp [isArguments], rfl, by simp [weatherItem, ResponsesOutput.argumentsString, appended]⟩
  · exact hall

theorem repeatsCalls_weatherCompleted : RepeatsCalls [⟨"fc_1", "[1]"⟩] weatherCompleted := by
  refine ⟨rfl, ?_, ?_⟩
  · intro out hout _
    refine ⟨_, mem_singleton_self _, ?_⟩
    rw [mem_singleton.mp hout]
    exact ⟨rfl, rfl⟩
  · intro c hc
    rw [mem_singleton.mp hc]
    exact ⟨_, mem_singleton_self _, rfl, rfl⟩

theorem eachCallOnce_convertStream_weather :
    DescribesCalls [⟨"fc_1", "[1]"⟩] (weatherEvents none) ∧
      RepeatsCalls [⟨"fc_1", "[1]"⟩] weatherCompleted ∧
      ∃ chunks, (newResponsesToChatStreamState "m" 0 false).convertStream (weatherEvents none ++
        [weatherCompleted]) = .ok chunks ∧
        (EachCallOnce [⟨"fc_1", "[1]"⟩] chunks ↔
          ∀ e ∈ weatherEvents none, e.shownTool ≠ none → e.outputIndex = none) :=
  ⟨describesCalls_weatherEvents none, repeatsCalls_weatherCompleted,
    eachCallOnce_convertStream_iff "m" 0 false (describesCalls_weatherEvents none)
      repeatsCalls_weatherCompleted⟩

/-- The one call under an output index: its item id alone leads the terminal event to a second
tool. -/
theorem not_eachCallOnce_convertStream_weather :
    DescribesCalls [⟨"fc_1", "[1]"⟩] (weatherEvents (some 0)) ∧
      RepeatsCalls [⟨"fc_1", "[1]"⟩] weatherCompleted ∧
      ∃ chunks, (newResponsesToChatStreamState "m" 0 false).convertStream
          (weatherEvents (some 0) ++ [weatherCompleted]) = .ok chunks ∧
        (toolFragments chunks).map (fun f => (f.index, f.arguments)) =
        [(some 0, ""), (some 0, "[1]"), (some 1, "[1]")] ∧
        ¬ EachCallOnce [⟨"fc_1", "[1]"⟩] chunks := by
  refine ⟨describesCalls_weatherEvents _, repeatsCalls_weatherCompleted, ?_⟩
  have hrun : ((newResponsesToChatStreamState "m" 0 false).convertStream
      (weatherEvents (some 0) ++ [weatherCompleted])).toOption.map
        (fun chunks => (toolFragments chunks).map fun f => (f.index, f.arguments)) =
      some [(some 0, ""), (some 0, "[1]"), (some 1, "[1]")] := by decide +kernel
  cases hok : (newResponsesToChatStreamState "m" 0 false).convertStream
      (weatherEvents (some 0) ++ [weatherCompleted]) with
  | error e =>
    rw [hok] at hrun
    cases hrun
  | ok chunks =>
    rw [hok] at hrun
    have hfragments := some.inj hrun
    refine ⟨chunks, rfl, hfragments, ?_⟩
    rintro ⟨index, -, honly, -⟩
    have hmem : ∀ i args, (some i, args) ∈ [(some 0, ""), (some 0, "[1]"), (some (1 : ℤ), "[1]")] →
        i = index ⟨"fc_1", "[1]"⟩ := by
      intro i args hi
      rw [← hfragments] at hi
      obtain ⟨f, hf, heq⟩ := mem_map.mp hi
      obtain ⟨c, hc, hindex⟩ := honly f hf
      rw [mem_singleton.mp hc, (Prod.mk.inj heq).1] at hindex
      exact some.inj hindex
    have hzero := hmem 0 "" (by simp)
    have hone := hmem 1 "[1]" (by simp)
    omega

end ResponsesToChatStreamState

end TokensFlux
